import TableSchema.Proofs.Number.Order
import TableSchema.Proofs.Schema.Canonical

namespace TableSchema

open TableSchema.Text

/-! Bounds with a plus sign in their text -/

namespace Number.Decimal

-- Zeros stand between the last digit that is written and the point.
def EndsAbovePoint : Decimal → Prop
  | .finite _ _ exponent => 0 < exponent
  | _ => False

theorem plus_mem_markOf_iff {scale : Int} : '+' ∈ markOf scale ↔ 0 < scale := by
  have hdigits : ∀ n : Nat, '+' ∉ Nat.toDigits 10 n := fun n hm =>
    absurd (isAsciiDigit_of_mem_toDigits hm) (by decide)
  rw [markOf]
  split_ifs with hzero hnegative
  · simp [hzero]
  · simpa [hdigits] using hnegative.le
  · simpa using lt_of_le_of_ne (not_lt.mp hnegative) (Ne.symm hzero)

theorem plus_notMem_spell {whole fraction : List Char}
    (hwhole : ∀ c ∈ whole, isAsciiDigit c = true) (hfraction : ∀ c ∈ fraction, isAsciiDigit c = true) :
    '+' ∉ spell whole fraction := by
  have hdigit : isAsciiDigit '+' = false := by decide
  rw [spell]
  split_ifs
  · exact fun hm => by simpa [hdigit] using hwhole _ hm
  · intro hm
    rcases List.mem_append.mp hm with hm | hm
    · simpa [hdigit] using hwhole _ hm
    · simpa [hdigit] using hfraction _ (List.mem_of_ne_of_mem (by decide) hm)

-- The exponent that is written has the sign of the own one, if that is positive.
theorem plus_mem_renderFinite_iff (coefficient : Nat) (exponent : Int) :
    '+' ∈ (renderFinite coefficient exponent).toList ↔ 0 < exponent := by
  have hlength : 0 < (Nat.toDigits 10 coefficient).length := Nat.length_toDigits_pos
  have hpoint : pointOf (Nat.toDigits 10 coefficient) exponent ≤
      (Nat.toDigits 10 coefficient).length := by
    rw [pointOf]
    split_ifs <;> omega
  obtain ⟨whole, fraction, hbody, hwhole, hfraction, -, -, -⟩ := bodyAt_eq_spell coefficient hpoint
  have hscale : 0 < exponent + (Nat.toDigits 10 coefficient).length -
      pointOf (Nat.toDigits 10 coefficient) exponent ↔ 0 < exponent := by
    rw [pointOf]
    split_ifs <;> omega
  rw [toList_renderFinite, hbody, List.mem_append, plus_mem_markOf_iff, hscale]
  exact or_iff_right (plus_notMem_spell hwhole hfraction)

theorem plus_mem_render_iff {d : Decimal} (hnan : d.isNan = false) :
    '+' ∈ d.render.toList ↔ d.EndsAbovePoint := by
  cases d with
  | nan => cases hnan
  | infinite negative => cases negative <;> simp [render, signText, EndsAbovePoint]
  | finite negative coefficient exponent =>
      have hsign : '+' ∉ (signText negative).toList := by cases negative <;> decide
      rw [render, String.toList_append, List.mem_append, plus_mem_renderFinite_iff]
      exact or_iff_right hsign

theorem isWritable_iff {d : Decimal} (hnan : d.isNan = false) :
    d.IsWritable ↔ ¬d.EndsAbovePoint := by
  rw [← plus_mem_render_iff hnan]
  exact ⟨fun h => h.unsigned, fun h => ⟨hnan, h⟩⟩

end Number.Decimal

namespace Rule

theorem sameBound_self {bound : Option Number.Decimal} (h : ∀ value ∈ bound, value.isNan = false) :
    sameBound bound bound = true := by
  cases bound with
  | none => rfl
  | some value => exact Number.Decimal.sameNumber_self (h value rfl)

theorem rangeBound_of_ofText? {word : String} {d : Number.Decimal} (hstar : word ≠ "*")
    (h : Number.Decimal.ofText? word.toList = some d) : rangeBound (.bare word) = .ok (some d) := by
  simp only [rangeBound, boundOf, hstar, if_false, h]

end Rule

/-! Texts of ranges -/

namespace Schema

-- The text of a rule is read as a rule again, to its end, and that is the same rule.
def ReadsBack (rule : Rule) : Prop :=
  ∃ token rest again used, tokenize rule.render.toList 1 = token :: rest ∧
    (ruleAt token rest).result = .ok (again, used) ∧
    (rest.drop used).map Token.kind = [.endOfLine] ∧ rule.same again = true

theorem isSign_plus : IsSign '+' [⟨.invalid, "+"⟩] :=
  isSign_of_lexeme? .invalid (by decide) (by decide) fun _ => rfl

theorem toList_render_range (low high : Option Number.Decimal) :
    (Rule.range low high).render.toList = "range".toList ++ '(' ::
      ((boundText Number.Decimal.render low).toList ++ ',' :: ([] ++ ' ' ::
        ((boundText Number.Decimal.render high).toList ++ [')']))) := by
  simp [Rule.render, Rule.arguments, Rule.name, Argument.render, String.intercalate_cons_cons]

-- A plus sign is no part of a word.
theorem plus_mem_lineTerminals {cs : List Char} (h : ∀ c ∈ cs, Number.Decimal.IsSpelling c)
    (hplus : '+' ∈ cs) (rest : List Char) : ⟨.invalid, "+"⟩ ∈ lineTerminals (cs ++ rest) := by
  obtain ⟨front, back, rfl, hfront⟩ := List.eq_append_cons_of_mem hplus
  have hreads : ∃ found, Reads front found := by
    by_cases hempty : front = []
    · exact ⟨[], hempty ▸ Reads.nil⟩
    · have hword : IsWord (String.ofList front) := by
        refine ⟨by simpa using hempty, fun c hc => ?_⟩
        rw [String.toList_ofList] at hc
        refine (h c (List.mem_append_left _ hc)).isWordChar ?_
        rintro rfl
        exact hfront hc
      exact ⟨_, by simpa using reads_word hword⟩
  obtain ⟨found, hreads⟩ := hreads
  rw [List.append_assoc, List.cons_append, hreads.lineTerminals_append isSign_plus]
  simp

-- The text of a rule that is read back consists of tokens that are known.
theorem ReadsBack.kind_ne_invalid {rule : Rule} (h : ReadsBack rule) :
    ∀ terminal ∈ lineTerminals rule.render.toList, terminal.kind ≠ .invalid := by
  obtain ⟨token, rest, again, used, htokens, hrule, hend, -⟩ := h
  obtain ⟨-, front, after, rfl, rfl, ⟨hcall, -⟩⟩ := ruleAt_sound hrule
  rw [List.drop_left] at hend
  obtain ⟨last, rfl, hlast⟩ := List.map_eq_singleton_iff.mp hend
  intro terminal hm
  rw [lineTerminals, htokens, ← List.cons_append, List.map_append] at hm
  rcases List.mem_append.mp hm with hm | hm
  · exact hcall.kind_ne rfl terminal hm
  · obtain rfl := List.mem_singleton.mp hm
    simp [Token.terminal, hlast]

/-! Ranges that are read back -/

theorem plus_mem_boundText {bound : Option Number.Decimal}
    (hnan : ∀ value ∈ bound, value.isNan = false) (h : ∃ value ∈ bound, value.EndsAbovePoint)
    (rest : List Char) :
    ⟨.invalid, "+"⟩ ∈ lineTerminals ((boundText Number.Decimal.render bound).toList ++ rest) := by
  obtain ⟨value, rfl, habove⟩ := h
  have hvalue := hnan value rfl
  exact plus_mem_lineTerminals (Number.Decimal.isSpelling_of_mem_render hvalue)
    ((Number.Decimal.plus_mem_render_iff hvalue).mpr habove) rest

-- A plus sign in the text of one bound is a token that is not known, as the bound in
-- front of it is a word or has such a sign, too.
theorem plus_mem_render_range {low high : Option Number.Decimal}
    (hlow : ∀ a ∈ low, a.isNan = false) (hhigh : ∀ b ∈ high, b.isNan = false)
    (h : (∃ a ∈ low, a.EndsAbovePoint) ∨ ∃ b ∈ high, b.EndsAbovePoint) :
    ⟨.invalid, "+"⟩ ∈ lineTerminals (Rule.range low high).render.toList := by
  have hname : Reads "range".toList [⟨.word, "range"⟩] := reads_word (by decide)
  rw [toList_render_range, hname.lineTerminals_append isSign_opening]
  refine List.mem_append_right _ (List.mem_append_right _ ?_)
  by_cases habove : ∃ a ∈ low, a.EndsAbovePoint
  · exact plus_mem_boundText hlow habove _
  · have hword : IsWord (boundText Number.Decimal.render low) := by
      refine Rule.isWord_boundText fun a ha => Rule.isWord_render ?_
      exact (Number.Decimal.isWritable_iff (hlow a ha)).mpr fun he => habove ⟨a, ha, he⟩
    rw [(reads_word hword).lineTerminals_append isSign_comma,
      Reads.nil.lineTerminals_append isSign_space]
    refine List.mem_append_right _ (List.mem_append_right _ ?_)
    exact List.mem_append_right _ (List.mem_append_right _
      (plus_mem_boundText hhigh (h.resolve_left habove) _))

theorem readsBack_of_isWritable {given : List Argument} {low high : Option Number.Decimal}
    (hbuild : Rule.build .range given = .ok (.range low high))
    (hbounds : ∀ bound ∈ (Rule.range low high).rangeBounds, bound.IsWritable) :
    ReadsBack (.range low high) := by
  -- What is written are the arguments of the rule itself, which are words.
  have hwritten := Rule.isWritten_of_build hbuild hbounds
  have hagain := Rule.isWritten_of_build hwritten.rebuilt hbounds
  simp only [Rule.rangeBounds, List.mem_append, Option.mem_toList] at hbounds
  have hlow : ∀ a ∈ low, a.IsWritable := fun a ha => hbounds a (.inl ha)
  have hhigh : ∀ b ∈ high, b.IsWritable := fun b hb => hbounds b (.inr hb)
  have harguments : ∀ argument ∈ (Rule.range low high).arguments, argument.IsWritable := by
    refine List.forall_mem_cons.mpr ⟨?_, List.forall_mem_cons.mpr ⟨?_, List.forall_mem_nil _⟩⟩
    · exact isWritable_of_isWord (Rule.isWord_boundText fun a ha => Rule.isWord_render (hlow a ha))
    · exact isWritable_of_isWord (Rule.isWord_boundText fun b hb => Rule.isWord_render (hhigh b hb))
  obtain ⟨call, hreads, hcall⟩ := reads_call hagain harguments
  have htokens : (tokenize (Rule.range low high).render.toList 1).map Token.terminal =
      call ++ [⟨.endOfLine, ""⟩] := hreads.lineTerminals_eq
  obtain ⟨token, rest, behind, heq, -, -, hrest, hrule⟩ :=
    ruleAt_complete (.intro hcall hwritten.rebuilt) htokens (by simp [Begins, EndsCall])
  have hend := congrArg (List.map Terminal.kind) (drop_of_map_eq hrest)
  rw [List.map_map] at hend
  refine ⟨token, rest, _, _, heq, hrule, hend, ?_⟩
  rw [Rule.same, Rule.sameBound_self fun a ha => (hlow a ha).notNan,
    Rule.sameBound_self fun b hb => (hhigh b hb).notNan, Bool.and_self]

-- A range is read back from its text exactly if none of its bounds is written with a
-- positive exponent.
theorem range_readsBack_iff (given : List Argument) (rule : Rule)
    (hbuild : Rule.build .range given = .ok rule)
    (hnan : ∀ bound ∈ rule.rangeBounds, bound.isNan = false) :
    ReadsBack rule ↔ ∀ bound ∈ rule.rangeBounds, ¬bound.EndsAbovePoint := by
  obtain ⟨low, high, rfl, -⟩ := Rule.exists_isWritable_of_buildRange hbuild
  constructor
  · intro hback bound hbound habove
    simp only [Rule.rangeBounds, List.mem_append, Option.mem_toList] at hnan hbound
    have hplus := plus_mem_render_range (fun a ha => hnan a (.inl ha)) (fun b hb => hnan b (.inr hb))
      (hbound.imp (fun ha => ⟨bound, ha, habove⟩) fun hb => ⟨bound, hb, habove⟩)
    exact hback.kind_ne_invalid _ hplus rfl
  · intro h
    refine readsBack_of_isWritable hbuild fun bound hbound => ?_
    exact (Number.Decimal.isWritable_iff (hnan bound hbound)).mpr (h bound hbound)

-- Digits behind the point, and an exponent below zero.
theorem range_readsBack_iff_of_smallBounds :
    Rule.build .range [.bare "-1e-7", .bare "0010.50"] =
        .ok (.range (some (.finite true 1 (-7))) (some (.finite false 1050 (-2)))) ∧
      (∀ bound ∈ (Rule.range (some (.finite true 1 (-7))) (some (.finite false 1050 (-2)))).rangeBounds,
        bound.isNan = false) ∧
      ReadsBack (.range (some (.finite true 1 (-7))) (some (.finite false 1050 (-2)))) := by
  have hbuild : Rule.build .range [.bare "-1e-7", .bare "0010.50"] =
      .ok (.range (some (.finite true 1 (-7))) (some (.finite false 1050 (-2)))) := by
    have hlow := Rule.rangeBound_of_ofText? (by decide)
      (by decide +kernel : Number.Decimal.ofText? "-1e-7".toList = some (.finite true 1 (-7)))
    have hhigh := Rule.rangeBound_of_ofText? (by decide)
      (by decide +kernel : Number.Decimal.ofText? "0010.50".toList = some (.finite false 1050 (-2)))
    exact (Rule.buildRange_of_rangeBound hlow hhigh).1 .lt (by decide +kernel) (by decide)
  have hnan : ∀ bound ∈
      (Rule.range (some (.finite true 1 (-7))) (some (.finite false 1050 (-2)))).rangeBounds,
      bound.isNan = false := by
    simp [Rule.rangeBounds, Number.Decimal.isNan]
  refine ⟨hbuild, hnan, (range_readsBack_iff _ _ hbuild hnan).mpr ?_⟩
  simp [Rule.rangeBounds, Number.Decimal.EndsAbovePoint]

-- The bound 1E5 is written as 1E+5, which is no word.
theorem not_readsBack_of_wholeBound :
    IsWord "1E5" ∧ IsWord "*" ∧
      Rule.build .range [.bare "1E5", .bare "*"] = .ok (.range (some (.finite false 1 5)) none) ∧
      ¬ReadsBack (.range (some (.finite false 1 5)) none) := by
  have hbuild : Rule.build .range [.bare "1E5", .bare "*"] =
      .ok (.range (some (.finite false 1 5)) none) := by
    have hlow := Rule.rangeBound_of_ofText? (by decide)
      (by decide +kernel : Number.Decimal.ofText? "1E5".toList = some (.finite false 1 5))
    simp only [Rule.build, Rule.buildRange, hlow]
    rfl
  refine ⟨by decide, by decide, hbuild, fun hback => ?_⟩
  have hplus : ⟨.invalid, "+"⟩ ∈
      lineTerminals (Rule.range (some (.finite false 1 5)) none).render.toList :=
    plus_mem_render_range (by simp [Number.Decimal.isNan]) (by simp)
      (.inl (by simp [Number.Decimal.EndsAbovePoint]))
  exact hback.kind_ne_invalid _ hplus rfl

end Schema

end TableSchema
