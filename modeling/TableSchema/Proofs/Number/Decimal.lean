import TableSchema.Proofs.Number.Spelling

namespace TableSchema.Number.Decimal

open TableSchema.Text

-- The exponent is within the limits. Every decimal that is read is.
def InRange : Decimal → Prop
  | .finite _ coefficient exponent =>
    adjusted coefficient exponent ≤ maxAdjusted ∧ minExponent ≤ exponent
  | _ => True

theorem within?_eq_some_iff {negative : Bool} {coefficient : Nat} {exponent : Int} {d : Decimal} :
    within? negative coefficient exponent = some d ↔
      (finite negative coefficient exponent).InRange ∧ finite negative coefficient exponent = d := by
  rw [within?]
  exact Option.ite_none_right_eq_some.trans (and_congr_right fun _ => Option.some_inj)

theorem eq_of_readNan? {negative : Bool} {cs : List Char} {d : Decimal}
    (h : readNan? negative cs = some d) :
    ∃ signaling payload, d = .nan negative signaling payload := by
  simp only [readNan?] at h
  split at h
  · split at h
    · exact ⟨_, _, (Option.some.inj h).symm⟩
    · cases h
  · split at h
    · exact ⟨_, _, (Option.some.inj h).symm⟩
    · cases h
  · cases h

theorem eq_of_readInfinite? {negative : Bool} {cs : List Char} {d : Decimal}
    (h : readInfinite? negative cs = some d) : d = .infinite negative := by
  rw [readInfinite?] at h
  split at h
  · exact (Option.some.inj h).symm
  · cases h

theorem inRange_of_readFinite? {negative : Bool} {cs : List Char} {d : Decimal}
    (h : readFinite? negative cs = some d) : d.InRange := by
  simp only [readFinite?_eq_splitFraction] at h
  split at h
  · cases h
  · split at h
    · cases h
    · obtain ⟨hrange, rfl⟩ := within?_eq_some_iff.mp h
      exact hrange

theorem inRange_of_ofText? {cs : List Char} {d : Decimal} (h : ofText? cs = some d) :
    d.InRange := by
  simp only [ofText?] at h
  split at h
  · cases h
  rcases Option.or_eq_some_iff.mp h with h | ⟨-, h⟩
  · obtain ⟨signaling, payload, rfl⟩ := eq_of_readNan? h
    trivial
  rcases Option.or_eq_some_iff.mp h with h | ⟨-, h⟩
  · obtain rfl := eq_of_readInfinite? h
    trivial
  · exact inRange_of_readFinite? h

/-! Decimals as text -/

theorem toLower_of_isAsciiDigit {c : Char} (h : isAsciiDigit c = true) : c.toLower = c := by
  have hc := isAsciiDigit_iff.mp h
  rw [Char.toLower, dif_neg]
  rintro ⟨hle, -⟩
  have hle : 0x41 ≤ c.toNat := hle
  omega

-- A text that begins with a digit begins no word.
theorem afterWord?_of_isAsciiDigit {word cs : List Char} {c : Char}
    (hword : word.head?.map isAsciiDigit = some false) (hc : isAsciiDigit c = true) :
    afterWord? word (c :: cs) = none := by
  cases word with
  | nil => cases hword
  | cons w word =>
      have hne : (c.toLower == w) = false := by
        rw [toLower_of_isAsciiDigit hc, beq_eq_false_iff_ne]
        rintro rfl
        simp [hc] at hword
      simp [afterWord?, hne]

theorem splitSign_signText (negative : Bool) {cs : List Char}
    (h : ∀ c ∈ cs.head?, c ≠ '+' ∧ c ≠ '-') :
    splitSign ((signText negative).toList ++ cs) = (negative, cs) := by
  cases negative with
  | false => exact splitSign_eq_self h
  | true => rfl

theorem isSpelling_of_mem_signText {negative : Bool} {c : Char}
    (h : c ∈ (signText negative).toList) :
    IsSpelling c := by
  cases negative with
  | false => cases h
  | true =>
      obtain rfl := List.mem_singleton.mp h
      exact .inr (by decide)

theorem ofText?_of_isAsciiDigit (negative : Bool) {c : Char} {cs : List Char}
    (hc : isAsciiDigit c = true) (h : ∀ c ∈ cs, IsSpelling c) :
    ofText? ((signText negative).toList ++ c :: cs) = readFinite? negative (c :: cs) := by
  have hall : ∀ d ∈ (signText negative).toList ++ c :: cs, IsSpelling d := by
    intro d hd
    rcases List.mem_append.mp hd with hd | hd
    · exact isSpelling_of_mem_signText hd
    · rcases List.mem_cons.mp hd with rfl | hd
      · exact .inl hc
      · exact h d hd
  have hsign : splitSign ((signText negative).toList ++ c :: cs) = (negative, c :: cs) :=
    splitSign_signText negative (by simpa using sign_ne_of_isAsciiDigit hc)
  have hnan : readNan? negative (c :: cs) = none := by
    rw [readNan?, afterWord?_of_isAsciiDigit (by decide) hc,
      afterWord?_of_isAsciiDigit (by decide) hc]
  have hinfinite : readInfinite? negative (c :: cs) = none := by
    rw [readInfinite?, afterWord?_of_isAsciiDigit (by decide) hc,
      afterWord?_of_isAsciiDigit (by decide) hc]
    rfl
  simp only [ofText?, plainText?_eq_self hall, hsign, hnan, hinfinite, Option.none_or]

theorem isSpelling_of_mem_markOf {scale : Int} {c : Char} (h : c ∈ markOf scale) : IsSpelling c :=
    by
  rw [markOf] at h
  split_ifs at h with hzero hnegative
  · cases h
  all_goals
    simp only [List.mem_cons] at h
    rcases h with rfl | rfl | h
    · exact .inr (by decide)
    · exact .inr (by decide)
    · exact .inl (isAsciiDigit_of_mem_toDigits h)

-- The text of a finite magnitude: the digits of its coefficient, with a point
-- among them if any, and what remains of its exponent.
theorem exists_spell_of_renderFinite (coefficient : Nat) (exponent : Int) :
    ∃ whole fraction scale,
      (renderFinite coefficient exponent).toList = spell whole fraction ++ markOf scale ∧
        (∀ c ∈ whole, isAsciiDigit c = true) ∧ (∀ c ∈ fraction, isAsciiDigit c = true) ∧
        whole ≠ [] ∧ digitsOf (whole ++ fraction) = coefficient ∧
        scale - fraction.length = exponent := by
  have hpoint : pointOf (Nat.toDigits 10 coefficient) exponent ≤
      (Nat.toDigits 10 coefficient).length := by
    have hlength : 0 < (Nat.toDigits 10 coefficient).length := Nat.length_toDigits_pos
    rw [pointOf]
    split_ifs <;> omega
  obtain ⟨whole, fraction, hbody, hwhole, hfraction, hne, hvalue, hlength⟩ :=
    bodyAt_eq_spell coefficient hpoint
  refine ⟨whole, fraction, _, by rw [toList_renderFinite, hbody], hwhole, hfraction, hne, hvalue, ?_⟩
  omega

theorem readFinite?_renderFinite (negative : Bool) (coefficient : Nat) (exponent : Int) :
    readFinite? negative (renderFinite coefficient exponent).toList =
      within? negative coefficient exponent := by
  obtain ⟨whole, fraction, scale, htext, hwhole, hfraction, hne, hvalue, hscale⟩ :=
    exists_spell_of_renderFinite coefficient exponent
  rw [htext, readFinite?_spell negative hwhole hfraction hne (head_markOf _) (readExponent?_markOf _),
    hvalue, hscale]

theorem exists_cons_of_renderFinite (coefficient : Nat) (exponent : Int) :
    ∃ c cs, (renderFinite coefficient exponent).toList = c :: cs ∧ isAsciiDigit c = true ∧
      ∀ c ∈ cs, IsSpelling c := by
  obtain ⟨whole, fraction, scale, htext, hwhole, hfraction, hne, -, -⟩ :=
    exists_spell_of_renderFinite coefficient exponent
  obtain ⟨c, whole, rfl⟩ := List.exists_cons_of_ne_nil hne
  obtain ⟨hc, hwhole⟩ := List.forall_mem_cons.mp hwhole
  have hspell : spell (c :: whole) fraction = c :: spell whole fraction := by
    rw [spell, spell]
    split_ifs <;> rfl
  refine ⟨c, spell whole fraction ++ markOf scale, by rw [htext, hspell, List.cons_append], hc, ?_⟩
  intro d hd
  rcases List.mem_append.mp hd with hd | hd
  · rw [spell] at hd
    split_ifs at hd
    · exact .inl (hwhole d hd)
    · rcases List.mem_append.mp hd with hd | hd
      · exact .inl (hwhole d hd)
      · rcases List.mem_cons.mp hd with rfl | hd
        · exact .inr (by decide)
        · exact .inl (hfraction d hd)
  · exact isSpelling_of_mem_markOf hd

-- A decimal that is a number is read back from the text that it is written as.
theorem ofText?_render {d : Decimal} (hnan : d.isNan = false) (hrange : d.InRange) :
    ofText? d.render.toList = some d := by
  cases d with
  | nan => cases hnan
  | infinite negative => cases negative <;> cbv
  | finite negative coefficient exponent =>
      obtain ⟨c, cs, hcs, hc, hspelling⟩ := exists_cons_of_renderFinite coefficient exponent
      rw [render, String.toList_append, hcs, ofText?_of_isAsciiDigit negative hc hspelling, ← hcs,
        readFinite?_renderFinite]
      exact if_pos hrange

theorem isSpelling_of_mem_render {d : Decimal} (hnan : d.isNan = false) :
    ∀ c ∈ d.render.toList, IsSpelling c := by
  intro c hm
  cases d with
  | nan => cases hnan
  | infinite negative =>
      rw [render, String.toList_append] at hm
      rcases List.mem_append.mp hm with hm | hm
      · exact isSpelling_of_mem_signText hm
      · have hall : "Infinity".toList.all (".E+-Infinity".toList.contains ·) = true := by decide
        exact .inr (List.contains_iff_mem.mp (List.all_eq_true.mp hall c hm))
  | finite negative coefficient exponent =>
      obtain ⟨d, cs, hcs, hd, hspelling⟩ := exists_cons_of_renderFinite coefficient exponent
      rw [render, String.toList_append, hcs] at hm
      rcases List.mem_append.mp hm with hm | hm
      · exact isSpelling_of_mem_signText hm
      · rcases List.mem_cons.mp hm with rfl | hm
        · exact .inl hd
        · exact hspelling c hm

theorem toList_render_ne_nil {d : Decimal} (hnan : d.isNan = false) : d.render.toList ≠ [] := by
  cases d with
  | nan => cases hnan
  | infinite negative => simp [render]
  | finite negative coefficient exponent =>
      obtain ⟨c, cs, hcs, -, -⟩ := exists_cons_of_renderFinite coefficient exponent
      simp [render, hcs]

/-! Order -/

-- Only a NaN has no order to other numbers.
theorem compare?_eq_none_iff {a b : Decimal} :
    a.compare? b = none ↔ a.isNan = true ∨ b.isNan = true := by
  cases a with
  | nan => simp [compare?, isNan]
  | infinite p => cases b <;> simp [compare?, isNan]
  | finite p coefficient exponent =>
      cases b with
      | nan => simp [compare?, isNan]
      | infinite => simp [compare?, isNan]
      | finite q =>
          simp only [isNan, Bool.false_eq_true, or_self, iff_false, compare?]
          split
          · nofun
          · cases p <;> cases q <;> split <;> simp <;> split <;> simp

theorem isNan_of_isFinite {d : Decimal} (h : d.isFinite = true) : d.isNan = false := by
  cases d with
  | nan => cases h
  | _ => rfl

end TableSchema.Number.Decimal
