import TableSchema.Proofs.Number.Decimal
import TableSchema.Rule.Build

namespace TableSchema

open TableSchema.Text

theorem bind_eq_ok_iff {ε α β : Type} {first : Except ε α} {next : α → Except ε β} {value : β} :
    (first >>= next) = .ok value ↔ ∃ middle, first = .ok middle ∧ next middle = .ok value := by
  cases first with
  | error fault => simp [bind, Except.bind]
  | ok middle => simp [bind, Except.bind]

theorem bind_eq_error_iff {ε α β : Type} {first : Except ε α} {next : α → Except ε β} {fault : ε} :
    (first >>= next) = .error fault ↔
      first = .error fault ∨ ∃ middle, first = .ok middle ∧ next middle = .error fault := by
  cases first with
  | error other => simp [bind, Except.bind]
  | ok middle => simp [bind, Except.bind]

theorem Pattern.text_of_ofText {text : String} {pattern : Pattern} (h : ofText text = .ok pattern) :
    pattern.text = text := by
  obtain ⟨source, -, h⟩ := bind_eq_ok_iff.mp h
  obtain ⟨⟨node, state⟩, -, h⟩ := bind_eq_ok_iff.mp h
  obtain rfl := Except.ok.inj h
  rfl

-- A number that can be written as one word.
structure Number.Decimal.IsWritable (d : Number.Decimal) : Prop where
  notNan : d.isNan = false
  unsigned : '+' ∉ d.render.toList

namespace Rule

-- The numbers that bound a range, also within an alternative.
def rangeBounds : Rule → List Number.Decimal
  | .range low high => low.toList ++ high.toList
  | .or left right => left.rangeBounds ++ right.rangeBounds
  | _ => []

/-! Parts of the builder -/

theorem map_eq_ok_iff {α β : Type} {built : Except BuildFault α} {f : α → β} {value : β} :
    built.map f = .ok value ↔ ∃ middle, built = .ok middle ∧ f middle = value := by
  cases built with
  | error fault => simp [Except.map]
  | ok middle => simp [Except.map]

theorem eq_of_operandOf {name : Name} {arguments : List Argument} {operand : Operand}
    (h : operandOf name arguments = .ok operand) : arguments = [operand.toArgument] := by
  rw [operandOf.eq_def] at h
  split at h
  · obtain rfl := Except.ok.inj h
    rfl
  · obtain rfl := Except.ok.inj h
    rfl
  · cases h
  · cases h

theorem eq_of_plain {name : Name} {plainRule rule : Rule} {arguments : List Argument}
    (h : plain name plainRule arguments = .ok rule) : plainRule = rule := by
  rw [plain] at h
  split at h
  · exact Except.ok.inj h
  · cases h

/-! Bounds -/

theorem boundOf_boundText {α β : Type} {name : Name} {read? : List Char → Option β}
    {text : α → String}
    {bound : Option α} (f : α → β) (hstar : ∀ value ∈ bound, text value ≠ "*")
    (hread : ∀ value ∈ bound, read? (text value).toList = some (f value)) :
    boundOf name read? (.bare (boundText text bound)) = .ok (bound.map f) := by
  cases bound with
  | none => rfl
  | some value => simp [boundOf, boundText, hstar value rfl, hread value rfl]

theorem read?_of_boundOf {α : Type} {name : Name} {read? : List Char → Option α}
    {argument : Argument} {bound : Option α} (h : boundOf name read? argument = .ok bound) :
    ∀ value ∈ bound, ∃ cs, read? cs = some value := by
  rw [boundOf.eq_def] at h
  split at h
  · split at h
    · obtain rfl := Except.ok.inj h
      nofun
    · split at h
      · rename_i word _ _ value hv
        obtain rfl := Except.ok.inj h
        intro _ hm
        obtain rfl := Option.some.inj hm
        exact ⟨word.toList, hv⟩
      · cases h
  · cases h

/-! Lengths -/

theorem toString_ne_star (n : Nat) : toString n ≠ "*" := by
  intro h
  have hm : '*' ∈ (toString n).toList := by
    rw [h]
    decide
  rw [Number.toList_toString] at hm
  exact absurd (Number.isAsciiDigit_of_mem_toDigits hm) (by decide)

theorem lengthBound_boundText {count : Option Nat}
    (h : ∀ value ∈ count, value < 10 ^ Number.integerDigitLimit) :
    lengthBound (.bare (boundText toString count)) = .ok (count.map Int.ofNat) := by
  refine boundOf_boundText Int.ofNat (fun value _ => toString_ne_star value) fun value hm => ?_
  rw [Number.toList_toString]
  exact Number.integerOfText?_toDigits (h value hm)

theorem toNat_lt_of_lengthBound {argument : Argument} {bound : Option Int}
    (h : lengthBound argument = .ok bound) :
    ∀ value ∈ bound, value.toNat < 10 ^ Number.integerDigitLimit := by
  intro value hm
  obtain ⟨cs, hcs⟩ := read?_of_boundOf h value hm
  have hlt := Number.natAbs_lt_of_integerOfText? hcs
  exact Nat.lt_of_le_of_lt (by omega) hlt

end Rule

-- Bounds that can be written: they are in order, and integers can be as long.
def LengthBounds.IsWritable : LengthBounds → Prop
  | .exactly count => count < 10 ^ Number.integerDigitLimit
  | .between least most =>
    (∀ low ∈ least, low < 10 ^ Number.integerDigitLimit) ∧
      (∀ high ∈ most, high < 10 ^ Number.integerDigitLimit) ∧ ∀ low ∈ least, ∀ high ∈ most, low ≤ high

namespace Rule

theorem isWritable_between {least most : Option Int}
    (hleast : ∀ low ∈ least, low.toNat < 10 ^ Number.integerDigitLimit)
    (hmost : ∀ high ∈ most, high.toNat < 10 ^ Number.integerDigitLimit)
    (horder : ∀ low ∈ least, ∀ high ∈ most, low ≤ high) :
    (LengthBounds.between (least.map Int.toNat) (most.map Int.toNat)).IsWritable := by
  refine ⟨?_, ?_, ?_⟩
  · intro low hl
    obtain ⟨a, ha, rfl⟩ := Option.map_eq_some_iff.mp hl
    exact hleast a ha
  · intro high hm
    obtain ⟨b, hb, rfl⟩ := Option.map_eq_some_iff.mp hm
    exact hmost b hb
  · intro low hl high hm
    obtain ⟨a, ha, rfl⟩ := Option.map_eq_some_iff.mp hl
    obtain ⟨b, hb, rfl⟩ := Option.map_eq_some_iff.mp hm
    exact Int.toNat_le_toNat (horder a ha b hb)

theorem exists_isWritable_of_buildLength {arguments : List Argument} {rule : Rule}
    (h : buildLength arguments = .ok rule) : ∃ bounds, rule = .length bounds ∧ bounds.IsWritable := by
  simp only [buildLength] at h
  split at h
  · obtain ⟨bound, hbound, h⟩ := bind_eq_ok_iff.mp h
    split at h
    · cases h
    · cases bound with
      | none => cases h
      | some count =>
          obtain rfl := Except.ok.inj h
          exact ⟨_, rfl, toNat_lt_of_lengthBound hbound count rfl⟩
  · obtain ⟨least, hlow, h⟩ := bind_eq_ok_iff.mp h
    obtain ⟨most, hhigh, h⟩ := bind_eq_ok_iff.mp h
    split at h
    · cases h
    · have hbounds : rule = .length (.between (least.map Int.toNat) (most.map Int.toNat)) ∧
          ∀ low ∈ least, ∀ high ∈ most, low ≤ high := by
        split at h
        · split at h
          · cases h
          · rename_i low high _ _ _ horder
            obtain rfl := Except.ok.inj h
            simpa using horder
        · rename_i hnone
          refine ⟨(Except.ok.inj h).symm, fun low hl high hm => ?_⟩
          exact absurd hm (hnone low high hl)
      obtain ⟨rfl, horder⟩ := hbounds
      have hleast := toNat_lt_of_lengthBound hlow
      have hmost := toNat_lt_of_lengthBound hhigh
      exact ⟨_, rfl, isWritable_between hleast hmost horder⟩
  · cases h

theorem buildLength_of_isWritable {bounds : LengthBounds} (h : bounds.IsWritable) :
    buildLength (Rule.length bounds).arguments = .ok (.length bounds) := by
  cases bounds with
  | exactly count =>
      have hlimit : ∀ value ∈ some count, value < 10 ^ Number.integerDigitLimit := by
        intro value hm
        obtain rfl := Option.some.inj hm
        exact h
      have hbound := lengthBound_boundText hlimit
      simp only [arguments, buildLength, boundText] at hbound ⊢
      rw [hbound]
      rfl
  | between least most =>
      obtain ⟨hleast, hmost, horder⟩ := h
      simp only [arguments, buildLength, lengthBound_boundText hleast, lengthBound_boundText hmost]
      cases least with
      | none => cases most <;> rfl
      | some low =>
          cases most with
          | none => rfl
          | some high =>
              have hle : ¬Int.ofNat high < Int.ofNat low := by
                simpa using horder low rfl high rfl
              change (if Int.ofNat high < Int.ofNat low then _ else _) = _
              rw [if_neg hle]
              rfl

/-! Ranges -/

-- Bounds of a range that can be written: their exponents are within the limits,
-- and they are in order.
structure IsWritableRange (low high : Option Number.Decimal) : Prop where
  lowInRange : ∀ a ∈ low, a.InRange
  highInRange : ∀ b ∈ high, b.InRange
  ordered : ∀ a ∈ low, ∀ b ∈ high, ∃ order, a.compare? b = some order ∧ order ≠ .gt

theorem render_ne_star {d : Number.Decimal} (h : d.isNan = false) : d.render ≠ "*" := by
  intro he
  have hm : '*' ∈ d.render.toList := by
    rw [he]
    decide
  rcases Number.Decimal.isSpelling_of_mem_render h '*' hm with hc | hc
  · exact absurd hc (by decide)
  · exact absurd hc (by decide)

theorem rangeBound_boundText {bound : Option Number.Decimal}
    (hnan : ∀ value ∈ bound, value.isNan = false) (h : ∀ value ∈ bound, value.InRange) :
    rangeBound (.bare (boundText Number.Decimal.render bound)) = .ok bound := by
  have hread : ∀ value ∈ bound,
      Number.Decimal.ofText? (Number.Decimal.render value).toList = some (id value) :=
    fun value hm => Number.Decimal.ofText?_render (hnan value hm) (h value hm)
  unfold rangeBound
  rw [boundOf_boundText id (fun value hm => render_ne_star (hnan value hm)) hread, Option.map_id]
  rfl

theorem inRange_of_rangeBound {argument : Argument} {bound : Option Number.Decimal}
    (h : rangeBound argument = .ok bound) : ∀ value ∈ bound, value.InRange := by
  intro value hm
  obtain ⟨cs, hcs⟩ := read?_of_boundOf h value hm
  exact Number.Decimal.inRange_of_ofText? hcs

theorem exists_isWritable_of_buildRange {arguments : List Argument} {rule : Rule}
    (h : buildRange arguments = .ok rule) :
    ∃ low high, rule = .range low high ∧ IsWritableRange low high := by
  simp only [buildRange] at h
  split at h
  · obtain ⟨low, hlow, h⟩ := bind_eq_ok_iff.mp h
    obtain ⟨high, hhigh, h⟩ := bind_eq_ok_iff.mp h
    have horder : rule = .range low high ∧
        ∀ a ∈ low, ∀ b ∈ high, ∃ order, a.compare? b = some order ∧ order ≠ .gt := by
      split at h
      · rename_i a b
        split at h
        · cases h
        · cases h
        · rename_i order hne hcompare
          refine ⟨(Except.ok.inj h).symm, ?_⟩
          simpa using ⟨order, hcompare, hne⟩
      · rename_i hnone
        refine ⟨(Except.ok.inj h).symm, fun a ha b hb => ?_⟩
        exact absurd hb (hnone a b ha)
    exact ⟨low, high, horder.1, inRange_of_rangeBound hlow, inRange_of_rangeBound hhigh, horder.2⟩
  · cases h

-- The second bound is compared with the first one if there are two.
theorem buildRange_of_rangeBound {first second : Argument} {a b : Number.Decimal}
    (hlow : rangeBound first = .ok (some a)) (hhigh : rangeBound second = .ok (some b)) :
    (∀ order, a.compare? b = some order → order ≠ .gt →
        buildRange [first, second] = .ok (.range (some a) (some b))) ∧
      (a.compare? b = none → buildRange [first, second] = .error .unorderedBounds) := by
  simp only [buildRange, hlow, hhigh, bind, Except.bind]
  constructor
  · intro order hcompare hne
    cases order with
    | gt => exact absurd rfl hne
    | lt => simp only [hcompare]; rfl
    | eq => simp only [hcompare]; rfl
  · intro hcompare
    simp only [hcompare]
    rfl

theorem buildRange_of_isWritable {low high : Option Number.Decimal} (h : IsWritableRange low high)
    (hlow : ∀ a ∈ low, a.isNan = false) (hhigh : ∀ b ∈ high, b.isNan = false) :
    buildRange (Rule.range low high).arguments = .ok (.range low high) := by
  have hlow' := rangeBound_boundText hlow h.lowInRange
  have hhigh' := rangeBound_boundText hhigh h.highInRange
  cases low with
  | none => cases high <;> simp only [arguments, buildRange, hlow', hhigh'] <;> rfl
  | some a =>
      cases high with
      | none =>
          simp only [arguments, buildRange, hlow', hhigh']
          rfl
      | some b =>
          obtain ⟨order, hcompare, hne⟩ := h.ordered a rfl b rfl
          exact (buildRange_of_rangeBound hlow' hhigh').1 order hcompare hne

theorem buildRegex_eq_ok {arguments : List Argument} {rule : Rule}
    (h : buildRegex arguments = .ok rule) :
    ∃ pattern, rule = .regex pattern ∧ arguments = [.text pattern.text] ∧
      Pattern.ofText pattern.text = .ok pattern := by
  obtain ⟨operand, hoperand, hbuilt⟩ := bind_eq_ok_iff.mp h
  obtain rfl := eq_of_operandOf hoperand
  cases operand with
  | column => cases hbuilt
  | text text =>
      dsimp only at hbuilt
      split at hbuilt
      · rename_i pattern hpattern
        obtain rfl := Except.ok.inj hbuilt
        obtain rfl := Pattern.text_of_ofText hpattern
        exact ⟨pattern, rfl, rfl, hpattern⟩
      · cases hbuilt

/-! Rules -/

-- Alternatives are joined by the parser only.
theorem ne_or_of_build {name : Name} {arguments : List Argument} {rule : Rule}
    (h : build name arguments = .ok rule) (left right : Rule) : rule ≠ .or left right := by
  cases name with
  | regex =>
      obtain ⟨pattern, rfl, -, -⟩ := buildRegex_eq_ok h
      nofun
  | compare test =>
      obtain ⟨operand, -, rfl⟩ := map_eq_ok_iff.mp h
      nofun
  | length =>
      obtain ⟨bounds, rfl, -⟩ := exists_isWritable_of_buildLength h
      nofun
  | range =>
      obtain ⟨low, high, rfl, -⟩ := exists_isWritable_of_buildRange h
      nofun
  | fileExists =>
      simp only [build] at h
      split at h
      · obtain rfl := Except.ok.inj h
        nofun
      · obtain ⟨operand, -, rfl⟩ := map_eq_ok_iff.mp h
        nofun
  | _ =>
      obtain rfl := eq_of_plain h
      nofun

-- A rule can be written with the name that it was built with, and with arguments
-- that were given or are words.
structure IsWritten (name : Name) (given : List Argument) (rule : Rule) : Prop where
  name_eq : rule.name = name.text
  rebuilt : build name rule.arguments = .ok rule
  arguments_mem : ∀ argument ∈ rule.arguments,
    argument ∈ given ∨ ∃ word, argument = .bare word ∧ Schema.IsWord word

theorem isWord_boundText {α : Type} {text : α → String} {bound : Option α}
    (h : ∀ value ∈ bound, Schema.IsWord (text value)) : Schema.IsWord (boundText text bound) := by
  cases bound with
  | none => simp [boundText, Schema.IsWord, Schema.isWordChar]
  | some value => exact h value rfl

theorem isWord_toString (n : Nat) : Schema.IsWord (toString n) := by
  rw [Schema.IsWord, Number.toList_toString]
  exact ⟨Nat.toDigits_ne_nil, fun c hc =>
    Schema.isWordChar_of_isAsciiDigit (Number.isAsciiDigit_of_mem_toDigits hc)⟩

theorem isWord_render {d : Number.Decimal} (h : d.IsWritable) : Schema.IsWord d.render := by
  refine ⟨Number.Decimal.toList_render_ne_nil h.notNan, fun c hc => ?_⟩
  refine (Number.Decimal.isSpelling_of_mem_render h.notNan c hc).isWordChar ?_
  rintro rfl
  exact h.unsigned hc

theorem isWritten_of_build {name : Name} {given : List Argument} {rule : Rule}
    (h : build name given = .ok rule) (hbounds : ∀ bound ∈ rule.rangeBounds, bound.IsWritable) :
    IsWritten name given rule := by
  cases name with
  | regex =>
      obtain ⟨pattern, rfl, rfl, hpattern⟩ := buildRegex_eq_ok h
      exact ⟨rfl, h, fun argument hm => .inl hm⟩
  | compare test =>
      obtain ⟨operand, hoperand, rfl⟩ := map_eq_ok_iff.mp h
      obtain rfl := eq_of_operandOf hoperand
      exact ⟨rfl, h, fun argument hm => .inl hm⟩
  | length =>
      obtain ⟨bounds, rfl, hb⟩ := exists_isWritable_of_buildLength h
      refine ⟨rfl, buildLength_of_isWritable hb, fun argument hm => .inr ?_⟩
      cases bounds with
      | exactly count =>
          obtain rfl := List.mem_singleton.mp hm
          exact ⟨_, rfl, isWord_toString count⟩
      | between least most =>
          simp only [arguments, List.mem_cons, List.not_mem_nil, or_false] at hm
          rcases hm with rfl | rfl
          · exact ⟨_, rfl, isWord_boundText fun value _ => isWord_toString value⟩
          · exact ⟨_, rfl, isWord_boundText fun value _ => isWord_toString value⟩
  | range =>
      obtain ⟨low, high, rfl, hb⟩ := exists_isWritable_of_buildRange h
      simp only [rangeBounds, List.mem_append, Option.mem_toList] at hbounds
      have hlow : ∀ value ∈ low, value.IsWritable := fun value hm => hbounds value (.inl hm)
      have hhigh : ∀ value ∈ high, value.IsWritable := fun value hm => hbounds value (.inr hm)
      refine ⟨rfl, buildRange_of_isWritable hb (fun value hm => (hlow value hm).notNan)
        fun value hm => (hhigh value hm).notNan, fun argument hm => .inr ?_⟩
      simp only [arguments, List.mem_cons, List.not_mem_nil, or_false] at hm
      rcases hm with rfl | rfl
      · exact ⟨_, rfl, isWord_boundText fun value hm => isWord_render (hlow value hm)⟩
      · exact ⟨_, rfl, isWord_boundText fun value hm => isWord_render (hhigh value hm)⟩
  | fileExists =>
      simp only [build] at h
      split at h
      · obtain rfl := Except.ok.inj h
        exact ⟨rfl, rfl, nofun⟩
      · obtain ⟨operand, hoperand, rfl⟩ := map_eq_ok_iff.mp h
        obtain rfl := eq_of_operandOf hoperand
        exact ⟨rfl, h, fun argument hm => .inl hm⟩
  | _ =>
      obtain rfl := eq_of_plain h
      exact ⟨rfl, rfl, nofun⟩

end Rule

end TableSchema
