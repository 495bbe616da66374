import Mathlib
import TableSchema.Number.Integer
import TableSchema.Schema.Token
import TableSchema.Text.Lines

namespace TableSchema

namespace Text

/-! Fronts -/

-- A list is cut in one way in front of the first element that lacks a property.
theorem append_inj_of_front {α : Type} {p : α → Bool} {front front' back back' : List α}
    (h : front ++ back = front' ++ back') (hfront : ∀ a ∈ front, p a = true)
    (hfront' : ∀ a ∈ front', p a = true) (hback : ∀ a ∈ back.head?, p a = false)
    (hback' : ∀ a ∈ back'.head?, p a = false) : front = front' ∧ back = back' := by
  have hcut : ∀ {front back : List α}, (∀ a ∈ front, p a = true) →
      (∀ a ∈ back.head?, p a = false) → (front ++ back).takeWhile p = front := by
    intro front back hfront hback
    have hnil : back.takeWhile p = [] := by
      cases back with
      | nil => rfl
      | cons a back => exact List.takeWhile_cons_of_neg (by simp [hback a rfl])
    rw [List.takeWhile_append_of_pos hfront, hnil, List.append_nil]
  have heq := congrArg (List.takeWhile p) h
  rw [hcut hfront hback, hcut hfront' hback'] at heq
  subst heq
  exact ⟨rfl, List.append_cancel_left h⟩

/-! Intervals -/

-- A code point that is found lies in an interval of the map, and the start that
-- comes with it is that of the interval.
theorem IntervalMap.exists_mem_of_search {α : Type} {m : IntervalMap α}
    {code low high start : Nat} {value : α} (h : m.search code low high = some (start, value)) :
    ∃ last, (start, last, value) ∈ m.entries ∧ start ≤ code ∧ code ≤ last := by
  fun_induction m.search code low high with
  | case1 => cases h
  | case2 _ _ _ _ _ _ _ _ ih => exact ih h
  | case3 _ _ _ _ _ _ _ _ _ ih => exact ih h
  | case4 low high hlt first last value hentry hfirst hlast =>
      obtain ⟨rfl, rfl⟩ := Prod.mk.inj (Option.some.inj h)
      exact ⟨last, Array.mem_of_getElem? hentry, by omega, by omega⟩
  | case5 => cases h

theorem IntervalSet.exists_mem_of_find? {intervals : List (Nat × Nat)} {code start : Nat}
    (h : (IntervalSet.ofList intervals).find? code = some (start, ())) :
    ∃ last, (start, last) ∈ intervals ∧ start ≤ code ∧ code ≤ last := by
  obtain ⟨last, hm, hstart, hlast⟩ := IntervalMap.exists_mem_of_search h
  simp only [IntervalSet.ofList, List.mem_toArray, List.mem_map, Prod.mk.injEq] at hm
  obtain ⟨_, hi, rfl, rfl, -⟩ := hm
  exact ⟨_, hi, hstart, hlast⟩

/-! Digits -/

theorem isAsciiDigit_iff {c : Char} : isAsciiDigit c = true ↔ 0x30 ≤ c.toNat ∧ c.toNat ≤ 0x39 := by
  simp only [isAsciiDigit, Bool.and_eq_true, decide_eq_true_eq]
  rfl

theorem digitValue?_of_isAsciiDigit {c : Char} (h : isAsciiDigit c = true) :
    digitValue? c = some (c.toNat - 0x30) := by
  rw [isAsciiDigit] at h
  rw [digitValue?, if_pos h]

theorem digitValue?_lt {c : Char} {value : Nat} (h : digitValue? c = some value) : value < 10 := by
  simp only [digitValue?] at h
  split at h
  · rename_i hdigit
    have hc := isAsciiDigit_iff.mp hdigit
    obtain rfl := Option.some.inj h
    omega
  · split at h
    · cases h
    · obtain ⟨⟨start, _⟩, hf, rfl⟩ := Option.map_eq_some_iff.mp h
      obtain ⟨last, hm, hstart, hlast⟩ := IntervalSet.exists_mem_of_find? hf
      obtain ⟨first, -, he⟩ := List.mem_map.mp hm
      obtain ⟨rfl, rfl⟩ := Prod.mk.inj he
      dsimp only
      omega

/-! Letters -/

theorem isAsciiLetter_iff {c : Char} : isAsciiLetter c = true ↔
    0x61 ≤ c.toNat ∧ c.toNat ≤ 0x7A ∨ 0x41 ≤ c.toNat ∧ c.toNat ≤ 0x5A := by
  simp only [isAsciiLetter, Bool.or_eq_true, Bool.and_eq_true, decide_eq_true_eq]
  rfl

/-! White space -/

-- No visible character of ASCII is white space.
theorem isBlank_eq_false {c : Char} (hlow : 0x21 ≤ c.toNat) (hhigh : c.toNat < 0x80) :
    isBlank c = false := by
  rw [Bool.eq_false_iff]
  intro hb
  obtain ⟨⟨start, _⟩, hf⟩ := Option.isSome_iff_exists.mp hb
  obtain ⟨last, hm, hstart, hlast⟩ := IntervalSet.exists_mem_of_find? hf
  simp only [List.mem_cons, List.not_mem_nil, or_false, Prod.mk.injEq] at hm
  omega

theorem trim_eq_self {drop : Char → Bool} {cs : List Char} (h : ∀ c ∈ cs, drop c = false) :
    trim drop cs = cs := by
  have hkeep : ∀ {cs : List Char}, (∀ c ∈ cs, drop c = false) → cs.dropWhile drop = cs := by
    intro cs h
    cases cs with
    | nil => rfl
    | cons c cs => exact List.dropWhile_cons_of_neg (by simp [h c])
  rw [trim, hkeep h, hkeep (by simpa using h), List.reverse_reverse]

end Text

namespace Schema

open TableSchema.Text

/-! Words -/

-- A text that is one word.
def IsWord (text : String) : Prop :=
  text.toList ≠ [] ∧ ∀ c ∈ text.toList, isWordChar c = true

instance (text : String) : Decidable (IsWord text) :=
  decidable_of_iff (text.toList ≠ [] ∧ text.toList.all isWordChar = true)
    (and_congr_right' List.all_eq_true)

theorem isWordChar_of_isColumnChar {c : Char} (h : isColumnChar c = true) :
    isWordChar c = true := by
  simp [isWordChar, h]

theorem isColumnChar_of_isDirectiveChar {c : Char} (h : isDirectiveChar c = true) :
    isColumnChar c = true := by
  simp [isColumnChar, h]

theorem isWordChar_of_isAsciiDigit {c : Char} (h : isAsciiDigit c = true) :
    isWordChar c = true := by
  simp [isWordChar, isColumnChar, isDirectiveChar, h]

theorem toNat_of_isWordChar {c : Char} (h : isWordChar c = true) :
    0x21 ≤ c.toNat ∧ c.toNat < 0x80 := by
  simp only [isWordChar, isColumnChar, isDirectiveChar, Bool.or_eq_true,
    beq_iff_eq, isAsciiLetter_iff, isAsciiDigit_iff] at h
  rcases h with (((((h | h) | h) | rfl) | rfl) | rfl) | rfl
  · omega
  · omega
  · omega
  all_goals decide

theorem isAscii_of_isWordChar {c : Char} (h : isWordChar c = true) : isAscii c = true := by
  simp [isAscii, (toNat_of_isWordChar h).2]

theorem isBlank_of_isWordChar {c : Char} (h : isWordChar c = true) : isBlank c = false :=
  isBlank_eq_false (toNat_of_isWordChar h).1 (toNat_of_isWordChar h).2

theorem isAsciiBlank_of_isWordChar {c : Char} (h : isWordChar c = true) :
    isAsciiBlank c = false := by
  have hc := toNat_of_isWordChar h
  rw [Bool.eq_false_iff]
  intro hb
  simp only [isAsciiBlank, Bool.or_eq_true, beq_iff_eq, Bool.and_eq_true, decide_eq_true_eq] at hb
  rcases hb with rfl | ⟨-, hle⟩
  · exact absurd hc.1 (by decide)
  · have hle : c.toNat ≤ 0xD := hle
    omega

theorem isLineBreak_of_isWordChar {c : Char} (h : isWordChar c = true) :
    isLineBreak c = false := by
  rw [Bool.eq_false_iff]
  intro hb
  simp only [isLineBreak, Bool.or_eq_true, beq_iff_eq] at hb
  rcases hb with (((((((((rfl | rfl) | rfl) | rfl) | rfl) | rfl) | rfl) | rfl) | rfl) | rfl) <;>
    simp [isWordChar, isColumnChar, isDirectiveChar, isAsciiLetter, isAsciiDigit] at h

end Schema

end TableSchema
