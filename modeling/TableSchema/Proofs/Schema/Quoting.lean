import Mathlib
import TableSchema.Rule
import TableSchema.Schema.Token
import TableSchema.Text.Lines

namespace TableSchema.Schema

open TableSchema.Text

-- What can stand between quotes: each quote in it follows a backslash, and each
-- backslash takes a character with it.
inductive IsBody : List Char → Prop
  | nil : IsBody []
  | plain {c : Char} {rest : List Char} (hquote : c ≠ '"') (hslash : c ≠ '\\') (h : IsBody rest) :
      IsBody (c :: rest)
  | escaped {c : Char} {rest : List Char} (hc : c ≠ '\n') (h : IsBody rest) :
      IsBody ('\\' :: c :: rest)

-- A text with its quotes escaped.
def escape (value : List Char) : List Char :=
  value.flatMap fun c => if c = '"' then ['\\', '"'] else [c]

theorem isBody_of_quotedBody? {text body : List Char} (h : quotedBody? text = some body) :
    IsBody body ∧ ∀ c ∈ body, c ∈ text := by
  fun_induction quotedBody? text generalizing body with
  | case1 => cases h
  | case2 =>
      obtain rfl := Option.some.inj h
      exact ⟨.nil, nofun⟩
  | case3 => cases h
  | case4 => cases h
  | case5 c rest hc ih =>
      obtain ⟨inner, hinner, rfl⟩ := Option.map_eq_some_iff.mp h
      obtain ⟨hbody, hmem⟩ := ih hinner
      refine ⟨.escaped hc hbody, fun d hd => ?_⟩
      simp only [List.mem_cons] at hd ⊢
      exact hd.imp id fun hd => hd.imp id (hmem d)
  | case6 c rest hquote halone hpair ih =>
      obtain ⟨inner, hinner, rfl⟩ := Option.map_eq_some_iff.mp h
      obtain ⟨hbody, hmem⟩ := ih hinner
      have hslash : c ≠ '\\' := by
        intro hc
        cases rest with
        | nil => exact halone hc rfl
        | cons d rest => exact hpair d rest hc rfl
      refine ⟨.plain hquote hslash hbody, fun d hd => ?_⟩
      simp only [List.mem_cons] at hd ⊢
      exact hd.imp id (hmem d)

namespace IsBody

theorem quotedBody?_append {body : List Char} (h : IsBody body) (rest : List Char) :
    quotedBody? (body ++ '"' :: rest) = some body := by
  induction h with
  | nil => rfl
  | @plain c body hquote hslash _ ih =>
      rw [List.cons_append, quotedBody?.eq_def]
      split <;> simp_all
  | escaped hc _ ih => simp [quotedBody?, hc, ih]

theorem head_ne {body : List Char} (h : IsBody body) : ∀ c ∈ body.head?, c ≠ '"' := by
  cases h with
  | nil => nofun
  | plain hquote => simpa using hquote
  | escaped => simp

end IsBody

-- A character that does not escape a quote stands for itself.
theorem unescape_cons {c : Char} {rest : List Char} (h : c ≠ '\\' ∨ ∀ d ∈ rest.head?, d ≠ '"') :
    unescape (c :: rest) = c :: unescape rest := by
  rw [unescape.eq_def]
  split <;> simp_all

theorem escape_unescape {body : List Char} (h : IsBody body) : escape (unescape body) = body := by
  induction h with
  | nil => rfl
  | @plain c rest hquote hslash h ih =>
      rw [unescape_cons (.inl hslash)]
      simp only [escape, List.flatMap_cons, hquote, if_false] at ih ⊢
      rw [ih]
      rfl
  | @escaped c rest hc h ih =>
      by_cases hquote : c = '"'
      · rw [hquote]
        simp only [escape, unescape, List.flatMap_cons, if_true] at ih ⊢
        rw [ih]
        rfl
      · rw [unescape_cons (.inr (by simpa using hquote)), unescape_cons (.inr h.head_ne)]
        simp only [escape, List.flatMap_cons, hquote, if_false] at ih ⊢
        rw [ih]
        rfl

theorem unescape_escape (value : List Char) : unescape (escape value) = value := by
  induction value with
  | nil => rfl
  | cons c value ih =>
      have hhead : ∀ d ∈ (escape value).head?, d ≠ '"' := by
        cases value with
        | nil => nofun
        | cons d value =>
            simp only [escape, List.flatMap_cons]
            split <;> simp_all
      by_cases hquote : c = '"'
      · rw [hquote]
        simp only [escape, List.flatMap_cons, if_true] at ih ⊢
        exact congrArg (List.cons '"') ih
      · have hcons : escape (c :: value) = c :: escape value := by
          simp [escape, hquote]
        rw [hcons, unescape_cons (.inr hhead), ih]

theorem mem_of_mem_unescape {c : Char} {body : List Char} (h : c ∈ unescape body) : c ∈ body := by
  fun_induction unescape body with
  | case1 => exact h
  | case2 rest ih =>
      rcases List.mem_cons.mp h with rfl | h
      · simp
      · exact List.mem_cons_of_mem _ (List.mem_cons_of_mem _ (ih h))
  | case3 d rest _ ih =>
      rcases List.mem_cons.mp h with rfl | h
      · simp
      · exact List.mem_cons_of_mem _ (ih h)

-- A text that can stand in quotes on one line.
structure IsQuotable (text : String) : Prop where
  body : IsBody (escape text.toList)
  unbroken : ∀ c ∈ text.toList, isLineBreak c = false

theorem IsQuotable.unbroken_escape {text : String} (h : IsQuotable text) :
    ∀ c ∈ escape text.toList, isLineBreak c = false := by
  intro c hc
  obtain ⟨d, hd, hc⟩ := List.mem_flatMap.mp hc
  split at hc
  · simp only [List.mem_cons, List.not_mem_nil, or_false] at hc
    rcases hc with rfl | rfl <;> decide
  · obtain rfl := List.mem_singleton.mp hc
    exact h.unbroken c hd

theorem isQuotable_unescape {text body : List Char} (h : quotedBody? text = some body)
    (hunbroken : ∀ c ∈ text, isLineBreak c = false) : IsQuotable (String.ofList (unescape body)) := by
  obtain ⟨hbody, hmem⟩ := isBody_of_quotedBody? h
  constructor
  · rwa [String.toList_ofList, escape_unescape hbody]
  · rw [String.toList_ofList]
    exact fun c hc => hunbroken c (hmem c (mem_of_mem_unescape hc))

end TableSchema.Schema
