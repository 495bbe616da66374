import Mathlib
import TableSchema.Schema.Parser

namespace TableSchema.Schema

open TableSchema.Text

/-! Lexemes -/

-- The characters that are tokens by themselves.
def signs : List (TokenKind × Char) :=
  [(.colon, ':'), (.opening, '('), (.closing, ')'), (.comma, ',')]

-- What a character begins in front of a text: a text in quotes, a name behind its
-- sign, a word, or nothing more than itself.
inductive Lexes (rest : List Char) : Char → Lexeme → Prop
  | text {body : List Char} (h : quotedBody? rest = some body) :
      Lexes rest '"' { kind := .text, length := body.length + 2, text := unescape body }
  | directive (h : (rest.head?.map isAsciiLetter).getD false = true) :
      Lexes rest '@'
        { kind := .directive, length := (rest.takeWhile isDirectiveChar).length + 1
          text := rest.takeWhile isDirectiveChar }
  | column (h : rest.takeWhile isColumnChar ≠ []) :
      Lexes rest '$'
        { kind := .column, length := (rest.takeWhile isColumnChar).length + 1
          text := rest.takeWhile isColumnChar }
  | word {c : Char} (h : isWordChar c = true) :
      Lexes rest c
        { kind := .word, length := (c :: rest.takeWhile isWordChar).length
          text := c :: rest.takeWhile isWordChar }
  | punctuation {kind : TokenKind} {c : Char} (h : (kind, c) ∈ signs) : Lexes rest c (sign kind c)
  | invalid (c : Char) : Lexes rest c (sign .invalid c)

theorem lexes_of_lexeme? {c : Char} {rest : List Char} {lexeme : Lexeme}
    (h : lexeme? c rest = some lexeme) : Lexes rest c lexeme := by
  rw [lexeme?] at h
  split at h
  · cases h
  split at h
  · rename_i hquote
    obtain rfl := beq_iff_eq.mp hquote
    split at h
    · rename_i body hbody
      obtain rfl := Option.some.inj h
      exact .text hbody
    · obtain rfl := Option.some.inj h
      exact .invalid _
  split at h
  · rename_i hat
    obtain rfl := beq_iff_eq.mp hat
    split at h
    · rename_i hletter
      obtain rfl := Option.some.inj h
      exact .directive hletter
    · obtain rfl := Option.some.inj h
      exact .invalid _
  split at h
  · rename_i hdollar
    obtain rfl := beq_iff_eq.mp hdollar
    dsimp only at h
    split at h
    · obtain rfl := Option.some.inj h
      exact .invalid _
    · rename_i hname
      obtain rfl := Option.some.inj h
      exact .column (mt List.isEmpty_iff.mpr hname)
  split at h
  · rename_i hword
    obtain rfl := Option.some.inj h
    exact .word hword
  -- What is left is one of the signs, or nothing that is known.
  have hsign : (∃ kind, (kind, c) ∈ signs ∧ some (sign kind c) = some lexeme) ∨
      some (sign .invalid c) = some lexeme := by
    simp only [signs]
    grind
  rcases hsign with ⟨kind, hkind, heq⟩ | heq
  · obtain rfl := Option.some.inj heq
    exact .punctuation hkind
  · obtain rfl := Option.some.inj heq
    exact .invalid c

theorem lexeme?_of_isWordChar {c : Char} (h : isWordChar c = true) (rest : List Char) :
    lexeme? c rest = some
      { kind := .word, length := (c :: rest.takeWhile isWordChar).length
        text := c :: rest.takeWhile isWordChar } := by
  have hne : ∀ d, isWordChar d = false → c ≠ d := by
    rintro d hd rfl
    exact absurd h (by simp [hd])
  simp only [lexeme?, isSpace]
  rw [if_neg (by simp [hne ' ' (by decide), hne '\t' (by decide), hne '\n' (by decide)]),
    if_neg (by simp [hne '"' (by decide)]), if_neg (by simp [hne '@' (by decide)]),
    if_neg (by simp [hne '$' (by decide)]), if_pos h]

theorem Lexes.lexeme?_eq {c : Char} {rest : List Char} {lexeme : Lexeme}
    (h : Lexes rest c lexeme) (hkind : lexeme.kind ≠ .invalid) : lexeme? c rest = some lexeme := by
  cases h with
  | text h => simp [lexeme?, isSpace, h]
  | directive h => simp [lexeme?, isSpace, h]
  | column h => simp [lexeme?, isSpace, h]
  | word h => exact lexeme?_of_isWordChar h rest
  | punctuation h =>
      have hsigns : ∀ entry ∈ signs, lexeme? entry.2 rest = some (sign entry.1 entry.2) := by
        simp only [signs, List.forall_mem_cons]
        exact ⟨rfl, rfl, rfl, rfl, List.forall_mem_nil _⟩
      exact hsigns _ h
  | invalid c => exact absurd rfl hkind

/-! The tokens of a line -/

-- The tokens of a line: the last one marks its end, and no other one does.
inductive IsLine : List Token → Prop
  | stop {token : Token} (h : token.kind = .endOfLine) : IsLine [token]
  | more {token : Token} {rest : List Token} (h : token.kind ≠ .endOfLine) (hrest : IsLine rest) :
      IsLine (token :: rest)

theorem lexeme?_kind {c : Char} {rest : List Char} {lexeme : Lexeme}
    (h : lexeme? c rest = some lexeme) : lexeme.kind ≠ .endOfLine := by
  have hsigns : ∀ entry ∈ signs, entry.1 ≠ .endOfLine := by decide
  cases lexes_of_lexeme? h with
  | punctuation hsign => exact hsigns _ hsign
  | text | directive | column | word | invalid => simp [sign]

theorem isLine_tokensFrom (line column skip : Nat) (text : List Char) :
    IsLine (tokensFrom line column skip text) := by
  induction text generalizing column skip with
  | nil => exact .stop rfl
  | cons c rest ih =>
      cases skip with
      | succ skip => exact ih _ _
      | zero =>
          simp only [tokensFrom]
          split
          · exact ih _ _
          · rename_i lexeme hl
            exact .more (lexeme?_kind hl) (ih _ _)

theorem isLine_tokenize (text : List Char) (line : Nat) : IsLine (tokenize text line) :=
  isLine_tokensFrom line 1 0 text

namespace IsLine

theorem of_cons {token : Token} {rest : List Token} (h : IsLine (token :: rest))
    (hkind : token.kind ≠ .endOfLine) : IsLine rest := by
  cases h with
  | stop hk => exact absurd hk hkind
  | more _ hrest => exact hrest

theorem drop_front {front rest : List Token} (h : IsLine (front ++ rest))
    (hfront : ∀ token ∈ front, token.kind ≠ .endOfLine) : IsLine rest := by
  induction front with
  | nil => exact h
  | cons token front ih =>
      exact ih (of_cons h (hfront token (by simp))) fun t ht =>
        hfront t (List.mem_cons_of_mem _ ht)

theorem eq_singleton {tokens : List Token} (h : IsLine tokens)
    (hkind : (current tokens).kind = .endOfLine) :
    ∃ token, tokens = [token] ∧ token.kind = .endOfLine := by
  cases h with
  | stop hk => exact ⟨_, rfl, hk⟩
  | more hk _ => exact absurd hkind hk

end IsLine

end TableSchema.Schema
