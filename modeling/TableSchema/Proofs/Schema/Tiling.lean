import TableSchema.Proofs.Schema.Quoting
import TableSchema.Proofs.Schema.Tokens

namespace TableSchema.Schema

open TableSchema.Text

/-! Tokens as they are written -/

-- A text of some kind as it stands in a line: in quotes, or behind its sign.
def TokenKind.write (kind : TokenKind) (text : List Char) : List Char :=
  match kind with
  | .text => '"' :: (escape text ++ ['"'])
  | .directive => '@' :: text
  | .column => '$' :: text
  | _ => text

def Token.written (token : Token) : List Char :=
  token.kind.write token.text.toList

-- The token takes the character at an index of its line.
def Token.Covers (token : Token) (index : Nat) : Prop :=
  token.column ≤ index + 1 ∧ index + 1 < token.column + token.written.length

theorem exists_rest_of_quotedBody? {text body : List Char} (h : quotedBody? text = some body) :
    ∃ rest, text = body ++ '"' :: rest := by
  fun_induction quotedBody? text generalizing body with
  | case1 => cases h
  | case2 rest =>
      obtain rfl := Option.some.inj h
      exact ⟨rest, rfl⟩
  | case3 => cases h
  | case4 => cases h
  | case5 c text hc ih =>
      obtain ⟨inner, hinner, rfl⟩ := Option.map_eq_some_iff.mp h
      obtain ⟨rest, rfl⟩ := ih hinner
      exact ⟨rest, rfl⟩
  | case6 c text hquote halone hpair ih =>
      obtain ⟨inner, hinner, rfl⟩ := Option.map_eq_some_iff.mp h
      obtain ⟨rest, rfl⟩ := ih hinner
      exact ⟨rest, rfl⟩

-- A lexeme is what it takes from the text, and no more than is there.
structure Lexeme.Opens (lexeme : Lexeme) (text : List Char) : Prop where
  written : ∃ rest, text = lexeme.kind.write lexeme.text ++ rest
  length_eq : (lexeme.kind.write lexeme.text).length = lexeme.length
  positive : 1 ≤ lexeme.length
  single : lexeme.kind = .invalid → lexeme.text.length = 1

theorem opens_sign {kind : TokenKind} {c : Char} {rest : List Char} (hwrite : kind.write [c] = [c]) :
    (sign kind c).Opens (c :: rest) :=
  ⟨⟨rest, by rw [sign, hwrite]; rfl⟩, by rw [sign, hwrite]; rfl, Nat.le_refl 1, fun _ => rfl⟩

theorem opens_of_lexeme? {c : Char} {rest : List Char} {lexeme : Lexeme}
    (h : lexeme? c rest = some lexeme) : lexeme.Opens (c :: rest) := by
  -- The names behind a sign, and words, are the longest fronts of their characters.
  have htake : ∀ p : Char → Bool, ∃ behind, rest = rest.takeWhile p ++ behind := fun p =>
    ⟨rest.dropWhile p, List.takeWhile_append_dropWhile.symm⟩
  have hsigns : ∀ entry ∈ signs, entry.1.write [entry.2] = [entry.2] := by decide
  cases lexes_of_lexeme? h with
  | @text body hbody =>
      obtain ⟨behind, hrest⟩ := exists_rest_of_quotedBody? hbody
      have hwrite : TokenKind.text.write (unescape body) = '"' :: (body ++ ['"']) := by
        rw [TokenKind.write, escape_unescape (isBody_of_quotedBody? hbody).1]
      exact ⟨⟨behind, by simp [hwrite, hrest]⟩, by simp [hwrite], by simp, by simp⟩
  | directive =>
      obtain ⟨behind, hrest⟩ := htake isDirectiveChar
      exact ⟨⟨behind, congrArg (List.cons '@') hrest⟩, rfl, Nat.le_add_left 1 _, by simp⟩
  | column =>
      obtain ⟨behind, hrest⟩ := htake isColumnChar
      exact ⟨⟨behind, congrArg (List.cons '$') hrest⟩, rfl, Nat.le_add_left 1 _, by simp⟩
  | word =>
      obtain ⟨behind, hrest⟩ := htake isWordChar
      exact ⟨⟨behind, congrArg (List.cons c) hrest⟩, rfl, Nat.le_add_left 1 _, by simp⟩
  | punctuation hsign => exact opens_sign (hsigns _ hsign)
  | invalid => exact opens_sign rfl

theorem lexeme?_eq_none_iff {c : Char} {rest : List Char} :
    lexeme? c rest = none ↔ isSpace c = true ∨ c = '\n' := by
  rw [lexeme?]
  grind

/-! Tilings -/

-- The tokens of a text whose first character has a column: each is written where
-- the one before it ends or behind a gap, and the last one stands behind the text.
inductive Tiles (line : Nat) : Nat → List Char → List Token → Prop
  | stop (column : Nat) : Tiles line column [] [{ kind := .endOfLine, text := "", line, column }]
  | gap {column : Nat} {c : Char} {rest : List Char} {tokens : List Token}
      (hc : isSpace c = true ∨ c = '\n') (hrest : Tiles line (column + 1) rest tokens) :
      Tiles line column (c :: rest) tokens
  | token {column : Nat} {token : Token} {rest : List Char} {tokens : List Token}
      (hcolumn : token.column = column) (hkind : token.kind ≠ .endOfLine)
      (hwritten : token.written ≠ [])
      (hsingle : token.kind = .invalid → token.text.toList.length = 1)
      (hrest : Tiles line (column + token.written.length) rest tokens) :
      Tiles line column (token.written ++ rest) (token :: tokens)

theorem tokensFrom_skip {line column skip : Nat} {text : List Char} (h : skip ≤ text.length) :
    tokensFrom line column skip text = tokensFrom line (column + skip) 0 (text.drop skip) := by
  induction text generalizing column skip with
  | nil =>
      obtain rfl := Nat.le_zero.mp h
      rfl
  | cons c rest ih =>
      cases skip with
      | zero => rfl
      | succ skip =>
          rw [tokensFrom, ih (Nat.le_of_succ_le_succ h), List.drop_succ_cons, Nat.add_right_comm,
            Nat.add_assoc]

-- The token that a lexeme makes at the front of a text, and the tokens behind it.
theorem tokensFrom_of_lexeme? {line column : Nat} {c : Char} {rest : List Char} {lexeme : Lexeme}
    (h : lexeme? c rest = some lexeme) :
    tokensFrom line column 0 (c :: rest) =
      { kind := lexeme.kind, text := String.ofList lexeme.text, line, column } ::
        tokensFrom line (column + lexeme.length) 0 ((c :: rest).drop lexeme.length) := by
  obtain ⟨⟨behind, htext⟩, hlength, hpositive, -⟩ := opens_of_lexeme? h
  have hle : lexeme.length ≤ rest.length + 1 := by
    have htotal := congrArg List.length htext
    simp only [List.length_cons, List.length_append] at htotal
    omega
  obtain ⟨count, hcount⟩ := Nat.exists_eq_add_of_le' hpositive
  simp only [tokensFrom, h, hcount, Nat.add_sub_cancel, List.drop_succ_cons]
  rw [tokensFrom_skip (by omega), Nat.add_assoc, Nat.add_comm 1]

theorem tokensFrom_of_lexeme?_eq_none {line column : Nat} {c : Char} {rest : List Char}
    (h : lexeme? c rest = none) :
    tokensFrom line column 0 (c :: rest) = tokensFrom line (column + 1) 0 rest := by
  simp only [tokensFrom, h]

theorem tiles_tokensFrom (line column : Nat) (text : List Char) :
    Tiles line column text (tokensFrom line column 0 text) := by
  induction hn : text.length using Nat.strong_induction_on generalizing column text with
  | _ n ih =>
      subst hn
      cases text with
      | nil => exact .stop column
      | cons c rest =>
          cases hl : lexeme? c rest with
          | none =>
              rw [tokensFrom_of_lexeme?_eq_none hl]
              exact .gap (lexeme?_eq_none_iff.mp hl) (ih _ (Nat.lt_succ_self _) _ _ rfl)
          | some lexeme =>
              obtain ⟨⟨behind, htext⟩, hlength, hpositive, hsingle⟩ := opens_of_lexeme? hl
              have hdrop : (c :: rest).drop lexeme.length = behind := by
                rw [htext, ← hlength, List.drop_left]
              rw [tokensFrom_of_lexeme? hl, hdrop]
              let token : Token :=
                { kind := lexeme.kind, text := String.ofList lexeme.text, line, column }
              have hwritten : token.written = lexeme.kind.write lexeme.text := by
                simp only [token, Token.written, String.toList_ofList]
              have hlt : behind.length < (c :: rest).length := by
                rw [htext, List.length_append]
                omega
              have hrest := ih _ hlt (column + lexeme.length) behind rfl
              rw [htext, ← hwritten]
              have hlengthOf : token.written.length = lexeme.length := by rw [hwritten, hlength]
              rw [← hlengthOf] at hrest ⊢
              refine .token rfl (lexeme?_kind hl) ?_ ?_ hrest
              · rw [← List.length_pos_iff, hlengthOf]
                exact hpositive
              · simpa only [token, String.toList_ofList] using hsingle

namespace Tiles

variable {line column : Nat} {text : List Char} {found : List Token}

theorem exists_concat (h : Tiles line column text found) :
    ∃ tokens, (∀ token ∈ tokens, token.kind ≠ .endOfLine) ∧ found =
      tokens ++ [{ kind := .endOfLine, text := "", line, column := column + text.length }] := by
  induction h with
  | stop column => exact ⟨[], nofun, rfl⟩
  | gap hc hrest ih =>
      obtain ⟨tokens, hkind, htokens⟩ := ih
      refine ⟨tokens, hkind, htokens.trans ?_⟩
      rw [List.length_cons, Nat.add_right_comm, Nat.add_assoc]
  | @token column token rest tokens _ hkind _ _ _ ih =>
      obtain ⟨others, hothers, rfl⟩ := ih
      refine ⟨token :: others, List.forall_mem_cons.mpr ⟨hkind, hothers⟩, ?_⟩
      rw [List.length_append, Nat.add_assoc]
      rfl

theorem le_column (h : Tiles line column text found) : ∀ token ∈ found, column ≤ token.column := by
  induction h with
  | stop column => simp
  | gap _ _ ih => exact fun token hm => Nat.le_of_succ_le (ih token hm)
  | token hcolumn _ _ _ _ ih =>
      refine List.forall_mem_cons.mpr ⟨hcolumn.ge, fun token hm => ?_⟩
      exact Nat.le_trans (Nat.le_add_right _ _) (ih token hm)

theorem column_le (h : Tiles line column text found) :
    ∀ token ∈ found, token.column ≤ column + text.length := by
  induction h with
  | stop column => simp
  | gap _ _ ih =>
      intro token hm
      have hle := ih token hm
      rw [List.length_cons]
      omega
  | token hcolumn _ _ _ _ ih =>
      rw [List.length_append]
      refine List.forall_mem_cons.mpr ⟨by omega, fun token hm => ?_⟩
      have hle := ih token hm
      omega

theorem disjoint (h : Tiles line column text found) :
    found.Pairwise fun a b => a.column + a.written.length ≤ b.column := by
  induction h with
  | stop column => exact List.pairwise_singleton _ _
  | gap _ _ ih => exact ih
  | token hcolumn _ _ _ hrest ih =>
      refine List.pairwise_cons.mpr ⟨fun token hm => ?_, ih⟩
      rw [hcolumn]
      exact hrest.le_column token hm

theorem ordered (h : Tiles line column text found) :
    found.Pairwise fun a b => a.column < b.column := by
  induction h with
  | stop column => exact List.pairwise_singleton _ _
  | gap _ _ ih => exact ih
  | token hcolumn _ hwritten _ hrest ih =>
      refine List.pairwise_cons.mpr ⟨fun token hm => ?_, ih⟩
      have hle := hrest.le_column token hm
      have hpos := List.length_pos_iff.mpr hwritten
      omega

-- Each token is written in the text from its column on.
theorem slice (h : Tiles line column text found) :
    ∀ token ∈ found, token.written <+: text.drop (token.column - column) := by
  induction h with
  | stop column =>
      intro token hm
      obtain rfl := List.mem_singleton.mp hm
      exact List.nil_prefix
  | @gap column c rest tokens _ hrest ih =>
      intro token hm
      have hle := hrest.le_column token hm
      have hindex : token.column - column = (token.column - (column + 1)) + 1 := by omega
      rw [hindex, List.drop_succ_cons]
      exact ih token hm
  | @token column first rest tokens hcolumn _ _ _ hrest ih =>
      refine List.forall_mem_cons.mpr ⟨?_, fun token hm => ?_⟩
      · rw [hcolumn, Nat.sub_self, List.drop_zero]
        exact List.prefix_append _ _
      · have hle := hrest.le_column token hm
        have hindex : token.column - column =
            first.written.length + (token.column - (column + first.written.length)) := by omega
        rw [hindex, List.drop_length_add_append]
        exact ih token hm

-- What no token takes is a gap.
theorem covered (h : Tiles line column text found) (index : Nat) :
    ∀ c ∈ text[index]?, (isSpace c = true ∨ c = '\n') ∨
      ∃ token ∈ found, token.column ≤ column + index ∧
        column + index < token.column + token.written.length := by
  induction h generalizing index with
  | stop column => nofun
  | @gap column c rest tokens hc _ ih =>
      intro d hd
      cases index with
      | zero =>
          obtain rfl := Option.some.inj hd
          exact .inl hc
      | succ index =>
          have hcovered := ih index d hd
          rwa [Nat.add_right_comm, Nat.add_assoc] at hcovered
  | @token column first rest tokens hcolumn _ _ _ _ ih =>
      intro d hd
      by_cases hfirst : index < first.written.length
      · exact .inr ⟨first, List.mem_cons_self, by omega, by omega⟩
      · obtain ⟨offset, rfl⟩ := Nat.exists_eq_add_of_le (Nat.not_lt.mp hfirst)
        rw [List.getElem?_append_right (Nat.le_add_right _ _), Nat.add_sub_cancel_left] at hd
        refine (ih offset d hd).imp id ?_
        rintro ⟨token, hm, hle, hlt⟩
        exact ⟨token, List.mem_cons_of_mem _ hm, by omega, by omega⟩

theorem single (h : Tiles line column text found) :
    ∀ token ∈ found, token.kind = .invalid → token.text.toList.length = 1 := by
  induction h with
  | stop column => simp
  | gap _ _ ih => exact ih
  | token _ _ _ hsingle _ ih => exact List.forall_mem_cons.mpr ⟨hsingle, ih⟩

end Tiles

-- Tokens that a text falls into, with nothing between them but spaces and tabs.
structure AreSlices (text : List Char) (tokens : List Token) : Prop where
  increasing : tokens.Pairwise fun a b => a.column < b.column
  positive : ∀ token ∈ tokens, 1 ≤ token.column
  written : ∀ token ∈ tokens,
    (text.drop (token.column - 1)).take token.written.length = token.written
  apart : tokens.Pairwise fun a b => ∀ index, a.Covers index → ¬b.Covers index
  blank : ∀ index, ∀ c ∈ text[index]?,
    (∀ token ∈ tokens, ¬token.Covers index) → c = ' ' ∨ c = '\t'
  single : ∀ token ∈ tokens, token.kind = .invalid → token.text.toList.length = 1

-- A line without line feeds falls into its tokens, which it holds as they are written.
-- The end is marked behind the last character.
theorem tokenize_eq_slices (text : List Char) (line : Nat) (hfeed : '\n' ∉ text) :
    ∃ tokens, tokenize text line = tokens ++
        [{ kind := .endOfLine, text := "", line, column := text.length + 1 }] ∧
      (∀ token ∈ tokens, token.kind ≠ .endOfLine) ∧ AreSlices text tokens := by
  have htiles := tiles_tokensFrom line 1 text
  obtain ⟨tokens, hkind, htokens⟩ := htiles.exists_concat
  have hmem : ∀ token ∈ tokens, token ∈ tokensFrom line 1 0 text := fun token hm => by
    rw [htokens]
    exact List.mem_append_left _ hm
  have hfront : tokens.Sublist (tokensFrom line 1 0 text) := by
    rw [htokens]
    exact List.sublist_append_left _ _
  refine ⟨tokens, by rw [tokenize, htokens, Nat.add_comm], hkind, ?_⟩
  constructor
  case increasing => exact htiles.ordered.sublist hfront
  case positive => exact fun token hm => htiles.le_column token (hmem token hm)
  case written =>
    exact fun token hm => (List.prefix_iff_eq_take.mp (htiles.slice token (hmem token hm))).symm
  case apart =>
    refine (htiles.disjoint.sublist hfront).imp fun hle index ha hb => ?_
    exact absurd (Nat.lt_of_lt_of_le ha.2 (hle.trans hb.1)) (Nat.lt_irrefl _)
  case blank =>
    intro index c hc hfree
    rcases htiles.covered index c hc with (hspace | rfl) | ⟨token, hm, hle, hlt⟩
    · simpa only [isSpace, Bool.or_eq_true, beq_iff_eq] using hspace
    · exact absurd (List.mem_of_getElem? hc) hfeed
    · rw [htokens] at hm
      rcases List.mem_append.mp hm with hm | hm
      · rw [Nat.add_comm] at hle hlt
        exact absurd ⟨hle, hlt⟩ (hfree token hm)
      · -- The mark of the end takes no character.
        obtain rfl := List.mem_singleton.mp hm
        exact absurd (Nat.lt_of_le_of_lt hle hlt) (by simp [Token.written, TokenKind.write])
  case single => exact fun token hm => htiles.single token (hmem token hm)

-- Escapes, a quote that is not closed, and signs without a name.
def unclosedLine : List Char :=
  "\tname:is(\"a\\\"b\\\\\")@Optional$c.d*\"\\@1".toList

def unclosedTokens : List Token := [
  ⟨.word, "name", 3, 2⟩, ⟨.colon, ":", 3, 6⟩, ⟨.word, "is", 3, 7⟩, ⟨.opening, "(", 3, 9⟩,
  ⟨.text, "a\"b\\\\", 3, 10⟩, ⟨.closing, ")", 3, 18⟩, ⟨.directive, "Optional", 3, 19⟩,
  ⟨.column, "c.d", 3, 28⟩, ⟨.word, "*", 3, 32⟩, ⟨.invalid, "\"", 3, 33⟩, ⟨.invalid, "\\", 3, 34⟩,
  ⟨.invalid, "@", 3, 35⟩, ⟨.word, "1", 3, 36⟩]

theorem tokenize_eq_slices_of_unclosedLine :
    '\n' ∉ unclosedLine ∧ tokenize unclosedLine 3 = unclosedTokens ++ [⟨.endOfLine, "", 3, 37⟩] ∧
      AreSlices unclosedLine unclosedTokens := by
  have hfeed : '\n' ∉ unclosedLine := by decide
  have htokens : tokenize unclosedLine 3 = unclosedTokens ++ [⟨.endOfLine, "", 3, 37⟩] := by
    decide +kernel
  obtain ⟨tokens, hsplit, -, hslices⟩ := tokenize_eq_slices unclosedLine 3 hfeed
  obtain ⟨rfl, -⟩ := List.append_inj' (htokens.symm.trans hsplit) rfl
  exact ⟨hfeed, htokens, hslices⟩

end TableSchema.Schema
