import Mathlib
import TableSchema.Proofs.Schema.Agreement
import TableSchema.Proofs.Schema.Lexing
import TableSchema.Proofs.Schema.Tiling

namespace TableSchema.Schema

open TableSchema.Text

/-! Lexemes in front of other texts -/

theorem takeWhile_append_congr {p : Char → Bool} {front back back' : List Char}
    (hp : ∀ c, p c = true → isWordChar c = true)
    (hle : ((front ++ back).takeWhile p).length ≤ front.length) (hback : Separates back') :
    (front ++ back').takeWhile p = (front ++ back).takeWhile p := by
  have hnil : back'.takeWhile p = [] :=
    takeWhile_append_of_separates hp (List.forall_mem_nil _) hback
  by_cases hall : (front.takeWhile p).length = front.length
  · -- All of the front belongs to the name, and nothing behind it does.
    rw [List.takeWhile_append, if_pos hall, List.length_append] at hle
    have hnil' : back.takeWhile p = [] := List.eq_nil_of_length_eq_zero (by omega)
    rw [List.takeWhile_append, List.takeWhile_append, if_pos hall, if_pos hall, hnil, hnil']
  · rw [List.takeWhile_append, List.takeWhile_append, if_neg hall, if_neg hall]

theorem quotedBody?_append_congr {front back body : List Char}
    (h : quotedBody? (front ++ back) = some body) (hlt : body.length < front.length)
    (back' : List Char) : quotedBody? (front ++ back') = some body := by
  obtain ⟨rest, hrest⟩ := exists_rest_of_quotedBody? h
  have hbody : body ++ ['"'] <+: front ++ back := ⟨rest, by simp [hrest]⟩
  obtain ⟨inner, rfl⟩ : body ++ ['"'] <+: front :=
    List.prefix_of_prefix_length_le hbody (List.prefix_append front back) (by simpa using hlt)
  rw [List.append_assoc, List.append_assoc]
  exact (isBody_of_quotedBody? h).1.quotedBody?_append _

-- A lexeme that ends within a text does not depend on what stands behind the text.
theorem lexeme?_append_congr {c : Char} {front back back' : List Char} {lexeme : Lexeme}
    (h : lexeme? c (front ++ back) = some lexeme) (hkind : lexeme.kind ≠ .invalid)
    (hle : lexeme.length ≤ front.length + 1) (hback : Separates back') :
    lexeme? c (front ++ back') = some lexeme := by
  refine Lexes.lexeme?_eq ?_ hkind
  cases lexes_of_lexeme? h with
  | text hbody => exact .text (quotedBody?_append_congr hbody (by simpa using hle) back')
  | directive hletter =>
      have htake := takeWhile_append_congr
        (fun c hc => isWordChar_of_isColumnChar (isColumnChar_of_isDirectiveChar hc))
        (Nat.le_of_succ_le_succ hle) hback
      -- The letter behind the sign is a part of the front.
      have hhead : (front ++ back').head? = (front ++ back).head? := by
        cases front with
        | cons d front => rfl
        | nil =>
            cases back with
            | nil => cases hletter
            | cons d back =>
                have hd : isDirectiveChar d = true := by
                  simp only [isDirectiveChar, Bool.or_eq_true]
                  exact .inl (.inl hletter)
                simp [hd] at hle
      rw [← htake]
      exact .directive (hhead ▸ hletter)
  | column hname =>
      have htake := takeWhile_append_congr (fun _ => isWordChar_of_isColumnChar)
        (Nat.le_of_succ_le_succ hle) hback
      rw [← htake] at hname ⊢
      exact .column hname
  | word hc =>
      have htake := takeWhile_append_congr (fun _ hc => hc) (Nat.le_of_succ_le_succ hle) hback
      rw [← htake]
      exact .word hc
  | punctuation hsign => exact .punctuation hsign
  | invalid => exact absurd rfl hkind

/-! Seams -/

-- No token stands on both sides of a column.
def Parts (column : Nat) (tokens : List Token) : Prop :=
  ∀ token ∈ tokens, token.column + token.written.length ≤ column ∨ column ≤ token.column

-- Two parts of a line between which no token is cut.
def IsSeam (front back : List Char) : Prop :=
  Parts (front.length + 1) (tokenize (front ++ back) 1)

instance (front back : List Char) : Decidable (IsSeam front back) :=
  inferInstanceAs (Decidable (∀ token ∈ tokenize (front ++ back) 1, _ ∨ _))

def AllValid (tokens : List Token) : Prop :=
  ∀ token ∈ tokens, token.kind ≠ .invalid

-- A lexeme that ends within the front is the first token, with either of them behind it.
theorem tokensFrom_append_of_lexeme? {line column : Nat} {c : Char} {rest back back' : List Char}
    {lexeme : Lexeme} (h : lexeme? c (rest ++ back) = some lexeme)
    (hkind : lexeme.kind ≠ .invalid) (hle : lexeme.length ≤ rest.length + 1)
    (hback : back' = back ∨ Separates back') :
    tokensFrom line column 0 (c :: (rest ++ back')) =
      { kind := lexeme.kind, text := String.ofList lexeme.text, line, column } ::
        tokensFrom line (column + lexeme.length) 0 ((c :: rest).drop lexeme.length ++ back') := by
  have hl : lexeme? c (rest ++ back') = some lexeme := by
    rcases hback with rfl | hback
    · exact h
    · exact lexeme?_append_congr h hkind hle hback
  rw [tokensFrom_of_lexeme? hl, ← List.cons_append,
    List.drop_append_of_le_length (by simpa using hle)]

-- The tokens in front of a seam stay as they are when the text behind it is replaced
-- by another one that begins no word.
theorem tokensFrom_append {line column : Nat} {front back : List Char}
    (hvalid : AllValid (tokensFrom line column 0 (front ++ back)))
    (hseam : Parts (column + front.length) (tokensFrom line column 0 (front ++ back))) :
    ∃ tokens : List Token, (∀ token ∈ tokens, token.column < column + front.length) ∧
      ∀ back', back' = back ∨ Separates back' →
        tokensFrom line column 0 (front ++ back') =
          tokens ++ tokensFrom line (column + front.length) 0 back' := by
  induction hn : front.length using Nat.strong_induction_on generalizing column front with
  | _ n ih =>
      subst hn
      cases front with
      | nil => exact ⟨[], nofun, fun _ _ => rfl⟩
      | cons c rest =>
          rw [List.cons_append] at hvalid hseam
          cases hl : lexeme? c (rest ++ back) with
          | none =>
              rw [tokensFrom_of_lexeme?_eq_none hl] at hvalid hseam
              rw [List.length_cons, Nat.add_comm rest.length, ← Nat.add_assoc] at hseam ⊢
              obtain ⟨tokens, hcolumn, htokens⟩ := ih _ (Nat.lt_succ_self _) hvalid hseam rfl
              refine ⟨tokens, hcolumn, fun back' hback => ?_⟩
              have hl' : lexeme? c (rest ++ back') = none :=
                lexeme?_eq_none_iff.mpr (lexeme?_eq_none_iff.mp hl)
              rw [List.cons_append, tokensFrom_of_lexeme?_eq_none hl', htokens back' hback]
          | some lexeme =>
              obtain ⟨-, hlength, hpositive, -⟩ := opens_of_lexeme? hl
              have hkind : lexeme.kind ≠ .invalid := by
                rw [tokensFrom_of_lexeme? hl] at hvalid
                exact hvalid _ List.mem_cons_self
              have hle : lexeme.length ≤ rest.length + 1 := by
                rw [tokensFrom_of_lexeme? hl] at hseam
                have hfirst := hseam _ List.mem_cons_self
                simp only [Token.written, String.toList_ofList, hlength, List.length_cons] at hfirst
                omega
              rw [tokensFrom_append_of_lexeme? hl hkind hle (.inl rfl)] at hvalid hseam
              have hend : column + (c :: rest).length =
                  column + lexeme.length + ((c :: rest).drop lexeme.length).length := by
                rw [List.length_drop, List.length_cons]
                omega
              rw [hend] at hseam ⊢
              have hlt : ((c :: rest).drop lexeme.length).length < (c :: rest).length := by
                rw [List.length_drop, List.length_cons]
                omega
              obtain ⟨tokens, hcolumn, htokens⟩ := ih _ hlt
                (List.forall_mem_cons.mp hvalid).2 (List.forall_mem_cons.mp hseam).2 rfl
              let first : Token :=
                { kind := lexeme.kind, text := String.ofList lexeme.text, line, column }
              have hlead : first.column <
                  column + lexeme.length + ((c :: rest).drop lexeme.length).length :=
                Nat.lt_add_right _ (Nat.lt_add_of_pos_right hpositive)
              refine ⟨first :: tokens, List.forall_mem_cons.mpr ⟨hlead, hcolumn⟩, ?_⟩
              intro back' hback
              rw [List.cons_append, tokensFrom_append_of_lexeme? hl hkind hle hback,
                htokens back' hback, List.cons_append]

theorem exists_terminals_of_isSeam {front back : List Char} (hseam : IsSeam front back)
    (hvalid : AllValid (tokenize (front ++ back) 1)) :
    ∃ terminals, ∀ back', back' = back ∨ Separates back' →
      lineTerminals (front ++ back') = terminals ++ lineTerminals back' := by
  rw [IsSeam, Nat.add_comm] at hseam
  obtain ⟨tokens, -, htokens⟩ := tokensFrom_append hvalid hseam
  refine ⟨tokens.map Token.terminal, fun back' hback => ?_⟩
  rw [lineTerminals, tokenize, htokens back' hback, List.map_append, map_terminal_tokensFrom]
  rfl

/-! Gaps -/

structure IsGap (gap : List Char) : Prop where
  nonempty : gap ≠ []
  space : ∀ c ∈ gap, isSpace c = true

instance (gap : List Char) : Decidable (IsGap gap) :=
  decidable_of_iff (gap ≠ [] ∧ gap.all isSpace = true)
    ⟨fun h => ⟨h.1, List.all_eq_true.mp h.2⟩, fun h => ⟨h.1, List.all_eq_true.mpr h.2⟩⟩

theorem isSpace_iff {c : Char} : isSpace c = true ↔ c = ' ' ∨ c = '\t' := by
  simp only [isSpace, Bool.or_eq_true, beq_iff_eq]

namespace IsGap

variable {gap : List Char}

theorem separates (h : IsGap gap) (back : List Char) : Separates (gap ++ back) := by
  obtain ⟨c, gap, rfl⟩ := List.exists_cons_of_ne_nil h.nonempty
  intro d hd
  obtain rfl := Option.some.inj hd
  rcases isSpace_iff.mp (h.space c List.mem_cons_self) with rfl | rfl <;> decide

theorem lineTerminals_append (h : IsGap gap) (back : List Char) :
    lineTerminals (gap ++ back) = lineTerminals back := by
  have hspace := h.space
  clear h
  induction gap with
  | nil => rfl
  | cons c gap ih =>
      obtain ⟨hc, hgap⟩ := List.forall_mem_cons.mp hspace
      rw [List.cons_append, lineTerminals_cons_of_none (lexeme?_eq_none_iff.mpr (.inl hc)), ih hgap]

theorem isBlankLine (h : IsGap gap) : isBlankLine gap = true := by
  refine List.all_eq_true.mpr fun c hc => ?_
  rcases isSpace_iff.mp (h.space c hc) with rfl | rfl <;> decide +kernel

end IsGap

/-! Names of directives -/

theorem toNat_asciiLower (c : Char) : (asciiLower c).toNat = asciiLowerCode c.toNat := by
  rw [asciiLower, asciiLowerCode]
  split
  · rw [Char.toNat_ofNat, if_pos (.inl (by omega))]
  · rw [Char.ofNat_toNat]

-- Characters with the same lower case form are of the same kind.
theorem isAsciiLetter_congr {c d : Char} (h : asciiLower c = asciiLower d) :
    isAsciiLetter c = isAsciiLetter d := by
  have hcode : asciiLowerCode c.toNat = asciiLowerCode d.toNat := by
    rw [← toNat_asciiLower, ← toNat_asciiLower, h]
  rw [Bool.eq_iff_iff, isAsciiLetter_iff, isAsciiLetter_iff]
  simp only [asciiLowerCode] at hcode
  split at hcode <;> split at hcode <;> omega

theorem isDirectiveChar_congr {c d : Char} (h : asciiLower c = asciiLower d) :
    isDirectiveChar c = isDirectiveChar d := by
  by_cases hletter : isAsciiLetter c = true
  · simp only [isDirectiveChar, isAsciiLetter_congr h ▸ hletter, hletter, Bool.true_or]
  · have hletter' : isAsciiLetter d ≠ true := isAsciiLetter_congr h ▸ hletter
    -- Only letters have a case.
    have hsame : ∀ e : Char, isAsciiLetter e ≠ true → asciiLower e = e := by
      intro e he
      rw [Ne, isAsciiLetter_iff] at he
      rw [asciiLower, asciiLowerCode, if_neg (by omega), Char.ofNat_toNat]
    rw [hsame c hletter, hsame d hletter'] at h
    rw [h]

theorem Lexes.of_directive {c : Char} {rest : List Char} {lexeme : Lexeme}
    (h : Lexes rest c lexeme) (hkind : lexeme.kind = .directive) :
    (rest.head?.map isAsciiLetter).getD false = true ∧
      lexeme.text = rest.takeWhile isDirectiveChar := by
  have hsigns : ∀ entry ∈ signs, entry.1 ≠ .directive := by decide
  cases h with
  | directive hletter => exact ⟨hletter, rfl⟩
  | punctuation hsign => exact absurd hkind (hsigns _ hsign)
  | text | column | word | invalid => cases hkind

-- The name of a directive, up to what stands behind it.
structure IsNamed (name back : List Char) : Prop where
  letter : ((name ++ back).head?.map isAsciiLetter).getD false = true
  take : (name ++ back).takeWhile isDirectiveChar = name

theorem IsNamed.lexeme?_eq {name back : List Char} (h : IsNamed name back) :
    lexeme? '@' (name ++ back) =
      some { kind := .directive, length := name.length + 1, text := name } := by
  have hlexes : Lexes (name ++ back) '@' _ := .directive h.letter
  rw [hlexes.lexeme?_eq (by simp), h.take]

theorem IsNamed.lineTerminals_eq {name back : List Char} (h : IsNamed name back) :
    lineTerminals ('@' :: (name ++ back)) =
      ⟨.directive, String.ofList name⟩ :: lineTerminals back := by
  rw [lineTerminals_cons_of_some h.lexeme?_eq, Nat.add_sub_cancel, List.drop_left]

theorem takeWhile_recase {name name' back : List Char}
    (h : List.Forall₂ (fun c d => asciiLower c = asciiLower d) name name')
    (htake : (name ++ back).takeWhile isDirectiveChar = name) :
    (name' ++ back).takeWhile isDirectiveChar = name' := by
  induction h with
  | nil => exact htake
  | @cons c d name name' hcd _ ih =>
      have hc : isDirectiveChar c = true := by
        by_contra hc
        simp [hc] at htake
      have hd : isDirectiveChar d = true := isDirectiveChar_congr hcd ▸ hc
      rw [List.cons_append, List.takeWhile_cons_of_pos hc] at htake
      rw [List.cons_append, List.takeWhile_cons_of_pos hd, ih (List.cons.inj htake).2]

-- A name in another letter case ends at the same place.
theorem IsNamed.recase {name name' back : List Char} (h : IsNamed name back)
    (hname : name.map asciiLower = name'.map asciiLower) : IsNamed name' back := by
  have hsame : List.Forall₂ (fun c d => asciiLower c = asciiLower d) name name' := by
    rwa [← List.forall₂_eq_eq_eq, List.forall₂_map_left_iff, List.forall₂_map_right_iff] at hname
  refine ⟨?_, takeWhile_recase hsame h.take⟩
  obtain ⟨hletter, htake⟩ := h
  cases hsame with
  | nil => exact hletter
  | cons hcd _ =>
      simp only [List.cons_append, List.head?_cons, Option.map_some, Option.getD_some] at hletter ⊢
      exact isAsciiLetter_congr hcd ▸ hletter

theorem parts_of_mem {tokens : List Token} {token : Token}
    (hdisjoint : tokens.Pairwise fun a b => a.column + a.written.length ≤ b.column)
    (hm : token ∈ tokens) : Parts token.column tokens := by
  obtain ⟨before, after, rfl⟩ := List.append_of_mem hm
  obtain ⟨-, hafter, hbefore⟩ := List.pairwise_append.mp hdisjoint
  intro other ho
  rcases List.mem_append.mp ho with ho | ho
  · exact .inl (hbefore other ho token List.mem_cons_self)
  · rcases List.mem_cons.mp ho with rfl | ho
    · exact .inr (Nat.le_refl _)
    · exact .inr (Nat.le_of_add_right_le ((List.pairwise_cons.mp hafter).1 other ho))

-- Where a directive stands, no token is cut, and its name is what its token says.
theorem isNamed_of_mem {front name back : List Char}
    (hvalid : AllValid (tokenize (front ++ '@' :: (name ++ back)) 1))
    (htoken : ⟨.directive, String.ofList name, 1, front.length + 1⟩ ∈
      tokenize (front ++ '@' :: (name ++ back)) 1) :
    IsSeam front ('@' :: (name ++ back)) ∧ IsNamed name back := by
  have hseam : IsSeam front ('@' :: (name ++ back)) :=
    parts_of_mem (tiles_tokensFrom 1 1 _).disjoint htoken
  refine ⟨hseam, ?_⟩
  have hparts := hseam
  rw [IsSeam, Nat.add_comm] at hparts
  obtain ⟨tokens, hcolumn, htokens⟩ := tokensFrom_append hvalid hparts
  rw [tokenize, htokens _ (.inl rfl), Nat.add_comm] at htoken
  rcases List.mem_append.mp htoken with hfront | htoken
  · exact absurd (hcolumn _ hfront) (by rw [Nat.add_comm]; exact Nat.lt_irrefl _)
  · -- Only the token of the sign itself begins there.
    obtain ⟨lexeme, hlexeme⟩ : ∃ lexeme, lexeme? '@' (name ++ back) = some lexeme := by
      rw [← Option.ne_none_iff_exists', Ne, lexeme?_eq_none_iff]
      decide
    rw [tokensFrom_of_lexeme? hlexeme] at htoken
    rcases List.mem_cons.mp htoken with heq | hrest
    · obtain ⟨hkind, htext, -, -⟩ := Token.mk.inj heq
      obtain ⟨hletter, htake⟩ := (lexes_of_lexeme? hlexeme).of_directive hkind.symm
      exact ⟨hletter, htake.symm.trans (String.ofList_inj.mp htext).symm⟩
    · have hle := (tiles_tokensFrom _ _ _).le_column _ hrest
      have hpositive := (opens_of_lexeme? hlexeme).positive
      dsimp only at hle
      omega

/-! Edits -/

-- What can be done to a line: spaces and tabs put in where no token is cut, or put in
-- place of others, and the name of a directive written in another letter case.
inductive LineEdit : List Char → List Char → Prop
  | insert {front gap back : List Char} (hgap : IsGap gap) (hseam : IsSeam front back) :
      LineEdit (front ++ back) (front ++ (gap ++ back))
  | replace {front gap gap' back : List Char} (hgap : IsGap gap) (hgap' : IsGap gap')
      (hseam : IsSeam front (gap ++ back)) :
      LineEdit (front ++ (gap ++ back)) (front ++ (gap' ++ back))
  | recase {front name name' back : List Char}
      (htoken : ⟨.directive, String.ofList name, 1, front.length + 1⟩ ∈
        tokenize (front ++ '@' :: (name ++ back)) 1)
      (hname : name.map asciiLower = name'.map asciiLower) :
      LineEdit (front ++ '@' :: (name ++ back)) (front ++ '@' :: (name' ++ back))

-- What can be done to the lines of a text.
inductive Edit : List (List Char) → List (List Char) → Prop
  | line {before after : List (List Char)} {old new : List Char} (hold : isBlankLine old = false)
      (h : LineEdit old new) : Edit (before ++ old :: after) (before ++ new :: after)
  | insert {before after : List (List Char)} {blank : List Char}
      (hblank : isBlankLine blank = true) : Edit (before ++ after) (before ++ blank :: after)
  | delete {before after : List (List Char)} {blank : List Char}
      (hblank : isBlankLine blank = true) : Edit (before ++ blank :: after) (before ++ after)

/-! What an edit keeps -/

def foldedTerminals (line : List Char) : List Terminal :=
  (lineTerminals line).map Terminal.folded

-- The terminals of the lines that are not blank, with names of directives in lower case.
def foldedLines (lines : List (List Char)) : List (List Terminal) :=
  (lines.filter fun line => !isBlankLine line).map foldedTerminals

theorem isBlankLine_append (front back : List Char) :
    isBlankLine (front ++ back) = (isBlankLine front && isBlankLine back) :=
  List.all_append

namespace LineEdit

variable {old new : List Char}

theorem isBlankLine_eq (h : LineEdit old new) : isBlankLine new = isBlankLine old := by
  cases h with
  | insert hgap _ => simp only [isBlankLine_append, hgap.isBlankLine, Bool.true_and]
  | replace hgap hgap' _ => simp only [isBlankLine_append, hgap.isBlankLine, hgap'.isBlankLine]
  | recase _ _ =>
      have hat : ∀ rest : List Char, isBlankLine ('@' :: rest) = false := fun rest => by
        rw [isBlankLine, List.all_cons, isBlank_eq_false (by decide) (by decide), Bool.false_and]
      simp only [isBlankLine_append, hat]

theorem foldedTerminals_eq (h : LineEdit old new) (hvalid : AllValid (tokenize old 1)) :
    foldedTerminals new = foldedTerminals old := by
  cases h with
  | @insert front gap back hgap hseam =>
      obtain ⟨terminals, hterminals⟩ := exists_terminals_of_isSeam hseam hvalid
      rw [foldedTerminals, foldedTerminals, hterminals _ (.inr (hgap.separates back)),
        hterminals _ (.inl rfl), hgap.lineTerminals_append]
  | @replace front gap gap' back hgap hgap' hseam =>
      obtain ⟨terminals, hterminals⟩ := exists_terminals_of_isSeam hseam hvalid
      rw [foldedTerminals, foldedTerminals, hterminals _ (.inr (hgap'.separates back)),
        hterminals _ (.inl rfl), hgap.lineTerminals_append, hgap'.lineTerminals_append]
  | @recase front name name' back htoken hname =>
      obtain ⟨hseam, hnamed⟩ := isNamed_of_mem hvalid htoken
      obtain ⟨terminals, hterminals⟩ := exists_terminals_of_isSeam hseam hvalid
      have hat : Separates ('@' :: (name' ++ back)) := by
        intro c hc
        obtain rfl := Option.some.inj hc
        decide
      have hfolded : Terminal.folded ⟨.directive, String.ofList name'⟩ =
          Terminal.folded ⟨.directive, String.ofList name⟩ := by
        simp only [Terminal.folded_of_directive, directiveKey, String.toList_ofList, hname]
      rw [foldedTerminals, foldedTerminals, hterminals _ (.inr hat), hterminals _ (.inl rfl),
        hnamed.lineTerminals_eq, (hnamed.recase hname).lineTerminals_eq, List.map_append,
        List.map_append, List.map_cons, List.map_cons, hfolded]

end LineEdit

-- Lines without characters that begin no token.
def LinesValid (lines : List (List Char)) : Prop :=
  ∀ line ∈ foldedLines lines, ∀ terminal ∈ line, terminal.kind ≠ .invalid

theorem LinesValid.tokenize {lines : List (List Char)} (h : LinesValid lines) {line : List Char}
    (hm : line ∈ lines) (hblank : isBlankLine line = false) : AllValid (tokenize line 1) := by
  intro token ht
  have hline : foldedTerminals line ∈ foldedLines lines :=
    List.mem_map_of_mem (List.mem_filter.mpr ⟨hm, by simp [hblank]⟩)
  have hterminal : token.terminal.folded ∈ foldedTerminals line :=
    List.mem_map_of_mem (List.mem_map_of_mem ht)
  have hkind := h _ hline _ hterminal
  rwa [Terminal.kind_folded] at hkind

theorem foldedLines_append (before after : List (List Char)) :
    foldedLines (before ++ after) = foldedLines before ++ foldedLines after := by
  rw [foldedLines, List.filter_append, List.map_append]
  rfl

theorem foldedLines_cons_of_blank {line : List Char} (h : isBlankLine line = true)
    (lines : List (List Char)) : foldedLines (line :: lines) = foldedLines lines := by
  rw [foldedLines, List.filter_cons_of_neg (by simp [h])]
  rfl

theorem foldedLines_cons {line : List Char} (h : isBlankLine line = false)
    (lines : List (List Char)) :
    foldedLines (line :: lines) = foldedTerminals line :: foldedLines lines := by
  rw [foldedLines, List.filter_cons_of_pos (by simp [h])]
  rfl

theorem Edit.foldedLines_eq {lines lines' : List (List Char)} (h : Edit lines lines')
    (hvalid : LinesValid lines) : foldedLines lines' = foldedLines lines := by
  cases h with
  | @line before after old new hold hedit =>
      have hnew : isBlankLine new = false := hedit.isBlankLine_eq.trans hold
      have htokens := hvalid.tokenize (by simp) hold
      rw [foldedLines_append, foldedLines_append, foldedLines_cons hold, foldedLines_cons hnew,
        hedit.foldedTerminals_eq htokens]
  | insert hblank => rw [foldedLines_append, foldedLines_append, foldedLines_cons_of_blank hblank]
  | delete hblank => rw [foldedLines_append, foldedLines_append, foldedLines_cons_of_blank hblank]

theorem foldedLines_eq_of_edits {lines lines' : List (List Char)}
    (h : Relation.ReflTransGen Edit lines lines') (hvalid : LinesValid lines) :
    foldedLines lines' = foldedLines lines := by
  induction h with
  | refl => rfl
  | @tail middle last _ hedit ih =>
      have hmiddle : LinesValid middle := by
        rw [LinesValid, ih]
        exact hvalid
      rw [hedit.foldedLines_eq hmiddle, ih]

/-! Texts -/

-- The lines of a text, without a byte order mark in front.
def textLines (text : String) : List (List Char) :=
  splitLines (dropByteOrderMark text.toList)

theorem foldedLines_textLines (text : String) :
    foldedLines (textLines text) =
      (linesOf text.toList).map fun line => line.tokens.map fun token => token.terminal.folded := by
  have hterminals := congrArg (List.map (List.map Terminal.folded)) (terminals_eq text)
  rw [terminals, List.map_map, List.map_map] at hterminals
  rw [foldedLines, textLines]
  refine Eq.trans hterminals.symm (List.map_congr_left fun line _ => ?_)
  exact List.map_map

theorem linesAlike_of_foldedLines_eq {text other : String}
    (h : foldedLines (textLines text) = foldedLines (textLines other)) :
    List.Forall₂ Line.Alike (linesOf text.toList) (linesOf other.toList) := by
  rw [foldedLines_textLines, foldedLines_textLines, ← List.forall₂_eq_eq_eq,
    List.forall₂_map_left_iff, List.forall₂_map_right_iff] at h
  refine h.imp fun line line' hline => ?_
  rwa [← List.forall₂_eq_eq_eq, List.forall₂_map_left_iff, List.forall₂_map_right_iff] at hline

theorem linesOf_cons_byteOrderMark {text : List Char} (h : text.head? ≠ some byteOrderMark) :
    linesOf (byteOrderMark :: text) = linesOf text := by
  have hdrop : dropByteOrderMark text = text := by
    cases text with
    | nil => rfl
    | cons c text =>
        have hc : c ≠ byteOrderMark := fun hc => h (congrArg some hc)
        rw [dropByteOrderMark, if_neg (by simpa using hc)]
  rw [linesOf, linesOf, hdrop]
  rfl

-- Layout carries no meaning: a text without invalid characters and its edits are the
-- same schema, or neither is one.
theorem parse_of_edits {text other : String}
    (hvalid : ∀ line ∈ linesOf text.toList, AllValid line.tokens)
    (hfault : ∀ fault, (parse text).result = .error fault → fault.isDiagnosed = true)
    (hedits : Relation.ReflTransGen Edit (textLines text) (textLines other)) :
    ((∃ schema, (parse text).result = .ok schema ∧ (parse other).result = .ok schema) ∨
      ∃ fault fault', (parse text).result = .error fault ∧ (parse other).result = .error fault' ∧
        fault.isDiagnosed = true ∧ fault'.isDiagnosed = true) ∧
    ∀ bare ∈ [text, other], bare.toList.head? ≠ some byteOrderMark →
      parse (String.ofList (byteOrderMark :: bare.toList)) = parse bare := by
  have hlines : LinesValid (textLines text) := by
    intro terminals hterminals terminal hm
    rw [foldedLines_textLines] at hterminals
    obtain ⟨line, hline, rfl⟩ := List.mem_map.mp hterminals
    obtain ⟨token, ht, rfl⟩ := List.mem_map.mp hm
    rw [Terminal.kind_folded]
    exact hvalid line hline token ht
  have hagree : Parse.Agree Eq (parse text) (parse other) :=
    schemaOf_agree (linesAlike_of_foldedLines_eq (foldedLines_eq_of_edits hedits hlines).symm)
  constructor
  · cases hagree with
    | @ok schema schema' hfirst hsecond h => exact .inl ⟨schema, hfirst, h ▸ hsecond⟩
    | @diagnosed fault fault' hfirst hsecond hf hf' =>
        exact .inr ⟨fault, fault', hfirst, hsecond, hf, hf'⟩
    | @fault fault hfirst hsecond =>
        have hf := hfault fault hfirst
        exact .inr ⟨fault, fault, hfirst, hsecond, hf, hf⟩
  · intro bare _ hhead
    rw [parse, String.toList_ofList, linesOf_cons_byteOrderMark hhead]
    rfl

def plainText : String :=
  "\n@TotalColumns 1\na:is(\"b\")@Optional"

def spacedText : String :=
  "\uFEFF@TOTALCOLUMNS \t1\n\t\na :is(\"b\")@Optional"

theorem edits_plainText :
    Relation.ReflTransGen Edit (textLines plainText) (textLines spacedText) := by
  let column : List Char := "a:is(\"b\")@Optional".toList
  have hplain : textLines plainText = [[], "@TotalColumns 1".toList, column] := by decide +kernel
  have hspaced : textLines spacedText =
      ["@TOTALCOLUMNS \t1".toList, ['\t'], "a :is(\"b\")@Optional".toList] := by decide +kernel
  rw [hplain, hspaced]
  have hdelete : Edit [[], "@TotalColumns 1".toList, column] ["@TotalColumns 1".toList, column] :=
    @Edit.delete [] _ [] (by decide)
  have hrecase : Edit ["@TotalColumns 1".toList, column] ["@TOTALCOLUMNS 1".toList, column] :=
    @Edit.line [] _ _ _ (by decide +kernel)
      (@LineEdit.recase [] "TotalColumns".toList "TOTALCOLUMNS".toList " 1".toList
        (by decide +kernel) (by decide +kernel))
  have hreplace : Edit ["@TOTALCOLUMNS 1".toList, column] ["@TOTALCOLUMNS \t1".toList, column] :=
    @Edit.line [] _ _ _ (by decide +kernel)
      (@LineEdit.replace "@TOTALCOLUMNS".toList [' '] [' ', '\t'] ['1'] (by decide) (by decide)
        (by decide +kernel))
  have hblank : Edit ["@TOTALCOLUMNS \t1".toList, column]
      ["@TOTALCOLUMNS \t1".toList, ['\t'], column] :=
    @Edit.insert ["@TOTALCOLUMNS \t1".toList] _ _ (by decide +kernel)
  have hinsert : Edit ["@TOTALCOLUMNS \t1".toList, ['\t'], column]
      ["@TOTALCOLUMNS \t1".toList, ['\t'], "a :is(\"b\")@Optional".toList] :=
    @Edit.line ["@TOTALCOLUMNS \t1".toList, ['\t']] [] _ _ (by decide +kernel)
      (@LineEdit.insert ['a'] [' '] ":is(\"b\")@Optional".toList (by decide)
        (by decide +kernel))
  exact .head hdelete (.head hrecase (.head hreplace (.head hblank (.single hinsert))))

def plainSchema : Schema where
  hasHeader := true
  permitEmpty := false
  columns := [{
    name := "a"
    rules := [.compare .equal (.text "b")]
    directives := [.isOptional] }]

theorem parse_of_edits_of_plainText :
    (∀ line ∈ linesOf plainText.toList, AllValid line.tokens) ∧
      (∀ fault, (parse plainText).result = .error fault → fault.isDiagnosed = true) ∧
      Relation.ReflTransGen Edit (textLines plainText) (textLines spacedText) ∧
      (parse spacedText).result = .ok plainSchema := by
  have hvalid : ∀ line ∈ linesOf plainText.toList, AllValid line.tokens := by
    simp only [AllValid]
    decide +kernel
  have hparse : (parse plainText).result = .ok plainSchema := by cbv
  have hfault : ∀ fault, (parse plainText).result = .error fault → fault.isDiagnosed = true := by
    intro fault h
    rw [hparse] at h
    cases h
  refine ⟨hvalid, hfault, edits_plainText, ?_⟩
  rcases (parse_of_edits hvalid hfault edits_plainText).1 with ⟨schema, h, hspaced⟩ | ⟨_, _, h, -⟩
  · obtain rfl := Except.ok.inj (hparse.symm.trans h)
    exact hspaced
  · cases hparse.symm.trans h

end TableSchema.Schema
