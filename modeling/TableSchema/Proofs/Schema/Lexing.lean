import TableSchema.Proofs.Schema.Grammar
import TableSchema.Proofs.Schema.Quoting
import TableSchema.Proofs.Schema.Tokens
import TableSchema.Proofs.Text.Characters
import TableSchema.Proofs.Text.Lines

namespace TableSchema.Schema

open TableSchema.Text

-- The terminals of a line, up to the one that ends it.
def lineTerminals (text : List Char) : List Terminal :=
  (tokenize text 1).map Token.terminal

-- Places make no difference to the terminals.
theorem map_terminal_tokensFrom (line column skip : Nat) (text : List Char) :
    (tokensFrom line column skip text).map Token.terminal = lineTerminals (text.drop skip) := by
  induction text generalizing line column skip with
  | nil =>
      rw [List.drop_nil]
      rfl
  | cons c rest ih =>
      cases skip with
      | succ skip => exact ih line (column + 1) skip
      | zero =>
          simp only [List.drop_zero, lineTerminals, tokenize, tokensFrom]
          split
          · rw [ih line, ih 1]
          · rw [List.map_cons, List.map_cons, ih line, ih 1]
            rfl

theorem lineTerminals_nil : lineTerminals [] = [⟨.endOfLine, ""⟩] :=
  rfl

theorem lineTerminals_cons_of_none {c : Char} {rest : List Char} (h : lexeme? c rest = none) :
    lineTerminals (c :: rest) = lineTerminals rest := by
  simp only [lineTerminals, tokenize, tokensFrom, h]
  exact map_terminal_tokensFrom 1 2 0 rest

theorem lineTerminals_cons_of_some {c : Char} {rest : List Char} {lexeme : Lexeme}
    (h : lexeme? c rest = some lexeme) :
    lineTerminals (c :: rest) =
      ⟨lexeme.kind, String.ofList lexeme.text⟩ :: lineTerminals (rest.drop (lexeme.length - 1)) := by
  simp only [lineTerminals, tokenize, tokensFrom, h, List.map_cons, Token.terminal]
  exact congrArg _ (map_terminal_tokensFrom 1 2 (lexeme.length - 1) rest)

/-! Pieces of a line -/

-- What can follow a name without becoming a part of it.
def Separates (rest : List Char) : Prop :=
  ∀ c ∈ rest.head?, isWordChar c = false

-- A piece of a line, and the terminals that it stands for wherever its end is seen.
structure Reads (piece : List Char) (terminals : List Terminal) : Prop where
  unbroken : ∀ c ∈ piece, isLineBreak c = false
  append : ∀ rest, Separates rest → lineTerminals (piece ++ rest) = terminals ++ lineTerminals rest

-- A character that stands for itself, or for nothing.
structure IsSign (c : Char) (terminals : List Terminal) : Prop where
  separates : isWordChar c = false
  unbroken : isLineBreak c = false
  cons : ∀ rest, lineTerminals (c :: rest) = terminals ++ lineTerminals rest

theorem isSign_space : IsSign ' ' [] :=
  ⟨by decide, by decide, fun rest => lineTerminals_cons_of_none rfl⟩

theorem isSign_of_lexeme? {c : Char} (kind : TokenKind) (hseparates : isWordChar c = false)
    (hunbroken : isLineBreak c = false) (h : ∀ rest, lexeme? c rest = some (sign kind c)) :
    IsSign c [⟨kind, String.ofList [c]⟩] :=
  ⟨hseparates, hunbroken, fun rest => lineTerminals_cons_of_some (h rest)⟩

theorem isSign_colon : IsSign ':' [⟨.colon, ":"⟩] :=
  isSign_of_lexeme? .colon (by decide) (by decide) fun _ => rfl

theorem isSign_opening : IsSign '(' [⟨.opening, "("⟩] :=
  isSign_of_lexeme? .opening (by decide) (by decide) fun _ => rfl

theorem isSign_closing : IsSign ')' [⟨.closing, ")"⟩] :=
  isSign_of_lexeme? .closing (by decide) (by decide) fun _ => rfl

theorem isSign_comma : IsSign ',' [⟨.comma, ","⟩] :=
  isSign_of_lexeme? .comma (by decide) (by decide) fun _ => rfl

namespace Reads

theorem nil : Reads [] [] :=
  ⟨nofun, fun _ _ => rfl⟩

-- A sign behind a piece is seen as its end.
theorem lineTerminals_append {front : List Char} {first middle : List Terminal} {c : Char}
    (hfront : Reads front first) (hc : IsSign c middle) (rest : List Char) :
    lineTerminals (front ++ c :: rest) = first ++ (middle ++ lineTerminals rest) := by
  have hseparates : Separates (c :: rest) := by
    intro d hd
    obtain rfl := Option.some.inj hd
    exact hc.separates
  rw [hfront.append _ hseparates, hc.cons]

theorem join {front back : List Char} {first second middle : List Terminal} {c : Char}
    (hfront : Reads front first) (hc : IsSign c middle) (hback : Reads back second) :
    Reads (front ++ c :: back) (first ++ (middle ++ second)) := by
  constructor
  · intro d hd
    rcases List.mem_append.mp hd with hd | hd
    · exact hfront.unbroken d hd
    · rcases List.mem_cons.mp hd with rfl | hd
      · exact hc.unbroken
      · exact hback.unbroken d hd
  · intro rest hrest
    rw [List.append_assoc, List.cons_append, hfront.lineTerminals_append hc, hback.append rest hrest]
    simp only [List.append_assoc]

-- A character and the name behind it.
theorem of_lexeme? {c : Char} {name : List Char} {kind : TokenKind} {text : String}
    (hunbroken : ∀ d ∈ c :: name, isLineBreak d = false)
    (h : ∀ rest, Separates rest →
      lexeme? c (name ++ rest) = some { kind, length := name.length + 1, text := text.toList }) :
    Reads (c :: name) [⟨kind, text⟩] := by
  refine ⟨hunbroken, fun rest hrest => ?_⟩
  rw [List.cons_append, lineTerminals_cons_of_some (h rest hrest)]
  simp

end Reads

/-! Names -/

theorem takeWhile_append_of_separates {p : Char → Bool} {name rest : List Char}
    (hp : ∀ c, p c = true → isWordChar c = true) (hname : ∀ c ∈ name, p c = true)
    (hrest : Separates rest) : (name ++ rest).takeWhile p = name := by
  rw [List.takeWhile_append_of_pos hname]
  cases rest with
  | nil => simp
  | cons c rest =>
      have hc : p c = false := by
        rw [Bool.eq_false_iff]
        intro hc
        exact absurd (hp c hc) (by simp [hrest c rfl])
      simp [hc]

theorem reads_word {text : String} (h : IsWord text) : Reads text.toList [⟨.word, text⟩] := by
  obtain ⟨hne, hword⟩ := h
  obtain ⟨c, name, htext⟩ := List.exists_cons_of_ne_nil hne
  rw [htext] at hword ⊢
  obtain ⟨hc, hname⟩ := List.forall_mem_cons.mp hword
  refine .of_lexeme? (fun d hd => isLineBreak_of_isWordChar (hword d hd)) fun rest hrest => ?_
  rw [lexeme?_of_isWordChar hc, takeWhile_append_of_separates (fun _ h => h) hname hrest, htext]
  rfl

-- A name that a column can be referred to by.
def IsColumnName (text : String) : Prop :=
  text.toList ≠ [] ∧ ∀ c ∈ text.toList, isColumnChar c = true

theorem reads_column {text : String} (h : IsColumnName text) :
    Reads ('$' :: text.toList) [⟨.column, text⟩] := by
  obtain ⟨hne, hname⟩ := h
  have hunbroken : ∀ d ∈ '$' :: text.toList, isLineBreak d = false := by
    refine List.forall_mem_cons.mpr ⟨by decide, fun d hd => ?_⟩
    exact isLineBreak_of_isWordChar (isWordChar_of_isColumnChar (hname d hd))
  refine .of_lexeme? hunbroken fun rest hrest => ?_
  have htake := takeWhile_append_of_separates (fun _ => isWordChar_of_isColumnChar) hname hrest
  simp [lexeme?, isSpace, htake, hne]

-- A name that a directive can have.
def IsDirectiveName (text : String) : Prop :=
  (text.toList.head?.map isAsciiLetter).getD false = true ∧
    ∀ c ∈ text.toList, isDirectiveChar c = true

instance (text : String) : Decidable (IsDirectiveName text) :=
  decidable_of_iff ((text.toList.head?.map isAsciiLetter).getD false = true ∧
      text.toList.all isDirectiveChar = true)
    (and_congr_right' List.all_eq_true)

theorem reads_directive {keyword : String} (text : String)
    (hkeyword : keyword.toList = '@' :: text.toList) (h : IsDirectiveName text) :
    Reads keyword.toList [⟨.directive, text⟩] := by
  obtain ⟨hletter, hname⟩ := h
  have hword : ∀ c, isDirectiveChar c = true → isWordChar c = true :=
    fun c hc => isWordChar_of_isColumnChar (isColumnChar_of_isDirectiveChar hc)
  have hunbroken : ∀ d ∈ '@' :: text.toList, isLineBreak d = false := by
    refine List.forall_mem_cons.mpr ⟨by decide, fun d hd => ?_⟩
    exact isLineBreak_of_isWordChar (hword d (hname d hd))
  rw [hkeyword]
  refine .of_lexeme? hunbroken fun rest hrest => ?_
  have htake := takeWhile_append_of_separates hword hname hrest
  have hhead : (text.toList ++ rest).head? = text.toList.head? := by
    cases ht : text.toList with
    | nil => simp [ht] at hletter
    | cons c name => rfl
  simp [lexeme?, isSpace, htake, hhead, hletter]

-- A quoted text ends where its closing quote is, whatever follows.
theorem reads_text {text : String} (h : IsQuotable text) :
    Reads ('"' :: (escape text.toList ++ ['"'])) [⟨.text, text⟩] := by
  have hunbroken : ∀ c ∈ '"' :: (escape text.toList ++ ['"']), isLineBreak c = false := by
    intro c hc
    simp only [List.mem_cons, List.mem_append, List.not_mem_nil, or_false] at hc
    rcases hc with rfl | hc | rfl
    · decide
    · exact h.unbroken_escape c hc
    · decide
  refine .of_lexeme? hunbroken fun rest _ => ?_
  rw [List.append_assoc, List.singleton_append]
  simp [lexeme?, isSpace, h.body.quotedBody?_append, unescape_escape]

/-! Terminals of a text -/

-- A terminal with a text that can be written again.
structure Terminal.IsWritable (terminal : Terminal) : Prop where
  word : terminal.kind = .word → IsWord terminal.text
  column : terminal.kind = .column → IsColumnName terminal.text
  text : terminal.kind = .text → IsQuotable terminal.text

theorem isWritable_of_lexeme? {c : Char} {rest : List Char} {lexeme : Lexeme}
    (h : lexeme? c rest = some lexeme) (hunbroken : ∀ d ∈ rest, isLineBreak d = false) :
    Terminal.IsWritable ⟨lexeme.kind, String.ofList lexeme.text⟩ := by
  -- A single character stands for no text of its own.
  have hsigns : ∀ entry ∈ signs, entry.1 ≠ .word ∧ entry.1 ≠ .column ∧ entry.1 ≠ .text := by decide
  cases lexes_of_lexeme? h with
  | text hbody => exact ⟨nofun, nofun, fun _ => isQuotable_unescape hbody hunbroken⟩
  | directive => exact ⟨nofun, nofun, nofun⟩
  | column hname =>
      refine ⟨nofun, fun _ => ⟨?_, ?_⟩, nofun⟩
      · simpa using hname
      · rw [String.toList_ofList]
        exact List.all_eq_true.mp List.all_takeWhile
  | word hc =>
      refine ⟨fun _ => ⟨by simp, ?_⟩, nofun, nofun⟩
      rw [String.toList_ofList]
      exact List.forall_mem_cons.mpr ⟨hc, List.all_eq_true.mp List.all_takeWhile⟩
  | punctuation hsign =>
      obtain ⟨hword, hcolumn, htext⟩ := hsigns _ hsign
      exact ⟨fun h => absurd h hword, fun h => absurd h hcolumn, fun h => absurd h htext⟩
  | invalid => exact ⟨nofun, nofun, nofun⟩

theorem isWritable_of_mem_tokensFrom {line column skip : Nat} {text : List Char}
    (hunbroken : ∀ c ∈ text, isLineBreak c = false) :
    ∀ token ∈ tokensFrom line column skip text, token.terminal.IsWritable := by
  induction text generalizing column skip with
  | nil =>
      intro token hm
      obtain rfl := List.mem_singleton.mp hm
      exact ⟨nofun, nofun, nofun⟩
  | cons c rest ih =>
      obtain ⟨-, hrest⟩ := List.forall_mem_cons.mp hunbroken
      cases skip with
      | succ skip => exact ih hrest
      | zero =>
          simp only [tokensFrom]
          split
          · exact ih hrest
          · rename_i lexeme hl
            exact List.forall_mem_cons.mpr ⟨isWritable_of_lexeme? hl hrest, ih hrest⟩

-- The numbers of lines make no difference to the terminals.
theorem terminals_eq (text : String) :
    terminals text =
      ((splitLines (dropByteOrderMark text.toList)).filter fun line => !isBlankLine line).map
        lineTerminals := by
  simp only [terminals, linesOf]
  generalize splitLines (dropByteOrderMark text.toList) = lines
  generalize (1 : Nat) = start
  induction lines generalizing start with
  | nil => rfl
  | cons line lines ih =>
      rw [List.zipIdx_cons]
      by_cases hblank : isBlankLine line = true
      · rw [List.filterMap_cons_none (by simp [hblank]), List.filter_cons_of_neg (by simp [hblank]),
          ih (start + 1)]
      · rw [List.filterMap_cons_some (by simp only [hblank]; rfl),
          List.filter_cons_of_pos (by simp [hblank]), List.map_cons, List.map_cons, ih (start + 1)]
        exact congrArg (· :: _) (map_terminal_tokensFrom start 1 0 line)

-- Lines hold no line breaks, so that all their terminals can be written again.
theorem isWritable_of_mem_terminals {text : String} {line : List Terminal}
    (hline : line ∈ terminals text) : ∀ terminal ∈ line, terminal.IsWritable := by
  rw [terminals_eq] at hline
  obtain ⟨cs, hcs, rfl⟩ := List.mem_map.mp hline
  have hunbroken := isLineBreak_of_mem_splitLines (List.mem_of_mem_filter hcs)
  intro terminal hm
  obtain ⟨token, ht, rfl⟩ := List.mem_map.mp hm
  exact isWritable_of_mem_tokensFrom hunbroken token ht

end TableSchema.Schema
