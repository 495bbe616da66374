import TableSchema.Proofs.Schema.Faults
import TableSchema.Proofs.Schema.RoundTrip

namespace TableSchema.Schema

open Grammar TableSchema.Text

-- The parser comes to a call: all that stands in front of it is in order.
inductive Reaches (text : String) : Rule.Name → List Argument → Prop
  | intro {first : List Terminal} {before after : List (List Terminal)} {globals : Globals}
      {columns : List Column} {column colon : String} {front call more : List Terminal}
      {name : Rule.Name} {arguments : List Argument}
      (hlines : terminals text = first ::
        (before ++ (⟨.word, column⟩ :: ⟨.colon, colon⟩ :: (front ++ (call ++ more))) :: after))
      (hglobals : IsGlobals first globals) (hbefore : List.Forall₂ IsColumn before columns)
      (hopens : Opens front) (hcall : IsCall call name arguments) :
      Reaches text name arguments

theorem Reaches.exists_mem {text : String} {name : Rule.Name} {arguments : List Argument}
    (h : Reaches text name arguments) : ∃ line ∈ terminals text, ⟨.word, name.text⟩ ∈ line := by
  obtain ⟨hlines, -, -, -, hcall⟩ := h
  obtain ⟨behind, rfl⟩ := hcall.exists_behind
  refine ⟨_, hlines ▸ List.mem_cons_of_mem _ (List.mem_append_right _ List.mem_cons_self), ?_⟩
  simp

-- A text that is no schema has a fault of its syntax, or faults that the checks of
-- the whole schema find. It stops the parser only at its total, at a call that the
-- parser comes to, or at alternatives that are too deep.
theorem parse_fault_cases {text : String} {fault : ParseFault} (hlimit : TotalWithinLimit text)
    (h : (parse text).result = .error fault) :
    fault.isSyntax = true ∨ (∃ found, found ≠ [] ∧ fault = .rejected found) ∨
      (∃ name arguments cause, Reaches text name arguments ∧
        Rule.build name arguments = .error cause ∧ cause.isReported = false) ∨
      ∃ rule, Joins text rule ∧ maxDepth < rule.depth := by
  have hlines := isLine_linesOf text.toList
  simp only [parse] at h
  cases hl : linesOf text.toList with
  | nil =>
      rw [hl] at h
      exact .inl (isSyntax_of_fail h)
  | cons first lines =>
      have hterminals : terminals text = first.tokens.map Token.terminal ::
          lines.map fun line => line.tokens.map Token.terminal := by
        rw [terminals, hl, List.map_cons]
      rw [hl] at h hlines
      simp only [schemaOf, Parse.result_note_bind] at h
      rcases Parse.result_bind_eq_error_iff.mp h with h | ⟨globals, hg, h⟩
      · exact .inl (globalsOf_fault h (hlimit _ (by simp [hterminals])))
      · rcases Parse.result_bind_eq_error_iff.mp h with h | ⟨columns, -, h⟩
        · refine (columnsOf_fault (fun l hm => hlines l (List.mem_cons_of_mem _ hm)) h).imp id ?_
          rintro ⟨before, columns, stopping, after, hbefore, hcolumns, hstops⟩
          rw [hbefore] at hterminals
          have hglobals := globalsOf_sound (hlines first (by simp)) hg
          obtain ⟨hstops⟩ := hstops
          cases hstops with
          | call hopens hbreaks =>
              obtain ⟨call, more, name, found, cause, rfl, hcall, hb, hc⟩ := hbreaks
              exact .inr (.inl ⟨name, found, cause, .intro hterminals hglobals hcolumns hopens hcall,
                hb, hc⟩)
          | join hjoins hdeep =>
              exact .inr (.inr ⟨_, .intro hterminals hglobals hcolumns hjoins, hdeep⟩)
        · exact .inr (.inl (finish_fault h))

-- Of texts within the limits, the parser accepts the grammar, and nothing else. It
-- says what is wrong with every other text. Alternatives that are too deep stop it
-- where it comes to them, in a text of the grammar as well as in any other.
theorem parse_eq_ok_iff_denotes (text : String) (hlimit : TotalWithinLimit text)
    (hbuild : ∀ name arguments cause, Reaches text name arguments →
      Rule.build name arguments = .error cause → cause.isReported = true) :
    (∀ schema, (parse text).result = .ok schema ↔
      Denotes text schema ∧ DepthWithinLimit schema.columns) ∧
      ((∃ fault, (parse text).result = .error fault ∧ fault.isDiagnosed = true) ↔
        (¬∃ schema, Denotes text schema) ∧ ∀ rule, Joins text rule → rule.depth ≤ maxDepth) ∧
      ((parse text).result = .error .tooDeep ↔ ∃ rule, Joins text rule ∧ maxDepth < rule.depth) := by
  have haccepted : ∀ schema, (parse text).result = .ok schema ↔
      Denotes text schema ∧ DepthWithinLimit schema.columns := fun schema =>
    ⟨fun h => ⟨denotes_of_parse h, depthWithinLimit_of_parse h⟩,
      fun ⟨h, hdepth⟩ => parse_of_denotes h hlimit hdepth⟩
  have hstopped : (∃ rule, Joins text rule ∧ maxDepth < rule.depth) →
      (parse text).result = .error .tooDeep :=
    fun ⟨_, hjoins, hdeep⟩ => parse_tooDeep hjoins hdeep hlimit
  have hcases : ∀ fault, (parse text).result = .error fault → fault.isDiagnosed = true ∨
      ∃ rule, Joins text rule ∧ maxDepth < rule.depth := by
    intro fault hfault
    rcases parse_fault_cases hlimit hfault with
      hsyntax | ⟨found, -, rfl⟩ | ⟨name, arguments, cause, hr, hb, hc⟩ | hjoins
    · exact .inl (ParseFault.isDiagnosed_of_isSyntax hsyntax)
    · exact .inl rfl
    · exact absurd (hbuild name arguments cause hr hb) (by simp [hc])
    · exact .inr hjoins
  refine ⟨haccepted, ⟨?_, ?_⟩, fun h => (hcases _ h).resolve_left nofun, hstopped⟩
  · rintro ⟨fault, hfault, hdiagnosed⟩
    have hwithin : ∀ rule, Joins text rule → rule.depth ≤ maxDepth := by
      intro rule hjoins
      by_contra hdeep
      cases (hstopped ⟨rule, hjoins, Nat.not_le.mp hdeep⟩).symm.trans hfault
      cases hdiagnosed
    refine ⟨fun ⟨schema, hdenotes⟩ => ?_, hwithin⟩
    have hdepth : DepthWithinLimit schema.columns := by
      by_contra hdepth
      obtain ⟨rule, hjoins, hdeep⟩ := exists_joins_of_denotes hdenotes hdepth
      exact absurd (hwithin rule hjoins) (Nat.not_le.mpr hdeep)
    cases ((haccepted schema).mpr ⟨hdenotes, hdepth⟩).symm.trans hfault
  · rintro ⟨hno, hwithin⟩
    cases hparse : (parse text).result with
    | ok schema => exact absurd ⟨schema, denotes_of_parse hparse⟩ hno
    | error fault =>
        refine ⟨fault, rfl, (hcases fault hparse).resolve_right ?_⟩
        rintro ⟨rule, hjoins, hdeep⟩
        exact absurd (hwithin rule hjoins) (Nat.not_le.mpr hdeep)

-- One column refers to the other one within an alternative.
def alternativesText : String :=
  "@TotalColumns 2 @noHeader\nname: notEmpty or is($code) @Optional\ncode: length(1, 3)\n"

theorem terminals_alternativesText :
    terminals alternativesText = [
      [⟨.directive, "TotalColumns"⟩, ⟨.word, "2"⟩, ⟨.directive, "noHeader"⟩, ⟨.endOfLine, ""⟩],
      [⟨.word, "name"⟩, ⟨.colon, ":"⟩, ⟨.word, "notEmpty"⟩, ⟨.word, "or"⟩, ⟨.word, "is"⟩,
        ⟨.opening, "("⟩, ⟨.column, "code"⟩, ⟨.closing, ")"⟩, ⟨.directive, "Optional"⟩,
        ⟨.endOfLine, ""⟩],
      [⟨.word, "code"⟩, ⟨.colon, ":"⟩, ⟨.word, "length"⟩, ⟨.opening, "("⟩, ⟨.word, "1"⟩,
        ⟨.comma, ","⟩, ⟨.word, "3"⟩, ⟨.closing, ")"⟩, ⟨.endOfLine, ""⟩]] := by
  decide +kernel

-- Only rules that have patterns or numbers as bounds can fail in a way that is not reported.
theorem isReported_of_terminals (text : String)
    (h : ∀ line ∈ terminals text, ⟨.word, "regex"⟩ ∉ line ∧ ⟨.word, "range"⟩ ∉ line) :
    ∀ name arguments cause, Reaches text name arguments →
      Rule.build name arguments = .error cause → cause.isReported = true := by
  intro name arguments cause hreach hcause
  obtain ⟨line, hline, hname⟩ := hreach.exists_mem
  refine Rule.reports_build ?_ ?_ arguments cause hcause
  · rintro rfl
    exact (h line hline).1 hname
  · rintro rfl
    exact (h line hline).2 hname

theorem parse_eq_ok_iff_denotes_of_alternatives :
    TotalWithinLimit alternativesText ∧
      (∀ name arguments cause, Reaches alternativesText name arguments →
        Rule.build name arguments = .error cause → cause.isReported = true) ∧
      (∀ schema, (parse alternativesText).result = .ok schema ↔
        Denotes alternativesText schema ∧ DepthWithinLimit schema.columns) ∧
      ((∃ fault, (parse alternativesText).result = .error fault ∧ fault.isDiagnosed = true) ↔
        (¬∃ schema, Denotes alternativesText schema) ∧
          ∀ rule, Joins alternativesText rule → rule.depth ≤ maxDepth) ∧
      ((parse alternativesText).result = .error .tooDeep ↔
        ∃ rule, Joins alternativesText rule ∧ maxDepth < rule.depth) := by
  have hlimit : TotalWithinLimit alternativesText := by
    simp [TotalWithinLimit, CountWithinLimit, terminals_alternativesText, totalLimit]
  have hbuild := isReported_of_terminals alternativesText
    (by rw [terminals_alternativesText]; decide)
  exact ⟨hlimit, hbuild, parse_eq_ok_iff_denotes alternativesText hlimit hbuild⟩

/-! A long chain of alternatives -/

def chain : Nat → Rule
  | 0 => .empty
  | count + 1 => .or (chain count) .empty

def chainTerminals : Nat → List Terminal
  | 0 => [⟨.word, "empty"⟩]
  | count + 1 => chainTerminals count ++ [⟨.word, "or"⟩, ⟨.word, "empty"⟩]

theorem depth_chain (count : Nat) : (chain count).depth = count + 2 := by
  induction count with
  | zero => rfl
  | succ count ih =>
      rw [chain, Rule.depth, ih]
      simp [Rule.depth, Rule.arguments]

theorem isExpression_chain (count : Nat) : IsExpression (chainTerminals count) (chain count) := by
  have hempty : IsRule [⟨.word, "empty"⟩] .empty := .intro (.plain .empty) rfl
  induction count with
  | zero => exact .rule hempty
  | succ count ih => exact .or ih hempty

theorem reads_chain (count : Nat) : Reads (chain count).render.toList (chainTerminals count) := by
  have hempty : Reads "empty".toList [⟨.word, "empty"⟩] := reads_word (by decide)
  have hor : Reads "or".toList [⟨.word, "or"⟩] := reads_word (by decide)
  induction count with
  | zero => exact hempty
  | succ count ih =>
      have htext : (chain (count + 1)).render.toList =
          (chain count).render.toList ++ ' ' :: ("or".toList ++ ' ' :: "empty".toList) := by
        simp [chain, Rule.render, Rule.arguments, Rule.name]
      rw [htext]
      exact ih.join isSign_space (hor.join isSign_space hempty)

theorem not_mem_chainTerminals {count : Nat} {word : String} (hempty : word ≠ "empty")
    (hor : word ≠ "or") : ⟨.word, word⟩ ∉ chainTerminals count := by
  induction count with
  | zero => simp [chainTerminals, hempty]
  | succ count ih => simp [chainTerminals, ih, hempty, hor]

-- A text of one column that has no directives.
theorem terminals_singleColumn {total rules : String} {read : List Terminal} (htotal : IsWord total)
    (hrules : Reads rules.toList read) :
    terminals (String.intercalate "\n" ["@TotalColumns " ++ total, "A:" ++ rules]) =
      [[⟨.directive, "TotalColumns"⟩, ⟨.word, total⟩, ⟨.endOfLine, ""⟩],
        ⟨.word, "A"⟩ :: ⟨.colon, ":"⟩ :: (read ++ [⟨.endOfLine, ""⟩])] := by
  have hkeyword : Reads "@TotalColumns".toList [⟨.directive, "TotalColumns"⟩] :=
    reads_directive "TotalColumns" rfl (by decide)
  have hfirst := hkeyword.join isSign_space (reads_word htotal)
  have hcolumn := (reads_word (by decide : IsWord "A")).join isSign_colon hrules
  have htext : ("@TotalColumns " ++ total).toList = "@TotalColumns".toList ++ ' ' :: total.toList := by
    simp
  have hbehind : ("A:" ++ rules).toList = "A".toList ++ ':' :: rules.toList := by
    simp
  have hlines : ∀ line ∈ ["@TotalColumns " ++ total, "A:" ++ rules], IsTextLine line.toList := by
    refine List.forall_mem_cons.mpr ⟨?_, List.forall_mem_cons.mpr ⟨?_, nofun⟩⟩
    · exact ⟨htext ▸ hfirst.unbroken, '@', by simp, isBlank_eq_false (by decide) (by decide)⟩
    · exact ⟨hbehind ▸ hcolumn.unbroken, 'A', by simp, isBlank_eq_false (by decide) (by decide)⟩
  rw [terminals_intercalate hlines (by simp [String.intercalate_cons_cons])]
  simp only [List.map_cons, List.map_nil, htext, hbehind, hfirst.lineTerminals_eq,
    hcolumn.lineTerminals_eq]
  rfl

-- One column, for which a chain is written.
def chainText (count : Nat) : String :=
  String.intercalate "\n" ["@TotalColumns 1", "A:" ++ (chain count).render]

theorem terminals_chainText (count : Nat) :
    terminals (chainText count) =
      [[⟨.directive, "TotalColumns"⟩, ⟨.word, "1"⟩, ⟨.endOfLine, ""⟩],
        ⟨.word, "A"⟩ :: ⟨.colon, ":"⟩ :: (chainTerminals count ++ [⟨.endOfLine, ""⟩])] := by
  have htotal : "@TotalColumns 1" = "@TotalColumns " ++ "1" := by decide
  rw [chainText, htotal]
  exact terminals_singleColumn (by decide) (reads_chain count)

def chainSchema (count : Nat) : Schema where
  hasHeader := true
  permitEmpty := false
  columns := [{ name := "A", rules := [chain count], directives := [] }]

theorem references_chain (count : Nat) : (chain count).references = [] := by
  induction count with
  | zero => rfl
  | succ count ih =>
      rw [chain, Rule.references, ih]
      rfl

theorem denotes_chainText (count : Nat) : Denotes (chainText count) (chainSchema count) := by
  have htotal : IsTotal ⟨.word, "1"⟩ 1 :=
    ⟨rfl, by decide, List.all_eq_true.mp (by decide), by decide, by decide⟩
  have hglobals : IsGlobals [⟨.directive, "TotalColumns"⟩, ⟨.word, "1"⟩, ⟨.endOfLine, ""⟩]
      { total := 1, options := [] } := .intro (by decide) htotal .nil (by decide)
  have hrules : IsExpressions (chainTerminals count) [chain count] := by
    simpa using IsExpressions.cons (isExpression_chain count) .nil
  refine .of_lines (terminals_chainText count) hglobals (.cons ?_ .nil) ?_
  · exact .intro hrules .nil .nil
  · simp [ReferencesDefined, chainSchema, references_chain]

-- A schema of the grammar that the parser does not accept, although nothing that it
-- comes to fails to build.
theorem parse_eq_tooDeep_of_chain :
    TotalWithinLimit (chainText 995) ∧
      (∀ name arguments cause, Reaches (chainText 995) name arguments →
        Rule.build name arguments = .error cause → cause.isReported = true) ∧
      (∃ schema, Denotes (chainText 995) schema) ∧
      (parse (chainText 995)).result = .error .tooDeep := by
  have hterminals := terminals_chainText 995
  have hlimit : TotalWithinLimit (chainText 995) := by
    simp [TotalWithinLimit, CountWithinLimit, hterminals, totalLimit]
  have hbuild := isReported_of_terminals (chainText 995) (by
    rw [hterminals]
    simp [not_mem_chainTerminals])
  have hdenotes := denotes_chainText 995
  have hdeep : ¬DepthWithinLimit (chainSchema 995).columns := by
    simp [DepthWithinLimit, chainSchema, depth_chain, maxDepth]
  obtain ⟨rule, hjoins, hdepth⟩ := exists_joins_of_denotes hdenotes hdeep
  exact ⟨hlimit, hbuild, ⟨_, hdenotes⟩, parse_tooDeep hjoins hdepth hlimit⟩

end TableSchema.Schema
