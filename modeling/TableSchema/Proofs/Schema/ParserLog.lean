import TableSchema.Proofs.Number.Numeral
import TableSchema.Proofs.Schema.Conclusion

namespace TableSchema

/-! Numbers within texts -/

namespace Text

-- A number ends at the first character that is no digit.
theorem eq_of_toString_append {a b : Nat} {rest rest' : List Char}
    (h : (toString a).toList ++ rest = (toString b).toList ++ rest')
    (hrest : ∀ c ∈ rest.head?, isAsciiDigit c = false)
    (hrest' : ∀ c ∈ rest'.head?, isAsciiDigit c = false) : a = b ∧ rest = rest' := by
  have hdigits : ∀ n : Nat, ∀ c ∈ (toString n).toList, isAsciiDigit c = true := by
    intro n c hc
    rw [Number.toList_toString] at hc
    exact Number.isAsciiDigit_of_mem_toDigits hc
  obtain ⟨hnumber, hbehind⟩ := append_inj_of_front h (hdigits a) (hdigits b) hrest hrest'
  exact ⟨Nat.repr_inj.mp (String.toList_inj.mp hnumber), hbehind⟩

end Text

namespace Schema

open TableSchema.Text

/-! Texts of verdicts -/

theorem text_eq_acceptance_iff {step : Step} {count : Nat} :
    step.text = "schema accepted with " ++ toString count ++ " column(s)" ↔
      step = .acceptance count := by
  refine ⟨fun h => ?_, by rintro rfl; rfl⟩
  unfold Step.text at h
  have hchars := congrArg String.toList h
  cases step with
  | acceptance found =>
      simp only [String.toList_append, List.append_assoc, List.append_cancel_left_eq] at hchars
      obtain ⟨rfl, -⟩ := eq_of_toString_append hchars (by simp; decide) (by simp; decide)
      rfl
  | _ => simp at hchars

theorem text_eq_rejection_iff {step : Step} {count : Nat} :
    step.text = "schema rejected with " ++ toString count ++ " message(s)" ↔
      step = .rejection count := by
  refine ⟨fun h => ?_, by rintro rfl; rfl⟩
  unfold Step.text at h
  have hchars := congrArg String.toList h
  cases step with
  | rejection found =>
      simp only [String.toList_append, List.append_assoc, List.append_cancel_left_eq] at hchars
      obtain ⟨rfl, -⟩ := eq_of_toString_append hchars (by simp; decide) (by simp; decide)
      rfl
  | _ => simp at hchars

-- Behind its number a line is either read or fails in a column.
theorem text_eq_failure_iff {step : Step} {line column : Nat} {text : String} :
    step.text = "line " ++ toString line ++ ", column " ++ toString column ++ ": failure: " ++ text ↔
      ∃ diagnostic, step = .failure diagnostic ∧ diagnostic.line = line ∧
        diagnostic.column = column ∧ diagnostic.cause.message = text := by
  refine ⟨fun h => ?_, by rintro ⟨diagnostic, rfl, rfl, rfl, rfl⟩; rfl⟩
  unfold Step.text at h
  have hchars := congrArg String.toList h
  cases step with
  | failure diagnostic =>
      simp only [String.toList_append, List.append_assoc, List.append_cancel_left_eq] at hchars
      obtain ⟨hline, hchars⟩ := eq_of_toString_append hchars (by simp; decide) (by simp; decide)
      simp only [List.append_cancel_left_eq] at hchars
      obtain ⟨hcolumn, hchars⟩ := eq_of_toString_append hchars (by simp; decide) (by simp; decide)
      exact ⟨diagnostic, rfl, hline, hcolumn, String.toList_inj.mp (List.append_cancel_left hchars)⟩
  | globals number | column number =>
      simp only [String.toList_append, List.append_assoc, List.append_cancel_left_eq] at hchars
      obtain ⟨-, hchars⟩ := eq_of_toString_append hchars (by simp; decide) (by simp; decide)
      simp at hchars
  | _ => simp at hchars

/-! The last entry of a log -/

-- A log ends with a verdict only if that is the verdict on the text.
theorem Parse.Concludes.getLast?_eq_some_iff {α : Type} {accepted : α → Option Step}
    {parse : Parse α} (h : Parse.Concludes accepted parse) {step : Step}
    (hstep : step.isVerdict = true) :
    parse.steps.getLast? = some step ↔ verdict? accepted parse.result = some step := by
  obtain ⟨opening, hopening, hsteps⟩ := h
  rw [hsteps]
  cases hverdict : verdict? accepted parse.result with
  | none =>
      rw [Option.toList_none, List.append_nil]
      refine ⟨fun hlast => ?_, nofun⟩
      have hquiet := hopening step (List.mem_of_getLast? hlast)
      rw [hstep] at hquiet
      cases hquiet
  | some last => rw [Option.toList_some, List.getLast?_concat]

-- The last entry of a log says what came of the text: what it says is so, and what is so
-- it says.
structure TellsOutcome (outcome : Except ParseFault Schema) (log : List Step) : Prop where
  accepted : ∀ count : Nat,
    log.getLast?.map Step.text = some ("schema accepted with " ++ toString count ++ " column(s)") ↔
      ∃ schema, outcome = .ok schema ∧ schema.columns.length = count
  failed : ∀ (line column : Nat) (text : String),
    log.getLast?.map Step.text =
        some ("line " ++ toString line ++ ", column " ++ toString column ++ ": failure: " ++ text) ↔
      ∃ diagnostic, outcome = .error (.syntaxError diagnostic) ∧
        (ParseFault.syntaxError diagnostic).messages =
          [{ severity := .schema, text, line := some line, column := some (.position column) }]
  rejected : ∀ count : Nat,
    log.getLast?.map Step.text = some ("schema rejected with " ++ toString count ++ " message(s)") ↔
      ∃ found, outcome = .error (.rejected found) ∧ (ParseFault.rejected found).messages.length = count

theorem verdict?_eq_acceptance_iff {outcome : Except ParseFault Schema} {count : Nat} :
    verdict? acceptance outcome = some (.acceptance count) ↔
      ∃ schema, outcome = .ok schema ∧ schema.columns.length = count := by
  cases outcome with
  | ok schema => simp [verdict?, acceptance]
  | error fault => cases fault <;> simp [verdict?]

theorem verdict?_eq_failure_iff {outcome : Except ParseFault Schema} {diagnostic : Diagnostic} :
    verdict? acceptance outcome = some (.failure diagnostic) ↔
      outcome = .error (.syntaxError diagnostic) := by
  cases outcome with
  | ok schema => simp [verdict?, acceptance]
  | error fault => cases fault <;> simp [verdict?]

theorem verdict?_eq_rejection_iff {outcome : Except ParseFault Schema} {count : Nat} :
    verdict? acceptance outcome = some (.rejection count) ↔
      ∃ found, outcome = .error (.rejected found) ∧ found.length = count := by
  cases outcome with
  | ok schema => simp [verdict?, acceptance]
  | error fault => cases fault <;> simp [verdict?]

theorem parse_tellsOutcome (text : String) : TellsOutcome (parse text).result (parse text).steps := by
  have hlast : ∀ step : Step, step.isVerdict = true → ((parse text).steps.getLast? = some step ↔
      verdict? acceptance (parse text).result = some step) :=
    fun _ hstep => (parse_concludes text).getLast?_eq_some_iff hstep
  constructor
  · intro count
    simp only [Option.map_eq_some_iff, text_eq_acceptance_iff, exists_eq_right]
    rw [hlast _ rfl, verdict?_eq_acceptance_iff]
  · intro line column message
    simp only [Option.map_eq_some_iff, text_eq_failure_iff]
    constructor
    · rintro ⟨_, hstep, diagnostic, rfl, rfl, rfl, rfl⟩
      exact ⟨diagnostic, verdict?_eq_failure_iff.mp ((hlast _ rfl).mp hstep), rfl⟩
    · rintro ⟨diagnostic, houtcome, hmessages⟩
      simp only [ParseFault.messages, ParseFault.diagnostics, Diagnostic.toMessage, List.map_cons,
        List.map_nil, List.cons.injEq, Message.mk.injEq, Option.some.injEq, ColumnPlace.position.injEq,
        Int.natCast_inj, and_true, true_and] at hmessages
      obtain ⟨hmessage, hline, hcolumn⟩ := hmessages
      have hstep := (hlast _ rfl).mpr (verdict?_eq_failure_iff.mpr houtcome)
      exact ⟨_, hstep, diagnostic, rfl, hline, hcolumn, hmessage⟩
  · intro count
    simp only [Option.map_eq_some_iff, text_eq_rejection_iff, exists_eq_right]
    rw [hlast _ rfl, verdict?_eq_rejection_iff]
    simp only [ParseFault.messages, ParseFault.diagnostics, List.length_map]

/-! Texts one after the other -/

-- The outcomes of some texts that one parser reads, each with the log after it.
def Parser.parseAll (parser : Parser) : List String → List (Except ParseFault Schema × List Step)
  | [] => []
  | text :: texts =>
    let (outcome, next) := parser.parse text
    (outcome, next.log) :: next.parseAll texts

theorem parseAll_eq_map (parser : Parser) (texts : List String) :
    parser.parseAll texts = texts.map fun text =>
      ((parse text).result, if parser.traces then (parse text).steps else []) := by
  induction texts generalizing parser with
  | nil => rfl
  | cons text texts ih =>
      rw [Parser.parseAll, List.map_cons]
      exact congrArg (_ :: ·) (ih _)

-- A parser has no memory of the texts before. Its log is a view on what it does: without it
-- the outcomes are the same, and with it the log of each text ends with its outcome.
theorem parseAll_tells (texts : List String) :
    (∀ traces other, ((Parser.new traces).parseAll texts).map Prod.fst =
        texts.map fun text => ((Parser.new other).parse text).1) ∧
      (∀ reading ∈ (Parser.new false).parseAll texts, reading.2 = []) ∧
      ((Parser.new true).parseAll texts).map Prod.snd =
        texts.map (fun text => ((Parser.new true).parse text).2.log) ∧
      ∀ reading ∈ (Parser.new true).parseAll texts, TellsOutcome reading.1 reading.2 := by
  refine ⟨fun traces other => ?_, fun reading hm => ?_, ?_, fun reading hm => ?_⟩
  · rw [parseAll_eq_map, List.map_map]
    rfl
  · rw [parseAll_eq_map] at hm
    obtain ⟨text, -, rfl⟩ := List.mem_map.mp hm
    rfl
  · rw [parseAll_eq_map, List.map_map]
    rfl
  · rw [parseAll_eq_map] at hm
    obtain ⟨text, -, rfl⟩ := List.mem_map.mp hm
    exact parse_tellsOutcome text

-- A text of each kind: a schema, a fault of the syntax, two faults of the whole schema, and
-- a bound without an order.
def assortedTexts : List String := [
  "@TotalColumns 1\nA: is(\"a\") or unique @Optional",
  "@TotalColumns 1\nA: @Optional unique",
  "@TotalColumns 2\nA: is($B)",
  "@TotalColumns 1\nA: range(NaN, 1)"]

-- Only what is no verdict may end the log of the last text.
theorem parseAll_tells_of_assortedTexts :
    ((Parser.new true).parseAll assortedTexts).map (fun reading =>
        reading.2.getLast?.map Step.text) = [
      some "schema accepted with 1 column(s)",
      some "line 2, column 14: failure: Column definition contains invalid text",
      some "schema rejected with 2 message(s)",
      some "column \"A\""] ∧
    ((Parser.new false).parseAll assortedTexts).map Prod.fst =
      assortedTexts.map fun text => ((Parser.new true).parse text).1 := by
  obtain ⟨houtcomes, -, hlogs, -⟩ := parseAll_tells assortedTexts
  refine ⟨?_, houtcomes false true⟩
  have hlasts := congrArg (List.map fun log => log.getLast?.map Step.text) hlogs
  rw [List.map_map, List.map_map] at hlasts
  refine hlasts.trans (congrArg₂ List.cons ?_ (congrArg₂ List.cons ?_
    (congrArg₂ List.cons ?_ (congrArg₂ List.cons ?_ rfl))))
  all_goals decide +kernel

end Schema

end TableSchema
