import Mathlib
import TableSchema.Check

namespace TableSchema

namespace Check

variable {α β γ : Type}

@[simp] theorem messages_pure (value : α) : (pure value : Check α).messages = [] := rfl

@[simp] theorem result_pure (value : α) : (pure value : Check α).result = .ok value := rfl

theorem bind_of_error {first : Check α} {halt : Halt} (h : first.result = .error halt)
    (next : α → Check β) : first >>= next = ⟨first.messages, .error halt⟩ := by
  change Check.bind first next = _
  simp only [Check.bind, h]

theorem bind_of_ok {first : Check α} {value : α} (h : first.result = .ok value)
    (next : α → Check β) :
    first >>= next = ⟨first.messages ++ (next value).messages, (next value).result⟩ := by
  change Check.bind first next = _
  simp only [Check.bind, h]

@[simp] theorem bind_pure_left (value : α) (next : α → Check β) : pure value >>= next = next value := by
  rw [bind_of_ok (result_pure value)]
  rfl

theorem bind_assoc (first : Check α) (next : α → Check β) (last : β → Check γ) :
    first >>= next >>= last = first >>= fun value => next value >>= last := by
  cases hr : first.result with
  | error halt => rw [bind_of_error hr, bind_of_error hr, bind_of_error rfl]
  | ok value =>
      rw [bind_of_ok hr, bind_of_ok hr]
      cases hn : (next value).result with
      | error halt => rw [bind_of_error rfl, bind_of_error hn]
      | ok middle => rw [bind_of_ok rfl, bind_of_ok hn, List.append_assoc]

-- A check in two parts comes to a value only if both parts do.
theorem bind_eq_ok_iff {first : Check α} {next : α → Check β} {messages : List Message}
    {value : β} :
    first >>= next = ⟨messages, .ok value⟩ ↔
      ∃ before middle after, first = ⟨before, .ok middle⟩ ∧ next middle = ⟨after, .ok value⟩ ∧
        messages = before ++ after := by
  constructor
  · intro h
    cases hr : first.result with
    | error halt => simp [bind_of_error hr] at h
    | ok middle =>
        rw [bind_of_ok hr] at h
        obtain ⟨hm, hv⟩ := Check.mk.inj h
        exact ⟨first.messages, middle, (next middle).messages, by rw [← hr], by rw [← hv], hm.symm⟩
  · rintro ⟨before, middle, after, rfl, hn, rfl⟩
    rw [bind_of_ok rfl, hn]

theorem pure_eq_ok_iff {value other : α} {messages : List Message} :
    (pure value : Check α) = ⟨messages, .ok other⟩ ↔ messages = [] ∧ value = other := by
  change (⟨[], .ok value⟩ : Check α) = _ ↔ _
  simp only [Check.mk.injEq, Except.ok.injEq]
  exact and_congr_left fun _ => eq_comm

-- Without the demand to stop, a report never ends a check.
theorem report_false (message : Message) : report false message = ⟨[message], .ok ()⟩ := rfl

end Check

/-! Checks that differ in where they stop -/

-- A relation between checks with two answers to whether they stop at errors. It
-- holds of what checks are made of, and is kept when checks are put together.
structure Check.Congruence (R : ∀ {α : Type}, Check α → Check α → Prop) (stops stops' : Bool) :
    Prop where
  pure : ∀ {α : Type} (value : α), R (Pure.pure value) (Pure.pure value)
  report : ∀ message, R (Check.report stops message) (Check.report stops' message)
  fault : ∀ {α : Type} (fault : Rule.Fault),
    R (Check.halt (α := α) (.fault fault)) (Check.halt (.fault fault))
  bind : ∀ {α β : Type} {first other : Check α} {next after : α → Check β},
    R first other → (∀ value, R (next value) (after value)) → R (first >>= next) (other >>= after)

-- The check of the rows that follow each other from a line on.
def Checker.sweep (checker : Checker) (schema : Schema) (line : Nat) (tracks : List Track) :
    List Csv.Row → Check (List Track)
  | [] => return tracks
  | row :: rows => do
    let after ← checker.checkRow schema line tracks row
    checker.sweep schema (line + 1) after rows

namespace Checker

section Congruence

variable {R : ∀ {α : Type}, Check α → Check α → Prop} {checker : Checker} {failFast : Bool}
  (hR : Check.Congruence R checker.failFast failFast)

include hR

-- The checks of two checkers are put together in the same way. What relates
-- their reports therefore relates the checks of whole tables.
theorem checkRule_related (context : Rule.Context) (cell : Cell) (rule : Rule)
    (memory : Rule.Memory) :
    R (checker.checkRule context cell rule memory)
      ({ checker with failFast }.checkRule context cell rule memory) := by
  simp only [checkRule]
  split
  · exact hR.fault _
  · split
    · exact hR.bind (hR.report _) fun _ => hR.pure _
    · exact hR.pure _

theorem checkRules_related (context : Rule.Context) (cell : Cell)
    (rules : List (Rule × Rule.Memory)) :
    R (checker.checkRules context cell rules)
      ({ checker with failFast }.checkRules context cell rules) := by
  induction rules with
  | nil => exact hR.pure _
  | cons first rest ih =>
      exact hR.bind (checkRule_related hR context cell first.1 first.2) fun _ =>
        hR.bind ih fun _ => hR.pure _

theorem checkCell_related (context : Rule.Context) (line : Nat) (track : Track) (value : String) :
    R (checker.checkCell context line track value)
      ({ checker with failFast }.checkCell context line track value) := by
  simp only [checkCell]
  split
  · exact hR.pure _
  · exact hR.bind (checkRules_related hR context _ _) fun _ => hR.pure _

theorem checkCells_related (names : List String) (row : Csv.Row) (line : Nat) (tracks : List Track)
    (values : List String) :
    R (checker.checkCells names row line tracks values)
      ({ checker with failFast }.checkCells names row line tracks values) := by
  induction tracks generalizing values with
  | nil => exact hR.pure _
  | cons track tracks ih =>
      cases values with
      | nil => exact hR.pure _
      | cons value values =>
          exact hR.bind (checkCell_related hR _ line track value) fun _ =>
            hR.bind (ih values) fun _ => hR.pure _

theorem checkRow_related (schema : Schema) (line : Nat) (tracks : List Track) (row : Csv.Row) :
    R (checker.checkRow schema line tracks row)
      ({ checker with failFast }.checkRow schema line tracks row) := by
  simp only [checkRow]
  split
  · exact hR.bind (hR.report _) fun _ => hR.pure _
  · exact checkCells_related hR _ row line tracks row

theorem sweep_related (schema : Schema) (line : Nat) (tracks : List Track) (rows : List Csv.Row) :
    R (checker.sweep schema line tracks rows)
      ({ checker with failFast }.sweep schema line tracks rows) := by
  induction rows generalizing line tracks with
  | nil => exact hR.pure _
  | cons row rows ih =>
      exact hR.bind (checkRow_related hR schema line tracks row) fun after =>
        ih (line + 1) after

end Congruence

end Checker

end TableSchema
