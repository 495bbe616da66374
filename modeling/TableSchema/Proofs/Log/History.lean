import Mathlib
import TableSchema.Log.Registry

namespace TableSchema.Log

-- A call to configure a logger, and whether the application has handlers of its own then.
structure Request where
  name : String
  level : Option String := none
  hasHandlers : Bool
  deriving DecidableEq

-- What happens to the loggers: a level is applied, a logger is configured, or the variable of
-- the environment is set or removed.
inductive Action
  | apply (level : Option String)
  | configure (request : Request)
  | setVariable (text : Option String)
  deriving DecidableEq

def Action.isConfigure : Action → Bool
  | .configure _ => true
  | _ => false

-- An empty name of a level counts as none.
def IsNamed (level : Option String) : Prop :=
  ∃ name, level = some name ∧ name ≠ ""

namespace Registry

def answer (registry : Registry) (request : Request) : Except Level.Fault Logger × Registry :=
  registry.configure request.name request.level request.hasHandlers

def perform (registry : Registry) : Action → Registry
  | .apply level => (registry.setLevel level).2
  | .configure request => (registry.answer request).2
  | .setVariable text => { registry with setting := text }

def performAll (registry : Registry) (actions : List Action) : Registry :=
  actions.foldl perform registry

theorem performAll_cons (registry : Registry) (action : Action) (actions : List Action) :
    registry.performAll (action :: actions) = (registry.perform action).performAll actions :=
  rfl

theorem performAll_append (registry : Registry) (front actions : List Action) :
    registry.performAll (front ++ actions) = (registry.performAll front).performAll actions :=
  List.foldl_append

/-! Names of levels -/

theorem filter_eq_none_iff (level : Option String) :
    (level.filter fun name => !name.isEmpty) = none ↔ ¬IsNamed level := by
  cases level with
  | none => simp [IsNamed]
  | some name => simp [IsNamed, Option.filter_some]

theorem filter_eq_some_iff {level : Option String} {name : String} :
    (level.filter fun name => !name.isEmpty) = some name ↔ level = some name ∧ name ≠ "" := by
  simp [Option.filter_eq_some_iff]

-- What is resolved depends on the applied level and on the variable only.
theorem resolve_congr {registry other : Registry} (happlied : other.applied = registry.applied)
    (hsetting : other.setting = registry.setting) (level : Option String) :
    other.resolve level = registry.resolve level := by
  simp only [resolve, happlied, hsetting]

theorem resolve_of_not_isNamed {level : Option String} (h : ¬IsNamed level) (registry : Registry) :
    registry.resolve level = registry.resolve none := by
  simp only [resolve, (filter_eq_none_iff level).mpr h]
  rfl

/-! Loggers by name -/

-- Loggers that are changed under their names.
theorem lookup_map_change (change : String → Logger → Logger) (loggers : List (String × Logger))
    (name : String) :
    (loggers.map fun (found, old) => (found, change found old)).lookup name =
      (loggers.lookup name).map (change name) := by
  induction loggers with
  | nil => rfl
  | cons entry loggers ih =>
      obtain ⟨found, old⟩ := entry
      by_cases hname : name = found
      · subst hname
        simp
      · have hne : (name == found) = false := beq_eq_false_iff_ne.mpr hname
        simp only [List.map_cons, List.lookup_cons, hne, ih]

theorem lookup_put (registry : Registry) (name other : String) (logger : Logger) :
    (registry.put name logger).loggers.lookup other =
      if other = name then some logger else registry.loggers.lookup other := by
  rw [put]
  split
  · rename_i hthere
    obtain ⟨old, hold⟩ := Option.isSome_iff_exists.mp hthere
    rw [lookup_map_change fun found old => if found = name then logger else old]
    by_cases hname : other = name
    · simp [hname, hold]
    · simp [hname]
  · rename_i hmissing
    have hnone := Option.not_isSome_iff_eq_none.mp hmissing
    by_cases hname : other = name
    · subst hname
      simp [List.lookup_append, hnone]
    · have hne : (other == name) = false := beq_eq_false_iff_ne.mpr hname
      simp [List.lookup_append, List.lookup_cons, hne, hname]

theorem logger_put (registry : Registry) (name other : String) (logger : Logger) :
    (registry.put name logger).logger other =
      if other = name then logger else registry.logger other := by
  rw [Registry.logger, lookup_put, apply_ite (Option.getD · Logger.fresh)]
  rfl

theorem applied_put (registry : Registry) (name : String) (logger : Logger) :
    (registry.put name logger).applied = registry.applied := by
  rw [put]
  split <;> rfl

theorem setting_put (registry : Registry) (name : String) (logger : Logger) :
    (registry.put name logger).setting = registry.setting := by
  rw [put]
  split <;> rfl

/-! Configuring a logger -/

theorem answer_of_error {registry : Registry} {request : Request} {fault : Level.Fault}
    (h : registry.resolve request.level = .error fault) :
    registry.answer request =
      (.error fault, registry.put request.name (registry.logger request.name)) := by
  simp only [answer, configure, h]

theorem answer_of_ok {registry : Registry} {request : Request} {level : Level}
    (h : registry.resolve request.level = .ok level) :
    let logger := outfitted { registry.logger request.name with level } request.hasHandlers
    registry.answer request = (.ok logger, registry.put request.name logger) := by
  simp only [answer, configure, h]

theorem level_outfitted (logger : Logger) (hasHandlers : Bool) :
    (outfitted logger hasHandlers).level = logger.level := by
  simp only [outfitted]
  split
  · rfl
  · split <;> rfl

-- To configure a logger changes nothing that levels are resolved from.
theorem resolve_perform_configure (registry : Registry) (request : Request)
    (level : Option String) :
    (registry.perform (.configure request)).resolve level = registry.resolve level := by
  cases hresolve : registry.resolve request.level with
  | error fault =>
      rw [perform, answer_of_error hresolve]
      exact resolve_congr (applied_put _ _ _) (setting_put _ _ _) level
  | ok found =>
      rw [perform, answer_of_ok hresolve]
      exact resolve_congr (applied_put _ _ _) (setting_put _ _ _) level

theorem resolve_performAll_of_isConfigure (registry : Registry) {actions : List Action}
    (h : ∀ action ∈ actions, action.isConfigure = true) (level : Option String) :
    (registry.performAll actions).resolve level = registry.resolve level := by
  induction actions generalizing registry with
  | nil => rfl
  | cons action actions ih =>
      obtain ⟨hfirst, hothers⟩ := List.forall_mem_cons.mp h
      rw [performAll_cons, ih _ hothers]
      cases action with
      | apply level => cases hfirst
      | setVariable text => cases hfirst
      | configure request => exact resolve_perform_configure registry request level

theorem resolve_performAll_requests (registry : Registry) (requests : List Request)
    (level : Option String) :
    (registry.performAll (requests.map .configure)).resolve level = registry.resolve level := by
  have hconfigure : ∀ action ∈ requests.map Action.configure, action.isConfigure = true :=
    List.forall_mem_map.mpr fun _ _ => rfl
  exact resolve_performAll_of_isConfigure registry hconfigure level

end Registry

end TableSchema.Log
