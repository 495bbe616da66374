import TableSchema.Proofs.Log.History

namespace TableSchema.Log.Registry

/-! Applying a level -/

-- What comes of applying a level. A name is checked before it is kept. Without one, the level
-- that was applied is given up before the variable is looked at.
inductive Sets (registry : Registry) : Option String → Except Level.Fault Unit × Registry → Prop
  | refused {name : String} {fault : Level.Fault} (hne : name ≠ "")
      (h : Level.named name = .error fault) : Sets registry (some name) (.error fault, registry)
  | applied {name : String} {current : Level} (hne : name ≠ "")
      (h : Level.named name = .ok current) :
      Sets registry (some name)
        (.ok (), { registry with applied := some current }.setLoggers current)
  | abandoned {level : Option String} {fault : Level.Fault} (hnone : ¬IsNamed level)
      (h : { registry with applied := none }.resolve none = .error fault) :
      Sets registry level (.error fault, { registry with applied := none })
  | released {level : Option String} {current : Level} (hnone : ¬IsNamed level)
      (h : { registry with applied := none }.resolve none = .ok current) :
      Sets registry level (.ok (), { registry with applied := none }.setLoggers current)

theorem sets_setLevel (registry : Registry) (level : Option String) :
    registry.Sets level (registry.setLevel level) := by
  cases hname : level.filter fun name => !name.isEmpty with
  | none =>
      have hnone := (filter_eq_none_iff level).mp hname
      simp only [setLevel, hname, refresh]
      cases hresolve : { registry with applied := none }.resolve none with
      | error fault => exact .abandoned hnone hresolve
      | ok current => exact .released hnone hresolve
  | some name =>
      obtain ⟨rfl, hne⟩ := filter_eq_some_iff.mp hname
      simp only [setLevel, hname]
      cases hlevel : Level.named name with
      | error fault => exact .refused hne hlevel
      | ok current => exact .applied hne hlevel

theorem resolve_setLoggers (registry : Registry) (current : Level) (level : Option String) :
    (registry.setLoggers current).resolve level = registry.resolve level :=
  resolve_congr rfl rfl level

theorem level_setLoggers {registry : Registry} {name : String} (current : Level)
    (hpackage : isOfPackage name = true) (hthere : (registry.loggers.lookup name).isSome = true) :
    ((registry.setLoggers current).logger name).level = current := by
  obtain ⟨logger, hlogger⟩ := Option.isSome_iff_exists.mp hthere
  have hlookup : (registry.setLoggers current).loggers.lookup name =
      some { logger with level := current } := by
    rw [setLoggers, lookup_map_change fun found old =>
      if isOfPackage found then { old with level := current } else old, hlogger, Option.map_some,
      if_pos hpackage]
  rw [Registry.logger, hlookup, Option.getD_some]

/-! The level that counts -/

-- A level counts: the loggers of the package have it, and a logger that is configured without a
-- level of its own gets it, up to the next change.
structure Counts (registry : Registry) (current : Level) : Prop where
  resolved : registry.resolve none = .ok current
  existing : ∀ name, isOfPackage name = true → (registry.loggers.lookup name).isSome = true →
    (registry.logger name).level = current
  later : ∀ actions : List Action, (∀ action ∈ actions, action.isConfigure = true) →
    ∀ request : Request, ¬IsNamed request.level →
      ∃ logger, ((registry.performAll actions).answer request).1 = .ok logger ∧
        logger.level = current

theorem counts_setLoggers {registry : Registry} {current : Level}
    (h : registry.resolve none = .ok current) : (registry.setLoggers current).Counts current := by
  have hresolved := (resolve_setLoggers registry current none).trans h
  refine ⟨hresolved, fun name hpackage hthere => ?_, fun actions hactions request hlevel => ?_⟩
  · rw [setLoggers, lookup_map_change fun found old =>
      if isOfPackage found then { old with level := current } else old, Option.isSome_map] at hthere
    exact level_setLoggers current hpackage hthere
  · have hrequest : ((registry.setLoggers current).performAll actions).resolve request.level =
        .ok current := by
      rw [resolve_of_not_isNamed hlevel, resolve_performAll_of_isConfigure _ hactions, hresolved]
    rw [answer_of_ok hrequest]
    exact ⟨_, rfl, level_outfitted _ _⟩

theorem resolve_of_ne {name : String} (hne : name ≠ "") (registry : Registry) :
    registry.resolve (some name) = Level.named name := by
  simp only [resolve, filter_eq_some_iff.mpr ⟨rfl, hne⟩]

-- A call fails if the level that it is to lead to is unknown. It leaves all loggers as they are
-- then, but the applied level only if it was given a level or if none was applied before. After a
-- call that does not fail, a level counts.
theorem setLevel_atomic_iff (start : Registry) (history : List Action) (level : Option String) :
    let registry := start.performAll history
    let result := (registry.setLevel level).1
    let after := (registry.setLevel level).2
    result = ({ registry with applied := none }.resolve level).map (fun _ => ()) ∧
      (∀ fault, result = .error fault →
        after.loggers = registry.loggers ∧
          (after.applied = registry.applied ↔ IsNamed level ∨ registry.applied = none)) ∧
      (result = .ok () →
        after.loggers.map Prod.fst = registry.loggers.map Prod.fst ∧
          ∃ current, after.Counts current) := by
  intro registry
  dsimp only
  have hsets := registry.sets_setLevel level
  generalize registry.setLevel level = outcome at hsets ⊢
  cases hsets with
  | @refused name fault hne h =>
      refine ⟨?_, fun _ _ => ⟨rfl, iff_of_true rfl (.inl ⟨name, rfl, hne⟩)⟩, nofun⟩
      rw [resolve_of_ne hne, h]
      rfl
  | @applied name current hne h =>
      refine ⟨?_, nofun, fun _ => ⟨?_, current, counts_setLoggers rfl⟩⟩
      · rw [resolve_of_ne hne, h]
        rfl
      · simp [setLoggers, Function.comp_def]
  | @abandoned _ fault hnone h =>
      refine ⟨?_, fun _ _ => ⟨rfl, ?_⟩, nofun⟩
      · rw [resolve_of_not_isNamed hnone, h]
        rfl
      · rw [eq_comm]
        exact ⟨.inr, fun hor => hor.resolve_left hnone⟩
  | @released _ current hnone h =>
      refine ⟨?_, nofun, fun _ => ⟨?_, current, counts_setLoggers h⟩⟩
      · rw [resolve_of_not_isNamed hnone, h]
        rfl
      · simp [setLoggers, Function.comp_def]

-- A level is applied, and the variable is set to one that is unknown.
def strayHistory : List Action :=
  [.apply (some "error"), .configure { name := "csv_schema_validator.a", hasHandlers := false },
    .setVariable (some "loud")]

-- To give up the level fails, and the level is gone even so.
theorem setLevel_not_atomic_of_strayHistory :
    let registry := (initial none).performAll strayHistory
    (registry.setLevel none).1 = .error ⟨"LOUD"⟩ ∧ registry.applied = some .error ∧
      (registry.setLevel none).2.applied = none := by
  decide +kernel

-- Another level in place of it can be applied.
theorem setLevel_atomic_iff_of_strayHistory :
    let registry := (initial none).performAll strayHistory
    let after := (registry.setLevel (some "Debug")).2
    (registry.setLevel (some "Debug")).1 = .ok () ∧
      after.loggers.map Prod.fst = ["csv-schema-validator", "csv_schema_validator.a"] ∧
      ∃ current, after.Counts current := by
  intro registry after
  have hreturns : (registry.setLevel (some "Debug")).1 = .ok () := by decide +kernel
  obtain ⟨-, -, hcounts⟩ := setLevel_atomic_iff (initial none) strayHistory (some "Debug")
  have hnames : after.loggers.map Prod.fst = registry.loggers.map Prod.fst := (hcounts hreturns).1
  exact ⟨hreturns, hnames.trans (by decide +kernel), (hcounts hreturns).2⟩

end TableSchema.Log.Registry
