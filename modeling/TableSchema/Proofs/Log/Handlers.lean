import TableSchema.Proofs.Log.History

namespace TableSchema.Log

namespace Logger

-- Each record is put out once, by those who take the records of the logger or by the one
-- handler that it has.
def OutputsOnce (logger : Logger) : Prop :=
  logger.propagates = true ∧ logger.handlers = 0 ∨ logger.propagates = false ∧ logger.handlers = 1

instance (logger : Logger) : Decidable logger.OutputsOnce :=
  inferInstanceAs (Decidable (_ ∨ _))

-- How a logger is left by calls that configured it. For each call `owners` says whether the
-- application had handlers of its own.
structure OutfittedBy (owners : List Bool) (logger : Logger) : Prop where
  handlers_eq : logger.handlers = if false ∈ owners then 1 else 0
  propagates_iff : owners ≠ [] →
    (logger.propagates = true ↔ false ∉ owners ∨ [false, true].Sublist owners)

theorem pair_sublist_concat_iff (owners : List Bool) (owner : Bool) :
    [false, true].Sublist (owners ++ [owner]) ↔
      [false, true].Sublist owners ∨ owner = true ∧ false ∈ owners := by
  constructor
  · intro h
    obtain ⟨front, back, heq, hfront, hback⟩ := List.sublist_append_iff.mp h
    rcases List.sublist_singleton.mp hback with rfl | rfl
    · rw [List.append_nil] at heq
      exact .inl (heq ▸ hfront)
    · obtain ⟨rfl, hlast⟩ := List.append_inj' (show [false] ++ [true] = front ++ [owner] from heq) rfl
      exact .inr ⟨(List.singleton_inj.mp hlast).symm, List.singleton_sublist.mp hfront⟩
  · rintro (h | ⟨rfl, h⟩)
    · exact h.trans (List.sublist_append_left _ _)
    · exact (List.singleton_sublist.mpr h).append (.refl [true])

namespace OutfittedBy

variable {owners : List Bool} {logger : Logger}

-- One more call. A logger without a handler gets one if the application has none, and keeps
-- it when the application takes the records.
theorem concat (h : OutfittedBy owners logger) (level : Level) (owner : Bool) :
    OutfittedBy (owners ++ [owner]) (Registry.outfitted { logger with level } owner) := by
  have hmem : false ∈ owners ++ [owner] ↔ false ∈ owners ∨ owner = false := by
    simp [eq_comm]
  cases owner with
  | true =>
      constructor
      · simp only [Registry.outfitted, hmem, h.handlers_eq, if_true]
        simp
      · intro _
        simp only [Registry.outfitted, pair_sublist_concat_iff, hmem]
        tauto
  | false =>
      by_cases hown : false ∈ owners
      · have hhandlers : logger.handlers = 1 := by rw [h.handlers_eq, if_pos hown]
        have hkept : Registry.outfitted { logger with level } false = { logger with level } := by
          simp [Registry.outfitted, hhandlers]
        rw [hkept]
        constructor
        · simp [hhandlers]
        · intro _
          have hbefore := h.propagates_iff (List.ne_nil_of_mem hown)
          simp only [pair_sublist_concat_iff, hmem]
          tauto
      · have hhandlers : logger.handlers = 0 := by rw [h.handlers_eq, if_neg hown]
        have hnone : ¬[false, true].Sublist owners := fun hpair => hown (hpair.subset (by simp))
        have hgiven : Registry.outfitted { logger with level } false =
            { level, handlers := 1, propagates := false } := by
          simp [Registry.outfitted, hhandlers]
        rw [hgiven]
        constructor
        · simp
        · intro _
          simp [pair_sublist_concat_iff, hnone]

theorem outputsOnce_iff (h : OutfittedBy owners logger) (hne : owners ≠ []) :
    logger.OutputsOnce ↔ ¬[false, true].Sublist owners := by
  have hpropagates := h.propagates_iff hne
  have hsubset : [false, true].Sublist owners → false ∈ owners := fun hpair =>
    hpair.subset (by simp)
  rw [OutputsOnce, h.handlers_eq, ← Bool.not_eq_true, hpropagates]
  by_cases hown : false ∈ owners
  · simp [hown]
  · simp [hown]
    tauto

end OutfittedBy

end Logger

namespace Registry

open Logger

-- The calls for a logger, each with whether the application had handlers of its own.
def owners (name : String) (requests : List Request) : List Bool :=
  (requests.filter fun request => request.name = name).map Request.hasHandlers

theorem owners_concat (name : String) (requests : List Request) (request : Request) :
    owners name (requests ++ [request]) =
      if request.name = name then owners name requests ++ [request.hasHandlers]
      else owners name requests := by
  by_cases hname : request.name = name
  · simp [owners, List.filter_append, hname]
  · simp [owners, List.filter_append, hname]

-- The calls for other loggers are not seen.
theorem outfittedBy_performAll {start : Registry} {requests : List Request} {name : String}
    (hbare : (start.logger name).handlers = 0)
    (hvalid : ∀ request ∈ requests, ∃ level, start.resolve request.level = .ok level) :
    OutfittedBy (owners name requests)
      ((start.performAll (requests.map .configure)).logger name) := by
  induction requests using List.reverseRecOn with
  | nil => exact ⟨hbare, fun hne => absurd rfl hne⟩
  | append_singleton requests request ih =>
      obtain ⟨hbefore, hlast⟩ := List.forall_mem_append.mp hvalid
      obtain ⟨level, hlevel⟩ := hlast request List.mem_cons_self
      have hresolve := (start.resolve_performAll_requests requests request.level).trans hlevel
      rw [List.map_append, performAll_append, owners_concat]
      change OutfittedBy _ (((start.performAll (requests.map .configure)).answer request).2.logger name)
      rw [answer_of_ok hresolve, logger_put]
      by_cases hname : request.name = name
      · subst hname
        rw [if_pos rfl, if_pos rfl]
        exact (ih hbefore).concat level request.hasHandlers
      · rw [if_neg hname, if_neg (Ne.symm hname)]
        exact ih hbefore

-- A logger puts out each record once exactly if no call for it that finds handlers of the
-- application comes behind one that finds none. In a call that finds some, the logger leaves its
-- records to the application, and has no handler of its own exactly if no call found none.
theorem configure_outputsOnce_iff {start : Registry} {requests : List Request} {request : Request}
    (hbare : (start.logger request.name).handlers = 0)
    (hvalid : ∀ call ∈ requests ++ [request], ∃ level, start.resolve call.level = .ok level) :
    let owners := owners request.name (requests ++ [request])
    ∃ logger, ((start.performAll (requests.map .configure)).answer request).1 = .ok logger ∧
      (logger.OutputsOnce ↔ ¬[false, true].Sublist owners) ∧
      (request.hasHandlers = true →
        logger.propagates = true ∧ (logger.handlers = 0 ↔ false ∉ owners)) := by
  obtain ⟨hbefore, hlast⟩ := List.forall_mem_append.mp hvalid
  obtain ⟨level, hlevel⟩ := hlast request List.mem_cons_self
  have hresolve := (start.resolve_performAll_requests requests request.level).trans hlevel
  have hafter := (outfittedBy_performAll hbare hbefore).concat level request.hasHandlers
  rw [owners_concat, if_pos rfl, answer_of_ok hresolve]
  refine ⟨_, rfl, hafter.outputsOnce_iff (by simp), fun hhandlers => ⟨?_, ?_⟩⟩
  · rw [outfitted, if_pos hhandlers]
  · rw [hafter.handlers_eq]
    simp

-- The application has handlers of its own from the last call on.
def lateHandlers : List Request :=
  [{ name := "csv_schema_validator.a", hasHandlers := false },
    { name := "csv_schema_validator.b", level := some "info", hasHandlers := false }]

def lateRequest : Request where
  name := "csv_schema_validator.a"
  hasHandlers := true

-- Its records are put out twice then.
theorem configure_not_outputsOnce_of_lateHandlers :
    ∃ logger, (((initial none).performAll (lateHandlers.map .configure)).answer lateRequest).1 =
        .ok logger ∧
      logger = { level := .warning, handlers := 1, propagates := true } ∧ ¬logger.OutputsOnce :=
  ⟨{ level := .warning, handlers := 1, propagates := true }, by decide +kernel, rfl, by decide⟩

theorem configure_outputsOnce_iff_of_lateHandlers :
    ((initial none).logger lateRequest.name).handlers = 0 ∧
      (∀ call ∈ lateHandlers ++ [lateRequest],
        ∃ level, (initial none).resolve call.level = .ok level) ∧
      owners lateRequest.name (lateHandlers ++ [lateRequest]) = [false, true] ∧
      ∃ logger, (((initial none).performAll (lateHandlers.map .configure)).answer lateRequest).1 =
          .ok logger ∧
        (logger.OutputsOnce ↔ ¬[false, true].Sublist [false, true]) ∧
        (lateRequest.hasHandlers = true →
          logger.propagates = true ∧ (logger.handlers = 0 ↔ false ∉ [false, true])) := by
  have hbare : ((initial none).logger lateRequest.name).handlers = 0 := by decide +kernel
  have hvalid : ∀ call ∈ lateHandlers ++ [lateRequest],
      ∃ level, (initial none).resolve call.level = .ok level := by
    simp only [lateHandlers, List.cons_append, List.nil_append, List.forall_mem_cons]
    exact ⟨⟨.warning, rfl⟩, ⟨.info, by decide +kernel⟩, ⟨.warning, rfl⟩, List.forall_mem_nil _⟩
  have howners : owners lateRequest.name (lateHandlers ++ [lateRequest]) = [false, true] := by
    decide +kernel
  have hresult := configure_outputsOnce_iff hbare hvalid
  rw [howners] at hresult
  exact ⟨hbare, hvalid, howners, hresult⟩

end Registry

end TableSchema.Log
