import TableSchema.Proofs.Table.Reports

namespace TableSchema

namespace Message

-- The messages up to the first error, which is the last one of them. Without an
-- error these are all of them.
def throughFirstError : List Message → List Message
  | [] => []
  | message :: rest => if message.isError then [message] else message :: throughFirstError rest

theorem throughFirstError_append_of_no_error {messages : List Message}
    (h : messages.any isError = false) (rest : List Message) :
    throughFirstError (messages ++ rest) = messages ++ throughFirstError rest := by
  induction messages with
  | nil => rfl
  | cons message messages ih =>
      simp only [List.any_cons, Bool.or_eq_false_iff] at h
      simp [throughFirstError, h.1, ih h.2]

theorem throughFirstError_of_no_error {messages : List Message}
    (h : messages.any isError = false) : throughFirstError messages = messages := by
  have happend := throughFirstError_append_of_no_error h []
  rwa [throughFirstError, List.append_nil] at happend

theorem throughFirstError_append_of_error {messages : List Message}
    (h : messages.any isError = true) (rest : List Message) :
    throughFirstError (messages ++ rest) = throughFirstError messages := by
  induction messages with
  | nil => simp at h
  | cons message messages ih =>
      cases hm : message.isError with
      | true => simp [throughFirstError, hm]
      | false =>
          simp only [List.any_cons, hm, Bool.false_or] at h
          simp [throughFirstError, hm, ih h]

@[simp] theorem any_isError_throughFirstError (messages : List Message) :
    (throughFirstError messages).any isError = messages.any isError := by
  induction messages with
  | nil => rfl
  | cons message messages ih => cases hm : message.isError <;> simp [throughFirstError, hm, ih]

end Message

namespace Check

variable {α β : Type}

-- The check that stops where this one has its first error.
def stoppedAtError (check : Check α) : Check α :=
  if check.messages.any Message.isError then
    ⟨Message.throughFirstError check.messages, .error .firstError⟩
  else check

theorem stoppedAtError_of_error {check : Check α} (h : check.messages.any Message.isError = true) :
    check.stoppedAtError = ⟨Message.throughFirstError check.messages, .error .firstError⟩ := by
  simp only [stoppedAtError, h, if_true]

theorem stoppedAtError_of_no_error {check : Check α}
    (h : check.messages.any Message.isError = false) : check.stoppedAtError = check := by
  simp only [stoppedAtError, h, Bool.false_eq_true, if_false]

theorem messages_stoppedAtError (check : Check α) :
    check.stoppedAtError.messages = Message.throughFirstError check.messages := by
  cases h : check.messages.any Message.isError with
  | true => rw [stoppedAtError_of_error h]
  | false => rw [stoppedAtError_of_no_error h, Message.throughFirstError_of_no_error h]

-- Two checks one after the other stop where the first one stops, and else where
-- the second one does.
theorem stoppedAtError_bind (first : Check α) (next : α → Check β) :
    (first >>= next).stoppedAtError =
      first.stoppedAtError >>= fun value => (next value).stoppedAtError := by
  cases hr : first.result with
  | error halt =>
      rw [bind_of_error hr]
      cases he : first.messages.any Message.isError with
      | true =>
          rw [stoppedAtError_of_error he, bind_of_error rfl]
          simp only [stoppedAtError, he, if_true]
      | false =>
          rw [stoppedAtError_of_no_error he, bind_of_error hr]
          simp only [stoppedAtError, he, Bool.false_eq_true, if_false]
  | ok value =>
      rw [bind_of_ok hr]
      cases he : first.messages.any Message.isError with
      | true =>
          rw [stoppedAtError_of_error he, bind_of_error rfl, stoppedAtError_of_error (by simp [he]),
            Message.throughFirstError_append_of_error he]
      | false =>
          rw [stoppedAtError_of_no_error he, bind_of_ok hr]
          cases hn : (next value).messages.any Message.isError with
          | true =>
              rw [stoppedAtError_of_error hn, stoppedAtError_of_error (by simp [hn]),
                Message.throughFirstError_append_of_no_error he]
          | false =>
              rw [stoppedAtError_of_no_error hn, stoppedAtError_of_no_error (by simp [he, hn])]

theorem stoppedAtError_report (message : Message) :
    (report false message).stoppedAtError = report true message := by
  cases h : message.isError <;>
    simp [report, stoppedAtError, Message.throughFirstError, h]

theorem congruence_stoppedAtError :
    Congruence (fun all fast => fast = all.stoppedAtError) false true where
  pure _ := rfl
  report message := (stoppedAtError_report message).symm
  fault _ := rfl
  bind hfirst hnext := by
    rw [stoppedAtError_bind, hfirst]
    exact congrArg _ (funext hnext)

end Check

namespace Engine

theorem checkFeed_eq_stoppedAtError (engine : Engine) (files : FileTree) (schema : Schema)
    (feed : Feed) :
    let all := ({ engine with failFast := false }.checker files).checkFeed schema feed
    (engine.checker files).checkFeed schema feed =
      if engine.failFast then all.stoppedAtError else all := by
  intro all
  let checker := { engine with failFast := false }.checker files
  obtain ⟨failFast, resolver, results⟩ := engine
  cases failFast with
  | false => rfl
  | true => exact @Checker.checkFeed_related _ checker true Check.congruence_stoppedAtError schema feed

-- A run that stops at the first error reports what the run to the end reports up
-- to its first error. It ends in a fault only if that run does, and has no error
-- before it. Neither run depends on who watches it.
theorem failFast_reports_throughFirstError (engine : Engine) (files : FileTree) (schema : Schema)
    (feed : Feed) (display display' : Option Display) (total total' : Option Int) :
    let all := { engine with failFast := false }.validate files schema feed display total
    let fast := { engine with failFast := true }.validate files schema feed display' total'
    fast.1.messages = Message.throughFirstError all.1.messages ∧
      fast.1.fault = (if all.1.messages.any Message.isError then none else all.1.fault) ∧
      fast.2.passed = all.2.passed := by
  intro all fast
  let checker := { engine with failFast := false }.checker files
  let check := checker.checkFeed schema feed
  have hfast : { checker with failFast := true }.checkFeed schema feed = check.stoppedAtError :=
    @Checker.checkFeed_related _ checker true Check.congruence_stoppedAtError schema feed
  have hall : all.1.messages = check.messages ∧ all.1.fault = Job.faultOf feed.fault check.result :=
    Job.run_eq_checkFeed _ feed
  have hstop : fast.1.messages = check.stoppedAtError.messages ∧
      fast.1.fault = Job.faultOf feed.fault check.stoppedAtError.result := by
    rw [← hfast]
    exact Job.run_eq_checkFeed _ feed
  have hmessages : fast.1.messages = Message.throughFirstError all.1.messages := by
    rw [hstop.1, Check.messages_stoppedAtError, hall.1]
  refine ⟨hmessages, ?_, ?_⟩
  · rw [hstop.2, hall.1, hall.2]
    cases he : check.messages.any Message.isError with
    | true => rw [Check.stoppedAtError_of_error he]; rfl
    | false => rw [Check.stoppedAtError_of_no_error he]; rfl
  · change (!fast.1.messages.any Message.isError) = !all.1.messages.any Message.isError
    rw [hmessages, Message.any_isError_throughFirstError]

end Engine

end TableSchema
