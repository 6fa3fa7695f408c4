import LogTree.Proofs.AbortedCalls
import LogTree.Proofs.HandlerLists

/-!
The records that handlers are handed in a run, one after another. Where all that comes to a part of
the outputs is what handlers add to it, that part is the history of what they were handed.
-/

namespace LogTree

/-- A record that was handed to a handler. -/
structure Dispatch where
  handler : Handler
  record : Record
deriving DecidableEq

namespace Session

/-- The records that a command hands to handlers. The last of them may have aborted the call. -/
def dispatches (session : Session) : Command → List Dispatch
  | .target target (.log submission message thread) =>
      match session.resolve target with
      | (_, .error _) => []
      | (resolved, .ok outlet) =>
          let draft : Draft := { message, thread, moment := resolved.moment }
          (resolved.submit outlet submission draft).invoked.map fun handler =>
            { handler, record := resolved.recordOf outlet submission draft }
  | _ => []

def runDispatches (session : Session) : List Command → List Dispatch
  | [] => []
  | command :: rest => session.dispatches command ++ (session.step command).1.runDispatches rest

end Session

/-- All that records come to in a part of the outputs is what handlers of some kind add to it when
they are handed one, whether they abort the call or not. -/
structure Gathers {α : Type} (read : Outputs → List α) (adds : Handler → Record → List α)
    (kind : Handler → Prop) : Prop where
  read_handle : ∀ outputs handler record, kind handler →
    read (outputs.handle handler record).outputs = read outputs ++ adds handler record
  read_lastResort : ∀ outputs record, read (outputs.lastResort record).outputs = read outputs

namespace Delivery

/-- The handlers that a record is handed to are the first ones of those that accept it. -/
theorem exists_invoked_foldl_offer (delivery : Delivery) (record : Record)
    (handlers : List Handler) :
    ∃ taken, taken <+: handlers.filter (Handler.accepts · record.level) ∧
      (handlers.foldl (Delivery.offer · record ·) delivery).invoked =
        delivery.invoked ++ taken := by
  induction handlers generalizing delivery with
  | nil => exact ⟨[], List.prefix_rfl, (List.append_nil _).symm⟩
  | cons handler rest ih =>
      rcases haborted : delivery.aborted with _ | _
      · obtain ⟨taken, hprefix, hinvoked⟩ := ih (delivery.offer record handler)
        rw [List.foldl_cons, hinvoked]
        rcases haccepts : handler.accepts record.level with _ | _
        · rw [List.filter_cons, haccepts, if_neg Bool.false_ne_true,
            offer_of_not_accepts haborted haccepts]
          exact ⟨taken, hprefix, rfl⟩
        · rw [List.filter_cons, haccepts, if_pos rfl, offer_of_accepts haborted haccepts]
          exact ⟨handler :: taken, (List.prefix_cons_inj handler).mpr hprefix,
            List.append_assoc _ [handler] taken⟩
      · rw [foldl_offer_of_aborted haborted]
        exact ⟨[], List.nil_prefix, (List.append_nil _).symm⟩

end Delivery

namespace Gathers

variable {α : Type} {read : Outputs → List α} {adds : Handler → Record → List α}
  {kind : Handler → Prop} (h : Gathers read adds kind)

include h

theorem read_foldl_offer {handlers : List Handler} (hkind : ∀ handler ∈ handlers, kind handler)
    (record : Record) (delivery : Delivery) :
    ∃ invoked, (handlers.foldl (Delivery.offer · record ·) delivery).invoked =
        delivery.invoked ++ invoked ∧
      read (handlers.foldl (Delivery.offer · record ·) delivery).outputs =
        read delivery.outputs ++ invoked.flatMap (adds · record) := by
  induction handlers generalizing delivery with
  | nil => exact ⟨[], by simp⟩
  | cons handler rest ih =>
      obtain ⟨hfirst, hrest⟩ := List.forall_mem_cons.mp hkind
      obtain ⟨invoked, hinvoked, hread⟩ := ih hrest (delivery.offer record handler)
      rw [List.foldl_cons, hinvoked, hread]
      rcases haborted : delivery.aborted with _ | _
      · rcases haccepts : handler.accepts record.level with _ | _
        · rw [Delivery.offer_of_not_accepts haborted haccepts]
          exact ⟨invoked, rfl, rfl⟩
        · rw [Delivery.offer_of_accepts haborted haccepts]
          refine ⟨handler :: invoked, by simp, ?_⟩
          rw [h.read_handle _ _ _ hfirst, List.flatMap_cons, List.append_assoc]
      · rw [Delivery.offer_of_aborted haborted]
        exact ⟨invoked, rfl, rfl⟩

theorem read_finish (delivery : Delivery) (record : Record) :
    read (delivery.finish record).outputs = read delivery.outputs := by
  rw [Delivery.finish]
  split
  · exact h.read_lastResort delivery.outputs record
  · rfl

theorem read_emit {registry : Registry} {id : LoggerId}
    (hkind : ∀ handler ∈ registry.passed id, kind handler) {level : Level}
    {failure : Option Failure} {draft : Draft} {record : Record}
    (hrecord : Record.ofDraft (registry.name id) level failure draft = record)
    (outputs : Outputs) :
    let delivery := registry.emit id level failure draft outputs
    read delivery.outputs = read outputs ++ delivery.invoked.flatMap (adds · record) := by
  intro delivery
  obtain ⟨invoked, hinvoked, hread⟩ := h.read_foldl_offer hkind record { outputs }
  have hemit : delivery =
      ((registry.passed id).foldl (Delivery.offer · record ·) { outputs }).finish record := by
    rw [← Registry.dispatch_eq_foldl_offer, ← hrecord]
    rfl
  rw [hemit, h.read_finish, Delivery.invoked_finish, hinvoked, hread, List.nil_append]

end Gathers

theorem Registry.invoked_emit_prefix (registry : Registry) (id : LoggerId) (level : Level)
    (failure : Option Failure) (draft : Draft) (outputs : Outputs) :
    (registry.emit id level failure draft outputs).invoked <+: registry.accepting id level := by
  obtain ⟨taken, hprefix, hinvoked⟩ := Delivery.exists_invoked_foldl_offer { outputs }
    (.ofDraft (registry.name id) level failure draft) (registry.passed id)
  rw [emit, Delivery.invoked_finish, dispatch_eq_foldl_offer, hinvoked, accepting_eq_filter]
  exact hprefix

namespace Session

theorem submit_cases (session : Session) (outlet : Owned Outlet) (submission : Submission)
    (draft : Draft) :
    session.submit outlet submission draft =
        (session.registry outlet.registry).emit outlet.value.logger submission.level
          submission.failure? draft session.outputs ∨
      session.submit outlet submission draft = { outputs := session.outputs } := by
  cases submission with
  | raw level failure => exact .inl rfl
  | checked call =>
      rw [submit, Outlet.log_eq_ite]
      split
      · exact .inl rfl
      · exact .inr rfl

/-- The record of a call, once for each handler that accepts it on its way. -/
def due (session : Session) (outlet : Owned Outlet) (submission : Submission) (draft : Draft) :
    List Dispatch :=
  let registry := session.registry outlet.registry
  (registry.accepting outlet.value.logger submission.level).map fun handler =>
    { handler, record := session.recordOf outlet submission draft }

section

variable {session resolved : Session} {target : Target} {outlet : Owned Outlet}
  (h : session.resolve target = (resolved, .ok outlet)) (submission : Submission)
  (message : Message) (thread : Option String)

include h

theorem dispatches_log_of_resolve :
    let draft : Draft := { message, thread, moment := resolved.moment }
    session.dispatches (.target target (.log submission message thread)) =
      (resolved.submit outlet submission draft).invoked.map fun handler =>
        { handler, record := resolved.recordOf outlet submission draft } := by
  simp only [dispatches, h]

theorem dispatches_prefix_due :
    session.dispatches (.target target (.log submission message thread)) <+:
      resolved.due outlet submission { message, thread, moment := resolved.moment } := by
  rw [dispatches_log_of_resolve h]
  apply List.IsPrefix.map
  rcases resolved.submit_cases outlet submission
    { message, thread, moment := resolved.moment } with hsubmit | hsubmit
  · rw [hsubmit]
    exact Registry.invoked_emit_prefix _ _ _ _ _ _
  · rw [hsubmit]
    exact List.nil_prefix

/-- A call that goes through its outlet and is not aborted leaves no handler out. -/
theorem dispatches_eq_due {submission : Submission} {message : Message} {thread : Option String}
    (hgoes : ∀ call, submission = .checked call →
      outlet.value.isEnabledFor (resolved.registry outlet.registry) call.level = true)
    {renderings : Nat}
    (hanswer : (session.step (.target target (.log submission message thread))).2 =
      .ok (.logged renderings false)) :
    session.dispatches (.target target (.log submission message thread)) =
      resolved.due outlet submission { message, thread, moment := resolved.moment } := by
  have hemit := submit_eq_emit hgoes { message, thread, moment := resolved.moment }
  rw [step_target_of_resolve h] at hanswer
  injection hanswer with hlogged
  have haborted := (Answer.logged.inj hlogged).2
  rw [hemit] at haborted
  have hinvoked := (Registry.emit_of_noneAborts rfl (Registry.noneAborts_of_emit rfl haborted)).1
  rw [dispatches_log_of_resolve h, hemit, hinvoked]
  rfl

theorem dispatches_eq_nil {call : Call}
    (hstops : outlet.value.isEnabledFor (resolved.registry outlet.registry) call.level = false) :
    session.dispatches (.target target (.log (.checked call) message thread)) = [] := by
  rw [Outlet.isEnabledFor_eq_decide, decide_eq_false_iff_not] at hstops
  rw [dispatches_log_of_resolve h, submit, Outlet.log_eq_ite, if_neg hstops]
  rfl

end

theorem mem_passed_of_resolve {session resolved : Session} {target : Target}
    {result : Except Refusal (Owned Outlet)} (h : session.resolve target = (resolved, result))
    {key : String} {id : LoggerId} {handler : Handler}
    (hpassed : handler ∈ (resolved.registry key).passed id) :
    ∃ place, handler ∈ (session.registry key).handlers place := by
  obtain ⟨place, -, hmem⟩ := List.mem_flatMap.mp hpassed
  have hsettings := session.settings_resolve target key place
  rw [h] at hsettings
  rw [Registry.handlers, hsettings] at hmem
  exact ⟨place, hmem⟩

theorem of_mem_dispatches {session : Session} {command : Command} {dispatch : Dispatch}
    (h : dispatch ∈ session.dispatches command) :
    dispatch.handler.accepts dispatch.record.level = true ∧
      ∃ key id, dispatch.handler ∈ (session.registry key).handlers id := by
  have hcommand : ∃ target submission message thread,
      command = .target target (.log submission message thread) := by
    unfold dispatches at h
    split at h
    · exact ⟨_, _, _, _, rfl⟩
    · cases h
  obtain ⟨target, submission, message, thread, rfl⟩ := hcommand
  rcases hresolve : session.resolve target with ⟨resolved, refusal | outlet⟩
  · simp [dispatches, hresolve] at h
  · have hdue := (dispatches_prefix_due hresolve submission message thread).mem h
    obtain ⟨handler, haccepting, rfl⟩ := List.mem_map.mp hdue
    rw [Registry.accepting_eq_filter] at haccepting
    obtain ⟨hpassed, haccepts⟩ := List.mem_filter.mp haccepting
    exact ⟨haccepts, _, mem_passed_of_resolve hresolve hpassed⟩

theorem dispatches_of_not_touchesOutputs {session : Session} {command : Command}
    (h : command.touchesOutputs = false) : session.dispatches command = [] := by
  unfold dispatches
  split
  · cases h
  · rfl

theorem read_step_log {α : Type} {read : Outputs → List α} {adds : Handler → Record → List α}
    {kind : Handler → Prop} (h : Gathers read adds kind) {session : Session}
    (hkind : ∀ key id, ∀ handler ∈ (session.registry key).handlers id, kind handler)
    (target : Target) (submission : Submission) (message : Message) (thread : Option String) :
    let command := Command.target target (.log submission message thread)
    read (session.step command).1.outputs = read session.outputs ++
      (session.dispatches command).flatMap fun dispatch =>
        adds dispatch.handler dispatch.record := by
  intro command
  have houtputs := outputs_resolve session target
  rcases hresolve : session.resolve target with ⟨resolved, refusal | outlet⟩
  · rw [hresolve] at houtputs
    have hnone : session.dispatches command = [] := by
      simp only [command, dispatches, hresolve]
    rw [hnone, List.flatMap_nil, List.append_nil]
    simp only [command, step, hresolve]
    exact congrArg read houtputs
  · rw [hresolve] at houtputs
    have hstep : (session.step command).1.outputs = (resolved.submit outlet submission
        { message, thread, moment := resolved.moment }).outputs := by
      simp only [command, step_target_of_resolve hresolve]
      rfl
    rw [hstep, dispatches_log_of_resolve hresolve, List.flatMap_map, ← houtputs]
    rcases resolved.submit_cases outlet submission
      { message, thread, moment := resolved.moment } with hsubmit | hsubmit
    · rw [hsubmit]
      apply h.read_emit _ rfl
      intro handler hpassed
      obtain ⟨place, hmem⟩ := mem_passed_of_resolve hresolve hpassed
      exact hkind _ place handler hmem
    · rw [hsubmit]
      exact (List.append_nil _).symm

theorem dispatches_of_call?_eq_none {session : Session} {command : Command}
    (h : session.call? command = none) : session.dispatches command = [] := by
  unfold dispatches
  split
  · next target submission message thread =>
      rcases hresolve : session.resolve target with ⟨resolved, refusal | outlet⟩
      · rfl
      · simp [call?, hresolve] at h
  · rfl

/-- What other commands leave alone grows by what the records come to that a command hands out. -/
theorem read_step {α : Type} {read : Outputs → List α} {adds : Handler → Record → List α}
    {kind : Handler → Prop} (h : Gathers read adds kind) {session : Session}
    (hkind : ∀ key id, ∀ handler ∈ (session.registry key).handlers id, kind handler)
    {command : Command}
    (hother : session.call? command = none →
      read (session.step command).1.outputs = read session.outputs) :
    read (session.step command).1.outputs = read session.outputs ++
      (session.dispatches command).flatMap fun dispatch =>
        adds dispatch.handler dispatch.record := by
  cases hcall : session.call? command with
  | none =>
      rw [dispatches_of_call?_eq_none hcall, hother hcall]
      exact (List.append_nil _).symm
  | some made =>
      unfold call? at hcall
      split at hcall
      · exact read_step_log h hkind _ _ _ _
      · cases hcall

theorem get?_handlers_run {session : Session} {key : String} {handler : Handler}
    (h : session.handlers.get? key = some handler) (commands : List Command) :
    (session.run commands).1.handlers.get? key = some handler := by
  induction commands generalizing session with
  | nil => exact h
  | cons command rest ih => exact ih (get?_handlers_step h command)

theorem isMade_run {session : Session} {handler : Handler}
    (h : handler.IsMade session.handlers) (commands : List Command) :
    handler.IsMade (session.run commands).1.handlers :=
  h.mono fun _ _ hmade => get?_handlers_run hmade commands

theorem exists_of_mem_runDispatches {session : Session} {commands : List Command}
    {dispatch : Dispatch} (h : dispatch ∈ session.runDispatches commands) :
    ∃ before command after, commands = before ++ command :: after ∧
      dispatch ∈ (session.run before).1.dispatches command := by
  induction commands generalizing session with
  | nil => cases h
  | cons command rest ih =>
      rcases List.mem_append.mp h with hfirst | hlater
      · exact ⟨[], command, rest, rfl, hfirst⟩
      · obtain ⟨before, later, after, rfl, hmem⟩ := ih hlater
        exact ⟨command :: before, later, after, rfl, hmem⟩

/-- Records are handed to nothing but handlers that accept them and that have been made in the run
or are standard handlers. -/
theorem of_mem_runDispatches {moment : Moment} {commands : List Command} {dispatch : Dispatch}
    (h : dispatch ∈ runDispatches { moment } commands) :
    dispatch.handler.accepts dispatch.record.level = true ∧
      dispatch.handler.IsMade (run { moment } commands).1.handlers := by
  obtain ⟨before, command, after, rfl, hmem⟩ := exists_of_mem_runDispatches h
  obtain ⟨haccepts, key, id, hattached⟩ := of_mem_dispatches hmem
  refine ⟨haccepts, ?_⟩
  rw [run_append_fst]
  exact isMade_run ((listsHandlers_run moment before).made key id _ hattached) _

end Session

end LogTree
