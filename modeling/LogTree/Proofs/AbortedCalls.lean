import LogTree.Proofs.CallAdditions
import LogTree.Proofs.LockedSteps

namespace LogTree

def Submission.failure? : Submission → Option Failure
  | .checked call => call.failure?
  | .raw _ failure => failure

namespace Outputs

theorem outputs_handle_of_aborted {outputs : Outputs} {handler : Handler} {record : Record}
    (h : (outputs.handle handler record).aborted = true) :
    (outputs.handle handler record).outputs = outputs ∨
      (outputs.handle handler record).outputs =
        { outputs with aborted := outputs.aborted ++ [handler.id] } := by
  obtain ⟨id, threshold, destination⟩ := handler
  cases hmessage : record.message with
  | failing =>
      cases destination with
      | tally key => cases h
      | _ => exact .inl (by simp [handle, rendering, hmessage])
  | text text =>
      cases destination with
      | stream sink layout fault =>
          simp only [handle, rendering, hmessage, write] at h ⊢
          split at h
          · next habort => exact .inr (by rw [if_pos habort])
          · cases h
      | _ => simp [handle, rendering, hmessage] at h

end Outputs

namespace Registry

theorem emit_of_aborts {registry : Registry} {id : LoggerId} {level : Level}
    {failure : Option Failure} {draft : Draft} {outputs : Outputs} {record : Record}
    {before after : List Handler} {handler : Handler}
    (hrecord : Record.ofDraft (registry.name id) level failure draft = record)
    (haccepting : registry.accepting id level = before ++ handler :: after)
    (hnone : outputs.NoneAborts record before)
    (haborts : ((outputs.handleAll record before).handle handler record).aborted = true) :
    let delivery := registry.emit id level failure draft outputs
    delivery.invoked = before ++ [handler] ∧ delivery.aborted = true ∧
      delivery.outputs = ((outputs.handleAll record before).handle handler record).outputs := by
  have hlevel : record.level = level := by
    rw [← hrecord]
    rfl
  rw [accepting_eq_filter, ← hlevel] at haccepting
  -- All handlers on the way, split at the one that aborts. Between it and the last one before it
  -- there may be handlers that do not accept the level.
  obtain ⟨first, second, hpassed, hbefore, hrest⟩ := List.filter_eq_append_iff.mp haccepting
  obtain ⟨skipped, later, rfl, hskipped, haccepts, -⟩ := List.filter_eq_cons_iff.mp hrest
  have hfilter : (first ++ skipped).filter (Handler.accepts · record.level) = before := by
    rw [List.filter_append, hbefore, List.filter_eq_nil_iff.mpr hskipped, List.append_nil]
  rw [← hfilter] at hnone
  obtain ⟨hlast, hinvoked, houtputs, -⟩ :=
    @Delivery.foldl_offer_of_noneAborts { outputs } record (first ++ skipped) rfl hnone
  rw [hfilter] at hinvoked houtputs
  have hdispatch : registry.dispatch record id { outputs } =
      ((first ++ skipped).foldl (Delivery.offer · record ·) { outputs }).offer record handler := by
    rw [dispatch_eq_foldl_offer, hpassed, ← List.append_assoc, List.foldl_append, List.foldl_cons]
    apply Delivery.foldl_offer_of_aborted
    rw [Delivery.offer_of_accepts hlast haccepts, houtputs]
    exact haborts
  rw [Delivery.offer_of_accepts hlast haccepts, houtputs, hinvoked, List.nil_append] at hdispatch
  intro delivery
  have hemit : delivery = (registry.dispatch record id { outputs }).finish record := by
    rw [← hrecord]
    rfl
  rw [hemit, hdispatch, Delivery.finish, haborts]
  exact ⟨rfl, rfl, rfl⟩

end Registry

namespace Session

/-- The record of a call that goes through an outlet. -/
def recordOf (session : Session) (outlet : Owned Outlet) (submission : Submission)
    (draft : Draft) : Record :=
  .ofDraft ((session.registry outlet.registry).name outlet.value.logger) submission.level
    submission.failure? draft

/-- A call whose record some handlers take before one of them aborts the call, so that others do not
see it. -/
structure Interrupts (session : Session) (outlet : Owned Outlet) (submission : Submission)
    (draft : Draft) (before : List Handler) (handler : Handler) (after : List Handler) :
    Prop where
  goes : ∀ call, submission = .checked call →
    outlet.value.isEnabledFor (session.registry outlet.registry) call.level = true
  accepting_eq : (session.registry outlet.registry).accepting outlet.value.logger
    submission.level = before ++ handler :: after
  noneAborts : session.outputs.NoneAborts (session.recordOf outlet submission draft) before
  aborts : ((session.outputs.handleAll (session.recordOf outlet submission draft) before).handle
    handler (session.recordOf outlet submission draft)).aborted = true

theorem submit_eq_emit {session : Session} {outlet : Owned Outlet} {submission : Submission}
    (h : ∀ call, submission = .checked call →
      outlet.value.isEnabledFor (session.registry outlet.registry) call.level = true)
    (draft : Draft) :
    session.submit outlet submission draft =
      (session.registry outlet.registry).emit outlet.value.logger submission.level
        submission.failure? draft session.outputs := by
  cases submission with
  | raw level failure => rfl
  | checked call =>
      simp only [submit, Outlet.log_eq_ite, if_pos (Outlet.isEnabledFor_iff.mp (h call rfl))]
      rfl

theorem Interrupts.submit {session : Session} {outlet : Owned Outlet} {submission : Submission}
    {draft : Draft} {before after : List Handler} {handler : Handler}
    (h : session.Interrupts outlet submission draft before handler after) :
    let record := session.recordOf outlet submission draft
    let delivery := session.submit outlet submission draft
    delivery.invoked = before ++ [handler] ∧ delivery.aborted = true ∧
      delivery.outputs =
        ((session.outputs.handleAll record before).handle handler record).outputs := by
  intro record delivery
  have hemit : delivery = _ := submit_eq_emit h.goes draft
  rw [hemit]
  exact Registry.emit_of_aborts rfl h.accepting_eq h.noneAborts h.aborts

theorem Interrupts.lastResortLines_eq {session : Session} {outlet : Owned Outlet}
    {submission : Submission} {draft : Draft} {before after : List Handler} {handler : Handler}
    (h : session.Interrupts outlet submission draft before handler after) :
    let record := session.recordOf outlet submission draft
    ((session.outputs.handleAll record before).handle handler record).outputs.lastResortLines =
      session.outputs.lastResortLines := by
  intro record
  have hhandled : (session.outputs.handleAll record before).lastResortLines =
      session.outputs.lastResortLines :=
    (Ledger.lastResort.read_handleAll h.noneAborts).trans (by simp [Ledger.lastResort])
  rw [← hhandled]
  rcases Outputs.outputs_handle_of_aborted h.aborts with heq | heq
  · rw [heq]
  · rw [heq]
    rfl

end Session

namespace Locked

/-- Whatever is done later, it comes out as if no lock was poisoned. -/
def Recovers (locked : Locked) : Prop :=
  ∀ later : List Command, ∃ results last unharmed,
    (Program.carryOut later).run locked = .ok results last ∧
    (Program.carryOut later).run { locked with poisoned := [] } = .ok results unharmed ∧
    last.session = unharmed.session

theorem recovers (locked : Locked) : locked.Recovers := by
  intro later
  obtain ⟨last, hlast, hsession⟩ := Program.run_carryOut later locked
  obtain ⟨unharmed, hunharmed, hother⟩ :=
    Program.run_carryOut later { locked with poisoned := [] }
  exact ⟨_, last, unharmed, hlast, hunharmed, hsession.trans hother.symm⟩

end Locked

namespace Program

theorem run_step_target {locked : Locked} {target : Target} {resolved : Session}
    {outlet : Owned Outlet} (h : locked.session.resolve target = (resolved, .ok outlet))
    (command : TargetCommand) :
    (step (.target target command)).run locked =
      (stepOutlet outlet command).run { locked with session := resolved } := by
  rw [step]
  simp only [EStateM.run_bind, run_resolve, h]

theorem step_of_interrupts {locked : Locked} {target : Target} {resolved : Session}
    {outlet : Owned Outlet} {submission : Submission} {message : Message}
    {thread : Option String} {before after : List Handler} {handler : Handler}
    (hresolve : locked.session.resolve target = (resolved, .ok outlet))
    (h : resolved.Interrupts outlet submission { message, thread, moment := resolved.moment }
      before handler after) :
    let record := resolved.recordOf outlet submission
      { message, thread, moment := resolved.moment }
    let handled := resolved.outputs.handleAll record before
    ∃ renderings next,
      (step (.target target (.log submission message thread))).run locked =
        .ok (.ok (.logged renderings true)) next ∧
      next.invoked = before ++ [handler] ∧
      next.session = { resolved with outputs := (handled.handle handler record).outputs } := by
  intro record handled
  obtain ⟨hinvoked, haborted, houtputs⟩ := h.submit
  obtain ⟨poisoned, hlog⟩ := run_log outlet submission message thread
    { locked with session := resolved }
  rw [haborted] at hlog
  exact ⟨_, _, (run_step_target hresolve _).trans hlog, hinvoked,
    congrArg (fun outputs => { resolved with outputs }) houtputs⟩

theorem step_of_fails {locked : Locked} {address : Address} {located : Session} {id : LoggerId}
    {handlerKey : String} {handler : Handler}
    (hlocate : locked.session.locate address = (located, some id))
    (hhandler : located.handlers.get? handlerKey = some handler)
    (hempty : (located.registry address.registry).handlers id = []) :
    (step (.logger address (.offer handlerKey true))).run locked =
      .ok (.ok (.offer .failed []))
        { locked with
          session := located
          poisoned := .handlers address.registry id :: locked.poisoned } := by
  have huses := uses_locate locked.session address
  have hids : (located.registry address.registry).handlerIds id = [] := by
    rw [Registry.handlerIds, hempty, List.map_nil]
  have hattach : (located.registry address.registry).attachIfEmpty id (fun _ => none) =
      (located.registry address.registry, .failed) := by
    rw [Registry.attachIfEmpty, hempty]
  rw [hlocate] at huses
  have hoffer :=
    @run_offer address.registry { locked with session := located } huses id fun _ => none
  simp [step, hlocate, stepLogger, onHandler, hhandler, hoffer, hattach, huses.eq, hids]

end Program

/-- A call that a handler aborts has done what the handlers before that one do, and nothing else. A
handler that cannot be made leaves the logger without handlers. Either way, nothing that is done
later tells the locks that are poisoned from the others. -/
theorem aborted_calls_leave_usable_state (locked : Locked) :
    (∀ target resolved outlet submission message thread before handler after,
      locked.session.resolve target = (resolved, .ok outlet) →
      resolved.Interrupts outlet submission { message, thread, moment := resolved.moment }
        before handler after →
      ∃ renderings next,
        (Program.step (.target target (.log submission message thread))).run locked =
          .ok (.ok (.logged renderings true)) next ∧
        next.invoked = before ++ [handler] ∧
        next.session = { resolved with outputs := next.session.outputs } ∧
        (let handled := resolved.outputs.handleAll
          (resolved.recordOf outlet submission { message, thread, moment := resolved.moment })
            before
         next.session.outputs = handled ∨
          next.session.outputs =
            { handled with aborted := handled.aborted ++ [handler.id] }) ∧
        next.session.outputs.lastResortLines = resolved.outputs.lastResortLines ∧
        next.Recovers) ∧
    (∀ address located id handlerKey handler,
      locked.session.locate address = (located, some id) →
      located.handlers.get? handlerKey = some handler →
      (located.registry address.registry).handlers id = [] →
      ∃ next,
        (Program.step (.logger address (.offer handlerKey true))).run locked =
          .ok (.ok (.offer .failed [])) next ∧
        next.session = located ∧
        .handlers address.registry id ∈ next.poisoned ∧
        next.Recovers) := by
  refine ⟨?_, ?_⟩
  · intro target resolved outlet submission message thread before handler after hresolve h
    obtain ⟨renderings, next, hstep, hinvoked, hsession⟩ :=
      Program.step_of_interrupts hresolve h
    refine ⟨renderings, next, hstep, hinvoked, ?_, ?_, ?_, next.recovers⟩
    · rw [hsession]
    · rw [hsession]
      exact Outputs.outputs_handle_of_aborted h.aborts
    · rw [hsession]
      exact h.lastResortLines_eq
  · intro address located id handlerKey handler hlocate hhandler hempty
    exact ⟨_, Program.step_of_fails hlocate hhandler hempty, rfl, List.mem_cons_self,
      Locked.recovers _⟩

/-- A writer that aborts a call after another handler has counted the record. -/
theorem counted_before_the_writer_aborts :
    let tally : Handler := { id := .named "tally", destination := .tally "tally" }
    let stream : Handler :=
      { id := .named "stream", destination := .stream (.buffer "buffer") {} (some .abortsOnce) }
    let journal : Handler := { id := .named "journal", destination := .journal "journal" }
    let loud : Registry := { root := { level := .warning, handlers := [tally, stream, journal] } }
    let session : Session :=
      { moment := { instant := { seconds := 0 } }
        registries := (∅ : NameMap Registry).insert "loud" loud
        handlers := (∅ : NameMap Handler).insert "journal" journal }
    let locked : Locked := { session, poisoned := [.records "journal"] }
    (∃ renderings next,
      (Program.step (.target (.logger { registry := "loud", name := "" })
        (.log (.checked .error) (.text "lost") none))).run locked =
          .ok (.ok (.logged renderings true)) next ∧
      next.invoked = [tally, stream] ∧ next.session.registry "loud" = loud ∧ next.Recovers) ∧
    ∃ next,
      (Program.step (.logger { registry := "quiet", name := "" } (.offer "journal" true))).run
        locked = .ok (.ok (.offer .failed [])) next ∧
      (next.session.registry "quiet").handlers Registry.rootId = [] ∧ next.Recovers := by
  intro tally stream journal loud session locked
  have hresolve : session.resolve (.logger { registry := "loud", name := "" }) =
      (session.setRegistry "loud" loud,
        .ok { registry := "loud", value := .direct Registry.rootId }) := by
    rfl
  have hlocate : session.locate { registry := "quiet", name := "" } =
      (session.setRegistry "quiet" {}, some Registry.rootId) := by
    rfl
  have hregistry : (session.setRegistry "loud" loud).registry "loud" = loud := rfl
  have hinterrupts : (session.setRegistry "loud" loud).Interrupts
      { registry := "loud", value := .direct Registry.rootId } (.checked .error)
      { message := .text "lost", thread := none, moment := session.moment }
      [tally] stream [journal] :=
    { goes := by
        rintro call ⟨⟩
        exact Outlet.isEnabledFor_iff.mpr ⟨by decide, by
          rw [Outlet.threshold, hregistry, Registry.effectiveLevel]
          decide⟩
      accepting_eq := by
        rw [hregistry, Registry.accepting, Registry.visited_of_parent?_eq_none rfl]
        rfl
      noneAborts := ⟨rfl, trivial⟩
      aborts := rfl }
  obtain ⟨hlogs, hoffers⟩ := aborted_calls_leave_usable_state locked
  obtain ⟨renderings, next, hstep, hinvoked, hsession, -, -, hrecovers⟩ :=
    hlogs _ _ _ _ _ _ _ _ _ hresolve hinterrupts
  obtain ⟨last, hoffer, hlast, -, hrecovered⟩ := hoffers _ _ _ "journal" journal hlocate rfl rfl
  refine ⟨⟨renderings, next, hstep, hinvoked, ?_, hrecovers⟩, last, hoffer, ?_, hrecovered⟩
  · rw [hsession]
    exact hregistry
  · rw [hlast]
    rfl

end LogTree
