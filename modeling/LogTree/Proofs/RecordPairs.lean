import LogTree.Proofs.CommandAnswers

/-!
One record on two sides. Two registries hand it to the same handlers, up to their destinations; if
what the handlers do keeps the outputs of the two sides in some relation, so does the whole way of
the record, and it looks the same to whoever has sent it.
-/

namespace LogTree

/-- What handlers do with one record on two sides. -/
structure Handled.Matches (Related : Outputs → Outputs → Prop) (handled other : Handled) :
    Prop where
  outputs : Related handled.outputs other.outputs
  renderings_eq : other.renderings = handled.renderings
  aborted_eq : other.aborted = handled.aborted

/-- How far a record has come on two sides. -/
structure Delivery.Matches (Related : Outputs → Outputs → Prop) (delivery other : Delivery) :
    Prop where
  outputs : Related delivery.outputs other.outputs
  renderings_eq : other.renderings = delivery.renderings
  reached_eq : other.reached = delivery.reached
  aborted_eq : other.aborted = delivery.aborted

section

variable {Related : Outputs → Outputs → Prop}

theorem Outputs.rendering_matches {outputs other : Outputs} (h : Related outputs other)
    {store twin : String → Handled}
    (hstore : ∀ text, (store text).Matches Related (twin text)) (message : Message) :
    (outputs.rendering message store).Matches Related (other.rendering message twin) := by
  cases message with
  | text text => exact ⟨(hstore text).outputs, rfl, (hstore text).aborted_eq⟩
  | failing => exact ⟨h, rfl, rfl⟩

/-- Two handlers keep outputs in a relation when the same record is handed to them. -/
def Handler.Pairs (Related : Outputs → Outputs → Prop) (handler other : Handler) : Prop :=
  ∀ (record : Record) (outputs twin : Outputs), Related outputs twin →
    (outputs.handle handler record).Matches Related (twin.handle other record)

section

variable {change : HandlerChange} {record : Record} {delivery other : Delivery}
  (h : delivery.Matches Related other)

include h

theorem Delivery.Matches.offer {handler : Handler}
    (hpairs : handler.Pairs Related (change.apply handler)) :
    (delivery.offer record handler).Matches Related
      (other.offer record (change.apply handler)) := by
  have haccepts : (change.apply handler).accepts record.level = handler.accepts record.level := rfl
  rw [Delivery.offer, Delivery.offer, h.aborted_eq, haccepts]
  split
  · exact h
  · split
    · have hhandled := hpairs record _ _ h.outputs
      exact ⟨hhandled.outputs, by simp only [h.renderings_eq, hhandled.renderings_eq], rfl,
        hhandled.aborted_eq⟩
    · exact ⟨h.outputs, h.renderings_eq, rfl, rfl⟩

theorem Delivery.Matches.foldl_offer {handlers : List Handler}
    (hpairs : ∀ handler ∈ handlers, handler.Pairs Related (change.apply handler)) :
    (handlers.foldl (Delivery.offer · record ·) delivery).Matches Related
      ((handlers.map change.apply).foldl (Delivery.offer · record ·) other) := by
  induction handlers generalizing delivery other with
  | nil => exact h
  | cons handler rest ih =>
      obtain ⟨hfirst, hrest⟩ := List.forall_mem_cons.mp hpairs
      exact ih (h.offer hfirst) hrest

theorem Delivery.Matches.finish
    (hlast : ∀ outputs twin, Related outputs twin →
      (outputs.lastResort record).Matches Related (twin.lastResort record)) :
    (delivery.finish record).Matches Related (other.finish record) := by
  rw [Delivery.finish, Delivery.finish, h.aborted_eq, h.reached_eq]
  split
  · have hhandled := hlast _ _ h.outputs
    exact ⟨hhandled.outputs, by simp only [h.renderings_eq, hhandled.renderings_eq], rfl,
      hhandled.aborted_eq⟩
  · exact h

end

variable {change : HandlerChange} {registry : Registry}
  (hlast : ∀ record outputs twin, Related outputs twin →
    (outputs.lastResort record).Matches Related (twin.lastResort record))

include hlast

theorem Registry.emit_matches {id : LoggerId}
    (hpairs : ∀ handler ∈ registry.passed id, handler.Pairs Related (change.apply handler))
    (level : Level) (failure : Option Failure) (draft : Draft) {outputs other : Outputs}
    (h : Related outputs other) :
    (registry.emit id level failure draft outputs).Matches Related
      ((registry.exchange change).emit id level failure draft other) := by
  have hstart : Delivery.Matches Related { outputs } { outputs := other } := ⟨h, rfl, rfl, rfl⟩
  rw [emit, emit, name_exchange, dispatch_eq_foldl_offer, dispatch_eq_foldl_offer,
    passed_exchange]
  exact (hstart.foldl_offer hpairs).finish (hlast _)

theorem Outlet.log_matches {outlet : Outlet}
    (hpairs : ∀ handler ∈ registry.passed outlet.logger,
      handler.Pairs Related (change.apply handler))
    (call : Call) (draft : Draft) {outputs other : Outputs} (h : Related outputs other) :
    (outlet.log registry call draft outputs).Matches Related
      (outlet.log (registry.exchange change) call draft other) := by
  have hpermits : outlet.Permits (registry.exchange change) call.level ↔
      outlet.Permits registry call.level := by
    rw [← isEnabledFor_iff, ← isEnabledFor_iff, isEnabledFor_exchange]
  simp only [Outlet.log_eq_ite, hpermits]
  split
  · exact Registry.emit_matches hlast hpairs _ _ _ h
  · exact ⟨h, rfl, rfl, rfl⟩

end

namespace Outputs

def stream (outputs : Outputs) : Sink → Stream
  | .buffer key => outputs.buffer key
  | .standardOutput => outputs.standardOutput
  | .standardError => outputs.standardError

theorem stream_append (outputs : Outputs) (sink other : Sink) (pieces : Stream) :
    (outputs.append sink pieces).stream other =
      outputs.stream other ++ if other = sink then pieces else [] := by
  cases sink with
  | buffer key =>
      cases other with
      | buffer place =>
          simp only [append, stream, buffer, NameMap.getD, NameMap.get?_insert, Sink.buffer.injEq]
          by_cases h : place = key
          · rw [if_pos h, if_pos h, h]
            rfl
          · rw [if_neg h, if_neg h, List.append_nil]
      | standardOutput => exact (List.append_nil _).symm
      | standardError => exact (List.append_nil _).symm
  | standardOutput =>
      cases other with
      | buffer place => exact (List.append_nil _).symm
      | standardOutput => rfl
      | standardError => exact (List.append_nil _).symm
  | standardError =>
      cases other with
      | buffer place => exact (List.append_nil _).symm
      | standardOutput => exact (List.append_nil _).symm
      | standardError => rfl

theorem stream_clear (outputs : Outputs) (key : String) (sink : Sink) :
    (outputs.clear key).stream sink = if sink = .buffer key then [] else outputs.stream sink := by
  cases sink with
  | buffer place =>
      simp only [clear, stream, buffer, NameMap.getD, NameMap.get?_insert, Sink.buffer.injEq]
      by_cases h : place = key
      · rw [if_pos h, if_pos h]
        rfl
      · rw [if_neg h, if_neg h]
  | standardOutput => rfl
  | standardError => rfl

end Outputs

namespace Session

theorem settings_resolve (session : Session) (target : Target) (place : String) (id : LoggerId) :
    ((session.resolve target).1.registry place).settings id =
      (session.registry place).settings id := by
  have hstep := session.registry_step_target target .effectiveLevel place
  rw [← hstep, registry_step]
  refine Registry.settings_performAll_induction
    (motive := fun settings => settings = (session.registry place).settings id) ?_ rfl
  rintro name generations adjustment hmem settings rfl
  obtain ⟨operations, heffect, hoperation⟩ := mem_operations hmem
  cases target with
  | object key => cases heffect
  | holding key => cases heffect
  | logger address =>
      obtain ⟨-, rfl⟩ := Prod.mk.inj (Option.some.inj heffect)
      obtain ⟨-, -, rfl⟩ := Registry.Operation.adjust.inj (List.mem_singleton.mp hoperation)
      rfl

theorem Sees.step_log {Related : Outputs → Outputs → Prop}
    (hlast : ∀ record outputs twin, Related outputs twin →
      (outputs.lastResort record).Matches Related (twin.lastResort record))
    {change : HandlerChange} {session other : Session} {target : Target} {submission : Submission}
    {message : Message} {thread : Option String}
    (h : Sees change (.target target (.log submission message thread)) session other)
    (hmoment : other.moment = session.moment) (houtputs : Related session.outputs other.outputs)
    (hpairs : ∀ place, session.place? (.target target (.log submission message thread)) =
      some place → ∀ id, ∀ handler ∈ (session.registry place).handlers id,
        handler.Pairs Related (change.apply handler)) :
    let command := Command.target target (.log submission message thread)
    (other.step command).2 = (session.step command).2 ∧
      Related (session.step command).1.outputs (other.step command).1.outputs := by
  obtain ⟨heq, hregistry⟩ := h.resolve
  have hsettings := session.settings_resolve target
  have hrests := session.rests_resolve target
  have hotherRests := other.rests_resolve target
  rw [← hrests.outputs_eq, ← hotherRests.outputs_eq] at houtputs
  rw [← hrests.moment_eq, ← hotherRests.moment_eq] at hmoment
  intro command
  simp only [command, step]
  generalize session.resolve target = resolved at heq hregistry hsettings houtputs hmoment ⊢
  generalize other.resolve target = twin at heq hregistry houtputs hmoment ⊢
  obtain ⟨resolved, result⟩ := resolved
  obtain ⟨twin, twinResult⟩ := twin
  obtain rfl : twinResult = result := heq
  cases twinResult with
  | error refusal => exact ⟨rfl, houtputs⟩
  | ok outlet =>
      obtain ⟨hplace, hexchanged⟩ := hregistry outlet rfl
      have hpassed : ∀ handler ∈ (resolved.registry outlet.registry).passed outlet.value.logger,
          handler.Pairs Related (change.apply handler) := by
        intro handler hmem
        obtain ⟨id, -, hattached⟩ := List.mem_flatMap.mp hmem
        rw [Registry.handlers, hsettings] at hattached
        exact hpairs outlet.registry hplace id handler hattached
      have hsubmit : (resolved.submit outlet submission
            { message, thread, moment := resolved.moment }).Matches Related
          (twin.submit outlet submission { message, thread, moment := twin.moment }) := by
        change twin.moment = resolved.moment at hmoment
        change twin.registry outlet.registry = _ at hexchanged
        cases submission with
        | checked call =>
            rw [submit, submit, hmoment, hexchanged]
            exact Outlet.log_matches hlast hpassed call _ houtputs
        | raw level failure =>
            rw [submit, submit, hmoment, hexchanged]
            exact Registry.emit_matches hlast hpassed level failure _ houtputs
      refine ⟨?_, hsubmit.outputs⟩
      simp only [stepOutlet, answer, hsubmit.renderings_eq, hsubmit.aborted_eq]

end Session

end LogTree
