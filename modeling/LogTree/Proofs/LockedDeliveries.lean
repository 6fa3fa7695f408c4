import LogTree.Locks.Emission
import LogTree.Proofs.CheckedLogging
import LogTree.Proofs.LockedRegistries
import LogTree.Proofs.RecordDispatch

namespace LogTree

/-- How a run ends that comes to its end or is aborted. -/
def Program.ended {α : Type} (aborted : Bool) (value : α) (locked : Locked) :
    EStateM.Result Unit Locked α :=
  if aborted then .error () locked else .ok value locked

namespace Locked

def delivery (locked : Locked) (reached aborted : Bool) : Delivery where
  outputs := locked.session.outputs
  invoked := locked.invoked
  renderings := locked.renderings
  reached
  aborted

/-- A session in which a record has been delivered. -/
def delivered (locked : Locked) (delivery : Delivery) (poisoned : List Lock) : Locked where
  session := { locked.session with outputs := delivery.outputs }
  poisoned
  invoked := delivery.invoked
  renderings := delivery.renderings

theorem delivery_delivered (locked : Locked) (delivery : Delivery) (poisoned : List Lock) :
    (locked.delivered delivery poisoned).delivery delivery.reached delivery.aborted = delivery :=
  rfl

end Locked

theorem Outputs.append_append (outputs : Outputs) (sink : Sink) (first second : Stream) :
    (outputs.append sink first).append sink second = outputs.append sink (first ++ second) := by
  cases sink <;> simp [append, buffer, NameMap.getD, NameMap.insert_insert]

namespace Program

@[simp] theorem run_changeOutputs (f : Outputs → Outputs) (locked : Locked) :
    (changeOutputs f).run locked =
      .ok () { locked with
        session := { locked.session with outputs := f locked.session.outputs } } :=
  rfl

@[simp] theorem run_put (sink : Sink) (pieces : Stream) (locked : Locked) :
    (put sink pieces).run locked =
      .ok () { locked with
        session :=
          { locked.session with outputs := locked.session.outputs.append sink pieces } } := by
  cases sink <;> simp [put, Cell.octets, Outputs.append]

@[simp] theorem run_putAll (sink : Sink) (pieces : Stream) (locked : Locked) :
    (putAll sink pieces).run locked =
      .ok () { locked with
        session :=
          { locked.session with outputs := locked.session.outputs.append sink pieces } } := by
  induction pieces generalizing locked with
  | nil => exact run_put sink [] locked
  | cons piece rest ih => simp [putAll, ih, Outputs.append_append]

theorem run_write (id : HandlerId) (sink : Sink) (fault : Option WriterFault) (text : String)
    (locked : Locked) :
    let handled := locked.session.outputs.write id sink fault text
    ∃ poisoned, (write id sink fault text).run locked =
      ended handled.aborted ()
        { locked with
          session := { locked.session with outputs := handled.outputs }
          poisoned } := by
  rw [write, Cell.run_hold, Outputs.write]
  by_cases habort : fault = some .abortsOnce ∧ id ∉ locked.session.outputs.aborted
  · refine ⟨.writer id :: locked.poisoned, ?_⟩
    simp [habort, Cell.writer, ended, Locked.poison]
  · refine ⟨locked.poisoned, ?_⟩
    have hgoes : ¬(fault = some .abortsOnce ∧ (Cell.writer id).load locked.session = false) := by
      simpa [Cell.writer] using habort
    rw [if_neg hgoes, if_neg habort]
    simp [ended]

@[simp] theorem run_render_text (text : String) (locked : Locked) :
    (render (.text text)).run locked =
      .ok text { locked with renderings := locked.renderings + 1 } :=
  rfl

@[simp] theorem run_render_failing (locked : Locked) :
    (render .failing).run locked =
      .error () { locked with renderings := locked.renderings + 1 } :=
  rfl

theorem run_handle (handler : Handler) (record : Record) (locked : Locked) :
    let handled := locked.session.outputs.handle handler record
    ∃ poisoned, (handle handler record).run locked =
      ended handled.aborted ()
        { session := { locked.session with outputs := handled.outputs }
          poisoned
          invoked := locked.invoked ++ [handler]
          renderings := locked.renderings + handled.renderings } := by
  rw [handle, Outputs.handle]
  cases handler.destination with
  | tally key => exact ⟨locked.poisoned, rfl⟩
  | journal key =>
      cases record.message with
      | text text =>
          refine ⟨locked.poisoned, ?_⟩
          simp [Outputs.rendering, ended, Cell.records, Outputs.keep]
      | failing =>
          refine ⟨.records key :: locked.poisoned, ?_⟩
          simp [Outputs.rendering, ended, Cell.records, Locked.poison]
  | trace =>
      refine ⟨locked.poisoned, ?_⟩
      cases record.message with
      | text text => simp [Outputs.rendering, ended]
      | failing => simp [Outputs.rendering, ended]
  | stream sink layout fault =>
      cases record.message with
      | text text =>
          obtain ⟨poisoned, hwrite⟩ := run_write handler.id sink fault (layout.render record text)
            { locked with
              invoked := locked.invoked ++ [handler]
              renderings := locked.renderings + 1 }
          refine ⟨poisoned, ?_⟩
          simp [Outputs.rendering, hwrite]
      | failing =>
          refine ⟨locked.poisoned, ?_⟩
          simp [Outputs.rendering, ended]

theorem run_offerTo_of_not_accepts {record : Record} {handler : Handler}
    (h : handler.accepts record.level = false) (rest : List Handler) (reached : Bool)
    (locked : Locked) :
    (offerTo record (handler :: rest) reached).run locked =
      (offerTo record rest true).run locked := by
  simp [offerTo, h]

theorem run_offerTo_of_accepts {record : Record} {handler : Handler}
    (h : handler.accepts record.level = true) (rest : List Handler) (reached : Bool)
    (locked : Locked) :
    (offerTo record (handler :: rest) reached).run locked =
      (handle handler record >>= fun _ => offerTo record rest true).run locked := by
  simp [offerTo, h]

theorem run_offerTo (record : Record) (handlers : List Handler) (reached : Bool)
    (locked : Locked) :
    let delivery := handlers.foldl (Delivery.offer · record ·) (locked.delivery reached false)
    ∃ poisoned, (offerTo record handlers reached).run locked =
      ended delivery.aborted delivery.reached (locked.delivered delivery poisoned) := by
  induction handlers generalizing reached locked with
  | nil => exact ⟨locked.poisoned, rfl⟩
  | cons handler rest ih =>
      rw [List.foldl_cons]
      cases haccepts : handler.accepts record.level with
      | false =>
          rw [Delivery.offer_of_not_accepts rfl haccepts, run_offerTo_of_not_accepts haccepts]
          exact ih true locked
      | true =>
          rw [Delivery.offer_of_accepts rfl haccepts, run_offerTo_of_accepts haccepts]
          obtain ⟨poisoned, hhandle⟩ := run_handle handler record locked
          rw [EStateM.run_bind, hhandle]
          simp only [Locked.delivery]
          -- After an abort the rest of the fold leaves everything as it is.
          cases (locked.session.outputs.handle handler record).aborted with
          | true =>
              rw [Delivery.foldl_offer_of_aborted rfl]
              exact ⟨poisoned, rfl⟩
          | false => exact ih true _

theorem run_dispatch (key : String) (record : Record) (id : LoggerId) (reached : Bool)
    (locked : Locked) :
    let delivery :=
      (locked.session.registry key).dispatch record id (locked.delivery reached false)
    ∃ poisoned, (dispatch key (locked.session.registry key) record id reached).run locked =
      ended delivery.aborted delivery.reached (locked.delivered delivery poisoned) := by
  induction id using Nat.strongRecOn generalizing reached locked with
  | ind id ih =>
      -- At one go, the record is offered to all handlers on the way. That fold is cut where the
      -- lock of the next logger is taken.
      rw [dispatch, Registry.dispatch_eq_foldl_offer]
      simp only [EStateM.run_bind, run_handlers]
      obtain ⟨poisoned, hoffer⟩ :=
        run_offerTo record ((locked.session.registry key).handlers id) reached locked
      rw [hoffer]
      generalize hdelivery : ((locked.session.registry key).handlers id).foldl
        (Delivery.offer · record ·) (locked.delivery reached false) = delivery
      cases haborted : delivery.aborted with
      | true =>
          obtain ⟨later, hpassed⟩ := (locked.session.registry key).exists_passed_eq_append id
          rw [hpassed, List.foldl_append, hdelivery, Delivery.foldl_offer_of_aborted haborted]
          exact ⟨poisoned, by simp [ended, haborted]⟩
      | false =>
          have hregistry : (locked.delivered delivery poisoned).session.registry key =
            locked.session.registry key := rfl
          simp only [ended, Bool.false_eq_true, if_false, run_registry, hregistry]
          cases hpropagate : (locked.session.registry key).propagate id with
          | false =>
              rw [Registry.passed, Registry.visited_of_not_propagate hpropagate,
                List.flatMap_singleton, hdelivery, haborted]
              exact ⟨poisoned, rfl⟩
          | true =>
              rw [if_neg (by decide)]
              split
              · next hparent =>
                  rw [Registry.passed, Registry.visited_of_parent?_eq_none hparent,
                    List.flatMap_singleton, hdelivery, haborted]
                  exact ⟨poisoned, rfl⟩
              · next outer hparent =>
                  rw [Registry.passed, Registry.visited_of_propagate hpropagate hparent,
                    List.flatMap_cons, List.foldl_append, hdelivery]
                  have hstart : (locked.delivered delivery poisoned).delivery delivery.reached
                      false = delivery := by
                    rw [← haborted, Locked.delivery_delivered]
                  obtain ⟨others, hrest⟩ := ih outer (Registry.parent?_lt hparent)
                    delivery.reached (locked.delivered delivery poisoned)
                  rw [hregistry, hstart, Registry.dispatch_eq_foldl_offer] at hrest
                  exact ⟨others, hrest⟩

theorem run_lastResort (record : Record) (locked : Locked) :
    let handled := locked.session.outputs.lastResort record
    (lastResort record).run locked =
      ended handled.aborted ()
        { locked with
          session := { locked.session with outputs := handled.outputs }
          renderings := locked.renderings + handled.renderings } := by
  rw [lastResort, Outputs.lastResort]
  cases record.message with
  | text text => simp [Outputs.rendering, ended]
  | failing => simp [Outputs.rendering, ended]

theorem run_emit {key : String} {id : LoggerId} {level : Level} {failure : Option Failure}
    {draft : Draft} {locked : Locked} (hinvoked : locked.invoked = [])
    (hrenderings : locked.renderings = 0) :
    let delivery :=
      (locked.session.registry key).emit id level failure draft locked.session.outputs
    ∃ poisoned, (emit key id level failure draft).run locked =
      ended delivery.aborted () (locked.delivered delivery poisoned) := by
  have hstart : locked.delivery false false = { outputs := locked.session.outputs } := by
    rw [Locked.delivery, hinvoked, hrenderings]
  rw [emit, Registry.emit]
  simp only [EStateM.run_bind, run_registry]
  generalize Record.ofDraft ((locked.session.registry key).name id) level failure draft = record
  obtain ⟨poisoned, hdispatch⟩ := run_dispatch key record id false locked
  rw [hdispatch, hstart]
  generalize (locked.session.registry key).dispatch record id
    { outputs := locked.session.outputs } = delivery
  refine ⟨poisoned, ?_⟩
  rw [Delivery.finish]
  cases haborted : delivery.aborted with
  | true => simp [ended, haborted]
  | false =>
      by_cases hresort : (!delivery.reached && Level.warning ≤ record.level) = true
      · simp only [ended, Bool.false_eq_true, if_false, Bool.not_false, Bool.true_and, hresort,
          if_true]
        rw [run_lastResort]
        rfl
      · simp only [ended, Bool.false_eq_true, if_false, Bool.not_false, Bool.true_and, hresort,
          haborted]
        rfl

theorem run_submit {outlet : Owned Outlet} {submission : Submission} {draft : Draft}
    {locked : Locked} (hinvoked : locked.invoked = []) (hrenderings : locked.renderings = 0) :
    let delivery := locked.session.submit outlet submission draft
    ∃ poisoned, (submit outlet submission draft).run locked =
      ended delivery.aborted () (locked.delivered delivery poisoned) := by
  unfold submit Session.submit
  simp only [EStateM.run_bind, run_registry]
  cases submission with
  | raw level failure => exact run_emit hinvoked hrenderings
  | checked call =>
      simp only [Outlet.isEnabledFor_eq_decide, Outlet.log_eq_ite, decide_eq_true_eq]
      split
      · exact run_emit hinvoked hrenderings
      · have hkeep : locked.delivered { outputs := locked.session.outputs } locked.poisoned =
            locked := by
          rw [Locked.delivered, ← hinvoked, ← hrenderings]
        exact ⟨locked.poisoned, by rw [hkeep]; rfl⟩

@[simp] theorem run_attempt (program : Program Unit) (locked : Locked) :
    (attempt program).run locked =
      match program.run locked with
      | .ok _ after => .ok false after
      | .error _ after => .ok true after := by
  simp only [attempt, EStateM.run_tryCatch, EStateM.run_bind]
  cases program.run locked <;> rfl

end Program

end LogTree
