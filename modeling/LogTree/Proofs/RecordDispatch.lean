import LogTree.Proofs.AttachedHandlers

namespace LogTree

namespace Registry

/-- The loggers that a record comes past: the logger, its parent and so on, up to the first one that
does not propagate. -/
def visited (registry : Registry) (id : LoggerId) : List LoggerId :=
  let ancestry := registry.ancestry id
  ancestry.take (ancestry.findIdx (fun logger => !registry.propagate logger) + 1)

/-- The handlers that a record comes past, whether they accept it or not. -/
def passed (registry : Registry) (id : LoggerId) : List Handler :=
  (registry.visited id).flatMap registry.handlers

def accepting (registry : Registry) (id : LoggerId) (level : Level) : List Handler :=
  (registry.visited id).flatMap fun logger =>
    (registry.handlers logger).filter (Handler.accepts · level)

theorem accepting_eq_filter (registry : Registry) (id : LoggerId) (level : Level) :
    registry.accepting id level = (registry.passed id).filter (Handler.accepts · level) := by
  rw [accepting, passed, List.filter_flatMap]

theorem ancestry_of_parent?_eq_none {registry : Registry} {id : LoggerId}
    (h : registry.parent? id = none) : registry.ancestry id = [id] := by
  rw [ancestry]
  split
  · rfl
  · next outer houter =>
      rw [h] at houter
      cases houter

theorem ancestry_of_parent? {registry : Registry} {id outer : LoggerId}
    (h : registry.parent? id = some outer) :
    registry.ancestry id = id :: registry.ancestry outer := by
  rw [ancestry]
  split
  · next hnone =>
      rw [h] at hnone
      cases hnone
  · next found hfound =>
      rw [h, Option.some.injEq] at hfound
      rw [hfound]

theorem visited_of_parent?_eq_none {registry : Registry} {id : LoggerId}
    (h : registry.parent? id = none) : registry.visited id = [id] := by
  rw [visited, ancestry_of_parent?_eq_none h]
  exact List.take_of_length_le (Nat.succ_le_succ (Nat.zero_le _))

theorem visited_of_not_propagate {registry : Registry} {id : LoggerId}
    (h : registry.propagate id = false) : registry.visited id = [id] := by
  cases hparent : registry.parent? id with
  | none => exact visited_of_parent?_eq_none hparent
  | some outer =>
      rw [visited, ancestry_of_parent? hparent]
      simp only [List.findIdx_cons, h, Bool.not_false, cond_true, Nat.zero_add, List.take_succ_cons,
        List.take_zero]

theorem visited_of_propagate {registry : Registry} {id outer : LoggerId}
    (h : registry.propagate id = true) (hparent : registry.parent? id = some outer) :
    registry.visited id = id :: registry.visited outer := by
  rw [visited, ancestry_of_parent? hparent]
  simp only [List.findIdx_cons, h, Bool.not_true, cond_false, List.take_succ_cons, visited]

theorem exists_visited_eq_cons (registry : Registry) (id : LoggerId) :
    ∃ later, registry.visited id = id :: later := by
  cases hparent : registry.parent? id with
  | none => exact ⟨[], visited_of_parent?_eq_none hparent⟩
  | some outer =>
      cases hpropagate : registry.propagate id with
      | false => exact ⟨[], visited_of_not_propagate hpropagate⟩
      | true => exact ⟨_, visited_of_propagate hpropagate hparent⟩

theorem hasHandlers_eq_any (registry : Registry) (id : LoggerId) :
    registry.hasHandlers id = (registry.visited id).any registry.hasOwnHandlers := by
  induction id using Nat.strongRecOn with
  | ind id ih =>
      rw [hasHandlers]
      cases hown : registry.hasOwnHandlers id with
      | true =>
          obtain ⟨later, hvisited⟩ := registry.exists_visited_eq_cons id
          rw [hvisited, List.any_cons, hown]
          rfl
      | false =>
          rw [if_neg (by decide)]
          cases hpropagate : registry.propagate id with
          | false =>
              rw [visited_of_not_propagate hpropagate, List.any_cons, hown]
              rfl
          | true =>
              rw [if_neg (by decide)]
              split
              · next hparent =>
                  rw [visited_of_parent?_eq_none hparent, List.any_cons, hown]
                  rfl
              · next outer hparent =>
                  rw [visited_of_propagate hpropagate hparent, List.any_cons, hown,
                    Bool.false_or]
                  exact ih outer (parent?_lt hparent)

end Registry

namespace Delivery

theorem offer_of_aborted {delivery : Delivery} (h : delivery.aborted = true) (record : Record)
    (handler : Handler) : delivery.offer record handler = delivery := by
  rw [offer, if_pos h]

theorem foldl_offer_of_aborted {delivery : Delivery} (h : delivery.aborted = true)
    (record : Record) (handlers : List Handler) :
    handlers.foldl (Delivery.offer · record ·) delivery = delivery := by
  induction handlers with
  | nil => rfl
  | cons handler rest ih => rw [List.foldl_cons, offer_of_aborted h, ih]

end Delivery

namespace Registry

theorem exists_passed_eq_append (registry : Registry) (id : LoggerId) :
    ∃ later, registry.passed id = registry.handlers id ++ later := by
  obtain ⟨later, hvisited⟩ := registry.exists_visited_eq_cons id
  exact ⟨later.flatMap registry.handlers, by rw [passed, hvisited, List.flatMap_cons]⟩

theorem dispatch_eq_foldl_offer (registry : Registry) (record : Record) (id : LoggerId)
    (delivery : Delivery) :
    registry.dispatch record id delivery =
      (registry.passed id).foldl (Delivery.offer · record ·) delivery := by
  induction id using Nat.strongRecOn generalizing delivery with
  | ind id ih =>
      rw [dispatch]
      rcases Decidable.em
        (((registry.handlers id).foldl (Delivery.offer · record ·) delivery).aborted = true)
        with haborted | haborted
      · obtain ⟨later, hpassed⟩ := registry.exists_passed_eq_append id
        rw [hpassed, List.foldl_append, Delivery.foldl_offer_of_aborted haborted]
        exact if_pos (by rw [haborted, Bool.true_or])
      · rw [Bool.not_eq_true] at haborted
        cases hpropagate : registry.propagate id with
        | false =>
            rw [passed, visited_of_not_propagate hpropagate, List.flatMap_singleton]
            exact if_pos (by rw [haborted]; rfl)
        | true =>
            refine (if_neg (by rw [haborted]; decide)).trans ?_
            split
            · next hnone =>
                rw [passed, visited_of_parent?_eq_none hnone, List.flatMap_singleton]
            · next outer houter =>
                rw [passed, visited_of_propagate hpropagate houter, List.flatMap_cons,
                  List.foldl_append]
                exact ih outer (parent?_lt houter) _

end Registry

namespace Outputs

def handleAll (outputs : Outputs) (record : Record) (handlers : List Handler) : Outputs :=
  handlers.foldl (fun outputs handler => (outputs.handle handler record).outputs) outputs

/-- None of some handlers aborts when a record is handed to them one after another. -/
def NoneAborts (outputs : Outputs) (record : Record) : List Handler → Prop
  | [] => True
  | handler :: rest =>
      (outputs.handle handler record).aborted = false ∧
        (outputs.handle handler record).outputs.NoneAborts record rest

theorem aborted_handle_eq_false {handler : Handler} {record : Record} {text : String}
    (hmessage : record.message = .text text)
    (hwriter : ∀ sink layout, handler.destination ≠ .stream sink layout (some .abortsOnce))
    (outputs : Outputs) : (outputs.handle handler record).aborted = false := by
  rw [handle, hmessage]
  split
  · rfl
  · rfl
  · rfl
  · next sink layout fault hdestination =>
      have hfault : fault ≠ some .abortsOnce := by
        rintro rfl
        exact hwriter sink layout hdestination
      rw [rendering, write, if_neg fun habort => hfault habort.1]

theorem noneAborts_of_text {handlers : List Handler} {record : Record} {text : String}
    (hmessage : record.message = .text text)
    (hwriter : ∀ handler ∈ handlers, ∀ sink layout,
      handler.destination ≠ .stream sink layout (some .abortsOnce))
    (outputs : Outputs) : outputs.NoneAborts record handlers := by
  induction handlers generalizing outputs with
  | nil => trivial
  | cons handler rest ih =>
      obtain ⟨hfirst, hrest⟩ := List.forall_mem_cons.mp hwriter
      exact ⟨aborted_handle_eq_false hmessage hfirst outputs, ih hrest _⟩

end Outputs

namespace Delivery

theorem offer_of_accepts {delivery : Delivery} (h : delivery.aborted = false) {record : Record}
    {handler : Handler} (haccepts : handler.accepts record.level = true) :
    delivery.offer record handler =
      { outputs := (delivery.outputs.handle handler record).outputs
        invoked := delivery.invoked ++ [handler]
        renderings :=
          delivery.renderings + (delivery.outputs.handle handler record).renderings
        reached := true
        aborted := (delivery.outputs.handle handler record).aborted } := by
  rw [offer, if_neg (by rw [h]; decide), if_pos haccepts]

theorem offer_of_not_accepts {delivery : Delivery} (h : delivery.aborted = false)
    {record : Record} {handler : Handler} (haccepts : handler.accepts record.level = false) :
    delivery.offer record handler = { delivery with reached := true } := by
  rw [offer, if_neg (by rw [h]; decide), if_neg (by rw [haccepts]; decide)]

theorem foldl_offer_of_noneAborts {delivery : Delivery} {record : Record}
    {handlers : List Handler} (haborted : delivery.aborted = false)
    (hnone : delivery.outputs.NoneAborts record
      (handlers.filter (Handler.accepts · record.level))) :
    let accepting := handlers.filter (Handler.accepts · record.level)
    let offered := handlers.foldl (Delivery.offer · record ·) delivery
    offered.aborted = false ∧
      offered.invoked = delivery.invoked ++ accepting ∧
      offered.outputs = delivery.outputs.handleAll record accepting ∧
      (offered.reached = true ↔ delivery.reached = true ∨ handlers ≠ []) := by
  induction handlers generalizing delivery with
  | nil => simp [haborted, Outputs.handleAll]
  | cons handler rest ih =>
      cases haccepts : handler.accepts record.level with
      | false =>
          have hfilter : (handler :: rest).filter (Handler.accepts · record.level) =
              rest.filter (Handler.accepts · record.level) :=
            List.filter_cons_of_neg (by rw [haccepts]; decide)
          rw [hfilter] at hnone ⊢
          rw [List.foldl_cons, offer_of_not_accepts haborted haccepts]
          obtain ⟨hlast, hinvoked, houtputs, hreached⟩ :=
            @ih { delivery with reached := true } haborted hnone
          exact ⟨hlast, hinvoked, houtputs, by simp [hreached]⟩
      | true =>
          have hfilter : (handler :: rest).filter (Handler.accepts · record.level) =
              handler :: rest.filter (Handler.accepts · record.level) :=
            List.filter_cons_of_pos haccepts
          rw [hfilter] at hnone ⊢
          have hoffer := offer_of_accepts haborted haccepts
          have hinvoked : (delivery.offer record handler).invoked =
              delivery.invoked ++ [handler] := by
            rw [hoffer]
          have houtputs : (delivery.offer record handler).outputs =
              (delivery.outputs.handle handler record).outputs := by
            rw [hoffer]
          have hreached : (delivery.offer record handler).reached = true := by
            rw [hoffer]
          obtain ⟨hlast, hrest⟩ := @ih (delivery.offer record handler)
            (by rw [hoffer]; exact hnone.1) (by rw [houtputs]; exact hnone.2)
          rw [hinvoked, houtputs, hreached, List.append_assoc] at hrest
          exact ⟨hlast, hrest.1, hrest.2.1, by simp [hrest.2.2]⟩

theorem invoked_finish (delivery : Delivery) (record : Record) :
    (delivery.finish record).invoked = delivery.invoked := by
  rw [finish]
  split <;> rfl

theorem outputs_finish {delivery : Delivery} (h : delivery.aborted = false) (record : Record) :
    (delivery.finish record).outputs =
      if delivery.reached = false ∧ Level.warning ≤ record.level then
        (delivery.outputs.lastResort record).outputs
      else delivery.outputs := by
  rw [finish]
  cases hreached : delivery.reached <;> simp [h, apply_ite Delivery.outputs]

end Delivery

namespace Registry

theorem emit_of_noneAborts {registry : Registry} {id : LoggerId} {level : Level}
    {failure : Option Failure} {draft : Draft} {outputs : Outputs} {record : Record}
    (hrecord : Record.ofDraft (registry.name id) level failure draft = record)
    (hnone : outputs.NoneAborts record (registry.accepting id level)) :
    let handled := outputs.handleAll record (registry.accepting id level)
    (registry.emit id level failure draft outputs).invoked = registry.accepting id level ∧
      (registry.emit id level failure draft outputs).outputs =
        if registry.passed id = [] ∧ Level.warning ≤ level then (handled.lastResort record).outputs
        else handled := by
  have hlevel : record.level = level := by
    rw [← hrecord]
    rfl
  have hemit : registry.emit id level failure draft outputs =
      (registry.dispatch record id { outputs }).finish record := by
    rw [emit, hrecord]
  rw [hemit, dispatch_eq_foldl_offer]
  rw [accepting_eq_filter, ← hlevel] at hnone ⊢
  obtain ⟨haborted, hinvoked, houtputs, hreached⟩ :=
    @Delivery.foldl_offer_of_noneAborts { outputs } _ _ rfl hnone
  refine ⟨(Delivery.invoked_finish _ record).trans hinvoked, ?_⟩
  rw [Delivery.outputs_finish haborted, houtputs]
  congr 2
  rw [← Bool.not_eq_true, hreached]
  simp

end Registry

namespace Registry

theorem count_filter_accepts {registry : Registry} (h : registry.AttachesOnce) (id : LoggerId)
    (level : Level) (handler : HandlerId) :
    (((registry.handlers id).filter (Handler.accepts · level)).map Handler.id).count handler =
      if (registry.handlers id).any fun attached =>
        attached.id = handler ∧ attached.accepts level then 1 else 0 := by
  have hdistinct : (((registry.handlers id).filter (Handler.accepts · level)).map
      Handler.id).Nodup :=
    List.Pairwise.sublist (List.Sublist.map Handler.id List.filter_sublist) (h id)
  rw [hdistinct.count]
  congr 1
  simp only [List.mem_map, List.mem_filter, List.any_eq_true, decide_eq_true_eq, eq_iff_iff]
  constructor
  · rintro ⟨attached, ⟨hmem, haccepts⟩, heq⟩
    exact ⟨attached, hmem, heq, haccepts⟩
  · rintro ⟨attached, hmem, heq, haccepts⟩
    exact ⟨attached, ⟨hmem, haccepts⟩, heq⟩

/-- A handler sees a record as often as it accepts it on a logger that the record comes past. -/
theorem count_accepting {registry : Registry} (h : registry.AttachesOnce) (id : LoggerId)
    (level : Level) (handler : HandlerId) :
    ((registry.accepting id level).map Handler.id).count handler =
      (registry.visited id).countP fun logger => (registry.handlers logger).any fun attached =>
        attached.id = handler ∧ attached.accepts level := by
  rw [accepting]
  induction registry.visited id with
  | nil => rfl
  | cons logger rest ih =>
      rw [List.flatMap_cons, List.map_append, List.count_append, ih, count_filter_accepts h,
        List.countP_cons, Nat.add_comm]

/-- Two registries have the same loggers with the same handlers and the same propagation. Levels and
suppression thresholds may differ. -/
structure SameRoutes (registry other : Registry) : Prop where
  name_eq : ∀ id, other.name id = registry.name id
  parent?_eq : ∀ id, other.parent? id = registry.parent? id
  propagate_eq : ∀ id, other.propagate id = registry.propagate id
  handlers_eq : ∀ id, other.handlers id = registry.handlers id

theorem sameRoutes_disable (registry : Registry) (level : Level) :
    registry.SameRoutes (registry.disable level) where
  name_eq := by
    intro id
    cases id <;> rfl
  parent?_eq := by
    intro id
    cases id <;> rfl
  propagate_eq := by
    intro id
    cases id <;> rfl
  handlers_eq := by
    intro id
    cases id <;> rfl

theorem sameRoutes_setLevel (registry : Registry) (id : LoggerId) (level : Level) :
    registry.SameRoutes (registry.setLevel id level) := by
  have hsettings : ∀ other,
      ((registry.setLevel id level).settings other).propagate = registry.propagate other ∧
        ((registry.setLevel id level).settings other).handlers = registry.handlers other := by
    intro other
    rw [setLevel, settings_update]
    split <;> exact ⟨rfl, rfl⟩
  refine ⟨?_, ?_, fun other => (hsettings other).1, fun other => (hsettings other).2⟩
  · exact fun other => name_update registry id other _
  · exact fun other => parent?_update registry id other _

theorem SameRoutes.ancestry_eq {registry other : Registry} (h : registry.SameRoutes other)
    (id : LoggerId) : other.ancestry id = registry.ancestry id := by
  induction id using Nat.strongRecOn with
  | ind id ih =>
      cases hparent : registry.parent? id with
      | none =>
          rw [ancestry_of_parent?_eq_none hparent,
            ancestry_of_parent?_eq_none ((h.parent?_eq id).trans hparent)]
      | some outer =>
          rw [ancestry_of_parent? hparent, ancestry_of_parent? ((h.parent?_eq id).trans hparent),
            ih outer (parent?_lt hparent)]

theorem SameRoutes.passed_eq {registry other : Registry} (h : registry.SameRoutes other)
    (id : LoggerId) : other.passed id = registry.passed id := by
  rw [passed, passed, visited, visited, h.ancestry_eq, funext h.propagate_eq,
    funext h.handlers_eq]

/-- Neither levels nor suppression thresholds have an influence on what becomes of a record. -/
theorem SameRoutes.emit_eq {registry other : Registry} (h : registry.SameRoutes other)
    (id : LoggerId) (level : Level) (failure : Option Failure) (draft : Draft)
    (outputs : Outputs) :
    other.emit id level failure draft outputs = registry.emit id level failure draft outputs := by
  rw [emit, emit, dispatch_eq_foldl_offer, dispatch_eq_foldl_offer, h.passed_eq, h.name_eq]

end Registry

end LogTree
