import Mathlib
import LogTree.Proofs.RecordDispatch

namespace LogTree

theorem Failure.render_eq (failure : Failure) :
    failure.render =
      "error: " ++ failure.message ++ String.join (failure.causes.map ("\ncaused by: " ++ ·)) := by
  have hcauses : ∀ (causes : List String) (text : String),
      causes.foldl (fun text cause => text ++ "\ncaused by: " ++ cause) text =
        text ++ String.join (causes.map ("\ncaused by: " ++ ·)) := by
    intro causes
    induction causes with
    | nil =>
        intro text
        rw [List.foldl_nil, List.map_nil, String.join_nil, String.append_empty]
    | cons cause rest ih =>
        intro text
        rw [List.foldl_cons, ih, List.map_cons, String.join_cons]
        simp only [String.append_assoc]
  rw [render, hcauses]

/-- A record that was handed to a logger has come to the handlers it has to come to. -/
structure Registry.Delivers (registry : Registry) (id : LoggerId) (record : Record)
    (outputs : Outputs) (delivery : Delivery) : Prop where
  /-- They are those that accept it on the loggers that it comes past, from the logger up, and on
  each logger in the order in which they were attached. -/
  invoked_eq : delivery.invoked = registry.accepting id record.level
  /-- A handler sees it once for each of these loggers that it is attached to. -/
  count_eq : ∀ handler, (delivery.invoked.map Handler.id).count handler =
    (registry.visited id).countP fun logger => (registry.handlers logger).any fun attached =>
      attached.id = handler ∧ attached.accepts record.level
  /-- All of them see the same record. If it comes past no handler, it may be written to the
  standard error. -/
  outputs_eq : delivery.outputs =
    let handled := outputs.handleAll record delivery.invoked
    if registry.passed id = [] ∧ Level.warning ≤ record.level then
      (handled.lastResort record).outputs
    else
      handled

namespace Session

/-- In every state of a run, a record that is handed to a logger comes to the handlers it has to
come to, unless one of them aborts. Levels and suppression thresholds have no say in it, and nothing
changes but what has been put out. -/
theorem emit_delivers (moment : Moment) (commands : List Command) (key : String)
    (id : LoggerId) (level : Level) (failure : Option Failure) (message : Message)
    (thread : Option String) :
    let session := (run { moment } commands).1
    let registry := session.registry key
    let draft : Draft := { message, thread, moment := session.moment }
    let record : Record :=
      { level
        logger := registry.name id
        message
        thread
        error := failure.map fun failure =>
          "error: " ++ failure.message ++ String.join (failure.causes.map ("\ncaused by: " ++ ·))
        moment := session.moment }
    let delivery := registry.emit id level failure draft session.outputs
    session.outputs.NoneAborts record (registry.accepting id level) →
      registry.Delivers id record session.outputs delivery ∧
        (∀ other, registry.SameRoutes other →
          other.emit id level failure draft session.outputs = delivery) ∧
        ∀ outlet : Outlet, outlet.logger = id →
          (session.stepOutlet { registry := key, value := outlet }
            (.log (.raw level failure) message thread)).1 =
              { session with outputs := delivery.outputs } := by
  intro session registry draft record delivery hnone
  have hrecord : Record.ofDraft (registry.name id) level failure draft = record := by
    rw [Record.ofDraft, funext Failure.render_eq]
  obtain ⟨hinvoked, houtputs⟩ := Registry.emit_of_noneAborts hrecord hnone
  refine ⟨⟨hinvoked, ?_, ?_⟩, ?_, ?_⟩
  · intro handler
    rw [hinvoked]
    exact Registry.count_accepting (attachesOnce_registry_run moment commands key) id level handler
  · rw [hinvoked]
    exact houtputs
  · intro other hother
    exact hother.emit_eq id level failure draft session.outputs
  · rintro outlet rfl
    rfl

/-- A handler that is attached to a logger and to the root sees a record twice. -/
theorem emit_reaches_shared_handler_twice :
    let session := (run { moment := { instant := { seconds := 0 } } } [
      .handler "all" (.make .notset (.journal "all")),
      .logger { registry := "main", name := "" } (.attach "all"),
      .logger { registry := "main", name := "app" } (.attach "all")]).1
    let registry := session.registry "main"
    let failure : Failure := { message := "gone", causes := ["closed"] }
    let draft : Draft := { message := .text "lost", thread := none, moment := session.moment }
    let record : Record :=
      { level := .info
        logger := registry.name 1
        message := .text "lost"
        thread := none
        error := some ("error: " ++ "gone" ++ String.join ["\ncaused by: " ++ "closed"])
        moment := session.moment }
    let delivery := registry.emit 1 .info (some failure) draft session.outputs
    session.outputs.NoneAborts record (registry.accepting 1 .info) ∧
      registry.Delivers 1 record session.outputs delivery ∧
      delivery.invoked.map Handler.id = [.named "all", .named "all"] := by
  have haccepting : ((run { moment := { instant := { seconds := 0 } } } [
      .handler "all" (.make .notset (.journal "all")),
      .logger { registry := "main", name := "" } (.attach "all"),
      .logger { registry := "main", name := "app" } (.attach "all")]).1.registry "main").accepting
        1 .info = List.replicate 2 { id := .named "all", destination := .journal "all" } := by
    cbv
  intro session registry failure draft record delivery
  have hnone : session.outputs.NoneAborts record (registry.accepting 1 .info) := by
    refine Outputs.noneAborts_of_text rfl ?_ _
    rw [haccepting]
    intro handler hhandler sink layout
    rw [List.eq_of_mem_replicate hhandler]
    rintro ⟨⟩
  have hdelivers := (emit_delivers _ _ "main" 1 .info (some failure) (.text "lost") none hnone).1
  have hinvoked := hdelivers.invoked_eq.trans haccepting
  exact ⟨hnone, hdelivers, by rw [hinvoked]; rfl⟩

end Session

end LogTree
