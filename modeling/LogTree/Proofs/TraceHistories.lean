import LogTree.Proofs.AdjacentHandlers
import LogTree.Proofs.CapturedRecords
import LogTree.Proofs.TraceFilters

namespace LogTree

/-- A record that has been kept, as the event that it would have been published as. -/
def Captured.event (captured : Captured) : Event :=
  { severity := Severity.ofLevel captured.level, origin := captured.logger,
    message := captured.message, error := captured.error }

/-- The events that a handler has published. -/
def Outputs.eventsOf (outputs : Outputs) (handler : HandlerId) : List Event :=
  (outputs.events.filter fun published => published.handler = handler).map Published.event

namespace Delivery

theorem invoked_offer (delivery : Delivery) (record : Record) (handler : Handler) :
    (delivery.offer record handler).invoked =
      if delivery.aborted = false ∧ handler.accepts record.level = true then
        delivery.invoked ++ [handler]
      else delivery.invoked := by
  rw [offer]
  cases delivery.aborted <;> cases handler.accepts record.level <;> rfl

theorem aborted_offer {handler : Handler} {record : Record}
    (h : ∀ outputs : Outputs, (outputs.handle handler record).aborted = false)
    (delivery : Delivery) : (delivery.offer record handler).aborted = delivery.aborted := by
  rcases hbefore : delivery.aborted with _ | _
  · rcases haccepts : handler.accepts record.level with _ | _
    · rw [offer_of_not_accepts hbefore haccepts]
      exact hbefore
    · rw [offer_of_accepts hbefore haccepts]
      exact h _
  · rw [offer_of_aborted hbefore]
    exact hbefore

/-- Two handlers that take the same records and never abort a call are handed a record equally
often, wherever others abort the call, if nothing comes between them. -/
theorem count_invoked_foldl_offer {first second : Handler} (hne : first ≠ second) {record : Record}
    (haccepts : first.accepts record.level = second.accepts record.level)
    (hfirst : ∀ outputs : Outputs, (outputs.handle first record).aborted = false)
    (hsecond : ∀ outputs : Outputs, (outputs.handle second record).aborted = false)
    {handlers : List Handler} (h : SideBySide first second handlers) {delivery : Delivery}
    (hcount : delivery.invoked.count first = delivery.invoked.count second) :
    let offered := handlers.foldl (Delivery.offer · record ·) delivery
    offered.invoked.count first = offered.invoked.count second := by
  induction h generalizing delivery with
  | nil => exact hcount
  | pair _ ih =>
      refine ih ?_
      rw [invoked_offer, invoked_offer, aborted_offer hfirst, haccepts]
      split
      · simp [hcount, hne, hne.symm]
      · exact hcount
  | swapped _ ih =>
      refine ih ?_
      rw [invoked_offer, invoked_offer, aborted_offer hsecond, haccepts]
      split
      · simp [hcount, hne, hne.symm]
      · exact hcount
  | other hnotFirst hnotSecond _ ih =>
      refine ih ?_
      rw [invoked_offer]
      split
      · simp [hcount, hnotFirst, hnotSecond]
      · exact hcount

end Delivery

/-- What a handler has to keep, or to publish, of the records that it was handed. -/
def received (handler : Handler) (dispatches : List Dispatch) : List Captured :=
  (dispatches.filter fun dispatch => dispatch.handler = handler).filterMap Dispatch.captured?

theorem received_append (handler : Handler) (dispatches later : List Dispatch) :
    received handler (dispatches ++ later) =
      received handler dispatches ++ received handler later := by
  rw [received, List.filter_append, List.filterMap_append, received, received]

theorem received_map (handler : Handler) (record : Record) (invoked : List Handler) :
    received handler (invoked.map fun handler => { handler, record }) =
      (List.replicate (invoked.count handler) ({ handler, record } : Dispatch)).filterMap
        Dispatch.captured? := by
  have hfilter : invoked.filter ((fun dispatch : Dispatch => decide (dispatch.handler = handler)) ∘
      fun handler => { handler, record }) = List.replicate (invoked.count handler) handler :=
    List.filter_eq handler
  rw [received, List.filter_map, hfilter, List.map_replicate]

namespace Session

theorem dispatches_cases (session : Session) (command : Command) :
    session.dispatches command = [] ∨
      ∃ (resolved : Session) (key : String) (id : LoggerId) (record : Record) (outputs : Outputs),
        session.KeepsHandlers resolved ∧
          session.dispatches command = (((resolved.registry key).passed id).foldl
            (Delivery.offer · record ·) { outputs }).invoked.map fun handler =>
              { handler, record } := by
  unfold dispatches
  split
  · next target submission message thread =>
      have hkeeps : session.KeepsHandlers (session.resolve target).1 := fun key id =>
        congrArg Settings.handlers (session.settings_resolve target key id)
      rcases hresolve : session.resolve target with ⟨resolved, refusal | outlet⟩
      · exact .inl rfl
      · rw [hresolve] at hkeeps
        let draft : Draft := { message, thread, moment := resolved.moment }
        rcases resolved.submit_cases outlet submission draft with hsubmit | hsubmit
        · refine .inr ⟨resolved, outlet.registry, outlet.value.logger,
            resolved.recordOf outlet submission draft, resolved.outputs, hkeeps, ?_⟩
          simp only [draft] at hsubmit
          simp only [hsubmit, Registry.emit, Delivery.invoked_finish,
            Registry.dispatch_eq_foldl_offer, recordOf, draft]
        · simp only [draft] at hsubmit
          simp only [hsubmit]
          exact .inl rfl
  · exact .inl rfl

section

variable {first second : Handler} (hne : first ≠ second)
  (hthreshold : first.threshold = second.threshold)
  (hfirst : ∀ sink layout, first.destination ≠ .stream sink layout (some .abortsOnce))
  (hsecond : ∀ sink layout, second.destination ≠ .stream sink layout (some .abortsOnce))

include hne hthreshold hfirst hsecond

theorem received_dispatches {session : Session} {command : Command}
    (h : session.dispatches command ≠ [] → session.StandTogether first second) :
    received first (session.dispatches command) = received second (session.dispatches command) := by
  rcases session.dispatches_cases command with
    hnone | ⟨resolved, key, id, record, outputs, hkeeps, heq⟩
  · rw [hnone]
    rfl
  · rcases Decidable.em (session.dispatches command = []) with hnone | hsome
    · rw [hnone]
      rfl
    · have hpassed : SideBySide first second ((resolved.registry key).passed id) :=
        SideBySide.flatMap _ ((h hsome).of_keeps hkeeps key)
      rw [heq, received_map, received_map]
      rcases hmessage : record.message with text | _
      · have haccepts : first.accepts record.level = second.accepts record.level := by
          rw [Handler.accepts, Handler.accepts, hthreshold]
        rw [@Delivery.count_invoked_foldl_offer first second hne record haccepts
          (Outputs.aborted_handle_eq_false hmessage hfirst)
          (Outputs.aborted_handle_eq_false hmessage hsecond) _ hpassed { outputs } rfl]
        simp only [List.filterMap_replicate, Dispatch.captured?, hmessage]
      · simp only [List.filterMap_replicate, Dispatch.captured?, hmessage]

theorem received_runDispatches {session : Session} {commands : List Command}
    (h : session.DispatchesTogether first second commands) :
    received first (session.runDispatches commands) =
      received second (session.runDispatches commands) := by
  induction commands generalizing session with
  | nil => rfl
  | cons command rest ih =>
      rw [runDispatches, received_append, received_append, ih h.2,
        received_dispatches hne hthreshold hfirst hsecond h.1]

end

end Session

theorem Outputs.eventsOf_append (outputs : Outputs) (sink : Sink) (pieces : Stream)
    (id : HandlerId) : (outputs.append sink pieces).eventsOf id = outputs.eventsOf id := by
  cases sink <;> rfl

theorem Outputs.eventsOf_publish (outputs : Outputs) (handler id : HandlerId) (event : Event) :
    (outputs.publish handler event).eventsOf id =
      outputs.eventsOf id ++ if handler = id then [event] else [] := by
  rw [eventsOf, publish, List.filter_append, List.map_append, eventsOf, List.filter_singleton]
  by_cases h : handler = id <;> simp [h]

/-- What a record adds to the events of a handler when it is handed to one. -/
def eventAdded (id : HandlerId) (handler : Handler) (record : Record) : List Event :=
  if handler.destination = .trace ∧ handler.id = id then
    ((Dispatch.captured? { handler, record }).map Captured.event).toList
  else []

theorem eventAdded_of_ne_trace {handler : Handler} (h : handler.destination ≠ .trace)
    (id : HandlerId) (record : Record) : eventAdded id handler record = [] := by
  rw [eventAdded, if_neg fun htrace => h htrace.1]

theorem eventAdded_of_aborted {outputs : Outputs} {handler : Handler} {record : Record}
    (h : (outputs.handle handler record).aborted = true) (id : HandlerId) :
    eventAdded id handler record = [] := by
  rcases hmessage : record.message with text | _
  · apply eventAdded_of_ne_trace
    intro htrace
    rw [Outputs.aborted_handle_eq_false hmessage (by simp [htrace])] at h
    cases h
  · rw [eventAdded, Dispatch.captured?, hmessage]
    exact ite_self []

theorem gathers_events (id : HandlerId) :
    Gathers (Outputs.eventsOf · id) (eventAdded id) fun _ => True where
  read_handle := by
    intro outputs handler record _
    rcases haborted : (outputs.handle handler record).aborted with _ | _
    · rcases Outputs.handle_cases haborted with ⟨key, hplace, heq⟩ | ⟨key, text, hplace, -, heq⟩ |
        ⟨text, hplace, hmessage, heq⟩ | ⟨sink, layout, fault, text, hplace, -, heq⟩
      · rw [heq, eventAdded_of_ne_trace (by simp [hplace]), List.append_nil]
        rfl
      · rw [heq, eventAdded_of_ne_trace (by simp [hplace]), List.append_nil]
        rfl
      · rw [heq, Outputs.eventsOf_publish, eventAdded, Dispatch.captured?, hmessage]
        simp only [hplace, true_and]
        rfl
      · rw [heq, eventAdded_of_ne_trace (by simp [hplace]), List.append_nil]
        exact outputs.eventsOf_append sink _ id
    · rw [eventAdded_of_aborted haborted, List.append_nil]
      rcases Outputs.outputs_handle_of_aborted haborted with heq | heq
      · rw [heq]
      · rw [heq]
        rfl
  read_lastResort := by
    intro outputs record
    rcases hmessage : record.message with text | _
    · simp only [Outputs.lastResort, Outputs.rendering, hmessage]
      exact outputs.eventsOf_append .standardError _ id
    · simp only [Outputs.lastResort, Outputs.rendering, hmessage]

/-- The events of a handler that a filter shows. -/
def Outputs.shown (outputs : Outputs) (filter : Filter) (handler : HandlerId) : List Event :=
  (outputs.eventsOf handler).filter fun event => filter.shows event.severity

theorem Outputs.shown_of_cutoff?_eq_none {filter : Filter} (h : filter.cutoff? = none)
    (outputs : Outputs) (handler : HandlerId) : outputs.shown filter handler = [] := by
  rw [shown, List.filter_eq_nil_iff]
  intro event _
  rw [filter.shows_of_cutoff?_eq_none h]
  exact Bool.false_ne_true

theorem Delivery.shown_offer {filter : Filter} {cutoff : Level} (h : filter.cutoff? = some cutoff)
    {handler : Handler} (htrace : handler.destination = .trace) {record : Record} {text : String}
    (hmessage : record.message = .text text) {delivery : Delivery}
    (haborted : delivery.aborted = false) :
    (delivery.offer record handler).outputs.shown filter handler.id =
      delivery.outputs.shown filter handler.id ++
        if max handler.threshold cutoff ≤ record.level then [Event.ofRecord record text]
        else [] := by
  have hshows : filter.shows (Event.ofRecord record text).severity =
      decide (cutoff ≤ record.level) := by
    rw [Event.ofRecord, filter.shows_ofLevel, h, Option.any_some]
  rcases haccepts : handler.accepts record.level with _ | _
  · have hbelow : ¬max handler.threshold cutoff ≤ record.level := fun hmax =>
      of_decide_eq_false haccepts (Level.max_le_iff.mp hmax).1
    rw [offer_of_not_accepts haborted haccepts, if_neg hbelow, List.append_nil]
  · have hhandled : (delivery.outputs.handle handler record).outputs =
        delivery.outputs.publish handler.id (Event.ofRecord record text) := by
      rw [Outputs.handle, htrace, hmessage]
      rfl
    have hmax : max handler.threshold cutoff ≤ record.level ↔ cutoff ≤ record.level := by
      rw [Level.max_le_iff, and_iff_right (of_decide_eq_true haccepts)]
    rw [offer_of_accepts haborted haccepts, Outputs.shown, hhandled, Outputs.eventsOf_publish,
      if_pos rfl, List.filter_append, List.filter_singleton, hshows, Outputs.shown]
    simp only [hmax, Bool.cond_decide]

namespace Session

theorem eventsOf_step (session : Session) (command : Command) (id : HandlerId) :
    (session.step command).1.outputs.eventsOf id = session.outputs.eventsOf id ++
      (session.dispatches command).flatMap fun dispatch =>
        eventAdded id dispatch.handler dispatch.record := by
  refine read_step (gathers_events id) (fun _ _ _ _ => trivial) fun hcall => ?_
  rcases outputs_step_cases hcall with heq | ⟨buffer, pieces, heq, -⟩ | ⟨key, journal, -, heq⟩ |
    ⟨buffer, -, heq⟩
  · rw [heq]
  · rw [heq, Outputs.eventsOf_append]
  · rw [heq]
    rfl
  · rw [heq]
    rfl

theorem eventsOf_run (session : Session) (commands : List Command) (id : HandlerId) :
    (session.run commands).1.outputs.eventsOf id = session.outputs.eventsOf id ++
      (session.runDispatches commands).flatMap fun dispatch =>
        eventAdded id dispatch.handler dispatch.record := by
  induction commands generalizing session with
  | nil => exact (List.append_nil _).symm
  | cons command rest ih =>
      rw [run_cons_fst, ih, eventsOf_step, runDispatches,
        List.flatMap_append, List.append_assoc]

/-- A handler that publishes records and one that keeps them, of one threshold. -/
structure HasTwins (session : Session) (tracerKey keeperKey journal : String)
    (tracer keeper : Handler) : Prop where
  tracer_eq : session.handlers.get? tracerKey = some tracer
  keeper_eq : session.handlers.get? keeperKey = some keeper
  publishes : tracer.destination = .trace
  keeps : keeper.destination = .journal journal
  threshold_eq : tracer.threshold = keeper.threshold

namespace HasTwins

variable {session : Session} {tracerKey keeperKey journal : String} {tracer keeper : Handler}
  (h : session.HasTwins tracerKey keeperKey journal tracer keeper)

include h

theorem ne : tracer ≠ keeper := by
  rintro rfl
  have hdestination := h.publishes.symm.trans h.keeps
  cases hdestination

theorem received_runDispatches {start : Session} {commands : List Command}
    (htogether : start.DispatchesTogether tracer keeper commands) :
    received tracer (start.runDispatches commands) =
      received keeper (start.runDispatches commands) :=
  Session.received_runDispatches h.ne h.threshold_eq (by simp [h.publishes]) (by simp [h.keeps])
    htogether

end HasTwins

theorem eventsOf_eq_received {moment : Moment} {commands : List Command} {key : String}
    {tracer : Handler} (h : (run { moment } commands).1.handlers.get? key = some tracer)
    (htrace : tracer.destination = .trace) :
    (run { moment } commands).1.outputs.eventsOf tracer.id =
      (received tracer (runDispatches { moment } commands)).map Captured.event := by
  have hnone : Outputs.eventsOf ({ moment } : Session).outputs tracer.id = [] := rfl
  rw [eventsOf_run, hnone, List.nil_append, received, List.filterMap_filter, List.map_filterMap,
    List.filterMap_eq_flatMap_toList]
  apply List.flatMap_congr
  intro dispatch hdispatch
  rw [eventAdded]
  by_cases hsame : dispatch.handler = tracer
  · rw [if_pos ⟨by rw [hsame, htrace], by rw [hsame]⟩, if_pos (decide_eq_true hsame)]
  · have hmade := (of_mem_runDispatches hdispatch).2
    rw [if_neg fun heq => hsame ((listsHandlers_run moment commands).eq_of_id_eq h hmade heq.2),
      if_neg (by simpa using hsame)]
    rfl

theorem drained_append_journal_eq_received {moment : Moment} {commands : List Command}
    {key journal : String} {keeper : Handler}
    (h : (run { moment } commands).1.handlers.get? key = some keeper)
    (hkeeps : keeper.destination = .journal journal)
    (hown : ∀ other, (run { moment } commands).1.HasJournal journal other → other = key) :
    let outcome := run { moment } commands
    ((commands.zip outcome.2).flatMap (outcome.1.drained journal)) ++
        outcome.1.outputs.journal journal =
      received keeper (runDispatches { moment } commands) := by
  intro outcome
  have hrun := drained_append_journal_run { moment } commands journal
  have hnone : Outputs.journal ({ moment } : Session).outputs journal = [] := rfl
  rw [hnone, List.nil_append] at hrun
  rw [received]
  refine hrun.trans (congrArg (List.filterMap Dispatch.captured?) (List.filter_congr ?_))
  intro dispatch hdispatch
  rw [decide_eq_decide]
  refine ⟨?_, fun heq => by rw [heq, hkeeps]⟩
  intro hplace
  rcases (of_mem_runDispatches hdispatch).2 with hstandard | ⟨other, -, hother⟩
  · rw [hstandard] at hplace
    cases hplace
  · have hshares : (run { moment } commands).1.HasJournal journal other := by
      rw [HasJournal, hother, Option.bind_some, Handler.journal?, hplace]
    rw [hown other hshares, h] at hother
    exact (Option.some.inj hother).symm

/-- Handlers that publish records mirror those that keep them. If two of one threshold stand side by
side wherever records are handed out, the one publishes what the other one keeps, record by record
and in order; they stand so if they are attached and detached one right after the other. Severities
are in the order of the levels, each from the bound of its name on. So whatever filter shows the
events shows those of a handler from the threshold of the handler or from a bound on, whichever is
greater, or shows none. -/
theorem traces_mirror_captures (moment : Moment) :
    (∀ (commands : List Command) (tracerKey keeperKey journal : String) (tracer keeper : Handler),
      let outcome := run { moment } commands
      let session := outcome.1
      let events := session.outputs.eventsOf tracer.id
      let drained := (commands.zip outcome.2).flatMap (session.drained journal)
      let held := session.outputs.journal journal
      session.HasTwins tracerKey keeperKey journal tracer keeper →
      DispatchesTogether tracer keeper { moment } commands →
      events = (received keeper (runDispatches { moment } commands)).map Captured.event ∧
        ((∀ other, session.HasJournal journal other → other = keeperKey) →
          events = (drained ++ held).map Captured.event)) ∧
    (∀ (before after : List Command) (tracerKey keeperKey journal : String)
      (tracer keeper : Handler),
      (run { moment } before).1.HasTwins tracerKey keeperKey journal tracer keeper →
      (∀ command ∈ before,
        command.handler? ≠ some tracerKey ∧ command.handler? ≠ some keeperKey) →
      MovedTogether tracerKey keeperKey after →
      DispatchesTogether tracer keeper { moment } (before ++ after)) ∧
    (∀ level other : Level, level ≤ other → Severity.ofLevel level ≤ Severity.ofLevel other) ∧
    (∀ level : Level,
      (.error ≤ Severity.ofLevel level ↔ 40 ≤ level.severity) ∧
      (.warn ≤ Severity.ofLevel level ↔ 30 ≤ level.severity) ∧
      (.info ≤ Severity.ofLevel level ↔ 20 ≤ level.severity) ∧
      (.debug ≤ Severity.ofLevel level ↔ 10 ≤ level.severity)) ∧
    (∀ filter : Filter,
      (filter.cutoff? = none → ∀ outputs handler, Outputs.shown outputs filter handler = []) ∧
      ∀ cutoff, filter.cutoff? = some cutoff → cutoff.severity ∈ [0, 10, 20, 30, 40] ∧
        ∀ (handler : Handler) (record : Record) (text : String) (delivery : Delivery),
          handler.destination = .trace → record.message = .text text →
          delivery.aborted = false →
          (delivery.offer record handler).outputs.shown filter handler.id =
            delivery.outputs.shown filter handler.id ++
              if max handler.threshold cutoff ≤ record.level then [Event.ofRecord record text]
              else []) ∧
    ∀ directive ∈ FilterRule.limits,
      (Filter.parse directive.1).map Filter.cutoff? = .ok (directive.2.map Severity.least) := by
  refine ⟨?_, ?_, fun _ _ => Severity.ofLevel_le_ofLevel, ?_, ?_, by decide⟩
  · intro commands tracerKey keeperKey journal tracer keeper outcome session events drained held
      htwins htogether
    have hevents : events =
        (received keeper (runDispatches { moment } commands)).map Captured.event := by
      rw [← htwins.received_runDispatches htogether]
      exact eventsOf_eq_received htwins.tracer_eq htwins.publishes
    refine ⟨hevents, ?_⟩
    intro hown
    rw [hevents, ← drained_append_journal_eq_received htwins.keeper_eq htwins.keeps hown]
  · intro before after tracerKey keeperKey journal tracer keeper htwins hbefore hmoved
    exact dispatchesTogether_of_movedTogether htwins.tracer_eq htwins.keeper_eq htwins.ne hmoved
      hbefore
  · intro level
    exact ⟨Severity.le_ofLevel_iff, Severity.le_ofLevel_iff, Severity.le_ofLevel_iff,
      Severity.le_ofLevel_iff⟩
  · intro filter
    refine ⟨Outputs.shown_of_cutoff?_eq_none, ?_⟩
    intro cutoff hcutoff
    refine ⟨Filter.severity_cutoff?_mem hcutoff, ?_⟩
    intro handler record text delivery htrace hmessage haborted
    exact Delivery.shown_offer hcutoff htrace hmessage haborted

/-- Of five records a handler that begins at `info` is handed three, and one of them cannot be
rendered. -/
theorem traces_mirror_captures_on_one_logger :
    let moment : Moment := { instant := { seconds := 0 } }
    let app : Address := { registry := "main", name := "app" }
    let log (level : Level) (message : Message) : Command :=
      .target (.logger app) (.log (.raw level none) message none)
    let before : List Command := [
      .handler "tracer" (.make .info .trace),
      .handler "keeper" (.make .info (.journal "kept"))]
    let after : List Command := [
      .logger app (.attach "tracer"),
      .logger app (.attach "keeper"),
      log .debug (.text "first"),
      log .error (.text "second"),
      .handler "keeper" .drain,
      log .info .failing,
      log { severity := 35 } (.text "fourth")]
    (run { moment } (before ++ after)).1.outputs.eventsOf (.named "tracer") = [
      { severity := .error, origin := "app", message := "second", error := none },
      { severity := .warn, origin := "app", message := "fourth", error := none }] := by
  intro moment app log before after
  let tracer : Handler := { id := .named "tracer", threshold := .info, destination := .trace }
  let keeper : Handler :=
    { id := .named "keeper", threshold := .info, destination := .journal "kept" }
  have hmirrors := traces_mirror_captures moment
  have hmoved : MovedTogether "tracer" "keeper" after :=
    .both (.inl (.attach app)) (.apart (by decide) (.apart (by decide) (.apart (by decide)
      (.apart (by decide) (.apart (by decide) .nil)))))
  have htogether := hmirrors.2.1 before after "tracer" "keeper" "kept" tracer keeper
    ⟨rfl, rfl, rfl, rfl, rfl⟩ (by decide) hmoved
  have htwins : (run { moment } (before ++ after)).1.HasTwins "tracer" "keeper" "kept" tracer
    keeper := ⟨by cbv, by cbv, rfl, rfl, rfl⟩
  have hhandlers : (run { moment } (before ++ after)).1.handlers =
      (NameMap.insert ∅ "tracer" tracer).insert "keeper" keeper := by cbv
  have hown : ∀ other, (run { moment } (before ++ after)).1.HasJournal "kept" other →
      other = "keeper" := by
    intro other hother
    rw [HasJournal, hhandlers, NameMap.get?_insert, NameMap.get?_insert] at hother
    split at hother
    · assumption
    · split at hother <;> cases hother
  refine ((hmirrors.1 _ "tracer" "keeper" "kept" tracer keeper htwins htogether).2 hown).trans ?_
  cbv

end Session

end LogTree
