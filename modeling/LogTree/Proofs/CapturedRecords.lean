import Mathlib
import LogTree.Proofs.DispatchHistory
import LogTree.Session.Changes

namespace LogTree

/-- What is kept of a record that is handed to a handler. A message that cannot be rendered aborts
the call before there is anything to keep. -/
def Dispatch.captured? (dispatch : Dispatch) : Option Captured :=
  match dispatch.record.message with
  | .text text =>
      some {
        level := dispatch.record.level
        logger := dispatch.record.logger
        message := text
        thread := dispatch.record.thread
        error := dispatch.record.error }
  | .failing => none

theorem Ledger.adds_journal_of_aborted {key : String} {outputs : Outputs} {handler : Handler}
    {record : Record} (h : (outputs.handle handler record).aborted = true) :
    (journal key).adds handler record = [] := by
  obtain ⟨id, threshold, destination⟩ := handler
  cases destination with
  | journal place =>
      rcases hmessage : record.message with text | _
      · simp [Outputs.handle, Outputs.rendering, hmessage] at h
      · simp [journal, hmessage]
  | _ => simp [journal]

theorem gathers_journal (key : String) :
    Gathers (Ledger.journal key).read (Ledger.journal key).adds fun _ => True where
  read_handle := by
    intro outputs handler record _
    rcases haborted : (outputs.handle handler record).aborted with _ | _
    · exact (Ledger.journal key).read_handle haborted
    · rw [Ledger.adds_journal_of_aborted haborted, List.append_nil]
      rcases Outputs.outputs_handle_of_aborted haborted with heq | heq
      · rw [heq]
      · rw [heq]
        rfl
  read_lastResort := fun outputs record =>
    ((Ledger.journal key).read_lastResort outputs record).trans (List.append_nil _)

theorem flatMap_adds_journal (key : String) (dispatches : List Dispatch) :
    (dispatches.flatMap fun dispatch =>
      (Ledger.journal key).adds dispatch.handler dispatch.record) =
      (dispatches.filter fun dispatch =>
        dispatch.handler.destination = .journal key).filterMap Dispatch.captured? := by
  have hadds : ∀ dispatch : Dispatch,
      (Ledger.journal key).adds dispatch.handler dispatch.record =
        (if dispatch.handler.destination = .journal key then dispatch.captured?
          else none).toList := by
    rintro ⟨⟨id, threshold, destination⟩, record⟩
    cases destination with
    | journal place =>
        rcases hmessage : record.message with text | _
        · by_cases hplace : place = key
          · simp [Ledger.journal, Dispatch.captured?, Record.capture, hmessage, hplace]
          · simp [Ledger.journal, hmessage, hplace]
        · simp [Ledger.journal, Dispatch.captured?, hmessage]
    | _ => simp [Ledger.journal]
  rw [List.filterMap_filter, List.filterMap_eq_flatMap_toList]
  apply List.flatMap_congr
  intro dispatch _
  simpa only [decide_eq_true_eq] using hadds dispatch

namespace Session

def HasJournal (session : Session) (journal key : String) : Prop :=
  (session.handlers.get? key).bind Handler.journal? = some journal

instance (session : Session) (journal key : String) :
    Decidable (session.HasJournal journal key) :=
  inferInstanceAs (Decidable (_ = _))

/-- What a command was given of a journal, by its answer. -/
def drained (session : Session) (journal : String) :
    Command × Except Refusal Answer → List Captured
  | (.handler key .drain, .ok (.drained _ records)) =>
      if session.HasJournal journal key then records else []
  | _ => []

theorem drained_of_not_drain {session : Session} {journal : String} {command : Command}
    (h : ∀ key, command ≠ .handler key .drain) (answer : Except Refusal Answer) :
    session.drained journal (command, answer) = [] := by
  unfold drained
  split
  · next key wasEmpty records heq =>
      exact absurd (Prod.mk.inj heq).1 (h key)
  · rfl

/-- What a command takes out of a journal it takes from the front, and what it adds comes to the
end. -/
def ConservesJournal (session final : Session) (command : Command) (journal : String) : Prop :=
  let outcome := session.step command
  final.drained journal (command, outcome.2) ++ outcome.1.outputs.journal journal =
    session.outputs.journal journal ++ ((session.dispatches command).filter fun dispatch =>
      dispatch.handler.destination = .journal journal).filterMap Dispatch.captured?

theorem conservesJournal_drain {session final : Session} {key : String}
    (hkept : ∀ handler, session.handlers.get? key = some handler →
      final.handlers.get? key = some handler) (journal : String) :
    session.ConservesJournal final (.handler key .drain) journal := by
  rw [ConservesJournal]
  rcases hplace : (session.handlers.get? key).bind Handler.journal? with _ | place
  · rw [step_drain_of_none hplace]
    exact (List.append_nil _).symm
  · have hlater : (final.handlers.get? key).bind Handler.journal? = some place := by
      obtain ⟨handler, hhandler, hjournal⟩ := Option.bind_eq_some_iff.mp hplace
      rw [hkept handler hhandler, Option.bind_some, hjournal]
    have hnone : session.dispatches (.handler key .drain) = [] := rfl
    rw [step_drain_of_some hplace, hnone, List.filter_nil, List.filterMap_nil, List.append_nil]
    simp only [drained, answer, HasJournal, hlater, Outputs.journal_drain, Option.some.injEq]
    rcases Decidable.em (place = journal) with rfl | hne
    · rw [if_pos rfl, if_pos rfl, List.append_nil]
    · rw [if_neg hne, if_neg (Ne.symm hne), List.nil_append]

theorem conservesJournal_step {session final : Session} {command : Command}
    (hkept : ∀ key handler, session.handlers.get? key = some handler →
      final.handlers.get? key = some handler) (journal : String) :
    session.ConservesJournal final command journal := by
  by_cases hdrain : ∃ key, command = .handler key .drain
  · obtain ⟨key, rfl⟩ := hdrain
    exact conservesJournal_drain (hkept key) journal
  · have hother := not_exists.mp hdrain
    rw [ConservesJournal, drained_of_not_drain hother, List.nil_append, ← flatMap_adds_journal]
    refine read_step (gathers_journal journal) (fun _ _ _ _ => trivial) fun hcall => ?_
    rcases outputs_step_cases hcall with heq | ⟨buffer, pieces, heq, -⟩ |
      ⟨key, place, hplace, -⟩ | ⟨buffer, -, heq⟩
    · rw [heq]
    · rw [heq]
      exact Outputs.journal_append _ _ _ _
    · exact absurd hplace (hother key)
    · rw [heq]
      rfl

theorem drained_append_journal_run (session : Session) (commands : List Command)
    (journal : String) :
    let outcome := session.run commands
    ((commands.zip outcome.2).flatMap (outcome.1.drained journal)) ++
        outcome.1.outputs.journal journal =
      session.outputs.journal journal ++ ((session.runDispatches commands).filter fun dispatch =>
        dispatch.handler.destination = .journal journal).filterMap Dispatch.captured? := by
  induction commands generalizing session with
  | nil => exact (List.append_nil _).symm
  | cons command rest ih =>
      have hstep : session.ConservesJournal (session.run (command :: rest)).1 command journal :=
        conservesJournal_step (fun _ _ h => get?_handlers_run h (command :: rest)) journal
      have hrest := ih (session.step command).1
      rw [ConservesJournal] at hstep
      intro outcome
      rw [runDispatches, List.filter_append, List.filterMap_append, ← List.append_assoc, ← hstep,
        List.append_assoc, ← hrest, ← List.append_assoc]
      rfl

/-- Handlers that keep records lose none and keep none twice. What was drained from a journal in a
run and what is still there are together the records that were handed to the handlers with that
journal, in order; a record whose message cannot be rendered has nothing to keep. Each handler was
handed records that it accepts only, and the size of the journal is told as it is. The records are
those of one handler if no other one keeps its records in the same journal. -/
theorem captures_lose_and_repeat_nothing (moment : Moment) (commands : List Command)
    (journal : String) :
    let outcome := run { moment } commands
    let session := outcome.1
    let drained := (commands.zip outcome.2).flatMap (session.drained journal)
    let held := session.outputs.journal journal
    let dispatched := (runDispatches { moment } commands).filter fun dispatch =>
      dispatch.handler.destination = .journal journal
    drained ++ held = dispatched.filterMap Dispatch.captured? ∧
      (∀ dispatch ∈ dispatched, dispatch.handler.threshold ≤ dispatch.record.level) ∧
      ∀ key handler, session.handlers.get? key = some handler →
        handler.destination = .journal journal →
        session.size? handler = some held.length ∧
          session.step (.handler key .drain) =
            ({ session with outputs := session.outputs.drain journal },
              .ok (.drained held.isEmpty held)) ∧
          (session.outputs.drain journal).journal journal = [] ∧
          ((∀ other, session.HasJournal journal other → other = key) →
            dispatched = (runDispatches { moment } commands).filter fun dispatch =>
              dispatch.handler = handler) := by
  intro outcome session drained held dispatched
  have hmade : ∀ dispatch ∈ runDispatches { moment } commands,
      dispatch.handler.accepts dispatch.record.level = true ∧
        dispatch.handler.IsMade session.handlers := fun _ => of_mem_runDispatches
  refine ⟨drained_append_journal_run { moment } commands journal, ?_, ?_⟩
  · intro dispatch hdispatch
    exact of_decide_eq_true (hmade dispatch (List.mem_filter.mp hdispatch).1).1
  · intro key handler hhandler hdestination
    have hjournal : handler.journal? = some journal := by
      rw [Handler.journal?, hdestination]
    refine ⟨?_, ?_, ?_, ?_⟩
    · rw [size?, hdestination]
    · exact step_drain_of_some (by rw [hhandler, Option.bind_some, hjournal])
    · rw [Outputs.journal_drain, if_pos rfl]
    · intro hown
      apply List.filter_congr
      intro dispatch hdispatch
      rw [decide_eq_decide]
      refine ⟨?_, fun heq => by rw [heq, hdestination]⟩
      intro hplace
      rcases (hmade dispatch hdispatch).2 with hstandard | ⟨other, -, hother⟩
      · rw [hstandard] at hplace
        cases hplace
      · have hshares : session.HasJournal journal other := by
          rw [HasJournal, hother, Option.bind_some, Handler.journal?, hplace]
        rw [hown other hshares, hhandler] at hother
        exact (Option.some.inj hother).symm

/-- A handler on two loggers of a tree and on one of another tree. It is handed the first record
twice, the second one not at all, and the third one in vain. -/
example :
    let commands : List Command := [
      .handler "all" (.make .info (.journal "all")),
      .logger { registry := "main", name := "" } (.attach "all"),
      .logger { registry := "main", name := "app" } (.attach "all"),
      .logger { registry := "spare", name := "app" } (.attach "all"),
      .target (.logger { registry := "main", name := "app" })
        (.log (.checked .error) (.text "first") none),
      .handler "all" .drain,
      .target (.logger { registry := "main", name := "app" })
        (.log (.raw .debug none) (.text "second") none),
      .target (.logger { registry := "main", name := "app" })
        (.log (.raw .info none) .failing none),
      .target (.logger { registry := "spare", name := "app" })
        (.log (.raw .info none) (.text "fourth") none)]
    let outcome := run { moment := { instant := { seconds := 0 } } } commands
    ((commands.zip outcome.2).flatMap (outcome.1.drained "all")).map Captured.message =
        ["first", "first"] ∧
      (outcome.1.outputs.journal "all").map Captured.message = ["fourth"] := by
  cbv

end Session

end LogTree
