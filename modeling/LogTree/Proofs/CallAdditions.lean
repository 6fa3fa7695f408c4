import LogTree.Proofs.RecordTraces
import LogTree.Proofs.SessionFrames
import LogTree.Proofs.Suppression

namespace LogTree

def Submission.level : Submission → Level
  | .checked call => call.level
  | .raw level _ => level

namespace Session

/-- The call that a command makes: the registry that it goes through and its level. -/
def call? (session : Session) : Command → Option (Owned Level)
  | .target target (.log submission _ _) =>
      match (session.resolve target).2 with
      | .error _ => none
      | .ok outlet => some { registry := outlet.registry, value := submission.level }
  | _ => none

end Session

/-- Something that was added to outputs, with the call that came with it. -/
structure Addition (α : Type) where
  call? : Option (Owned Level)
  value : α

namespace Session

section

variable {α : Type}

/-- What a command adds at the end of a part of the outputs. -/
def additions (read : Outputs → List α) (session : Session) (command : Command) :
    List (Addition α) :=
  let next := (session.step command).1
  ((read next.outputs).drop (read session.outputs).length).map fun value =>
    { call? := session.call? command, value }

def runAdditions (read : Outputs → List α) (session : Session) :
    List Command → List (Addition α)
  | [] => []
  | command :: rest =>
      session.additions read command ++ (session.step command).1.runAdditions read rest

def callRecord (session : Session) (outlet : Owned Outlet) (call : Call) (message : Message)
    (thread : Option String) : Record :=
  .ofDraft ((session.registry outlet.registry).name outlet.value.logger) call.level call.failure?
    { message, thread, moment := session.moment }

def callEntries (ledger : Ledger α) (session : Session) (outlet : Owned Outlet) (record : Record) :
    List α :=
  let registry := session.registry outlet.registry
  if outlet.value.Permits registry record.level then
    ledger.entries registry outlet.value.logger record
  else
    []

end

/-- None of the handlers that a call comes to aborts. -/
def NoneAborts (session : Session) (outlet : Owned Outlet) (record : Record) : Prop :=
  let registry := session.registry outlet.registry
  outlet.value.Permits registry record.level →
    session.outputs.NoneAborts record (registry.accepting outlet.value.logger record.level)

section

variable {session resolved : Session} {target : Target} {outlet : Owned Outlet}
  (hresolve : session.resolve target = (resolved, .ok outlet)) {call : Call} {message : Message}
  {thread : Option String} {record : Record}
  (hrecord : resolved.callRecord outlet call message thread = record)

include hresolve hrecord

theorem noneAborts_of_answer
    (h : ∀ renderings,
      (session.step (checkedCall target call message thread)).2 ≠ .ok (.logged renderings true)) :
    resolved.NoneAborts outlet record := by
  obtain rfl := hrecord
  intro hpermits
  have hstep := (obeysThresholds session).permitted target resolved outlet call message thread
    hresolve hpermits
  apply Registry.noneAborts_of_emit rfl
  rw [hstep] at h
  exact Bool.eq_false_iff.mpr fun haborted => h _ (by rw [haborted])

theorem outputs_step_call (hnone : resolved.NoneAborts outlet record) :
    let next := (session.step (checkedCall target call message thread)).1
    next.outputs.aborted = session.outputs.aborted ∧
      ∀ {α : Type} (ledger : Ledger α), ledger.read next.outputs =
        ledger.read session.outputs ++ resolved.callEntries ledger outlet record := by
  have hobeys := obeysThresholds session
  have houtputs : resolved.outputs = session.outputs := by
    rw [← outputs_resolve session target, hresolve]
  obtain rfl := hrecord
  intro next
  by_cases hpermits : outlet.value.Permits (resolved.registry outlet.registry)
      (resolved.callRecord outlet call message thread).level
  · have hstep := hobeys.permitted target resolved outlet call message thread hresolve hpermits
    have hhandled := hnone hpermits
    constructor
    · rw [← houtputs]
      exact (congrArg (·.1.outputs.aborted) hstep).trans
        (Registry.aborted_outputs_emit rfl hhandled)
    · intro α ledger
      rw [callEntries, if_pos hpermits, ← houtputs]
      exact (congrArg (ledger.read ·.1.outputs) hstep).trans (ledger.read_emit rfl hhandled)
  · have hstep := hobeys.suppressed target resolved outlet call message thread hresolve hpermits
    constructor
    · rw [← houtputs]
      exact congrArg (·.1.outputs.aborted) hstep
    · intro α ledger
      rw [callEntries, if_neg hpermits, List.append_nil, ← houtputs]
      exact congrArg (ledger.read ·.1.outputs) hstep

end

theorem outputs_make (session : Session) (key : String) (threshold : Level)
    (destination : Destination) :
    let next := (session.step (.handler key (.make threshold destination))).1
    next.outputs = session.outputs ∨
      ∃ buffer, next.outputs = session.outputs.append (.buffer buffer) [] := by
  simp only [step, stepHandler]
  split
  · exact .inl rfl
  · rcases destination with place | place | _ | ⟨sink, layout, fault⟩
    · exact .inl rfl
    · exact .inl rfl
    · exact .inl rfl
    · cases sink with
      | buffer buffer => exact .inr ⟨buffer, rfl⟩
      | standardOutput => exact .inl rfl
      | standardError => exact .inl rfl

/-- What a command that makes no call does to outputs. -/
theorem outputs_step_cases {session : Session} {command : Command}
    (h : session.call? command = none) :
    let next := (session.step command).1
    next.outputs = session.outputs ∨
      (∃ buffer pieces, next.outputs = session.outputs.append (.buffer buffer) pieces ∧
        ∀ piece ∈ pieces, piece.writer = .owner) ∨
      (∃ key journal, command = .handler key .drain ∧
        next.outputs = session.outputs.drain journal) ∨
      ∃ buffer, command = .buffer buffer .clear ∧
        next.outputs = session.outputs.clear buffer := by
  intro next
  cases htouches : command.touchesOutputs with
  | false => exact .inl ((session.holdsAfter_step command).outputs_eq htouches)
  | true =>
      cases command with
      | handler key command =>
          cases command with
          | make threshold destination =>
              rcases session.outputs_make key threshold destination with
                houtputs | ⟨buffer, houtputs⟩
              · exact .inl houtputs
              · exact .inr (.inl ⟨buffer, [], houtputs, fun _ hpiece => by cases hpiece⟩)
          | drain =>
              simp only [next, step, stepHandler]
              split
              · exact .inr (.inr (.inl ⟨key, _, rfl, rfl⟩))
              · exact .inl rfl
      | buffer key command =>
          cases command with
          | write octets =>
              exact .inr (.inl ⟨key, _, rfl, fun _ hpiece => by rw [List.mem_singleton.mp hpiece]⟩)
          | clear => exact .inr (.inr (.inr ⟨key, rfl, rfl⟩))
      | target target command =>
          cases command with
          | log submission message thread =>
              have houtputs := outputs_resolve session target
              left
              rcases hresolve : session.resolve target with ⟨resolved, refusal | outlet⟩
              · rw [hresolve] at houtputs
                simp only [next, step, hresolve]
                exact houtputs
              · simp [call?, hresolve] at h
          | _ => cases htouches
      | _ => cases htouches

theorem outputs_step_of_call?_eq_none {session : Session} {command : Command}
    (h : session.call? command = none) :
    let next := (session.step command).1
    next.outputs.aborted = session.outputs.aborted ∧
      ∀ {α : Type} (ledger : Ledger α), ledger.read next.outputs = ledger.read session.outputs ∨
        ledger.read next.outputs = [] := by
  intro next
  rcases outputs_step_cases h with houtputs | ⟨buffer, pieces, houtputs, -⟩ |
    ⟨key, journal, -, houtputs⟩ | ⟨buffer, -, houtputs⟩
  · rw [houtputs]
    exact ⟨rfl, fun _ => .inl rfl⟩
  · simp only [next, houtputs]
    exact ⟨rfl, fun ledger => .inl (ledger.read_append _ _ _)⟩
  · simp only [next, houtputs]
    exact ⟨rfl, fun ledger => ledger.read_drain _ _⟩
  · simp only [next, houtputs]
    exact ⟨rfl, fun ledger => .inl (ledger.read_clear _ _)⟩

theorem exists_checkedCall {session : Session} {command : Command} {made : Owned Level}
    (h : session.call? command = some made) {key : String} (hkeeps : command.KeepsThreshold key)
    (hanswer : ∀ renderings, (session.step command).2 ≠ .ok (.logged renderings true)) :
    ∃ target call message thread resolved outlet,
      command = checkedCall target call message thread ∧
        session.resolve target = (resolved, .ok outlet) ∧
        resolved.NoneAborts outlet (resolved.callRecord outlet call message thread) := by
  unfold call? at h
  split at h
  · next target submission message thread =>
      rcases hresolve : session.resolve target with ⟨resolved, refusal | outlet⟩
      · simp [hresolve] at h
      · cases submission with
        | raw least failure => cases hkeeps
        | checked call =>
            exact ⟨target, call, message, thread, resolved, outlet, rfl, hresolve,
              noneAborts_of_answer hresolve rfl hanswer⟩
  · cases h

section

variable {α : Type}

theorem additions_of_read_eq {read : Outputs → List α} {session : Session} {command : Command}
    {values : List α}
    (h : read (session.step command).1.outputs = read session.outputs ++ values) :
    session.additions read command =
      values.map fun value => { call? := session.call? command, value } := by
  rw [additions, h, List.drop_left]

theorem additions_of_call?_eq_none {session : Session} {command : Command}
    (h : session.call? command = none) (ledger : Ledger α) :
    session.additions ledger.read command = [] := by
  rw [additions]
  rcases (outputs_step_of_call?_eq_none h).2 ledger with hkept | hemptied
  · rw [hkept, List.drop_length, List.map_nil]
  · rw [hemptied, List.drop_nil, List.map_nil]

theorem call?_checkedCall {session resolved : Session} {target : Target} {outlet : Owned Outlet}
    (hresolve : session.resolve target = (resolved, .ok outlet)) (call : Call) (message : Message)
    (thread : Option String) :
    session.call? (checkedCall target call message thread) =
      some { registry := outlet.registry, value := call.level } := by
  simp only [call?, hresolve, Submission.level]

theorem additions_checkedCall {session resolved : Session} {target : Target}
    {outlet : Owned Outlet} (hresolve : session.resolve target = (resolved, .ok outlet))
    {call : Call} {message : Message} {thread : Option String} {record : Record}
    (hrecord : resolved.callRecord outlet call message thread = record)
    (hnone : resolved.NoneAborts outlet record) (ledger : Ledger α) :
    session.additions ledger.read (checkedCall target call message thread) =
      (resolved.callEntries ledger outlet record).map fun value =>
        { call? := some { registry := outlet.registry, value := call.level }, value } := by
  rw [additions_of_read_eq ((outputs_step_call hresolve hrecord hnone).2 ledger),
    call?_checkedCall hresolve]

end

theorem level_of_mem_additions {session : Session} {command : Command} {key place : String}
    (hkeeps : command.KeepsThreshold key)
    (hanswer : ∀ renderings, (session.step command).2 ≠ .ok (.logged renderings true))
    {addition : Addition Captured}
    (h : addition ∈ session.additions (Ledger.journal place).read command) :
    ∃ call, addition.call? = some call ∧ addition.value.level = call.value := by
  cases hcall : session.call? command with
  | none =>
      rw [additions_of_call?_eq_none hcall] at h
      cases h
  | some made =>
      obtain ⟨target, call, message, thread, resolved, outlet, rfl, hresolve, hnone⟩ :=
        exists_checkedCall hcall hkeeps hanswer
      rw [additions_checkedCall hresolve rfl hnone] at h
      obtain ⟨captured, hcaptured, rfl⟩ := List.mem_map.mp h
      refine ⟨_, rfl, ?_⟩
      rw [callEntries] at hcaptured
      split at hcaptured
      · exact Ledger.level_of_mem_entries_journal hcaptured
      · cases hcaptured

theorem level_of_mem_runAdditions {session : Session} {script : List Command} {key place : String}
    (hkeeps : ∀ command ∈ script, command.KeepsThreshold key)
    (hanswers : ∀ renderings, .ok (.logged renderings true) ∉ (session.run script).2)
    {addition : Addition Captured}
    (h : addition ∈ session.runAdditions (Ledger.journal place).read script) :
    ∃ call, addition.call? = some call ∧ addition.value.level = call.value := by
  induction script generalizing session with
  | nil => cases h
  | cons command rest ih =>
      obtain ⟨hfirst, hrest⟩ := List.forall_mem_cons.mp hkeeps
      rcases List.mem_append.mp h with hadded | hlater
      · refine level_of_mem_additions hfirst ?_ hadded
        intro renderings heq
        exact hanswers renderings (List.mem_cons.mpr (.inl heq.symm))
      · exact ih hrest (fun renderings hmem =>
          hanswers renderings (List.mem_cons_of_mem _ hmem)) hlater

end Session

end LogTree
