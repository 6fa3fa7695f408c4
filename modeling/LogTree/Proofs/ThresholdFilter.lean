import Mathlib
import LogTree.Proofs.CallAdditions

namespace LogTree

namespace Addition

variable {α : Type}

/-- The call did not go through a registry, or its level is above a threshold there. -/
def isAbove (key : String) (level : Level) (addition : Addition α) : Bool :=
  addition.call?.all fun call => call.registry ≠ key || level < call.value

theorem filter_isAbove (key : String) (level : Level) (call : Owned Level) (values : List α) :
    (values.map fun value => { call? := some call, value : Addition α }).filter
        (isAbove key level) =
      if call.registry = key → level < call.value then
        values.map fun value => { call? := some call, value }
      else [] := by
  have habove : ∀ value : α, isAbove key level { call? := some call, value } =
      decide (call.registry = key → level < call.value) := by
    intro value
    rw [Bool.eq_iff_iff]
    simp [isAbove, Decidable.imp_iff_not_or]
  split
  · next hcall =>
      rw [List.filter_eq_self]
      rintro addition hmem
      obtain ⟨value, -, rfl⟩ := List.mem_map.mp hmem
      rw [habove, decide_eq_true hcall]
  · next hcall =>
      rw [List.filter_eq_nil_iff]
      rintro addition hmem
      obtain ⟨value, -, rfl⟩ := List.mem_map.mp hmem
      rw [habove, decide_eq_false hcall]
      decide

end Addition

namespace Session

/-- Two sessions differ in what has been put out and in the suppression threshold of one registry,
which is higher in the other one. -/
structure Quieter (key : String) (level : Level) (session other : Session) : Prop where
  registry_eq : ∀ place, other.registry place =
    if place = key then (session.registry key).disable level else session.registry place
  disabledAt_le : (session.registry key).disabledAt ≤ level
  moment_eq : other.moment = session.moment
  handlers_eq : other.handlers = session.handlers
  objects_eq : other.objects = session.objects
  holdings_eq : other.holdings = session.holdings
  aborted_eq : other.outputs.aborted = session.outputs.aborted

section

variable {key : String} {level : Level} {session other : Session}
  (h : Quieter key level session other)

include h

theorem Quieter.exists_registry_eq (place : String) :
    ∃ threshold, other.registry place = (session.registry place).disable threshold := by
  rw [h.registry_eq]
  split
  · next heq =>
      rw [heq]
      exact ⟨level, rfl⟩
  · exact ⟨(session.registry place).disabledAt, rfl⟩

theorem Quieter.operations_eq (command : Command) (place : String) :
    other.operations place command = session.operations place command := by
  have heffect : other.effect? command = session.effect? command := by
    unfold effect?
    rw [h.handlers_eq, h.objects_eq]
  rw [operations, operations, heffect]

theorem Quieter.made?_eq (command : Command) : other.made? command = session.made? command := by
  unfold made?
  rw [h.handlers_eq]

theorem Quieter.placed?_eq (command : Command) :
    other.placed? command = session.placed? command := by
  have hbuild : ∀ place name echo, ((other.registry place).build name echo).outlet =
      ((session.registry place).build name echo).outlet := by
    intro place name echo
    obtain ⟨threshold, hplace⟩ := h.exists_registry_eq place
    rw [hplace, Registry.build, Registry.build, Registry.outlet_buildWith_disable]
  unfold placed?
  split
  · next place registryKey cls label stateLabel echo =>
      obtain ⟨threshold, hplace⟩ := h.exists_registry_eq registryKey
      rw [hplace, Registry.makeState_disable]
  · rw [h.objects_eq]
  · rw [h.objects_eq]
  · simp only [h.objects_eq, Registry.writeEcho, hbuild]
  · rfl

theorem Quieter.locate_eq (address : Address) :
    (other.locate address).2 = (session.locate address).2 := by
  obtain ⟨threshold, hplace⟩ := h.exists_registry_eq address.registry
  simp only [locate, hplace, Registry.registry_obtain_disable, Registry.id_obtain_disable,
    Registry.climb?_disable]

theorem Quieter.held?_eq (command : Command) : other.held? command = session.held? command := by
  have hbuild : ∀ place name echo make, ((other.registry place).buildWith name echo make).outlet =
      ((session.registry place).buildWith name echo make).outlet := by
    intro place name echo make
    obtain ⟨threshold, hplace⟩ := h.exists_registry_eq place
    rw [hplace, Registry.outlet_buildWith_disable]
  unfold held?
  split
  · rw [h.locate_eq]
  · rw [h.locate_eq]
  · simp only [Registry.build, hbuild]
  · simp only [h.handlers_eq, hbuild]
  · rw [h.holdings_eq]
  · rfl

theorem Quieter.resolve_eq (target : Target) :
    (other.resolve target).2 = (session.resolve target).2 := by
  cases target with
  | object key =>
      rw [resolve, resolve, h.objects_eq]
      split <;> rfl
  | holding key =>
      rw [resolve, resolve, h.holdings_eq]
      split <;> rfl
  | logger address =>
      have hlocate := h.locate_eq address
      rw [resolve, resolve]
      generalize session.locate address = located at hlocate ⊢
      generalize other.locate address = twin at hlocate ⊢
      obtain ⟨located, id⟩ := located
      obtain ⟨twin, twinId⟩ := twin
      obtain rfl : twinId = id := hlocate
      cases twinId <;> rfl

theorem Quieter.step_of_aborted_eq {command : Command} (hkeeps : command.KeepsThreshold key)
    (haborted : (other.step command).1.outputs.aborted =
      (session.step command).1.outputs.aborted) :
    Quieter key level (session.step command).1 (other.step command).1 := by
  have hthreshold : ∀ operation ∈ session.operations key command, operation.threshold? = none :=
    fun _ hmem => threshold?_eq_none_of_mem_operations hkeeps hmem
  have hsession := session.holdsAfter_step command
  have hother := other.holdsAfter_step command
  refine ⟨?_, ?_, ?_, ?_, ?_, ?_, haborted⟩
  · intro place
    rw [registry_step, registry_step, registry_step, h.operations_eq, h.registry_eq]
    split
    · next heq =>
        rw [heq]
        exact Registry.performAll_disable hthreshold _ _
    · rfl
  · rw [registry_step, Registry.disabledAt_performAll hthreshold]
    exact h.disabledAt_le
  · rw [hsession.moment_eq, hother.moment_eq, h.moment_eq]
  · rw [handlers_step, handlers_step, h.made?_eq, h.handlers_eq]
  · rw [objects_step, objects_step, h.placed?_eq, h.objects_eq]
  · rw [hsession.holdings_eq, hother.holdings_eq, h.held?_eq, h.holdings_eq]

theorem Quieter.call?_eq (command : Command) : other.call? command = session.call? command := by
  unfold call?
  split
  · rw [h.resolve_eq]
  · rfl

theorem Quieter.permits_iff (outlet : Owned Outlet) (least : Level) :
    outlet.value.Permits (other.registry outlet.registry) least ↔
      (outlet.registry = key → level < least) ∧
        outlet.value.Permits (session.registry outlet.registry) least := by
  rw [h.registry_eq]
  split
  · next heq =>
      rw [heq, Outlet.Permits, Outlet.Permits, Registry.threshold_disable]
      constructor
      · rintro ⟨hlevel, hthreshold⟩
        exact ⟨fun _ => hlevel, Nat.lt_of_le_of_lt h.disabledAt_le hlevel, hthreshold⟩
      · rintro ⟨hlevel, -, hthreshold⟩
        exact ⟨hlevel rfl, hthreshold⟩
  · next hne => simp [hne]

theorem Quieter.sameRoutes (place : String) :
    (session.registry place).SameRoutes (other.registry place) := by
  obtain ⟨threshold, hplace⟩ := h.exists_registry_eq place
  rw [hplace]
  exact Registry.sameRoutes_disable _ threshold

theorem Quieter.callRecord_eq (outlet : Owned Outlet) (call : Call) (message : Message)
    (thread : Option String) :
    other.callRecord outlet call message thread =
      session.callRecord outlet call message thread := by
  rw [callRecord, callRecord, (h.sameRoutes _).name_eq, h.moment_eq]

theorem Quieter.callEntries_eq {α : Type} (ledger : Ledger α) (outlet : Owned Outlet)
    (record : Record) :
    other.callEntries ledger outlet record =
      if outlet.registry = key → level < record.level then session.callEntries ledger outlet record
      else [] := by
  simp only [callEntries, h.permits_iff, (h.sameRoutes _).entries_eq]
  by_cases hlevel : outlet.registry = key → level < record.level
  · simp only [if_pos hlevel, and_iff_right hlevel]
  · rw [if_neg hlevel, if_neg fun hpermits => hlevel hpermits.1]

theorem Quieter.noneAborts {outlet : Owned Outlet} {record : Record}
    (hnone : session.NoneAborts outlet record) : other.NoneAborts outlet record := by
  intro hpermits
  have hhandled := hnone ((h.permits_iff outlet _).mp hpermits).2
  rw [Registry.accepting_eq_filter, (h.sameRoutes _).passed_eq, ← Registry.accepting_eq_filter]
  exact hhandled.congr h.aborted_eq

theorem Quieter.resolve {target : Target} {resolved : Session} {outlet : Owned Outlet}
    (hresolve : session.resolve target = (resolved, .ok outlet)) :
    ∃ twin, other.resolve target = (twin, .ok outlet) ∧ Quieter key level resolved twin := by
  have houtlet := h.resolve_eq target
  rw [hresolve] at houtlet
  have htwin : other.resolve target = ((other.resolve target).1, .ok outlet) :=
    Prod.ext rfl houtlet
  refine ⟨_, htwin, ?_⟩
  -- Asking for the level of the target comes to no more than resolving it.
  have hsession : (session.step (.target target .effectiveLevel)).1 = resolved := by
    rw [step_target_of_resolve hresolve]
    rfl
  have hother : (other.step (.target target .effectiveLevel)).1 = (other.resolve target).1 := by
    rw [step_target_of_resolve htwin]
    rfl
  have hkeeps : (Command.target target .effectiveLevel).KeepsThreshold key := trivial
  have hstep := h.step_of_aborted_eq hkeeps (by
    rw [hsession, hother, outputs_resolve, h.aborted_eq, ← outputs_resolve session target,
      hresolve])
  rw [hsession, hother] at hstep
  exact hstep

theorem Quieter.step_call {target : Target} {resolved : Session} {outlet : Owned Outlet}
    (hresolve : session.resolve target = (resolved, .ok outlet)) {call : Call} {message : Message}
    {thread : Option String}
    (hnone : resolved.NoneAborts outlet (resolved.callRecord outlet call message thread)) :
    let command := checkedCall target call message thread
    Quieter key level (session.step command).1 (other.step command).1 ∧
      ∀ {α : Type} (ledger : Ledger α), other.additions ledger.read command =
        (session.additions ledger.read command).filter (Addition.isAbove key level) := by
  intro command
  have hkeeps : command.KeepsThreshold key := trivial
  obtain ⟨twin, htwin, hquieter⟩ := h.resolve hresolve
  have hrecord := hquieter.callRecord_eq outlet call message thread
  have hother := hquieter.noneAborts hnone
  constructor
  · apply h.step_of_aborted_eq hkeeps
    rw [(outputs_step_call htwin hrecord hother).1, (outputs_step_call hresolve rfl hnone).1,
      h.aborted_eq]
  · intro α ledger
    rw [additions_checkedCall hresolve rfl hnone, additions_checkedCall htwin hrecord hother,
      Addition.filter_isAbove, hquieter.callEntries_eq]
    split
    · next hlevel => exact (if_pos hlevel).symm
    · next hlevel => exact (if_neg hlevel).symm

theorem Quieter.step {command : Command} (hkeeps : command.KeepsThreshold key)
    (hanswer : ∀ renderings, (session.step command).2 ≠ .ok (.logged renderings true)) :
    Quieter key level (session.step command).1 (other.step command).1 ∧
      ∀ {α : Type} (ledger : Ledger α), other.additions ledger.read command =
        (session.additions ledger.read command).filter (Addition.isAbove key level) := by
  cases hcall : session.call? command with
  | none =>
      have hother := (h.call?_eq command).trans hcall
      constructor
      · apply h.step_of_aborted_eq hkeeps
        rw [(outputs_step_of_call?_eq_none hcall).1, (outputs_step_of_call?_eq_none hother).1,
          h.aborted_eq]
      · intro α ledger
        rw [additions_of_call?_eq_none hcall, additions_of_call?_eq_none hother]
        rfl
  | some made =>
      obtain ⟨target, call, message, thread, resolved, outlet, rfl, hresolve, hnone⟩ :=
        exists_checkedCall hcall hkeeps hanswer
      exact h.step_call hresolve hnone

end

theorem Quieter.run {key : String} {level : Level} {session other : Session}
    (h : Quieter key level session other) {script : List Command}
    (hkeeps : ∀ command ∈ script, command.KeepsThreshold key)
    (hanswers : ∀ renderings, .ok (.logged renderings true) ∉ (session.run script).2) :
    Quieter key level (session.run script).1 (other.run script).1 ∧
      ∀ {α : Type} (ledger : Ledger α), other.runAdditions ledger.read script =
        (session.runAdditions ledger.read script).filter (Addition.isAbove key level) := by
  induction script generalizing session other with
  | nil => exact ⟨h, fun _ => rfl⟩
  | cons command rest ih =>
      obtain ⟨hfirst, hrest⟩ := List.forall_mem_cons.mp hkeeps
      have hanswer : ∀ renderings, (session.step command).2 ≠ .ok (.logged renderings true) := by
        intro renderings heq
        exact hanswers renderings (List.mem_cons.mpr (.inl heq.symm))
      obtain ⟨hnext, hadded⟩ := h.step hfirst hanswer
      obtain ⟨hlast, hlater⟩ := ih hnext hrest fun renderings hmem =>
        hanswers renderings (List.mem_cons_of_mem _ hmem)
      refine ⟨hlast, ?_⟩
      intro α ledger
      rw [runAdditions, runAdditions, List.filter_append, hadded, hlater]

theorem quieter_disable (session : Session) (key : String) {threshold level : Level}
    (h : threshold ≤ level) :
    Quieter key level (session.step (.registry key (.disable threshold))).1
      (session.step (.registry key (.disable level))).1 := by
  have hdisabled : ∀ threshold place,
      (session.step (.registry key (.disable threshold))).1.registry place =
        if place = key then (session.registry key).disable threshold
        else session.registry place := by
    intro threshold place
    exact session.registry_setRegistry key place _
  refine ⟨?_, ?_, rfl, rfl, rfl, rfl, rfl⟩
  · intro place
    rw [hdisabled, hdisabled, if_pos rfl, hdisabled]
    split <;> rfl
  · rw [hdisabled, if_pos rfl]
    exact h

/-- Run the same commands twice from one state, in whatever state the session is, but for the
suppression threshold of one registry. In between, nobody may set that threshold or log past all
levels, and in the run with the lower threshold no handler may abort. Then the higher threshold
takes away, from what handlers keep and from the lines of the last resort, what calls of a level up
to it have brought in through that registry, and keeps the rest as it is and in order. Nothing else
tells the loggers, handlers, objects and outlets at the end of the two runs apart. -/
theorem higher_threshold_only_filters (session : Session) (key : String) {threshold level : Level}
    (hle : threshold ≤ level) {script : List Command}
    (hkeeps : ∀ command ∈ script, command.KeepsThreshold key)
    (hanswers : ∀ renderings, .ok (.logged renderings true) ∉
      ((session.step (.registry key (.disable threshold))).1.run script).2) :
    let lower := (session.step (.registry key (.disable threshold))).1
    let upper := (session.step (.registry key (.disable level))).1
    (∀ journal, upper.runAdditions (·.journal journal) script =
        (lower.runAdditions (·.journal journal) script).filter
          (Addition.isAbove key level)) ∧
      (∀ journal, ∀ addition ∈ lower.runAdditions (·.journal journal) script,
        ∃ call, addition.call? = some call ∧ addition.value.level = call.value) ∧
      upper.runAdditions Outputs.lastResortLines script =
        (lower.runAdditions Outputs.lastResortLines script).filter
          (Addition.isAbove key level) ∧
      (∀ place, (upper.run script).1.registry place =
        if place = key then ((lower.run script).1.registry key).disable level
        else (lower.run script).1.registry place) ∧
      (upper.run script).1.handlers = (lower.run script).1.handlers ∧
      (upper.run script).1.objects = (lower.run script).1.objects ∧
      (upper.run script).1.holdings = (lower.run script).1.holdings := by
  intro lower upper
  obtain ⟨hlast, hadded⟩ := (session.quieter_disable key hle).run hkeeps hanswers
  refine ⟨?_, ?_, ?_, hlast.registry_eq, hlast.handlers_eq, hlast.objects_eq, hlast.holdings_eq⟩
  · intro journal
    exact hadded (.journal journal)
  · intro journal addition hmem
    exact level_of_mem_runAdditions hkeeps hanswers hmem
  · exact hadded .lastResort

/-- A record is drained between two others, of which the lower one is taken away. -/
theorem higher_threshold_hides_information :
    let session := (run { moment := { instant := { seconds := 0 } } } [
      .handler "all" (.make .notset (.journal "all")),
      .logger { registry := "main", name := "" } (.attach "all"),
      .logger { registry := "main", name := "" } (.setLevel .debug)]).1
    let target := Target.logger { registry := "main", name := "app" }
    let script := [checkedCall target .error (.text "early") none, .handler "all" .drain,
      checkedCall target .info (.text "hidden") none,
      checkedCall target .error (.text "late") none]
    let lower := (session.step (.registry "main" (.disable .notset))).1
    let upper := (session.step (.registry "main" (.disable .info))).1
    Level.notset ≤ .info ∧ (∀ command ∈ script, command.KeepsThreshold "main") ∧
      (∀ renderings, .ok (.logged renderings true) ∉ (lower.run script).2) ∧
      upper.runAdditions (·.journal "all") script =
        (lower.runAdditions (·.journal "all") script).filter (Addition.isAbove "main" .info) ∧
      (lower.runAdditions (·.journal "all") script).map (·.value.message) =
        ["early", "hidden", "late"] ∧
      (upper.runAdditions (·.journal "all") script).map (·.value.message) = ["early", "late"] := by
  let early : Captured :=
    { level := .error, logger := "app", message := "early", thread := none, error := none }
  have hanswers : (((run { moment := { instant := { seconds := 0 } } } [
      .handler "all" (.make .notset (.journal "all")),
      .logger { registry := "main", name := "" } (.attach "all"),
      .logger { registry := "main", name := "" } (.setLevel .debug)]).1.step
        (.registry "main" (.disable .notset))).1.run [
      checkedCall (.logger { registry := "main", name := "app" }) .error (.text "early") none,
      .handler "all" .drain,
      checkedCall (.logger { registry := "main", name := "app" }) .info (.text "hidden") none,
      checkedCall (.logger { registry := "main", name := "app" }) .error (.text "late") none]).2 =
        [.ok (.logged 1 false), .ok (.drained false [early]), .ok (.logged 1 false),
          .ok (.logged 1 false)] := by
    cbv
  intro session target script lower upper
  have hle : Level.notset ≤ .info := by decide
  have hkeeps : ∀ command ∈ script, command.KeepsThreshold "main" := by
    simp [script, checkedCall, Command.KeepsThreshold]
  have hnone : ∀ renderings, .ok (.logged renderings true) ∉ (lower.run script).2 := by
    intro renderings
    rw [hanswers]
    simp
  refine ⟨hle, hkeeps, hnone, ?_, ?_, ?_⟩
  · exact (higher_threshold_only_filters session "main" hle hkeeps hnone).1 "all"
  · cbv
  · cbv

end Session

end LogTree
