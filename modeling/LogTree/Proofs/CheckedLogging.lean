import LogTree.Proofs.SessionOperations

namespace LogTree

namespace Level

theorem not_le {a b : Level} : ¬a ≤ b ↔ b < a :=
  Nat.not_le

theorem not_lt_notset (level : Level) : ¬level < notset :=
  Nat.not_lt_zero _

theorem not_lt_of_le {a b : Level} (h : a ≤ b) : ¬b < a :=
  Nat.not_lt.mpr h

end Level

namespace Outlet

/-- The level from which on an outlet lets records through. An echo value that asks for output takes
the place of what is set on loggers. -/
def threshold (registry : Registry) : Outlet → Level
  | direct logger => registry.effectiveLevel logger
  | adapted { echo := .on, .. } => .info
  | adapted { echo := .debug, .. } => .debug
  | adapted { echo := .unset, logger } | adapted { echo := .off, logger } =>
      registry.effectiveLevel logger

/-- Whether a record of a level may go out: it is not suppressed, and the outlet lets it through. -/
def Permits (outlet : Outlet) (registry : Registry) (level : Level) : Prop :=
  registry.disabledAt < level ∧ outlet.threshold registry ≤ level

instance (outlet : Outlet) (registry : Registry) (level : Level) :
    Decidable (outlet.Permits registry level) :=
  inferInstanceAs (Decidable (_ ∧ _))

/-- An object that asks for output lets information through, whatever is set on its logger. -/
example : Permits (.adapted { echo := .on, logger := Registry.rootId }) {} .info := by decide

theorem effectiveLevel_eq_threshold (outlet : Outlet) (registry : Registry) :
    outlet.effectiveLevel registry = outlet.threshold registry := by
  cases outlet with
  | direct logger => rfl
  | adapted adapter =>
      obtain ⟨echo, logger⟩ := adapter
      cases echo <;> rfl

theorem isEnabledFor_iff {outlet : Outlet} {registry : Registry} {level : Level} :
    outlet.isEnabledFor registry level = true ↔ outlet.Permits registry level := by
  have hcheck : outlet.isEnabledFor registry level =
      (!registry.isDisabled level && decide (outlet.effectiveLevel registry ≤ level)) := by
    cases outlet <;> rfl
  rw [hcheck, effectiveLevel_eq_threshold, Bool.and_eq_true, Bool.not_eq_true',
    Registry.isDisabled, decide_eq_false_iff_not, decide_eq_true_eq, Level.not_le, Permits]

theorem isEnabledFor_eq_decide (outlet : Outlet) (registry : Registry) (level : Level) :
    outlet.isEnabledFor registry level = decide (outlet.Permits registry level) := by
  rw [Bool.eq_iff_iff, isEnabledFor_iff, decide_eq_true_eq]

theorem log_eq_ite (outlet : Outlet) (registry : Registry) (call : Call) (draft : Draft)
    (outputs : Outputs) :
    outlet.log registry call draft outputs =
      if outlet.Permits registry call.level then
        registry.emit outlet.logger call.level call.failure? draft outputs
      else { outputs } := by
  have hlog : outlet.log registry call draft outputs =
      if outlet.isEnabledFor registry call.level = true then
        registry.emit outlet.logger call.level call.failure? draft outputs
      else { outputs } := by
    cases outlet <;> rfl
  rw [hlog]
  simp only [isEnabledFor_iff]

theorem Permits.ne_notset {outlet : Outlet} {registry : Registry} {level : Level}
    (h : outlet.Permits registry level) : level ≠ .notset := by
  rintro rfl
  exact registry.disabledAt.not_lt_notset h.1

end Outlet

namespace Session

abbrev checkedCall (target : Target) (call : Call) (message : Message) (thread : Option String) :
    Command :=
  .target target (.log (.checked call) message thread)

/-- A command with its call decided. A permitted call hands its record to the logger. Of another one
remains that the logger is asked for. -/
def decided (session : Session) : Command → Command
  | .target target (.log (.checked call) message thread) =>
      match session.resolve target with
      | (_, .error _) => .target target .effectiveLevel
      | (resolved, .ok outlet) =>
          if outlet.value.Permits (resolved.registry outlet.registry) call.level then
            .target target (.log (.raw call.level call.failure?) message thread)
          else
            .target target .effectiveLevel
  | command => command

/-- The commands of a run with their calls decided, each in the state that it comes to. -/
def decidedRun (session : Session) : List Command → List Command
  | [] => []
  | command :: rest => session.decided command :: (session.step command).1.decidedRun rest

theorem outputs_resolve (session : Session) (target : Target) :
    (session.resolve target).1.outputs = session.outputs := by
  cases target with
  | object key =>
      rw [resolve]
      cases session.objects.get? key <;> rfl
  | holding key =>
      rw [resolve]
      cases session.holdings.get? key <;> rfl
  | logger address =>
      rw [resolve]
      split
      · next located hlocated =>
          obtain ⟨rfl, -⟩ := Prod.mk.inj hlocated
          rfl
      · next located id hlocated =>
          obtain ⟨rfl, -⟩ := Prod.mk.inj hlocated
          rfl

theorem step_target_of_resolve {session resolved : Session} {target : Target}
    {outlet : Owned Outlet} (h : session.resolve target = (resolved, .ok outlet))
    (command : TargetCommand) :
    session.step (.target target command) = resolved.stepOutlet outlet command := by
  simp only [step, h]

theorem step_checkedCall {session resolved : Session} {target : Target} {outlet : Owned Outlet}
    (h : session.resolve target = (resolved, .ok outlet)) (call : Call) (message : Message)
    (thread : Option String) :
    session.step (checkedCall target call message thread) =
      if outlet.value.Permits (resolved.registry outlet.registry) call.level then
        session.step (.target target (.log (.raw call.level call.failure?) message thread))
      else
        resolved.answer (.logged 0 false) := by
  rw [step_target_of_resolve h, step_target_of_resolve h]
  simp only [stepOutlet, submit, Outlet.log_eq_ite]
  split
  · rfl
  · rfl

theorem step_decided (session : Session) (command : Command) :
    (session.step (session.decided command)).1 = (session.step command).1 := by
  unfold decided
  split
  · next target call message thread =>
      split
      · next refused refusal hresolve =>
          simp only [step, hresolve]
      · next resolved outlet hresolve =>
          rw [step_checkedCall hresolve]
          split
          · rfl
          · rw [step_target_of_resolve hresolve]
            rfl
  · rfl

theorem run_decidedRun (session : Session) (commands : List Command) :
    (session.run (session.decidedRun commands)).1 = (session.run commands).1 := by
  induction commands generalizing session with
  | nil => rfl
  | cons command rest ih => rw [decidedRun, run_cons_fst, run_cons_fst, step_decided, ih]

/-- Checked calls do what the thresholds allow, and whoever asks is told so. A target first stands
for an outlet; that may create the logger that it names and puts nothing out. -/
structure ObeysThresholds (session : Session) : Prop where
  /-- A permitted call hands its record to the logger of the outlet, as if nothing were checked. -/
  permitted : ∀ target resolved outlet call message thread,
    session.resolve target = (resolved, .ok outlet) →
    outlet.value.Permits (resolved.registry outlet.registry) call.level →
    let draft : Draft := { message, thread, moment := resolved.moment }
    let delivery := (resolved.registry outlet.registry).emit outlet.value.logger call.level
      call.failure? draft resolved.outputs
    session.step (checkedCall target call message thread) =
      ({ resolved with outputs := delivery.outputs },
        .ok (.logged delivery.renderings delivery.aborted))
  /-- Any other call does nothing. -/
  suppressed : ∀ target resolved outlet call message thread,
    session.resolve target = (resolved, .ok outlet) →
    ¬outlet.value.Permits (resolved.registry outlet.registry) call.level →
    session.step (checkedCall target call message thread) = (resolved, .ok (.logged 0 false))
  /-- No record goes out at or below the suppression threshold, and none without a level. -/
  silent : ∀ target resolved outlet call message thread,
    session.resolve target = (resolved, .ok outlet) →
    call.level ≤ (resolved.registry outlet.registry).disabledAt ∨ call.level = .notset →
    (session.step (checkedCall target call message thread)).1.outputs = session.outputs
  asked : ∀ target resolved outlet levels,
    session.resolve target = (resolved, .ok outlet) →
    (session.step (.target target (.areEnabled levels))).2 = .ok (.flags (levels.map fun level =>
      outlet.value.Permits (resolved.registry outlet.registry) level))
  reported : ∀ object : Owned Instance,
    let permits := object.value.state.outlet.Permits (session.registry object.registry)
    (session.objectReport object).logsDebug = decide (permits .debug) ∧
      (session.objectReport object).logsInfo = decide (permits .info)

theorem obeysThresholds (session : Session) : session.ObeysThresholds where
  permitted := by
    intro target resolved outlet call message thread hresolve hpermits
    rw [step_checkedCall hresolve, if_pos hpermits, step_target_of_resolve hresolve]
    rfl
  suppressed := by
    intro target resolved outlet call message thread hresolve hpermits
    rw [step_checkedCall hresolve, if_neg hpermits]
    rfl
  silent := by
    intro target resolved outlet call message thread hresolve hlow
    have hpermits : ¬outlet.value.Permits (resolved.registry outlet.registry) call.level := by
      intro hpermits
      rcases hlow with hdisabled | hnotset
      · exact Level.not_lt_of_le hdisabled hpermits.1
      · exact hpermits.ne_notset hnotset
    rw [step_checkedCall hresolve, if_neg hpermits, ← outputs_resolve session target, hresolve]
    rfl
  asked := by
    intro target resolved outlet levels hresolve
    rw [step_target_of_resolve hresolve, stepOutlet, answer,
      ← funext (outlet.value.isEnabledFor_eq_decide (resolved.registry outlet.registry))]
  reported := by
    intro object
    exact ⟨Outlet.isEnabledFor_eq_decide _ _ _, Outlet.isEnabledFor_eq_decide _ _ _⟩

/-- In every state of a run, calls that check the level obey the thresholds, and the run comes to
the same as one in which permitted calls emit their records and the others are left out. Each call
has the level that it is named for. -/
theorem checked_calls_obey_thresholds (moment : Moment) (commands : List Command) :
    (run { moment } commands).1.ObeysThresholds ∧
      (run { moment } (decidedRun { moment } commands)).1 = (run { moment } commands).1 ∧
      (∀ failure, [Call.debug, .info, .warning, .error, .critical, .exception failure].map
        (fun call => (call.level.severity, call.failure?)) =
          [(10, none), (20, none), (30, none), (40, none), (50, none), (40, some failure)]) ∧
      ∀ level, (Call.log level).level = level ∧ (Call.log level).failure? = none := by
  refine ⟨obeysThresholds _, run_decidedRun _ commands, ?_, ?_⟩
  · intro failure
    rfl
  · intro level
    exact ⟨rfl, rfl⟩

end Session

end LogTree
