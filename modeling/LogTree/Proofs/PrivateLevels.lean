import Mathlib
import LogTree.Proofs.CheckedLogging
import LogTree.Proofs.RecordDispatch

namespace LogTree

namespace Registry

theorem effectiveLevel_of_level_ne_notset {registry : Registry} {id : LoggerId}
    (h : registry.level id ≠ .notset) : registry.effectiveLevel id = registry.level id := by
  rw [effectiveLevel, if_pos h]

theorem level_setLevel_self {registry : Registry} {id : LoggerId} (h : registry.Holds id)
    (level : Level) : (registry.setLevel id level).level id = level := by
  rw [setLevel, Registry.level, settings_update_self h]

theorem update_update (registry : Registry) (id : LoggerId) (first second : Settings → Settings) :
    (registry.update id first).update id second =
      registry.update id fun settings => second (first settings) := by
  cases id with
  | zero => rfl
  | succ k => simp only [update, List.modify_modify_eq, Function.comp_def]

theorem setLevel_setLevel (registry : Registry) (id : LoggerId) (first second : Level) :
    (registry.setLevel id first).setLevel id second = registry.setLevel id second := by
  rw [setLevel, setLevel, update_update, setLevel]

theorem setLevel_level (registry : Registry) (id : LoggerId) :
    registry.setLevel id (registry.level id) = registry :=
  Eq.trans (update_congr rfl) (update_keep registry id)

theorem sameRoutes_refl (registry : Registry) : registry.SameRoutes registry :=
  ⟨fun _ => rfl, fun _ => rfl, fun _ => rfl, fun _ => rfl⟩

end Registry

namespace Outlet

/-- An adapter lets through what its logger would, if the level it asks for were set there. -/
theorem threshold_adapted_eq_setLevel {registry : Registry} {id : LoggerId} {echo : Echo}
    {level : Level} (hid : registry.Holds id) (hlevel : echo.level? = some level) :
    threshold registry (.adapted { echo, logger := id }) =
      threshold (registry.setLevel id level) (.direct id) := by
  have hset := Registry.level_setLevel_self hid level
  have hne : level ≠ .notset := by
    cases echo <;> cases hlevel <;> decide
  have hdirect : threshold (registry.setLevel id level) (.direct id) = level := by
    rw [threshold, Registry.effectiveLevel_of_level_ne_notset (by rwa [hset]), hset]
  rw [hdirect]
  cases echo <;> cases hlevel <;> rfl

theorem threshold_adapted_eq_direct {registry : Registry} {id : LoggerId} {echo : Echo}
    (hlevel : echo.level? = none) :
    threshold registry (.adapted { echo, logger := id }) = threshold registry (.direct id) := by
  cases echo <;> cases hlevel <;> rfl

end Outlet

namespace Session

/-- Two outlets, each in a session of its own, are alike in everything that decides what a call
comes to. -/
structure ServesLike (session other : Session) (outlet twin : Owned Outlet) : Prop where
  moment_eq : other.moment = session.moment
  outputs_eq : other.outputs = session.outputs
  logger_eq : twin.value.logger = outlet.value.logger
  routes : (session.registry outlet.registry).SameRoutes (other.registry twin.registry)
  disabledAt_eq :
    (other.registry twin.registry).disabledAt = (session.registry outlet.registry).disabledAt
  threshold_eq : twin.value.threshold (other.registry twin.registry) =
    outlet.value.threshold (session.registry outlet.registry)

section

variable {session other : Session} {outlet twin : Owned Outlet}
  (h : session.ServesLike other outlet twin)

include h

theorem ServesLike.permits_iff (level : Level) :
    twin.value.Permits (other.registry twin.registry) level ↔
      outlet.value.Permits (session.registry outlet.registry) level := by
  rw [Outlet.Permits, Outlet.Permits, h.disabledAt_eq, h.threshold_eq]

theorem ServesLike.isEnabledFor_eq (level : Level) :
    twin.value.isEnabledFor (other.registry twin.registry) level =
      outlet.value.isEnabledFor (session.registry outlet.registry) level := by
  rw [Bool.eq_iff_iff, Outlet.isEnabledFor_iff, Outlet.isEnabledFor_iff, h.permits_iff]

theorem ServesLike.submit_eq (submission : Submission) (draft : Draft) :
    other.submit twin submission draft = session.submit outlet submission draft := by
  have hemit := h.routes.emit_eq outlet.value.logger
  cases submission with
  | checked call =>
      simp only [submit, Outlet.log_eq_ite, h.permits_iff, h.logger_eq, h.outputs_eq, hemit]
  | raw level failure =>
      simp only [submit, h.logger_eq, h.outputs_eq, hemit]

/-- A call has the same result on both sides and leaves the same outputs. Nothing else changes. -/
theorem ServesLike.exists_stepOutlet_eq (command : TargetCommand) :
    ∃ outputs result,
      session.stepOutlet outlet command = ({ session with outputs }, result) ∧
        other.stepOutlet twin command = ({ other with outputs }, result) := by
  cases command with
  | effectiveLevel =>
      refine ⟨session.outputs, _, rfl, ?_⟩
      simp only [stepOutlet, answer, Outlet.effectiveLevel_eq_threshold, h.threshold_eq,
        ← h.outputs_eq]
  | areEnabled levels =>
      refine ⟨session.outputs, _, rfl, ?_⟩
      simp only [stepOutlet, answer, funext h.isEnabledFor_eq, ← h.outputs_eq]
  | log submission message thread =>
      refine ⟨_, _, rfl, ?_⟩
      simp only [stepOutlet, answer, h.moment_eq, h.submit_eq]

end

theorem step_holding {session : Session} {slot : String} {holding : Owned Holding}
    (h : session.holdings.get? slot = some holding) (command : TargetCommand) :
    session.step (.target (.holding slot) command) =
      session.stepOutlet { registry := holding.registry, value := holding.value.toOutlet }
        command := by
  apply step_target_of_resolve
  rw [resolve, h]

theorem ServesLike.run {session other : Session} {slot : String} {held twin : Owned Holding}
    (hheld : session.holdings.get? slot = some held) (htwin : other.holdings.get? slot = some twin)
    (h : session.ServesLike other { registry := held.registry, value := held.value.toOutlet }
      { registry := twin.registry, value := twin.value.toOutlet })
    (calls : List TargetCommand) :
    let uses := calls.map (Command.target (.holding slot))
    (session.run uses).2 = (other.run uses).2 ∧
      (session.run uses).1 = { session with outputs := (other.run uses).1.outputs } ∧
      (other.run uses).1 = { other with outputs := (other.run uses).1.outputs } := by
  induction calls generalizing session other with
  | nil =>
      refine ⟨rfl, ?_, rfl⟩
      simp only [List.map_nil, run_nil, h.outputs_eq]
  | cons call rest ih =>
      obtain ⟨outputs, result, hfirst, hsecond⟩ := h.exists_stepOutlet_eq call
      -- What the first call has put out is what the rest begins with, on both sides.
      obtain ⟨hresults, hleft, hright⟩ := @ih { session with outputs } { other with outputs } hheld
        htwin { h with outputs_eq := rfl }
      simp only [List.map_cons, Session.run, step_holding hheld, step_holding htwin, hfirst,
        hsecond]
      exact ⟨congrArg (result :: ·) hresults, hleft, hright⟩

/-- Sets the level that an echo value asks for on a logger, if it asks for one. -/
def lend (session : Session) (key : String) (id : LoggerId) (echo : Echo) : Session :=
  match echo.level? with
  | none => session
  | some level => (session.stepLogger key id (.setLevel level)).1

theorem registry_lend (session : Session) (key other : String) (id : LoggerId) (echo : Echo) :
    (session.lend key id echo).registry other =
      if other = key then
        match echo.level? with
        | none => session.registry key
        | some level => (session.registry key).setLevel id level
      else session.registry other := by
  rw [lend]
  cases echo.level? with
  | none => exact session.registry_eq_ite key other
  | some level => exact session.registry_setRegistry key other _

theorem registry_setLevel_of_lend {session later : Session} {key : String} {id : LoggerId}
    {echo : Echo} (h : ∀ other, later.registry other = (session.lend key id echo).registry other)
    (other : String) :
    (later.stepLogger key id (.setLevel ((session.registry key).level id))).1.registry other =
      session.registry other := by
  have hset := later.registry_setRegistry key other
    ((later.registry key).setLevel id ((session.registry key).level id))
  refine hset.trans ?_
  rcases Decidable.em (other = key) with rfl | hne
  · rw [if_pos rfl, h, registry_lend, if_pos rfl]
    cases echo.level? with
    | none => exact Registry.setLevel_level _ id
    | some level =>
        exact (Registry.setLevel_setLevel _ id level _).trans (Registry.setLevel_level _ id)
  · rw [if_neg hne, h, registry_lend, if_neg hne]

theorem servesLike_lend {session : Session} {key : String} {id : LoggerId}
    (hid : (session.registry key).Holds id) (echo : Echo) :
    session.ServesLike (session.lend key id echo)
      { registry := key, value := .adapted { echo, logger := id } }
      { registry := key, value := .direct id } := by
  have hregistry := session.registry_lend key key id echo
  rw [if_pos rfl] at hregistry
  cases hlevel : echo.level? with
  | none =>
      rw [hlevel] at hregistry
      refine ⟨?_, ?_, rfl, ?_, ?_, ?_⟩
      · rw [lend, hlevel]
      · rw [lend, hlevel]
      · rw [hregistry]
        exact Registry.sameRoutes_refl _
      · rw [hregistry]
      · rw [hregistry]
        exact (Outlet.threshold_adapted_eq_direct hlevel).symm
  | some level =>
      rw [hlevel] at hregistry
      refine ⟨?_, ?_, rfl, ?_, ?_, ?_⟩
      · rw [lend, hlevel]
        rfl
      · rw [lend, hlevel]
        rfl
      · rw [hregistry]
        exact Registry.sameRoutes_setLevel _ id level
      · rw [hregistry]
        exact Registry.disabledAt_update _ id _
      · rw [hregistry]
        exact (Outlet.threshold_adapted_eq_setLevel hid hlevel).symm

/-- In every state of a run, calls through an adapter on a logger have the results of the same calls
on the logger itself while the level that the echo value asks for is lent to it, and put out the
same. The calls change nothing else, so no level differs afterwards, and setting back the lent one
leaves every registry as it was. An echo value that asks for no level makes no difference at all. -/
theorem adapter_acts_as_lent_level (moment : Moment) (commands : List Command)
    (key slot : String) {id : LoggerId} (echo : Echo) (calls : List TargetCommand)
    (hid : ((run { moment } commands).1.registry key).Holds id) :
    let session := (run { moment } commands).1
    let lent := session.lend key id echo
    let adapted := (session.stepLogger key id (.adapt slot echo)).1
    let direct := (lent.stepLogger key id (.keep slot)).1
    let uses := calls.map (Command.target (.holding slot))
    let outputs := (direct.run uses).1.outputs
    (adapted.run uses).2 = (direct.run uses).2 ∧
      (adapted.run uses).1 = { adapted with outputs } ∧
      (direct.run uses).1 = { direct with outputs } ∧
      (∀ other place, ((adapted.run uses).1.registry other).level place =
        (session.registry other).level place) ∧
      (∀ other, ((direct.run uses).1.stepLogger key id
        (.setLevel ((session.registry key).level id))).1.registry other =
          session.registry other) ∧
      (echo = .unset ∨ echo = .off → lent = session) := by
  intro session lent adapted direct uses outputs
  have hserves : adapted.ServesLike direct
      { registry := key, value := .adapted { echo, logger := id } }
      { registry := key, value := .direct id } := by
    obtain ⟨hmoment, houtputs, hlogger, hroutes, hdisabled, hthreshold⟩ :=
      servesLike_lend hid echo
    exact ⟨hmoment, houtputs, hlogger, hroutes, hdisabled, hthreshold⟩
  have hheld : adapted.holdings.get? slot =
      some { registry := key, value := .adapter { echo, logger := id } } :=
    (NameMap.get?_insert session.holdings slot slot _).trans (if_pos rfl)
  have htwin : direct.holdings.get? slot =
      some { registry := key, value := .outlet (.direct id) } :=
    (NameMap.get?_insert lent.holdings slot slot _).trans (if_pos rfl)
  obtain ⟨hresults, hadapted, hdirect⟩ := ServesLike.run hheld htwin hserves calls
  refine ⟨hresults, hadapted, hdirect, ?_, ?_, ?_⟩
  · intro other place
    rw [hadapted]
    rfl
  · have hregistry : ∀ other, (direct.run uses).1.registry other = lent.registry other := by
      intro other
      rw [hdirect]
      rfl
    exact registry_setLevel_of_lend hregistry
  · rintro (rfl | rfl)
    · rfl
    · rfl

/-- An adapter that asks for information on a logger that is set to errors. -/
theorem adapter_lets_information_through :
    let session := (run { moment := { instant := { seconds := 0 } } } [
      .handler "all" (.make .notset (.journal "all")),
      .logger { registry := "main", name := "" } (.attach "all"),
      .logger { registry := "main", name := "app" } (.setLevel .error)]).1
    let adapted := (session.stepLogger "main" 1 (.adapt "slot" .on)).1
    let direct := ((session.lend "main" 1 .on).stepLogger "main" 1 (.keep "slot")).1
    let uses := [TargetCommand.log (.checked .info) (.text "shown") none,
      .log (.checked .debug) (.text "hidden") none, .areEnabled [.debug, .info],
      .effectiveLevel].map (Command.target (.holding "slot"))
    (session.registry "main").Holds 1 ∧
      (adapted.run uses).2 = (direct.run uses).2 ∧
      (adapted.run uses).1.outputs = (direct.run uses).1.outputs ∧
      (adapted.run uses).2 = [.ok (.logged 1 false), .ok (.logged 0 false),
        .ok (.flags [false, true]), .ok (.level .info)] := by
  have hholds : ((run { moment := { instant := { seconds := 0 } } } [
      .handler "all" (.make .notset (.journal "all")),
      .logger { registry := "main", name := "" } (.attach "all"),
      .logger { registry := "main", name := "app" } (.setLevel .error)]).1.registry
        "main").Holds 1 := by
    cbv
  obtain ⟨hresults, hadapted, -⟩ := adapter_acts_as_lent_level _ _ "main" "slot" .on
    [.log (.checked .info) (.text "shown") none, .log (.checked .debug) (.text "hidden") none,
      .areEnabled [.debug, .info], .effectiveLevel] hholds
  have houtputs := congrArg Session.outputs hadapted
  intro session adapted direct uses
  refine ⟨hholds, hresults, houtputs, ?_⟩
  cbv

end Session

end LogTree
