import Mathlib
import LogTree.Proofs.RegistryLikeness

namespace LogTree

/-- A command lets an object go on as the one that it is: it puts no other object in its place,
since each has a key of its own, makes no copy of its state and leaves the label that it reports. -/
def Command.Spares (key : String) (cls : LoggedClass) (reported : Option String) : Command → Prop
  | .object other (.make ..) => other ≠ key
  | .object other (.copy source) => other ≠ key ∧ source ≠ key
  | .object other (.relabel label) => other = key → cls.reported label = reported
  | _ => True

def Command.writesEcho (key : String) : Command → Bool
  | .object other (.writeEcho _) => other = key
  | _ => false

namespace Session

/-- Two sessions differ in nothing but the state of one object and the handlers on one logger, that
of the namespace of the object. -/
structure ApartIn (objectKey registryKey : String) (cls : LoggedClass) (reported : Option String)
    (id : LoggerId) (session other : Session) : Prop where
  handlers_eq : other.handlers = session.handlers
  registry_eq : ∀ key, key ≠ registryKey → other.registry key = session.registry key
  alike : (session.registry registryKey).AlikeBeyond id (other.registry registryKey)
  lookup?_eq : (session.registry registryKey).lookup? (cls.instanceName reported) = some id
  objects_eq : ∀ key, key ≠ objectKey → other.objects.get? key = session.objects.get? key
  object : ∃ label state later,
    session.objects.get? objectKey =
      some { registry := registryKey, value := { loggedClass := cls, label, state } } ∧
    other.objects.get? objectKey =
      some { registry := registryKey, value := { loggedClass := cls, label, state := later } } ∧
    cls.reported label = reported

section

variable {objectKey registryKey : String} {cls : LoggedClass} {reported : Option String}
  {id : LoggerId} {session other : Session}
  (h : ApartIn objectKey registryKey cls reported id session other)

include h

theorem ApartIn.registry (key : String) :
    (session.registry key).AlikeBeyond id (other.registry key) := by
  rcases Decidable.em (key = registryKey) with rfl | hne
  · exact h.alike
  · rw [h.registry_eq key hne]
    exact Registry.alikeBeyond_refl id _

theorem ApartIn.effect?_eq {command : Command} (hwrites : command.writesEcho objectKey = false) :
    other.effect? command = session.effect? command := by
  cases command with
  | logger address command => simp only [effect?, h.handlers_eq]
  | object key command =>
      cases command with
      | writeEcho echo =>
          have hne : key ≠ objectKey := of_decide_eq_false hwrites
          simp only [effect?, h.objects_eq key hne]
      | _ => rfl
  | holding key command =>
      cases command with
      | build registry name echo handlerKey =>
          cases handlerKey with
          | none => rfl
          | some handlerKey => simp only [effect?, h.handlers_eq]
      | _ => rfl
  | target target command =>
      cases target <;> rfl
  | _ => rfl

theorem ApartIn.placed?_eq {command : Command} (hwrites : command.writesEcho objectKey = false)
    (hspares : command.Spares objectKey cls reported)
    (hrelabel : ∀ label, command ≠ .object objectKey (.relabel label)) :
    other.placed? command = session.placed? command ∧
      ∀ placed, session.placed? command ≠ some (objectKey, placed) := by
  have hnone : ∀ {command : Command}, other.placed? command = none →
      session.placed? command = none →
      other.placed? command = session.placed? command ∧
        ∀ placed, session.placed? command ≠ some (objectKey, placed) := by
    intro command hother hsession
    rw [hother, hsession]
    exact ⟨rfl, nofun⟩
  cases command with
  | object key command =>
      cases command with
      | make registry cls label stateLabel echo =>
          refine ⟨?_, ?_⟩
          · simp only [placed?, (h.registry registry).makeState_eq]
          · rintro placed heq
            exact hspares (congrArg Prod.fst (Option.some.inj heq))
      | copy source =>
          refine ⟨?_, ?_⟩
          · simp only [placed?, h.objects_eq source hspares.2]
          · rintro placed heq
            obtain ⟨object, -, hobject⟩ := Option.map_eq_some_iff.mp heq
            exact hspares.1 (congrArg Prod.fst hobject)
      | relabel label =>
          have hne : key ≠ objectKey := by
            rintro rfl
            exact hrelabel label rfl
          refine ⟨?_, ?_⟩
          · simp only [placed?, h.objects_eq key hne]
          · rintro placed heq
            obtain ⟨object, -, hobject⟩ := Option.map_eq_some_iff.mp heq
            exact hne (congrArg Prod.fst hobject)
      | writeEcho echo =>
          have hne : key ≠ objectKey := of_decide_eq_false hwrites
          refine ⟨?_, ?_⟩
          · simp only [placed?, h.objects_eq key hne, Registry.writeEcho,
              (h.registry _).outlet_build_eq]
          · rintro placed heq
            obtain ⟨object, -, hobject⟩ := Option.map_eq_some_iff.mp heq
            exact hne (congrArg Prod.fst hobject)
      | report => exact hnone rfl rfl
      | sameLogger key' => exact hnone rfl rfl
  | _ => exact hnone rfl rfl

theorem ApartIn.objects_step {command : Command} (hwrites : command.writesEcho objectKey = false)
    (hspares : command.Spares objectKey cls reported) :
    (∀ key, key ≠ objectKey → (other.step command).1.objects.get? key =
      (session.step command).1.objects.get? key) ∧
    ∃ label state later,
      (session.step command).1.objects.get? objectKey =
        some { registry := registryKey, value := { loggedClass := cls, label, state } } ∧
      (other.step command).1.objects.get? objectKey =
        some { registry := registryKey, value := { loggedClass := cls, label, state := later } } ∧
      cls.reported label = reported := by
  obtain ⟨label, state, later, hsession, hother, hlabel⟩ := h.object
  simp only [get?_objects_step]
  -- A new label for the object itself comes on both sides to what the states have; everything else
  -- is put in other places, and the same on both sides.
  rcases Classical.em (∃ label, command = .object objectKey (.relabel label))
    with ⟨label, rfl⟩ | hrelabel
  · have hplaced : session.placed? (.object objectKey (.relabel label)) = some (objectKey,
        { registry := registryKey, value := { loggedClass := cls, label, state } }) := by
      rw [placed?, hsession, Option.map_some]
    have hplaced' : other.placed? (.object objectKey (.relabel label)) = some (objectKey,
        { registry := registryKey, value := { loggedClass := cls, label, state := later } }) := by
      rw [placed?, hother, Option.map_some]
    rw [hplaced, hplaced']
    refine ⟨?_, label, state, later, if_pos rfl, if_pos rfl, hspares rfl⟩
    intro key hne
    simp only [if_neg hne, h.objects_eq key hne]
  · obtain ⟨hplaced, hplace⟩ :=
      h.placed?_eq hwrites hspares fun label heq => hrelabel ⟨label, heq⟩
    rw [hplaced]
    cases hcommand : session.placed? command with
    | none => exact ⟨h.objects_eq, label, state, later, hsession, hother, hlabel⟩
    | some placed =>
        obtain ⟨place, object⟩ := placed
        have hne : objectKey ≠ place := by
          rintro rfl
          exact hplace object hcommand
        simp only [if_neg hne]
        refine ⟨?_, label, state, later, hsession, hother, hlabel⟩
        intro key hkey
        rw [h.objects_eq key hkey]

theorem ApartIn.step {command : Command} (hwrites : command.writesEcho objectKey = false)
    (hspares : command.Spares objectKey cls reported) :
    ApartIn objectKey registryKey cls reported id (session.step command).1
      (other.step command).1 := by
  have hoperations : ∀ key, other.operations key command = session.operations key command := by
    intro key
    rw [operations, operations, h.effect?_eq hwrites]
  have hmade : other.made? command = session.made? command := by
    simp only [made?, h.handlers_eq]
  obtain ⟨hobjects, hobject⟩ := h.objects_step hwrites hspares
  refine ⟨?_, ?_, ?_, ?_, hobjects, hobject⟩
  · rw [handlers_step, handlers_step, hmade, h.handlers_eq]
  · intro key hne
    rw [registry_step, registry_step, hoperations, h.registry_eq key hne]
  · rw [registry_step, registry_step, hoperations]
    exact h.alike.performAll _
  · exact (session.grows_registry_step command registryKey).lookup?_eq h.lookup?_eq

theorem ApartIn.step_writeEcho (echo : Echo) :
    ApartIn objectKey registryKey cls reported id
      (session.step (.object objectKey (.writeEcho echo))).1 other := by
  obtain ⟨label, state, later, hsession, hother, rfl⟩ := h.object
  have heffect : session.effect? (.object objectKey (.writeEcho echo)) = some (registryKey,
      [Registry.building (cls.instanceName (cls.reported label)) echo (some .standard)]) := by
    rw [effect?, hsession, Option.map_some, Instance.resolvedName_eq]
  have hoperations : ∀ key, session.operations key (.object objectKey (.writeEcho echo)) =
      if registryKey = key then
        [Registry.building (cls.instanceName (cls.reported label)) echo (some .standard)]
      else [] := by
    intro key
    rw [operations, heffect]
  obtain ⟨written, hplaced⟩ : ∃ written,
      session.placed? (.object objectKey (.writeEcho echo)) = some (objectKey,
        { registry := registryKey, value := { loggedClass := cls, label, state := written } }) := by
    rw [placed?, hsession, Option.map_some]
    exact ⟨_, rfl⟩
  refine ⟨?_, ?_, ?_, ?_, ?_, label, written, later, ?_, hother, rfl⟩
  · rw [handlers_step]
    exact h.handlers_eq
  · intro key hne
    rw [registry_step, hoperations, if_neg (Ne.symm hne)]
    exact h.registry_eq key hne
  · rw [registry_step, hoperations, if_pos rfl]
    exact h.alike.build_left h.lookup?_eq echo _
  · exact (session.grows_registry_step _ registryKey).lookup?_eq h.lookup?_eq
  · intro key hne
    rw [get?_objects_step, hplaced, h.objects_eq key hne]
    exact (if_neg hne).symm
  · rw [get?_objects_step, hplaced]
    exact if_pos rfl

end

theorem ApartIn.run {objectKey registryKey : String} {cls : LoggedClass}
    {reported : Option String} {id : LoggerId} {session other : Session}
    (h : ApartIn objectKey registryKey cls reported id session other) {commands : List Command}
    (hspares : ∀ command ∈ commands, command.Spares objectKey cls reported) :
    ApartIn objectKey registryKey cls reported id (session.run commands).1
      (other.run (commands.filter fun command => !command.writesEcho objectKey)).1 := by
  induction commands generalizing session other with
  | nil => exact h
  | cons command rest ih =>
      obtain ⟨hfirst, hrest⟩ := List.forall_mem_cons.mp hspares
      cases hwrites : command.writesEcho objectKey with
      | false =>
          rw [List.filter_cons_of_pos (by rw [hwrites]; rfl)]
          exact ih (h.step hwrites hfirst) hrest
      | true =>
          -- Only the run with the writes goes a step further here.
          rw [List.filter_cons_of_neg (by rw [hwrites]; decide)]
          unfold Command.writesEcho at hwrites
          split at hwrites
          · obtain rfl := of_decide_eq_true hwrites
            exact ih (h.step_writeEcho _) hrest
          · cases hwrites

/-- What decides about log output in two sessions, apart from one object and the handlers on the
logger of its namespace. -/
structure AgreeBeyond (objectKey registryKey name : String) (session other : Session) : Prop where
  disabledAt_eq : ∀ key, (other.registry key).disabledAt = (session.registry key).disabledAt
  names_eq : ∀ key, (other.registry key).names = (session.registry key).names
  name_eq : ∀ key id, (other.registry key).name id = (session.registry key).name id
  parent?_eq : ∀ key id, (other.registry key).parent? id = (session.registry key).parent? id
  level_eq : ∀ key id, (other.registry key).level id = (session.registry key).level id
  propagate_eq : ∀ key id,
    (other.registry key).propagate id = (session.registry key).propagate id
  effectiveLevel_eq : ∀ key id,
    (other.registry key).effectiveLevel id = (session.registry key).effectiveLevel id
  isEnabledFor_eq : ∀ key id level,
    (other.registry key).isEnabledFor id level = (session.registry key).isEnabledFor id level
  handlers_eq : ∀ key id, (key = registryKey → (session.registry key).lookup? name ≠ some id) →
    (other.registry key).handlers id = (session.registry key).handlers id
  /-- Every other object has the same echo value and the same outlet. -/
  object_eq : ∀ key, key ≠ objectKey → other.objects.get? key = session.objects.get? key
  outlet_eq : ∀ key object, key ≠ objectKey → session.objects.get? key = some object →
    ∀ level, object.value.state.outlet.isEnabledFor (other.registry object.registry) level =
      object.value.state.outlet.isEnabledFor (session.registry object.registry) level

theorem ApartIn.agreeBeyond {objectKey registryKey : String} {cls : LoggedClass}
    {reported : Option String} {id : LoggerId} {session other : Session}
    (h : ApartIn objectKey registryKey cls reported id session other) :
    AgreeBeyond objectKey registryKey (cls.instanceName reported) session other where
  disabledAt_eq := fun key => (h.registry key).disabledAt_eq
  names_eq := fun key => (h.registry key).sameLoggers.names_eq
  name_eq := fun key id => (h.registry key).sameLoggers.name_eq id
  parent?_eq := fun key id => (h.registry key).sameLoggers.parent?_eq id
  level_eq := fun key id => ((h.registry key).settings id).level_eq
  propagate_eq := fun key id => ((h.registry key).settings id).propagate_eq
  effectiveLevel_eq := fun key id => (h.registry key).effectiveLevel_eq id
  isEnabledFor_eq := fun key id level => (h.registry key).isEnabledFor_eq (.direct id) level
  handlers_eq := by
    intro key place hplace
    rcases Decidable.em (key = registryKey) with rfl | hne
    · have hother : place ≠ id := by
        rintro rfl
        exact hplace rfl h.lookup?_eq
      rw [Registry.handlers, h.alike.settings_eq place hother, Registry.handlers]
    · rw [h.registry_eq key hne]
  object_eq := h.objects_eq
  outlet_eq := fun _ object _ _ level =>
    (h.registry object.registry).isEnabledFor_eq object.value.state.outlet level

/-- Take any run in which an object is made for the label that it goes on to report, and leave out
all later writes of its echo value. At every point, the two runs agree on everything that decides
about log output, but for the object and for the handlers on the logger of its namespace. -/
theorem echo_writes_matter_to_one_object (moment : Moment) (before after : List Command)
    (objectKey registryKey : String) (cls : LoggedClass) (label : Option String) (echo : Echo)
    (hafter : ∀ command ∈ after, command.Spares objectKey cls (cls.reported label)) :
    let made := Command.object objectKey (.make registryKey cls label (cls.reported label) echo)
    let unwritten := after.filter fun command => !command.writesEcho objectKey
    AgreeBeyond objectKey registryKey (cls.instanceName (cls.reported label))
      (run { moment } (before ++ made :: after)).1
      (run { moment } (before ++ made :: unwritten)).1 := by
  intro made unwritten
  rw [run_append_fst, run_append_fst, run_cons_fst, run_cons_fst]
  -- Up to the object being made the runs are one, so the two sides start out equal.
  generalize (run { moment } before).1 = session
  have hregistry : (session.step made).1.registry registryKey =
      (((session.registry registryKey).classLogger cls).registry.build
        (cls.instanceName (cls.reported label)) echo).registry :=
    (session.registry_setRegistry registryKey registryKey _).trans (if_pos rfl)
  have hstart : ApartIn objectKey registryKey cls (cls.reported label)
      (((session.registry registryKey).classLogger cls).registry.obtain
        (cls.instanceName (cls.reported label))).id
      (session.step made).1 (session.step made).1 := by
    have hobject := session.get?_objects_step made objectKey
    refine ⟨rfl, fun _ _ => rfl, Registry.alikeBeyond_refl _ _, ?_, fun _ _ => rfl,
      label, _, _, hobject.trans (if_pos rfl), hobject.trans (if_pos rfl), rfl⟩
    rw [hregistry]
    exact Registry.lookup?_buildWith _ _ _ _
  exact (hstart.run hafter).agreeBeyond

/-- Two objects share a logger, and only the handler that a write attaches there tells the two runs
apart. -/
theorem echo_write_attaches_to_shared_logger :
    let moment : Moment := { instant := { seconds := 0 } }
    let cls : LoggedClass := { typeName := "Engine", declaredNamespace := some "app" }
    let made := Command.object "first" (.make "main" cls none (cls.reported none) .unset)
    let after := [Command.object "second" (.make "main" cls none none .unset),
      .object "first" (.writeEcho .debug)]
    let unwritten := after.filter fun command => !command.writesEcho "first"
    let written := (run { moment } ([] ++ made :: after)).1
    let other := (run { moment } ([] ++ made :: unwritten)).1
    (∀ command ∈ after, command.Spares "first" cls (cls.reported none)) ∧
      AgreeBeyond "first" "main" (cls.instanceName (cls.reported none)) written other ∧
      (written.registry "main").handlers 1 = [.standard] ∧
      (other.registry "main").handlers 1 = [] := by
  have hwritten : ((run { moment := { instant := { seconds := 0 } } } [
      .object "first" (.make "main"
        { typeName := "Engine", declaredNamespace := some "app" } none none .unset),
      .object "second" (.make "main"
        { typeName := "Engine", declaredNamespace := some "app" } none none .unset),
      .object "first" (.writeEcho .debug)]).1.registry "main").handlers 1 = [.standard] := by
    cbv
  have hother : ((run { moment := { instant := { seconds := 0 } } } [
      .object "first" (.make "main"
        { typeName := "Engine", declaredNamespace := some "app" } none none .unset),
      .object "second" (.make "main"
        { typeName := "Engine", declaredNamespace := some "app" } none none .unset)]).1.registry
          "main").handlers 1 = [] := by
    cbv
  intro moment cls made after unwritten written other
  have hafter : ∀ command ∈ after, command.Spares "first" cls (cls.reported none) :=
    List.forall_mem_cons.mpr
      ⟨show "second" ≠ "first" by decide, List.forall_mem_singleton.mpr trivial⟩
  refine ⟨hafter, ?_, hwritten, hother⟩
  exact echo_writes_matter_to_one_object moment [] after "first" "main" cls none .unset hafter

end Session

end LogTree
