import LogTree.Proofs.LevelTable
import LogTree.Proofs.LoggerIdentity
import LogTree.Proofs.SessionFrames

/-!
The state of objects. A table holds for each object what was written last, without any loggers. The
outlets of the objects always are what the table says, on the loggers that stand for their names.
-/

namespace LogTree

/-- The label that an object of the class reports if it bears this one. -/
def LoggedClass.reported (cls : LoggedClass) (label : Option String) : Option String :=
  if cls.reportsLabel then label else none

theorem Instance.resolvedName_eq (object : Instance) :
    object.resolvedName =
      object.loggedClass.instanceName (object.loggedClass.reported object.label) :=
  rfl

/-- What was written last for an object. -/
structure ObjectRecord where
  registry : String
  loggedClass : LoggedClass
  /-- The label that the object bears now. -/
  label : Option String
  /-- The label for which the outlet was built last: the one the state was made for, and since the
  first write of an echo value the one the object reported at the last write. -/
  builtFor : Option String
  echo : Echo
deriving DecidableEq

namespace ObjectRecord

def reportedLabel (record : ObjectRecord) : Option String :=
  record.loggedClass.reported record.label

def name (record : ObjectRecord) : String :=
  record.loggedClass.instanceName record.builtFor

end ObjectRecord

abbrev ObjectTable :=
  NameMap ObjectRecord

namespace ObjectTable

def after (table : ObjectTable) : Command → ObjectTable
  | .object key (.make registry loggedClass label builtFor echo) =>
      table.insert key { registry, loggedClass, label, builtFor, echo }
  | .object key (.copy source) =>
      match table.get? source with
      | none => table
      | some record => table.insert key { record with label := record.reportedLabel }
  | .object key (.relabel label) =>
      match table.get? key with
      | none => table
      | some record => table.insert key { record with label }
  | .object key (.writeEcho echo) =>
      match table.get? key with
      | none => table
      | some record => table.insert key { record with builtFor := record.reportedLabel, echo }
  | _ => table

def afterRun (commands : List Command) : ObjectTable :=
  commands.foldl after ∅

end ObjectTable

/-- A command builds the outlet of an object or puts another object in its place. -/
def Command.Rebuilds (key : String) : Command → Prop
  | .object other (.make ..) | .object other (.copy _) | .object other (.writeEcho _) => other = key
  | _ => False

/-- The outlet of an object with an echo value: an adapter if the object asks for output. -/
def Outlet.ofEcho (echo : Echo) (logger : LoggerId) : Outlet :=
  if echo.isEnabled then .adapted { echo, logger } else .direct logger

namespace Outlet

@[simp] theorem logger_ofEcho (echo : Echo) (logger : LoggerId) :
    (ofEcho echo logger).logger = logger := by
  cases echo <;> rfl

theorem isAdapted_ofEcho (echo : Echo) (logger : LoggerId) :
    (ofEcho echo logger).isAdapted = echo.isEnabled := by
  cases echo <;> rfl

theorem echo_of_ofEcho {echo : Echo} {logger : LoggerId} {adapter : Adapter}
    (h : ofEcho echo logger = .adapted adapter) : adapter.echo = echo := by
  rw [ofEcho] at h
  split at h
  · obtain rfl := Outlet.adapted.inj h
    rfl
  · cases h

theorem effectiveLevel_ofEcho (echo : Echo) (logger : LoggerId) (registry : Registry) :
    (ofEcho echo logger).effectiveLevel registry =
      match echo with
      | .on => .info
      | .debug => .debug
      | .unset | .off => registry.effectiveLevel logger := by
  cases echo <;> rfl

end Outlet

theorem Echo.isEnabled_iff {echo : Echo} : echo.isEnabled = true ↔ echo = .on ∨ echo = .debug := by
  cases echo <;> decide

namespace Registry

theorem outlet_buildWith (registry : Registry) (name : String) (echo : Echo)
    (make : Unit → Option Handler) :
    (registry.buildWith name echo make).outlet = .ofEcho echo (registry.obtain name).id := by
  cases echo <;> rfl

theorem lookup?_buildWith (registry : Registry) (name : String) (echo : Echo)
    (make : Unit → Option Handler) :
    (registry.buildWith name echo make).registry.lookup? name =
      some (registry.obtain name).id := by
  rw [← perform_building, building, perform]
  exact (lookup?_update _ _ _ name).trans (lookup?_obtain_self registry name)

/-- An object bears what was written last, and its outlet is on the logger for its name. -/
structure Shows (registry : Registry) (object : Owned Instance) (record : ObjectRecord) :
    Prop where
  registry_eq : object.registry = record.registry
  loggedClass_eq : object.value.loggedClass = record.loggedClass
  label_eq : object.value.label = record.label
  echo_eq : object.value.state.echo = record.echo
  outlet_eq : ∃ id, registry.lookup? record.name = some id ∧
    object.value.state.outlet = .ofEcho record.echo id

theorem Shows.reportedLabel_eq {registry : Registry} {object : Owned Instance}
    {record : ObjectRecord} (h : registry.Shows object record) :
    object.value.reportedLabel = record.reportedLabel := by
  rw [ObjectRecord.reportedLabel, ← h.loggedClass_eq, ← h.label_eq]
  rfl

theorem Grows.shows {earlier later : Registry} (hgrows : earlier.Grows later)
    {object : Owned Instance} {record : ObjectRecord} (h : earlier.Shows object record) :
    later.Shows object record := by
  obtain ⟨id, hlookup, houtlet⟩ := h.outlet_eq
  exact { h with outlet_eq := ⟨id, hgrows.lookup?_eq hlookup, houtlet⟩ }

/-- The outlet of an object is in step with what was written last. -/
structure InStep (registry : Registry) (object : Instance) (record : ObjectRecord) : Prop where
  echo_eq : object.state.echo = record.echo
  isAdapted_iff : object.state.outlet.isAdapted = true ↔
    record.echo = .on ∨ record.echo = .debug
  adapter_echo_eq : ∀ adapter, object.state.outlet = .adapted adapter →
    adapter.echo = record.echo
  /-- Asking for the name gives the logger of the outlet, which is there already. -/
  id_obtain_eq : (registry.obtain record.name).id = object.state.outlet.logger
  registry_obtain_eq : (registry.obtain record.name).registry = registry
  effectiveLevel_eq : object.state.outlet.effectiveLevel registry =
    match record.echo with
    | .on => .info
    | .debug => .debug
    | .unset | .off => registry.effectiveLevel object.state.outlet.logger

theorem Shows.inStep {registry : Registry} {object : Owned Instance} {record : ObjectRecord}
    (h : registry.Shows object record) : registry.InStep object.value record := by
  obtain ⟨id, hlookup, houtlet⟩ := h.outlet_eq
  have hobtain := obtain_eq_of_lookup? hlookup
  refine ⟨h.echo_eq, ?_, ?_, ?_, ?_, ?_⟩
  · rw [houtlet, Outlet.isAdapted_ofEcho, Echo.isEnabled_iff]
  · intro adapter hadapter
    exact Outlet.echo_of_ofEcho (houtlet.symm.trans hadapter)
  · rw [hobtain, houtlet, Outlet.logger_ofEcho]
  · rw [hobtain]
  · rw [houtlet, Outlet.effectiveLevel_ofEcho, Outlet.logger_ofEcho]

end Registry

namespace Session

theorem grows_registry_step (session : Session) (command : Command) (key : String) :
    (session.registry key).Grows ((session.step command).1.registry key) := by
  rw [registry_step]
  exact Registry.grows_performAll _ _

/-- The objects of a session are those of a table. -/
def Follows (session : Session) (table : ObjectTable) : Prop :=
  ∀ key, Option.Rel (fun object record => (session.registry record.registry).Shows object record)
    (session.objects.get? key) (table.get? key)

theorem follows_fresh (moment : Moment) : Follows { moment } ∅ := by
  intro key
  exact .none

section

variable {session next : Session} {table : ObjectTable} (h : session.Follows table)
  (hgrows : ∀ key, (session.registry key).Grows (next.registry key))

include h hgrows

theorem Follows.later (key : String) :
    Option.Rel (fun object record => (next.registry record.registry).Shows object record)
      (session.objects.get? key) (table.get? key) := by
  have hkey := h key
  generalize session.objects.get? key = object at hkey ⊢
  generalize table.get? key = record at hkey ⊢
  rcases hkey with hshows | _
  · exact .some ((hgrows _).shows hshows)
  · exact .none

theorem Follows.keep (hobjects : next.objects = session.objects) : next.Follows table := by
  intro key
  rw [hobjects]
  exact h.later hgrows key

theorem Follows.insert {key : String} {object : Owned Instance} {record : ObjectRecord}
    (hobjects : next.objects = session.objects.insert key object)
    (hshows : (next.registry record.registry).Shows object record) :
    next.Follows (table.insert key record) := by
  intro other
  rw [hobjects, NameMap.get?_insert, NameMap.get?_insert]
  split
  · exact .some hshows
  · exact h.later hgrows other

theorem Follows.amend {source key : String} {change : Owned Instance → Owned Instance}
    {amend : ObjectRecord → ObjectRecord}
    (hobjects : next.objects =
      match (session.objects.get? source).map fun object => (key, change object) with
      | none => session.objects
      | some (key, object) => session.objects.insert key object)
    (hshows : ∀ object record, session.objects.get? source = some object →
      (session.registry record.registry).Shows object record →
      (next.registry (amend record).registry).Shows (change object) (amend record)) :
    next.Follows
      (match table.get? source with
      | none => table
      | some record => table.insert key (amend record)) := by
  have hsource := h source
  cases hobject : session.objects.get? source with
  | none =>
      rw [hobject] at hsource hobjects
      cases hrecord : table.get? source with
      | none => exact h.keep hgrows hobjects
      | some record =>
          rw [hrecord] at hsource
          cases hsource
  | some object =>
      rw [hobject] at hsource hobjects
      cases hrecord : table.get? source with
      | none =>
          rw [hrecord] at hsource
          cases hsource
      | some record =>
          rw [hrecord] at hsource
          rcases hsource with hheld | _
          exact h.insert hgrows hobjects (hshows object record hobject hheld)

end

theorem Follows.step_object {session : Session} {table : ObjectTable} (h : session.Follows table)
    (key : String) (command : ObjectCommand) :
    (session.step (.object key command)).1.Follows (table.after (.object key command)) := by
  have hgrows := session.grows_registry_step (.object key command)
  have hobjects := session.objects_step (.object key command)
  cases command with
  | make registryKey cls label stateLabel echo =>
      have hregistry : (session.step (.object key
          (.make registryKey cls label stateLabel echo))).1.registry registryKey =
            (((session.registry registryKey).classLogger cls).registry.build
              (cls.instanceName stateLabel) echo).registry :=
        (session.registry_setRegistry registryKey registryKey _).trans (if_pos rfl)
      refine h.insert hgrows hobjects ?_
      dsimp only
      rw [hregistry]
      exact ⟨rfl, rfl, rfl, rfl, _, Registry.lookup?_buildWith _ _ _ _,
        Registry.outlet_buildWith _ _ _ _⟩
  | copy source =>
      -- The copy takes over the outlet, so it stays built for the label it was built for.
      refine h.amend hgrows hobjects ?_
      intro object record _ hshows
      have hlater := (hgrows record.registry).shows hshows
      exact { hlater with label_eq := hshows.reportedLabel_eq }
  | relabel label =>
      refine h.amend hgrows hobjects ?_
      intro object record _ hshows
      have hlater := (hgrows record.registry).shows hshows
      exact { hlater with label_eq := rfl }
  | writeEcho echo =>
      refine h.amend hgrows hobjects ?_
      intro object record hobject hshows
      have hname : object.value.resolvedName =
          record.loggedClass.instanceName record.reportedLabel := by
        rw [Instance.resolvedName, hshows.reportedLabel_eq, hshows.loggedClass_eq]
      have hregistry : (session.step (.object key (.writeEcho echo))).1.registry record.registry =
          ((session.registry record.registry).build
            (record.loggedClass.instanceName record.reportedLabel) echo).registry := by
        rw [← hshows.registry_eq, ← hname]
        simp only [step, stepObject, onObject, hobject]
        exact (session.registry_setRegistry object.registry object.registry _).trans (if_pos rfl)
      dsimp only
      rw [hregistry]
      refine ⟨hshows.registry_eq, hshows.loggedClass_eq, hshows.label_eq, rfl, _,
        Registry.lookup?_buildWith _ _ _ _, ?_⟩
      change ((session.registry object.registry).build object.value.resolvedName echo).outlet = _
      rw [hshows.registry_eq, hname]
      exact Registry.outlet_buildWith _ _ _ _
  | report => exact h.keep hgrows hobjects
  | sameLogger other => exact h.keep hgrows hobjects

theorem Follows.step {session : Session} {table : ObjectTable} (h : session.Follows table)
    (command : Command) : (session.step command).1.Follows (table.after command) := by
  have hgrows := session.grows_registry_step command
  have hobjects := session.objects_step command
  cases command with
  | object key command => exact h.step_object key command
  | _ => exact h.keep hgrows hobjects

theorem Follows.run {session : Session} {table : ObjectTable} (h : session.Follows table)
    (commands : List Command) :
    (session.run commands).1.Follows (commands.foldl ObjectTable.after table) := by
  induction commands generalizing session table with
  | nil => exact h
  | cons command rest ih => exact ih (h.step command)

theorem eq_relabel_of_placed? {session : Session} {command : Command} {key : String}
    (hcommand : ¬command.Rebuilds key) {placed : Owned Instance}
    (h : session.placed? command = some (key, placed)) :
    ∃ object label, session.objects.get? key = some object ∧
      placed = { object with value := { object.value with label } } := by
  unfold placed? at h
  split at h
  · obtain ⟨rfl, -⟩ := Prod.mk.inj (Option.some.inj h)
    exact absurd rfl hcommand
  · obtain ⟨object, -, hplaced⟩ := Option.map_eq_some_iff.mp h
    obtain ⟨rfl, -⟩ := Prod.mk.inj hplaced
    exact absurd rfl hcommand
  · next place label =>
      obtain ⟨object, hobject, hplaced⟩ := Option.map_eq_some_iff.mp h
      obtain ⟨rfl, rfl⟩ := Prod.mk.inj hplaced
      exact ⟨object, label, hobject, rfl⟩
  · obtain ⟨object, -, hplaced⟩ := Option.map_eq_some_iff.mp h
    obtain ⟨rfl, -⟩ := Prod.mk.inj hplaced
    exact absurd rfl hcommand
  · cases h

theorem state_step_of_not_rebuilds {session : Session} {command : Command} {key : String}
    (hcommand : ¬command.Rebuilds key) {object : Owned Instance}
    (h : session.objects.get? key = some object) :
    ∃ later, (session.step command).1.objects.get? key = some later ∧
      later.registry = object.registry ∧ later.value.state = object.value.state := by
  rw [get?_objects_step]
  split
  · exact ⟨object, h, rfl, rfl⟩
  · next place placed hplaced =>
      split
      · next heq =>
          subst heq
          obtain ⟨held, label, hheld, rfl⟩ := eq_relabel_of_placed? hcommand hplaced
          rw [h, Option.some.injEq] at hheld
          rw [hheld]
          exact ⟨_, rfl, rfl, rfl⟩
      · exact ⟨object, h, rfl, rfl⟩

/-- In every state of a run, the outlet of each object is what the table of writes says, on the very
logger that its name stands for, and a command that does not build it anew leaves it as it is. -/
theorem objects_stay_in_step_with_writes (moment : Moment) (commands : List Command) :
    let session := (run { moment } commands).1
    let table := ObjectTable.afterRun commands
    (∀ key, session.objects.contains key = table.contains key) ∧
      (∀ key object record, session.objects.get? key = some object →
        table.get? key = some record →
        object.registry = record.registry ∧
          object.value.loggedClass = record.loggedClass ∧
          object.value.reportedLabel = record.reportedLabel ∧
          (session.registry object.registry).InStep object.value record) ∧
      ∀ key object command, session.objects.get? key = some object → ¬command.Rebuilds key →
        ∃ later, (session.step command).1.objects.get? key = some later ∧
          later.registry = object.registry ∧ later.value.state = object.value.state := by
  intro session table
  have hfollows : session.Follows table := (follows_fresh moment).run commands
  refine ⟨?_, ?_, ?_⟩
  · intro key
    have hkey := hfollows key
    rw [NameMap.contains, NameMap.contains]
    generalize session.objects.get? key = object at hkey ⊢
    generalize table.get? key = record at hkey ⊢
    rcases hkey with _ | _ <;> rfl
  · intro key object record hobject hrecord
    have hkey := hfollows key
    rw [hobject, hrecord] at hkey
    rcases hkey with hshows | _
    refine ⟨hshows.registry_eq, hshows.loggedClass_eq, hshows.reportedLabel_eq, ?_⟩
    rw [hshows.registry_eq]
    exact hshows.inStep
  · intro key object command hobject hcommand
    exact state_step_of_not_rebuilds hcommand hobject

end Session

end LogTree
