import LogTree.Proofs.EchoScope
import LogTree.Proofs.StandardHandlers

namespace LogTree

namespace Echo

/-- The handlers of a logger after an outlet has been built on it. -/
def handlersAfter (echo : Echo) (handlers : List Handler) : List Handler :=
  if echo.isEnabled = true ∧ handlers = [] then [.standard] else handlers

theorem handlersAfter_of_ne_nil {handlers : List Handler} (h : handlers ≠ []) (echo : Echo) :
    echo.handlersAfter handlers = handlers :=
  if_neg fun hnone => h hnone.2

def handlersAfterAll (echoes : List Echo) (handlers : List Handler) : List Handler :=
  echoes.foldl (fun handlers echo => echo.handlersAfter handlers) handlers

theorem handlersAfterAll_of_ne_nil {handlers : List Handler} (h : handlers ≠ [])
    (echoes : List Echo) : handlersAfterAll echoes handlers = handlers := by
  induction echoes with
  | nil => rfl
  | cons echo rest ih =>
      rw [handlersAfterAll, List.foldl_cons, handlersAfter_of_ne_nil h]
      exact ih

theorem handlersAfterAll_eq (echoes : List Echo) (handlers : List Handler) :
    handlersAfterAll echoes handlers =
      if handlers ≠ [] ∨ ∀ echo ∈ echoes, echo ≠ .on ∧ echo ≠ .debug then handlers
      else [.standard] := by
  by_cases hhandlers : handlers = []
  · subst hhandlers
    induction echoes with
    | nil => simp [handlersAfterAll]
    | cons echo rest ih =>
        rw [handlersAfterAll, List.foldl_cons]
        by_cases hecho : echo.isEnabled = true
        · have hfirst : echo.handlersAfter [] = [.standard] := if_pos ⟨hecho, rfl⟩
          rw [hfirst]
          refine (handlersAfterAll_of_ne_nil (List.cons_ne_nil _ _) rest).trans ?_
          rcases isEnabled_iff.mp hecho with rfl | rfl <;> simp
        · have hfirst : echo.handlersAfter [] = [] := if_neg fun henabled => hecho henabled.1
          rw [hfirst]
          refine ih.trans ?_
          rw [isEnabled_iff, not_or] at hecho
          simp [hecho]
  · rw [handlersAfterAll_of_ne_nil hhandlers, if_pos (.inl hhandlers)]

end Echo

/-- An object to be made for the label that it reports. -/
structure ObjectPlan where
  key : String
  registry : String
  loggedClass : LoggedClass
  label : Option String

namespace ObjectPlan

open Session (ApartIn build? get?_objects_step placed? run_cons_fst)

variable (plan : ObjectPlan)

def name : String :=
  plan.loggedClass.instanceName (plan.loggedClass.reported plan.label)

def make (echo : Echo) : Command :=
  .object plan.key (.make plan.registry plan.loggedClass plan.label
    (plan.loggedClass.reported plan.label) echo)

def write (echo : Echo) : Command :=
  .object plan.key (.writeEcho echo)

def object (state : LogState) : Owned Instance :=
  { registry := plan.registry
    value := { loggedClass := plan.loggedClass, label := plan.label, state } }

/-- The logger on which the first outlet of the object is built. -/
def loggerIn (session : Session) : LoggerId :=
  (((session.registry plan.registry).classLogger plan.loggedClass).registry.obtain plan.name).id

/-- The object is there with an echo value and the outlet for that, on the logger for its name. -/
structure LogsWith (id : LoggerId) (echo : Echo) (session : Session) : Prop where
  object_eq : session.objects.get? plan.key =
    some (plan.object { echo, outlet := .ofEcho echo id })
  lookup?_eq : (session.registry plan.registry).lookup? plan.name = some id

theorem handlers_step_of_plan {session : Session} {command : Command} {echo : Echo}
    (hbuild : session.build? command =
      some { registry := plan.registry, name := plan.name, echo, handler := .standard })
    {id : LoggerId}
    (hlookup : ((session.step command).1.registry plan.registry).lookup? plan.name = some id) :
    ((session.step command).1.registry plan.registry).handlers id =
      echo.handlersAfter ((session.registry plan.registry).handlers id) := by
  obtain ⟨place, hplace, hhandlers⟩ := Session.handlers_step_of_build? hbuild
  obtain rfl := Option.some.inj (hplace.symm.trans hlookup)
  rw [hhandlers]
  simp [Echo.handlersAfter]

theorem registry_make (session : Session) (echo : Echo) (key : String) :
    (session.step (plan.make echo)).1.registry key =
      if key = plan.registry then
        ((session.registry plan.registry).classLogger plan.loggedClass).registry.perform
          (Registry.building plan.name echo (some .standard))
      else session.registry key := by
  rw [Registry.perform_building _ _ _ fun _ => some Handler.standard]
  exact session.registry_setRegistry plan.registry key _

theorem logsWith_make (session : Session) (echo : Echo) :
    plan.LogsWith (plan.loggerIn session) echo (session.step (plan.make echo)).1 := by
  constructor
  · rw [get?_objects_step]
    simp only [ObjectPlan.make, placed?, if_pos, Registry.makeState, Registry.build,
      Registry.outlet_buildWith]
    rfl
  · rw [registry_make, if_pos rfl, Registry.perform_building _ _ _ fun _ => some Handler.standard]
    exact Registry.lookup?_buildWith _ _ _ _

/-- What the object is made with tells two sessions apart by the object and by the handlers on its
logger only. -/
theorem apartIn_make (session : Session) (first last : Echo) :
    ApartIn plan.key plan.registry plan.loggedClass (plan.loggedClass.reported plan.label)
      (plan.loggerIn session) (session.step (plan.make first)).1
      (session.step (plan.make last)).1 where
  handlers_eq := rfl
  registry_eq := by
    intro key hne
    rw [registry_make, registry_make, if_neg hne, if_neg hne]
  alike := by
    rw [registry_make, registry_make, if_pos rfl, if_pos rfl]
    exact Registry.alikeBeyond_building _ _ _ _ _
  lookup?_eq := (plan.logsWith_make session first).lookup?_eq
  objects_eq := by
    intro key hne
    rw [get?_objects_step, get?_objects_step]
    simp [ObjectPlan.make, placed?, hne]
  object :=
    ⟨plan.label, _, _, (plan.logsWith_make session first).object_eq,
      (plan.logsWith_make session last).object_eq, rfl⟩

theorem handlers_make (session : Session) (echo : Echo) :
    ((session.step (plan.make echo)).1.registry plan.registry).handlers (plan.loggerIn session) =
      echo.handlersAfter
        ((session.registry plan.registry).handlers (plan.loggerIn session)) :=
  plan.handlers_step_of_plan rfl (plan.logsWith_make session echo).lookup?_eq

theorem apartIn_writes (session : Session) (first : Echo) (rest : List Echo) :
    ApartIn plan.key plan.registry plan.loggedClass (plan.loggedClass.reported plan.label)
      (plan.loggerIn session) (session.run (plan.make first :: rest.map plan.write)).1
      (session.step (plan.make (rest.getLastD first))).1 := by
  have hspares : ∀ command ∈ rest.map plan.write,
      command.Spares plan.key plan.loggedClass (plan.loggedClass.reported plan.label) := by
    intro command hcommand
    obtain ⟨echo, -, rfl⟩ := List.mem_map.mp hcommand
    trivial
  have hunwritten : (rest.map plan.write).filter (fun command => !command.writesEcho plan.key) =
      [] := by
    simp [write, Command.writesEcho]
  have hrun := (plan.apartIn_make session first (rest.getLastD first)).run hspares
  rw [hunwritten] at hrun
  exact hrun

variable {plan}

section

variable {session : Session} {id : LoggerId} {echo : Echo} (h : plan.LogsWith id echo session)

include h

theorem LogsWith.step_write (next : Echo) :
    plan.LogsWith id next (session.step (plan.write next)).1 := by
  constructor
  · have hlogger : ((session.registry plan.registry).build plan.name next).outlet =
        .ofEcho next id := by
      rw [Registry.build, Registry.outlet_buildWith, Registry.obtain_eq_of_lookup? h.lookup?_eq]
    rw [get?_objects_step, ObjectPlan.write, placed?, h.object_eq, Option.map_some,
      ← hlogger]
    exact if_pos rfl
  · exact (session.grows_registry_step _ plan.registry).lookup?_eq h.lookup?_eq

theorem LogsWith.handlers_write (next : Echo) :
    ((session.step (plan.write next)).1.registry plan.registry).handlers id =
      next.handlersAfter ((session.registry plan.registry).handlers id) := by
  have hbuild : session.build? (plan.write next) = some
      { registry := plan.registry, name := plan.name, echo := next, handler := .standard } := by
    rw [ObjectPlan.write, build?, h.object_eq]
    rfl
  exact plan.handlers_step_of_plan hbuild (h.step_write next).lookup?_eq

end

theorem LogsWith.run {session : Session} {id : LoggerId} {echo : Echo}
    (h : plan.LogsWith id echo session) (rest : List Echo) :
    plan.LogsWith id (rest.getLastD echo) (session.run (rest.map plan.write)).1 ∧
      ((session.run (rest.map plan.write)).1.registry plan.registry).handlers id =
        Echo.handlersAfterAll rest ((session.registry plan.registry).handlers id) := by
  induction rest generalizing session echo with
  | nil => exact ⟨h, rfl⟩
  | cons next rest ih =>
      obtain ⟨hlogs, hhandlers⟩ := ih (h.step_write next)
      rw [h.handlers_write] at hhandlers
      rw [List.getLastD_cons, List.map_cons, run_cons_fst]
      exact ⟨hlogs, hhandlers⟩

end ObjectPlan

namespace Session

/-- Making an object with one echo value and then writing others comes to making it with the last of
them, in whatever state the session is: the object is the same, and so are all levels, names and
switches. The handlers are the same too except on the logger of the namespace of the object. That
logger keeps the handlers that it had; if it had none, as when it was not there before, it has the
standard handler as soon as one of the values has asked for output. -/
theorem echo_rewrites_come_to_last_echo (session : Session) (plan : ObjectPlan) (first : Echo)
    (rest : List Echo) :
    let last := rest.getLastD first
    let written := (session.run (plan.make first :: rest.map plan.write)).1
    let direct := (session.step (plan.make last)).1
    AgreeBeyond plan.key plan.registry plan.name written direct ∧
      ∃ id, (written.registry plan.registry).lookup? plan.name = some id ∧
        written.objects.get? plan.key =
          some (plan.object { echo := last, outlet := .ofEcho last id }) ∧
        direct.objects.get? plan.key = written.objects.get? plan.key ∧
        (Outlet.ofEcho last id).effectiveLevel (direct.registry plan.registry) =
          (Outlet.ofEcho last id).effectiveLevel (written.registry plan.registry) ∧
        (written.registry plan.registry).handlers id =
          if (session.registry plan.registry).handlers id ≠ [] ∨
              ∀ echo ∈ first :: rest, echo ≠ .on ∧ echo ≠ .debug then
            (session.registry plan.registry).handlers id
          else [.standard] := by
  intro last written direct
  obtain ⟨hwritten, hhandlers⟩ := (plan.logsWith_make session first).run rest
  have hdirect := plan.logsWith_make session last
  have hapart := plan.apartIn_writes session first rest
  refine ⟨hapart.agreeBeyond, _, hwritten.lookup?_eq, hwritten.object_eq, ?_, ?_, ?_⟩
  · rw [hdirect.object_eq]
    exact hwritten.object_eq.symm
  · rw [Outlet.effectiveLevel_eq_threshold, Outlet.effectiveLevel_eq_threshold]
    exact hapart.alike.threshold_eq _
  · rw [← Echo.handlersAfterAll_eq]
    refine hhandlers.trans ?_
    rw [plan.handlers_make]
    rfl

/-- A handler outlasts the echo value that it was attached for. -/
example :
    let plan : ObjectPlan :=
      { key := "first", registry := "main", label := none
        loggedClass := { typeName := "Engine", declaredNamespace := some "app" } }
    let written := (run { moment := { instant := { seconds := 0 } } }
      [plan.make .debug, plan.write .off]).1
    (written.registry "main").handlers 1 = [.standard] := by
  cbv

end Session

end LogTree
