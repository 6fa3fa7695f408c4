import LogTree.Proofs.ObjectWrites

namespace LogTree

/-- The handler that an adjustment may add to those of a logger. -/
def Adjustment.offered? : Adjustment → Option Handler
  | attach handler | offer (some handler) => some handler
  | offer none | keep | setLevel _ | setDefaultLevel | setPropagate _ | detach _ => none

theorem Adjustment.mem_handlers_apply {adjustment : Adjustment} {settings : Settings}
    {handler : Handler} (h : handler ∈ (adjustment.apply settings).handlers) :
    handler ∈ settings.handlers ∨ adjustment.offered? = some handler := by
  cases adjustment with
  | attach added =>
      rw [apply, Settings.attach] at h
      split at h
      · exact .inl h
      · rcases List.mem_append.mp h with hheld | hadded
        · exact .inl hheld
        · rw [List.mem_singleton] at hadded
          exact .inr (congrArg some hadded.symm)
  | detach id => exact .inl (List.mem_filter.mp h).1
  | setDefaultLevel =>
      rw [apply] at h
      split at h <;> exact .inl h
  | offer offered =>
      cases offered with
      | none => exact .inl h
      | some added =>
          rw [apply] at h
          split at h
          · rw [List.mem_singleton] at h
            exact .inr (congrArg some h.symm)
          · exact .inl h
  | _ => exact .inl h

/-- No handler that stands behind another one is a standard one. -/
def Settings.StandardFirst (settings : Settings) : Prop :=
  settings.handlers.Pairwise fun _ later => later.id ≠ .standard

namespace Settings.StandardFirst

variable {settings : Settings} (h : settings.StandardFirst)

include h

theorem eq_zero {position : Nat} {handler : Handler}
    (hhandler : settings.handlers[position]? = some handler) (hid : handler.id = .standard) :
    position = 0 := by
  refine Decidable.byContradiction fun hne => ?_
  obtain ⟨hlt, hget⟩ := List.getElem?_eq_some_iff.mp hhandler
  have hlater := List.pairwise_iff_getElem.mp h 0 position (by omega) hlt (by omega)
  rw [hget] at hlater
  exact hlater hid

theorem count_le_one : (settings.handlers.map Handler.id).count .standard ≤ 1 := by
  unfold Settings.StandardFirst at h
  cases hhandlers : settings.handlers with
  | nil => exact Nat.zero_le 1
  | cons first rest =>
      rw [hhandlers, List.pairwise_cons] at h
      have hrest : (rest.map Handler.id).count .standard = 0 := by
        rw [List.count_eq_zero]
        intro hmem
        obtain ⟨handler, hhandler, hid⟩ := List.mem_map.mp hmem
        exact h.1 handler hhandler hid
      rw [List.map_cons, List.count_cons, hrest]
      split <;> omega

theorem apply {adjustment : Adjustment}
    (hoffered : ∀ handler, adjustment.offered? = some handler → handler.id ≠ .standard) :
    (adjustment.apply settings).StandardFirst := by
  cases adjustment with
  | attach added =>
      rw [Adjustment.apply, attach]
      split
      · exact h
      · refine List.pairwise_append.mpr ⟨h, List.pairwise_singleton _ _, ?_⟩
        intro _ _ handler hadded
        rw [List.mem_singleton] at hadded
        rw [hadded]
        exact hoffered added rfl
  | detach id => exact h.filter _
  | setDefaultLevel =>
      rw [Adjustment.apply]
      split <;> exact h
  | offer offered =>
      cases offered with
      | none => exact h
      | some added =>
          rw [Adjustment.apply]
          split
          · exact List.pairwise_singleton _ _
          · exact h
  | _ => exact h

end Settings.StandardFirst

namespace Registry

def Operation.offered? : Operation → Option Handler
  | .adjust _ _ adjustment => adjustment.offered?
  | .disable _ => none

/-- On no logger a standard handler stands behind another one. -/
def StandardFirst (registry : Registry) : Prop :=
  ∀ id, (registry.settings id).StandardFirst

theorem standardFirst_fresh : StandardFirst {} := by
  rintro (_ | k)
  · exact .nil
  · exact .nil

theorem StandardFirst.performAll {registry : Registry} (h : registry.StandardFirst)
    {operations : List Operation}
    (hoffered : ∀ operation ∈ operations, ∀ handler, operation.offered? = some handler →
      handler.id ≠ .standard) : (registry.performAll operations).StandardFirst := by
  intro id
  refine settings_performAll_induction (motive := Settings.StandardFirst) ?_ (h id)
  intro name generations adjustment hoperation settings hsettings
  exact hsettings.apply (hoffered _ hoperation)

theorem mem_handlers_performAll {registry : Registry} {operations : List Operation}
    {id : LoggerId} {handler : Handler}
    (h : handler ∈ (registry.performAll operations).handlers id) :
    handler ∈ registry.handlers id ∨
      ∃ operation ∈ operations, operation.offered? = some handler := by
  refine settings_performAll_induction (motive := fun settings => handler ∈ settings.handlers →
    handler ∈ registry.handlers id ∨
      ∃ operation ∈ operations, operation.offered? = some handler) ?_ .inl h
  intro name generations adjustment hoperation settings hsettings hhandler
  rcases Adjustment.mem_handlers_apply hhandler with hheld | hoffered
  · exact hsettings hheld
  · exact .inr ⟨_, hoperation, hoffered⟩

theorem handlers_performAll_keep (registry : Registry) (names : List String) (id : LoggerId) :
    (registry.performAll (names.map fun name => .adjust name 0 .keep)).handlers id =
      registry.handlers id := by
  induction names generalizing registry with
  | nil => rfl
  | cons name rest ih =>
      rw [List.map_cons, performAll_cons, perform_keep, ih, handlers, settings_obtain, handlers]

theorem handlers_perform_building (registry : Registry) (name : String) (echo : Echo)
    (handler : Handler) (id : LoggerId) :
    (registry.perform (building name echo (some handler))).handlers id =
      if id = (registry.obtain name).id ∧ echo.isEnabled = true ∧ registry.handlers id = [] then
        [handler]
      else registry.handlers id := by
  have hholds : (registry.obtain name).registry.Holds (registry.obtain name).id :=
    (registry.obtain name).holds
  rw [building, perform]
  simp only [climb?]
  rw [handlers, settings_update, settings_obtain, handlers]
  rcases Decidable.em (id = (registry.obtain name).id) with rfl | hne
  · rw [if_pos ⟨rfl, hholds⟩]
    cases echo.isEnabled with
    | false => simp [Adjustment.apply]
    | true =>
        simp only [Adjustment.apply, if_true, true_and]
        split <;> rfl
  · rw [if_neg fun h => hne h.1, if_neg fun h => hne h.1]

end Registry

theorem RegistryCommand.offered?_eq_none {command : RegistryCommand}
    {operation : Registry.Operation} (h : operation ∈ command.operations) :
    operation.offered? = none := by
  rcases RegistryCommand.of_mem_operations h with
    ⟨config, -, hmem⟩ | ⟨name, -, rfl⟩ | ⟨level, -, rfl⟩ | ⟨name, rfl⟩
  · rcases Registry.mem_configuring_iff.mp hmem with
      ⟨level, -, rfl⟩ | ⟨name, level, -, rfl⟩ | ⟨level, -, rfl⟩ <;> rfl
  · rfl
  · rfl
  · rfl

theorem LoggerCommand.exists_handler_of_offered? {handlers : NameMap Handler}
    {command : LoggerCommand} {handler : Handler}
    (h : (command.adjustment handlers).offered? = some handler) :
    ∃ handlerKey, handlers.get? handlerKey = some handler := by
  unfold adjustment at h
  split at h
  · cases h
  · cases h
  · split at h
    · cases h
    · next handlerKey held hheld =>
        obtain rfl := Option.some.inj h
        exact ⟨_, hheld⟩
  · split at h <;> cases h
  · split at h
    · cases h
    · next held hheld =>
        split at h
        · cases h
        · obtain rfl := Option.some.inj h
          exact ⟨_, hheld⟩
  all_goals cases h

namespace Session

open Registry (building)

theorem effect?_of_build? {session : Session} {command : Command} {build : BuildRequest}
    (h : session.build? command = some build) :
    ∃ asked : List String, session.effect? command = some (build.registry,
      asked.map (fun name => .adjust name 0 .keep) ++
        [building build.name build.echo (some build.handler)]) := by
  unfold build? at h
  split at h
  · next cls _ _ _ =>
      obtain rfl := Option.some.inj h
      exact ⟨[cls.namespaceName], rfl⟩
  · obtain ⟨object, hobject, rfl⟩ := Option.map_eq_some_iff.mp h
    exact ⟨[], by simp [effect?, hobject]⟩
  · obtain rfl := Option.some.inj h
    exact ⟨[], rfl⟩
  · obtain ⟨handler, hhandler, rfl⟩ := Option.map_eq_some_iff.mp h
    exact ⟨[], by simp [effect?, hhandler]⟩
  · cases h

theorem exists_handler_of_offered? {session : Session} {command : Command}
    (hbuild : session.build? command = none) {key : String} {operation : Registry.Operation}
    (hoperation : operation ∈ session.operations key command) {handler : Handler}
    (hoffered : operation.offered? = some handler) :
    ∃ handlerKey, session.handlers.get? handlerKey = some handler := by
  rcases of_mem_operations hoperation with
    ⟨inner, -, hinner⟩ | ⟨address, inner, -, -, rfl⟩ | ⟨name, generations, rfl⟩ |
      ⟨build, hrequest, -⟩
  · rw [RegistryCommand.offered?_eq_none hinner] at hoffered
    cases hoffered
  · exact LoggerCommand.exists_handler_of_offered? hoffered
  · cases hoffered
  · rw [hbuild] at hrequest
    cases hrequest

/-- What a command that builds an outlet does to handlers: the logger for the name, which is there
afterwards, gets the handler if output is asked for and it has none of its own. -/
theorem handlers_step_of_build? {session : Session} {command : Command} {build : BuildRequest}
    (h : session.build? command = some build) :
    ∃ id, ((session.step command).1.registry build.registry).lookup? build.name = some id ∧
      ∀ key place, ((session.step command).1.registry key).handlers place =
        if key = build.registry ∧ place = id ∧ build.echo.isEnabled = true ∧
            (session.registry key).handlers place = [] then [build.handler]
        else (session.registry key).handlers place := by
  obtain ⟨asked, heffect⟩ := effect?_of_build? h
  have hregistry := fun key =>
    (session.registry_step command key).trans (performAll_operations_of_some heffect key)
  -- What is asked for before the building leaves all handlers, so it can be put aside.
  generalize hasked : (session.registry build.registry).performAll
    (asked.map fun name => .adjust name 0 .keep) = registry at hregistry
  have hkept : ∀ place, registry.handlers place =
      (session.registry build.registry).handlers place := by
    intro place
    rw [← hasked, Registry.handlers_performAll_keep]
  have hbuilt : (session.step command).1.registry build.registry =
      registry.perform (building build.name build.echo (some build.handler)) := by
    rw [hregistry, if_pos rfl, Registry.performAll_append, hasked]
    rfl
  refine ⟨(registry.obtain build.name).id, ?_, ?_⟩
  · rw [hbuilt, Registry.perform_building _ _ _ fun _ => some build.handler]
    exact Registry.lookup?_buildWith _ _ _ _
  · intro key place
    rcases Decidable.em (key = build.registry) with rfl | hne
    · rw [hbuilt, Registry.handlers_perform_building, hkept]
      simp
    · rw [hregistry, if_neg hne, if_neg fun h => hne h.1]

theorem handlers_step_of_disabled {session : Session} {command : Command} {build : BuildRequest}
    (h : session.build? command = some build) (hecho : build.echo = .unset ∨ build.echo = .off)
    (key : String) (id : LoggerId) :
    ((session.step command).1.registry key).handlers id = (session.registry key).handlers id := by
  obtain ⟨place, -, hhandlers⟩ := handlers_step_of_build? h
  rw [hhandlers]
  rcases hecho with hecho | hecho <;> simp [hecho, Echo.isEnabled]

theorem handlers_step_of_enabled {session : Session} {command : Command} {build : BuildRequest}
    (h : session.build? command = some build) (hecho : build.echo = .on ∨ build.echo = .debug) :
    ∃ id, ((session.step command).1.registry build.registry).lookup? build.name = some id ∧
      ((session.step command).1.registry build.registry).handlers id ≠ [] ∧
      ∀ key place, key ≠ build.registry ∨ place ≠ id ∨
          (session.registry key).handlers place ≠ [] →
        ((session.step command).1.registry key).handlers place =
          (session.registry key).handlers place := by
  obtain ⟨id, hlookup, hhandlers⟩ := handlers_step_of_build? h
  refine ⟨id, hlookup, ?_, ?_⟩
  · rw [hhandlers]
    have henabled : build.echo.isEnabled = true := Echo.isEnabled_iff.mpr hecho
    rcases Decidable.em ((session.registry build.registry).handlers id = []) with hnil | hne
    · rw [if_pos ⟨rfl, rfl, henabled, hnil⟩]
      exact List.cons_ne_nil _ _
    · rw [if_neg fun h => hne h.2.2.2]
      exact hne
  · rintro key place hother
    rw [hhandlers, if_neg]
    rintro ⟨hkey, hplace, -, hnil⟩
    rcases hother with hne | hne | hne
    · exact hne hkey
    · exact hne hplace
    · exact hne hnil

/-- On no logger of the session a standard handler stands behind another one. -/
def StandardFirst (session : Session) : Prop :=
  ∀ key, (session.registry key).StandardFirst

theorem StandardFirst.step {session : Session} (h : session.StandardFirst)
    (hnames : session.NamesHandlers) (command : Command) :
    (session.step command).1.StandardFirst := by
  intro key
  cases hbuild : session.build? command with
  | none =>
      -- Handlers made in the session bear keys, so none of those offered is a standard one.
      rw [registry_step]
      refine (h key).performAll ?_
      intro operation hoperation handler hoffered hid
      obtain ⟨handlerKey, hhandler⟩ := exists_handler_of_offered? hbuild hoperation hoffered
      rw [hnames handlerKey handler hhandler] at hid
      cases hid
  | some build =>
      intro place
      obtain ⟨id, -, hhandlers⟩ := handlers_step_of_build? hbuild
      have hplace := hhandlers key place
      rw [Registry.handlers] at hplace
      rw [Settings.StandardFirst, hplace]
      split
      · exact List.pairwise_singleton _ _
      · exact h key place

theorem StandardFirst.run {session : Session} (h : session.StandardFirst)
    (hnames : session.NamesHandlers) (commands : List Command) :
    (session.run commands).1.StandardFirst := by
  induction commands generalizing session with
  | nil => exact h
  | cons command rest ih => exact ih (h.step hnames command) (hnames.step command)

/-- A command builds an outlet that asks for output, on a logger without handlers, and attaches one
there. -/
structure Attaches (session : Session) (command : Command) (key : String) (id : LoggerId)
    (handler : Handler) : Prop where
  build?_eq : ∃ build, session.build? command = some build ∧ build.registry = key ∧
    build.handler = handler ∧ (build.echo = .on ∨ build.echo = .debug) ∧
    ((session.step command).1.registry key).lookup? build.name = some id
  /-- What the ancestors of the logger have does not count. -/
  handlers_eq_nil : (session.registry key).handlers id = []

theorem mem_handlers_or_attaches {session : Session} (hnames : session.NamesHandlers)
    {command : Command} {key : String} {id : LoggerId} {handler : Handler}
    (hhandler : handler ∈ ((session.step command).1.registry key).handlers id)
    (hid : handler.id = .standard) :
    handler ∈ (session.registry key).handlers id ∨ session.Attaches command key id handler := by
  cases hbuild : session.build? command with
  | none =>
      rw [registry_step] at hhandler
      rcases Registry.mem_handlers_performAll hhandler with hheld | ⟨operation, hmem, hoffered⟩
      · exact .inl hheld
      · obtain ⟨handlerKey, hmade⟩ := exists_handler_of_offered? hbuild hmem hoffered
        rw [hnames handlerKey handler hmade] at hid
        cases hid
  | some build =>
      obtain ⟨place, hlookup, hhandlers⟩ := handlers_step_of_build? hbuild
      rw [hhandlers] at hhandler
      split at hhandler
      · next hattached =>
          obtain ⟨rfl, rfl, henabled, hnil⟩ := hattached
          have hsame : build.handler = handler := (List.mem_singleton.mp hhandler).symm
          exact .inr ⟨⟨build, hbuild, rfl, hsame, Echo.isEnabled_iff.mp henabled, hlookup⟩, hnil⟩
      · exact .inl hhandler

theorem exists_attaches_of_mem_run {session : Session} (hnames : session.NamesHandlers)
    {commands : List Command} {key : String} {id : LoggerId} {handler : Handler}
    (hhandler : handler ∈ ((session.run commands).1.registry key).handlers id)
    (hid : handler.id = .standard) :
    handler ∈ (session.registry key).handlers id ∨
      ∃ before command after, commands = before ++ command :: after ∧
        (session.run before).1.Attaches command key id handler := by
  induction commands generalizing session with
  | nil => exact .inl hhandler
  | cons command rest ih =>
      rcases ih (hnames.step command) hhandler with hheld | ⟨before, later, after, rfl, hattaches⟩
      · rcases mem_handlers_or_attaches hnames hheld hid with hearlier | hattaches
        · exact .inl hearlier
        · exact .inr ⟨[], command, rest, rfl, hattaches⟩
      · exact .inr ⟨command :: before, later, after, rfl, hattaches⟩

/-- However outlets are built and handlers attached and detached, a logger has at most one standard
handler. It is the first one there and was attached when an outlet that asks for output was built on
the logger while that had no handlers of its own. Building other outlets attaches nothing. -/
theorem standard_handlers_stand_first_and_once (moment : Moment) (commands : List Command) :
    let session := (run { moment } commands).1
    (∀ key id, (((session.registry key).handlers id).map Handler.id).count .standard ≤ 1) ∧
      (∀ key id position handler,
        ((session.registry key).handlers id)[position]? = some handler →
        handler.id = .standard →
        position = 0 ∧ ∃ before command after, commands = before ++ command :: after ∧
          (run { moment } before).1.Attaches command key id handler) ∧
      ∀ command build, session.build? command = some build →
        let next := (session.step command).1
        (build.echo = .unset ∨ build.echo = .off →
          ∀ key id, (next.registry key).handlers id = (session.registry key).handlers id) ∧
        (build.echo = .on ∨ build.echo = .debug →
          ∃ id, (next.registry build.registry).lookup? build.name = some id ∧
            (next.registry build.registry).handlers id ≠ [] ∧
            ∀ key place, key ≠ build.registry ∨ place ≠ id ∨
                (session.registry key).handlers place ≠ [] →
              (next.registry key).handlers place = (session.registry key).handlers place) := by
  intro session
  have hnames : NamesHandlers { moment } := namesHandlers_fresh moment
  have hfresh : StandardFirst { moment } := fun _ => Registry.standardFirst_fresh
  have hfirst : session.StandardFirst := hfresh.run hnames commands
  refine ⟨?_, ?_, ?_⟩
  · intro key id
    exact (hfirst key id).count_le_one
  · intro key id position handler hhandler hid
    refine ⟨(hfirst key id).eq_zero hhandler hid, ?_⟩
    rcases exists_attaches_of_mem_run hnames (List.mem_of_getElem? hhandler) hid with
      hearlier | hattached
    · rw [registry_fresh] at hearlier
      cases id <;> cases hearlier
    · exact hattached
  · intro command build hbuild next
    refine ⟨?_, ?_⟩
    · exact handlers_step_of_disabled hbuild
    · exact handlers_step_of_enabled hbuild

end Session

end LogTree
