import Mathlib
import LogTree.Locks.Registry
import LogTree.Proofs.RecordDispatch

namespace LogTree

theorem Cell.intoInner_take {α : Type} (cell : Cell α) (locked : Locked) :
    (cell.take locked).intoInner = cell.load locked.session := by
  rw [take]
  split <;> rfl

namespace Cell

variable {α β : Type} (cell : Cell α) (locked : Locked)

@[simp] theorem run_read : cell.read.run locked = .ok (cell.load locked.session) locked := by
  rw [← cell.intoInner_take locked]
  rfl

@[simp] theorem run_write (data : α) :
    (cell.write data).run locked =
      .ok () { locked with session := cell.store data locked.session } :=
  rfl

@[simp] theorem run_hold (body : α → Program β) :
    (cell.hold body).run locked =
      match (body (cell.load locked.session)).run locked with
      | .ok result after => .ok result after
      | .error _ after => .error () (after.poison cell.lock) := by
  rw [← cell.intoInner_take locked]
  simp only [hold, EStateM.run_bind, EStateM.run_get, EStateM.run_tryCatch]
  cases (body (cell.take locked).intoInner).run locked <;> rfl

end Cell

namespace Program

section

variable (locked : Locked)

@[simp] theorem run_abort {α : Type} : (abort : Program α).run locked = .error () locked :=
  rfl

@[simp] theorem run_session : session.run locked = .ok locked.session locked :=
  rfl

@[simp] theorem run_registry (key : String) :
    (registry key).run locked = .ok (locked.session.registry key) locked :=
  rfl

@[simp] theorem run_change (f : Session → Session) :
    (change f).run locked = .ok () { locked with session := f locked.session } :=
  rfl

@[simp] theorem run_changeRegistry (key : String) (f : Registry → Registry) :
    (changeRegistry key f).run locked =
      .ok () { locked with session :=
        locked.session.setRegistry key (f (locked.session.registry key)) } :=
  rfl

end

end Program

namespace Session

/-- A registry is there because it was used before. -/
structure Uses (session : Session) (key : String) : Prop where
  eq : session.setRegistry key (session.registry key) = session

theorem uses_setRegistry (session : Session) (key : String) (registry : Registry) :
    (session.setRegistry key registry).Uses key :=
  ⟨by simp⟩

end Session

namespace Program

@[simp] theorem run_obtain (key name : String) (locked : Locked) :
    (obtain key name).run locked =
      .ok ((locked.session.registry key).obtain name).id
        { locked with
          session := locked.session.setRegistry key
            ((locked.session.registry key).obtain name).registry } := by
  by_cases hroot : Namespace.IsRoot name
  · simp [obtain, hroot, Registry.obtain_of_isRoot hroot]
  · have hlookup : (locked.session.registry key).lookup? name =
        (locked.session.registry key).find? name := if_neg hroot
    cases hfind : (locked.session.registry key).find? name with
    | some id =>
        rw [hfind] at hlookup
        simp [obtain, hroot, Cell.loggers, hfind, Registry.obtain_eq_of_lookup? hlookup]
    | none =>
        -- Nobody comes in between the two locks, so the name is not found under the second either.
        rw [hfind] at hlookup
        simp [obtain, hroot, Cell.loggers, hfind, Registry.obtain_of_lookup?_eq_none hlookup]

@[simp] theorem run_contains (key name : String) (locked : Locked) :
    (contains key name).run locked = .ok ((locked.session.registry key).contains name) locked := by
  simp [contains, Cell.loggers]

@[simp] theorem run_names (key : String) (locked : Locked) :
    (names key).run locked = .ok (locked.session.registry key).names locked := by
  simp [names, Cell.loggers]

@[simp] theorem run_isShared (key : String) (id : LoggerId) (locked : Locked) :
    (isShared key id).run locked = .ok ((locked.session.registry key).isShared id) locked := by
  simp [isShared, Cell.loggers]

@[simp] theorem run_configureLogger (key name : String) (level : Level) (locked : Locked) :
    (configureLogger key name level).run locked =
      .ok () { locked with
        session := locked.session.setRegistry key
          ((locked.session.registry key).configureLogger name level) } := by
  simp [configureLogger, Registry.configureLogger]

theorem run_configureLoggers (key : String) (entries : List (String × Level)) (locked : Locked)
    (registry : Registry) :
    (forM entries fun entry => configureLogger key entry.1 entry.2).run
        { locked with session := locked.session.setRegistry key registry } =
      .ok () { locked with
        session := locked.session.setRegistry key
          (entries.foldl (fun registry entry => registry.configureLogger entry.1 entry.2)
          registry) } := by
  induction entries generalizing registry with
  | nil => rfl
  | cons entry rest ih => simp [ih]

@[simp] theorem run_configure (key : String) (config : Config) (locked : Locked) :
    (configure key config).run locked =
      .ok () { locked with
        session := locked.session.setRegistry key
          ((locked.session.registry key).configure config) } := by
  cases hroot : config.root <;> cases hdisable : config.disable <;>
    simp [configure, run_configureLoggers, Registry.configure, hroot, hdisable]

@[simp] theorem run_installDefaultLevel (key name : String) (locked : Locked) :
    (installDefaultLevel key name).run locked =
      .ok ((locked.session.registry key).installDefaultLevel name).2
        { locked with
          session := locked.session.setRegistry key
            ((locked.session.registry key).installDefaultLevel name).1 } := by
  rw [Registry.installDefaultLevel]
  split <;> simp [installDefaultLevel, *]

@[simp] theorem run_classLogger (key : String) (cls : LoggedClass) (locked : Locked) :
    (classLogger key cls).run locked =
      .ok ((locked.session.registry key).classLogger cls).id
        { locked with
          session := (locked.session.recordClass cls).setRegistry key
            ((locked.session.registry key).classLogger cls).registry } := by
  simp [classLogger, Cell.classes, Registry.classLogger, Session.recordClass, Session.registry]

@[simp] theorem run_handlers (key : String) (id : LoggerId) (locked : Locked) :
    (handlers key id).run locked = .ok ((locked.session.registry key).handlers id) locked := by
  simp [handlers, Cell.handlers]

@[simp] theorem run_hasHandlers {key : String} {registry : Registry} {locked : Locked}
    (h : locked.session.registry key = registry) (id : LoggerId) :
    (hasHandlers key registry id).run locked = .ok (registry.hasHandlers id) locked := by
  rw [Registry.hasHandlers_eq_any]
  induction id using Nat.strongRecOn with
  | ind id ih =>
      have hempty : (!(registry.handlers id).isEmpty) = registry.hasOwnHandlers id := rfl
      rw [hasHandlers]
      simp only [EStateM.run_bind, run_handlers, h, hempty]
      cases hown : registry.hasOwnHandlers id with
      | true =>
          obtain ⟨later, hvisited⟩ := registry.exists_visited_eq_cons id
          rw [hvisited, List.any_cons, hown]
          rfl
      | false =>
          rw [if_neg (by decide)]
          simp only [EStateM.run_bind, run_registry, h]
          cases hpropagate : registry.propagate id with
          | false =>
              rw [Registry.visited_of_not_propagate hpropagate, List.any_cons, hown]
              rfl
          | true =>
              rw [if_neg (by decide)]
              split
              · next hparent =>
                  rw [Registry.visited_of_parent?_eq_none hparent, List.any_cons, hown]
                  rfl
              · next outer hparent =>
                  rw [Registry.visited_of_propagate hpropagate hparent, List.any_cons, hown,
                    Bool.false_or]
                  exact ih outer (Registry.parent?_lt hparent)

theorem run_attach {key : String} {locked : Locked} (h : locked.session.Uses key)
    (id : LoggerId) (handler : Handler) :
    (attach key id handler).run locked =
      .ok ((locked.session.registry key).attach id handler).2
        { locked with
          session := locked.session.setRegistry key
            ((locked.session.registry key).attach id handler).1 } := by
  have hany : (((Cell.handlers key id).load locked.session).any fun other =>
      other.id = handler.id) =
        ((locked.session.registry key).settings id).hasHandler handler.id := rfl
  rw [attach, Cell.run_hold, hany, Registry.attach]
  cases hhas : ((locked.session.registry key).settings id).hasHandler handler.id with
  | true =>
      have hkeep : (locked.session.registry key).update id
          (fun settings => settings.attach handler) = locked.session.registry key := by
        refine Eq.trans (Registry.update_congr ?_) (Registry.update_keep _ _)
        exact if_pos hhas
      simp [hkeep, h.eq]
  | false =>
      have hattach : (locked.session.registry key).update id
          (fun settings => settings.attach handler) =
            (locked.session.registry key).update id fun settings =>
              { settings with
                handlers :=
                  ((locked.session.registry key).settings id).handlers ++ [handler] } := by
        apply Registry.update_congr
        exact if_neg (by rw [hhas]; decide)
      simp [hattach, Cell.handlers, Registry.handlers]

@[simp] theorem run_detach (key : String) (id : LoggerId) (handler : HandlerId)
    (locked : Locked) :
    (detach key id handler).run locked =
      .ok ((locked.session.registry key).detach id handler).2
        { locked with
          session := locked.session.setRegistry key
            ((locked.session.registry key).detach id handler).1 } := by
  have hdetach : (locked.session.registry key).update id
      (fun settings => settings.detach handler) =
        (locked.session.registry key).update id fun settings =>
          { settings with
            handlers := ((locked.session.registry key).settings id).handlers.filter
              fun other => other.id ≠ handler } :=
    Registry.update_congr rfl
  simp [detach, Cell.handlers, Registry.handlers, Registry.detach, Settings.hasHandler, hdetach]

theorem run_offer {key : String} {locked : Locked} (h : locked.session.Uses key)
    (id : LoggerId) (make : Unit → Option Handler) :
    (offer key id make).run locked =
      .ok ((locked.session.registry key).attachIfEmpty id make).2
        { locked with
          session := locked.session.setRegistry key
            ((locked.session.registry key).attachIfEmpty id make).1
          poisoned :=
            if ((locked.session.registry key).attachIfEmpty id make).2 = .failed then
              .handlers key id :: locked.poisoned
            else locked.poisoned } := by
  have hload : (Cell.handlers key id).load locked.session =
    (locked.session.registry key).handlers id := rfl
  rw [offer, EStateM.run_tryCatch]
  simp only [EStateM.run_bind, attachIfEmpty, Cell.run_hold, hload]
  rw [Registry.attachIfEmpty]
  cases (locked.session.registry key).handlers id with
  | cons handler rest => simp [h.eq]
  | nil =>
      cases make () with
      | none => simp [h.eq, Locked.poison, Cell.handlers, EStateM.Backtrackable.restore]
      | some handler => simp [Cell.handlers]

theorem attachIfEmpty_ne_failed (registry : Registry) (id : LoggerId) (handler : Handler) :
    (registry.attachIfEmpty id fun _ => some handler).2 ≠ .failed := by
  rw [Registry.attachIfEmpty]
  split <;> simp

@[simp] theorem run_build (key name : String) (echo : Echo) (handler : Handler)
    (locked : Locked) :
    let built := (locked.session.registry key).buildWith name echo fun _ => some handler
    (build key name echo handler).run locked =
      .ok (built.outlet, built.offer)
        { locked with session := locked.session.setRegistry key built.registry } := by
  rw [Registry.buildWith]
  cases hlevel : echo.level? with
  | none => simp [build, hlevel]
  | some level =>
      have huses := locked.session.uses_setRegistry key
        ((locked.session.registry key).obtain name).registry
      simp [build, hlevel, run_offer, huses, attachIfEmpty_ne_failed]

@[simp] theorem run_view (key : String) (id : LoggerId) (locked : Locked) :
    (view key id).run locked = .ok (locked.session.registry key) locked := by
  have hkeep : (locked.session.registry key).update id (fun settings =>
      { settings with handlers := (locked.session.registry key).handlers id }) =
        locked.session.registry key :=
    Eq.trans (Registry.update_congr rfl) (Registry.update_keep _ id)
  simp [view, hkeep]

@[simp] theorem run_handlerIds (key : String) (id : LoggerId) (locked : Locked) :
    (handlerIds key id).run locked =
      .ok ((locked.session.registry key).handlerIds id) locked := by
  simp [handlerIds]

@[simp] theorem run_describe (key : String) (id : LoggerId) (locked : Locked) :
    (describe key id).run locked = .ok ((locked.session.registry key).describe id) locked := by
  simp [describe]

@[simp] theorem run_report (key : String) (id : LoggerId) (locked : Locked) :
    (report key id).run locked = .ok ((locked.session.registry key).report id) locked := by
  simp [report, Registry.report]

end Program

end LogTree
