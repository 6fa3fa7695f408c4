import LogTree.Build
import LogTree.Proofs.LoggerRequests
import LogTree.Registry.Configure

/-!
Everything that is done to a registry is a sequence of two kinds of operations: asking for a logger
and adjusting what is set on it or on one of its ancestors, and setting the suppression threshold.
-/

namespace LogTree

inductive Adjustment where
  | keep
  | setLevel (level : Level)
  | setDefaultLevel
  | setPropagate (propagate : Bool)
  | attach (handler : Handler)
  | detach (handler : HandlerId)
  /-- Attaches a handler to a logger without handlers; making the handler may have failed. -/
  | offer (handler : Option Handler)

def Adjustment.apply : Adjustment → Settings → Settings
  | keep, settings => settings
  | setLevel level, settings => { settings with level }
  | setDefaultLevel, settings =>
      if settings.level.isNotset then { settings with level := .warning } else settings
  | setPropagate propagate, settings => { settings with propagate }
  | attach handler, settings => settings.attach handler
  | detach handler, settings => settings.detach handler
  | offer none, settings => settings
  | offer (some handler), settings =>
      if settings.handlers = [] then { settings with handlers := [handler] } else settings

namespace Registry

inductive Operation where
  /-- Asks for a logger and adjusts the ancestor so many generations above it, if it has one. -/
  | adjust (name : String) (generations : Nat) (adjustment : Adjustment)
  | disable (level : Level)

def perform (registry : Registry) : Operation → Registry
  | .adjust name generations adjustment =>
      let located := registry.obtain name
      match located.registry.climb? located.id generations with
      | none => located.registry
      | some id => located.registry.update id adjustment.apply
  | .disable level => registry.disable level

def performAll (registry : Registry) (operations : List Operation) : Registry :=
  operations.foldl perform registry

@[simp] theorem performAll_nil (registry : Registry) : registry.performAll [] = registry :=
  rfl

@[simp] theorem performAll_cons (registry : Registry) (operation : Operation)
    (rest : List Operation) :
    registry.performAll (operation :: rest) = (registry.perform operation).performAll rest :=
  rfl

theorem performAll_append (registry : Registry) (first second : List Operation) :
    registry.performAll (first ++ second) = (registry.performAll first).performAll second :=
  List.foldl_append

theorem perform_induction {motive : Registry → Prop} {registry : Registry}
    (hobtain : ∀ registry name, motive registry → motive (registry.obtain name).registry)
    (hadjust : ∀ (registry : Registry) (id : LoggerId) (adjustment : Adjustment),
      motive registry → motive (registry.update id adjustment.apply))
    (hdisable : ∀ (registry : Registry) (level : Level), motive registry →
      motive (registry.disable level))
    (hstart : motive registry) (operation : Operation) : motive (registry.perform operation) := by
  cases operation with
  | adjust name generations adjustment =>
      rw [perform]
      split
      · exact hobtain registry name hstart
      · exact hadjust _ _ _ (hobtain registry name hstart)
  | disable level => exact hdisable registry level hstart

theorem performAll_induction {motive : Registry → Prop} {registry : Registry}
    {operations : List Operation}
    (hperform : ∀ registry, ∀ operation ∈ operations, motive registry →
      motive (registry.perform operation))
    (hstart : motive registry) : motive (registry.performAll operations) := by
  induction operations generalizing registry with
  | nil => exact hstart
  | cons operation rest ih =>
      rw [performAll_cons]
      apply ih
      · intro other next hnext
        exact hperform other next (List.mem_cons_of_mem _ hnext)
      · exact hperform registry operation List.mem_cons_self hstart

theorem grows_perform (registry : Registry) (operation : Operation) :
    registry.Grows (registry.perform operation) :=
  perform_induction (motive := registry.Grows)
    (fun _ name h => h.trans (grows_obtain _ name))
    (fun _ id adjustment h => h.trans (grows_update _ id adjustment.apply))
    (fun _ _ h => h) registry.grows_refl operation

theorem grows_performAll (registry : Registry) (operations : List Operation) :
    registry.Grows (registry.performAll operations) :=
  performAll_induction (motive := registry.Grows)
    (fun _ operation _ h => h.trans (grows_perform _ operation)) registry.grows_refl

theorem wellFormed_perform {registry : Registry} (h : registry.WellFormed)
    (operation : Operation) : (registry.perform operation).WellFormed :=
  perform_induction (motive := WellFormed)
    (fun _ name h => wellFormed_obtain h name)
    (fun registry id adjustment h =>
      wellFormed_of_identities_eq (identities_update registry id adjustment.apply) h)
    (fun registry _ h => @wellFormed_of_identities_eq registry _ rfl h) h operation

theorem wellFormed_performAll {registry : Registry} (h : registry.WellFormed)
    (operations : List Operation) : (registry.performAll operations).WellFormed :=
  performAll_induction (fun _ operation _ h => wellFormed_perform h operation) h

theorem settings_perform (registry : Registry) (operation : Operation) (id : LoggerId) :
    (registry.perform operation).settings id = registry.settings id ∨
      ∃ name generations adjustment, operation = .adjust name generations adjustment ∧
        (registry.obtain name).registry.climb? (registry.obtain name).id generations = some id ∧
        (registry.perform operation).settings id = adjustment.apply (registry.settings id) := by
  cases operation with
  | disable level =>
      left
      cases id <;> rfl
  | adjust name generations adjustment =>
      rw [perform]
      split
      · exact .inl (settings_obtain registry name id)
      · next place hplace =>
          rw [settings_update, settings_obtain]
          split
          · next hself =>
              obtain ⟨rfl, -⟩ := hself
              exact .inr ⟨name, generations, adjustment, rfl, hplace, rfl⟩
          · exact .inl rfl

theorem settings_performAll_induction {motive : Settings → Prop} {registry : Registry}
    {operations : List Operation} {id : LoggerId}
    (hadjust : ∀ name generations adjustment, .adjust name generations adjustment ∈ operations →
      ∀ settings, motive settings → motive (adjustment.apply settings))
    (hstart : motive (registry.settings id)) :
    motive ((registry.performAll operations).settings id) := by
  refine performAll_induction (motive := fun other => motive (other.settings id)) ?_ hstart
  intro other operation hoperation hother
  rcases other.settings_perform operation id with heq | ⟨name, generations, adjustment, rfl, -, heq⟩
  · rw [heq]
    exact hother
  · rw [heq]
    exact hadjust name generations adjustment hoperation _ hother

theorem update_congr {registry : Registry} {id : LoggerId} {change other : Settings → Settings}
    (h : change (registry.settings id) = other (registry.settings id)) :
    registry.update id change = registry.update id other := by
  cases id with
  | zero =>
      have hroot : change registry.root = other registry.root := h
      simp only [update, hroot]
  | succ k =>
      simp only [update, mk.injEq, true_and, and_true]
      apply List.ext_getElem?
      intro i
      rw [List.getElem?_modify, List.getElem?_modify]
      cases hlogger : registry.loggers[i]? with
      | none => rfl
      | some logger =>
          rcases Decidable.em (k = i) with rfl | hne
          · simp only [settings, hlogger] at h
            simp [h]
          · simp [hne]

theorem update_keep (registry : Registry) (id : LoggerId) :
    registry.update id Adjustment.keep.apply = registry := by
  cases id with
  | zero => rfl
  | succ k =>
      have hloggers : (registry.loggers.modify k fun logger => logger) = registry.loggers :=
        List.modify_id k registry.loggers
      simp only [update, Adjustment.apply, hloggers]

theorem perform_keep (registry : Registry) (name : String) (generations : Nat) :
    registry.perform (.adjust name generations .keep) = (registry.obtain name).registry := by
  rw [perform]
  split
  · rfl
  · exact update_keep _ _

theorem perform_setLevel_rootName (registry : Registry) (level : Level) :
    registry.perform (.adjust Namespace.rootName 0 (.setLevel level)) =
      registry.setLevel rootId level := by
  rw [perform, obtain_of_isRoot (.inr rfl)]
  rfl

theorem perform_setDefaultLevel (registry : Registry) (name : String) :
    registry.perform (.adjust name 0 .setDefaultLevel) = (registry.installDefaultLevel name).1 := by
  rw [installDefaultLevel]
  simp only [perform, climb?]
  split
  · next hnotset =>
      change _ = (registry.obtain name).registry.setLevel (registry.obtain name).id .warning
      exact update_congr (if_pos hnotset)
  · next hset =>
      refine Eq.trans (update_congr ?_) (update_keep _ _)
      exact if_neg hset

def configuring (config : Config) : List Operation :=
  (config.root.map fun level => .adjust Namespace.rootName 0 (.setLevel level)).toList ++
    config.levels.entries.map (fun entry => .adjust entry.1 0 (.setLevel entry.2)) ++
    (config.disable.map .disable).toList

theorem mem_configuring_iff {config : Config} {operation : Operation} :
    operation ∈ configuring config ↔
      (∃ level, config.root = some level ∧
        operation = .adjust Namespace.rootName 0 (.setLevel level)) ∨
      (∃ name level, (name, level) ∈ config.levels.entries ∧
        operation = .adjust name 0 (.setLevel level)) ∨
      ∃ level, config.disable = some level ∧ operation = .disable level := by
  simp only [configuring, List.mem_append, Option.mem_toList, Option.map_eq_some_iff,
    List.mem_map, Prod.exists, or_assoc, @eq_comm _ operation]

theorem performAll_configuring (registry : Registry) (config : Config) :
    registry.performAll (configuring config) = registry.configure config := by
  have hlevels : ∀ (entries : List (String × Level)) (registry : Registry),
      registry.performAll (entries.map fun entry => .adjust entry.1 0 (.setLevel entry.2)) =
        entries.foldl (fun registry entry => registry.configureLogger entry.1 entry.2)
          registry := by
    intro entries
    induction entries with
    | nil => exact fun _ => rfl
    | cons entry rest ih => exact fun registry => ih _
  rw [configuring, performAll_append, performAll_append, hlevels, configure]
  cases config.root with
  | none => cases config.disable <;> rfl
  | some level =>
      rw [Option.map_some, Option.toList_some, performAll_cons, performAll_nil,
        perform_setLevel_rootName]
      cases config.disable <;> rfl

theorem attachIfEmpty_fst (registry : Registry) (id : LoggerId)
    (make : Unit → Option Handler) :
    (registry.attachIfEmpty id make).1 =
      registry.update id (Adjustment.offer (make ())).apply := by
  rw [attachIfEmpty]
  split
  · next first rest hhandlers =>
      refine (Eq.trans (update_congr ?_) (update_keep registry id)).symm
      have hne : ¬(registry.settings id).handlers = [] := by
        intro hnil
        rw [handlers, hnil] at hhandlers
        cases hhandlers
      cases make () with
      | none => rfl
      | some handler => exact if_neg hne
  · next hhandlers =>
      cases make () with
      | none => exact (update_keep registry id).symm
      | some handler =>
          change registry.update id (fun settings => { settings with handlers := [handler] }) = _
          apply update_congr
          exact (if_pos hhandlers).symm

/-- The operation by which an outlet is built: a handler is offered if output is asked for. -/
def building (name : String) (echo : Echo) (handler : Option Handler) : Operation :=
  .adjust name 0 (if echo.isEnabled then .offer handler else .keep)

theorem perform_building (registry : Registry) (name : String) (echo : Echo)
    (make : Unit → Option Handler) :
    registry.perform (building name echo (make ())) =
      (registry.buildWith name echo make).registry := by
  have hoffered : registry.perform (.adjust name 0 (.offer (make ()))) =
      ((registry.obtain name).registry.attachIfEmpty (registry.obtain name).id make).1 :=
    (attachIfEmpty_fst _ _ make).symm
  cases echo with
  | unset => exact perform_keep registry name 0
  | off => exact perform_keep registry name 0
  | on => exact hoffered
  | debug => exact hoffered

end Registry

end LogTree
