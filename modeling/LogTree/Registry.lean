import LogTree.Handler
import LogTree.Namespace

/-!
The loggers of one registry. Each logger has a parent that was there before it, so every walk from
parent to parent ends at the root.
-/

namespace LogTree

structure Settings where
  level : Level := .notset
  propagate : Bool := true
  /-- In the order in which they were attached. -/
  handlers : List Handler := []
deriving DecidableEq

/-- The place of a logger in its registry. The root has place zero, and later loggers have greater
places. -/
abbrev LoggerId := Nat

/-- A logger below the root. -/
structure Logger where
  name : String
  parent : LoggerId
  settings : Settings := {}
deriving DecidableEq

theorem Logger.parent_le_of_nil (k : Nat) (logger : Logger)
    (h : ([] : List Logger)[k]? = some logger) : logger.parent ≤ k := by
  cases h

/-- A tree of loggers with the threshold up to which their records are suppressed. The logger at
index `k` has place `k + 1`. -/
structure Registry where
  root : Settings := { level := .warning }
  loggers : List Logger := []
  disabledAt : Level := .notset
  parent_le : ∀ (k : Nat) (logger : Logger), loggers[k]? = some logger → logger.parent ≤ k := by
    exact Logger.parent_le_of_nil
deriving DecidableEq

namespace Registry

instance : Inhabited Registry :=
  ⟨{}⟩

def rootId : LoggerId :=
  0

def settings (registry : Registry) : LoggerId → Settings
  | 0 => registry.root
  | k + 1 =>
      match registry.loggers[k]? with
      | none => {}
      | some logger => logger.settings

def level (registry : Registry) (id : LoggerId) : Level :=
  (registry.settings id).level

def propagate (registry : Registry) (id : LoggerId) : Bool :=
  (registry.settings id).propagate

def handlers (registry : Registry) (id : LoggerId) : List Handler :=
  (registry.settings id).handlers

def name (registry : Registry) : LoggerId → String
  | 0 => Namespace.rootName
  | k + 1 =>
      match registry.loggers[k]? with
      | none => ""
      | some logger => logger.name

def parent? (registry : Registry) : LoggerId → Option LoggerId
  | 0 => none
  | k + 1 => registry.loggers[k]?.map Logger.parent

theorem parent?_lt {registry : Registry} {id outer : LoggerId}
    (h : registry.parent? id = some outer) : outer < id := by
  cases id with
  | zero => simp [parent?] at h
  | succ k =>
      obtain ⟨logger, hlogger, rfl⟩ := Option.map_eq_some_iff.mp h
      exact Nat.lt_succ_of_le (registry.parent_le k logger hlogger)

def Holds (registry : Registry) (id : LoggerId) : Prop :=
  id ≤ registry.loggers.length

instance (registry : Registry) (id : LoggerId) : Decidable (registry.Holds id) :=
  inferInstanceAs (Decidable (_ ≤ _))

def update (registry : Registry) (id : LoggerId) (change : Settings → Settings) : Registry :=
  match id with
  | 0 => { registry with root := change registry.root }
  | k + 1 =>
      { registry with
        loggers := registry.loggers.modify k fun logger =>
          { logger with settings := change logger.settings }
        parent_le := by
          intro i logger h
          rw [List.getElem?_modify] at h
          obtain ⟨held, hheld, rfl⟩ := Option.map_eq_some_iff.mp h
          have := registry.parent_le i held hheld
          split <;> exact this }

def setLevel (registry : Registry) (id : LoggerId) (level : Level) : Registry :=
  registry.update id fun settings => { settings with level }

def setPropagate (registry : Registry) (id : LoggerId) (propagate : Bool) : Registry :=
  registry.update id fun settings => { settings with propagate }

/-- Suppresses the records up to a level, whatever else is set. -/
def disable (registry : Registry) (level : Level) : Registry :=
  { registry with disabledAt := level }

def isDisabled (registry : Registry) (level : Level) : Bool :=
  level ≤ registry.disabledAt

def describe (registry : Registry) (id : LoggerId) : String :=
  "Logger \x7b name: " ++ Text.quote (registry.name id) ++
    ", level: " ++ (registry.level id).describe ++
    ", propagate: " ++ (if registry.propagate id then "true" else "false") ++
    ", parent: " ++
    (match registry.parent? id with
      | none => "None"
      | some outer => "Some(" ++ Text.quote (registry.name outer) ++ ")") ++
    ", handlers: " ++ toString (registry.handlers id).length ++ ", .. \x7d"

end Registry

end LogTree
