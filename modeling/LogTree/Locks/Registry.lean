import LogTree.Locks
import LogTree.Session.Step

/-!
Requests to registries, lock by lock. Levels, propagation and suppression thresholds are not behind
locks, and neither are the names and parents of loggers, which never change.
-/

namespace LogTree.Program

/-- Asks for a logger. A name that is not found under the shared lock is looked up once more under
the exclusive one. -/
def obtain (key name : String) : Program LoggerId := do
  changeRegistry key id
  if Namespace.IsRoot name then
    return Registry.rootId
  else
    match (← (Cell.loggers key).read).find? name with
    | some id => return id
    | none =>
        (Cell.loggers key).hold fun registry => do
          let located := registry.obtainNamed name
          (Cell.loggers key).write located.registry
          return located.id

def contains (key name : String) : Program Bool :=
  return (← (Cell.loggers key).read).contains name

def names (key : String) : Program (List String) :=
  return (← (Cell.loggers key).read).names

def isShared (key : String) (id : LoggerId) : Program Bool :=
  return (← (Cell.loggers key).read).isShared id

def configureLogger (key name : String) (level : Level) : Program Unit := do
  let id ← obtain key name
  changeRegistry key (Registry.setLevel · id level)

def configure (key : String) (config : Config) : Program Unit := do
  changeRegistry key fun registry =>
    match config.root with
    | none => registry
    | some level => registry.setLevel Registry.rootId level
  forM config.levels.entries fun entry => configureLogger key entry.1 entry.2
  changeRegistry key fun registry =>
    match config.disable with
    | none => registry
    | some level => registry.disable level

def installDefaultLevel (key name : String) : Program Bool := do
  let id ← obtain key name
  if ((← registry key).level id).isNotset then
    changeRegistry key (Registry.setLevel · id .warning)
    return true
  else
    return false

def classLogger (key : String) (cls : LoggedClass) : Program LoggerId := do
  Cell.classes.hold fun loggedClasses =>
    Cell.classes.write (loggedClasses.insert cls.typeName ())
  obtain key cls.namespaceName

def handlers (key : String) (id : LoggerId) : Program (List Handler) :=
  (Cell.handlers key id).read

/-- Whether there is a handler on the way up from a logger. Each logger is asked under its own
lock. -/
def hasHandlers (key : String) (registry : Registry) (id : LoggerId) : Program Bool := do
  if !(← handlers key id).isEmpty then
    return true
  else if !(← Program.registry key).propagate id then
    return false
  else
    match _ : registry.parent? id with
    | none => return false
    | some outer => hasHandlers key registry outer
termination_by id
decreasing_by exact Registry.parent?_lt (by assumption)

def attach (key : String) (id : LoggerId) (handler : Handler) : Program Bool :=
  (Cell.handlers key id).hold fun held =>
    if held.any fun other => other.id = handler.id then
      return false
    else do
      (Cell.handlers key id).write (held ++ [handler])
      return true

def detach (key : String) (id : LoggerId) (handler : HandlerId) : Program Bool :=
  (Cell.handlers key id).hold fun held => do
    (Cell.handlers key id).write (held.filter fun other => other.id ≠ handler)
    return held.any fun other => other.id = handler

/-- Attaches a handler to a logger without handlers. The handler is made while the lock is held, and
the call is aborted if that fails. -/
def attachIfEmpty (key : String) (id : LoggerId) (make : Unit → Option Handler) : Program Bool :=
  (Cell.handlers key id).hold fun held =>
    match held with
    | _ :: _ => return false
    | [] =>
        match make () with
        | none => abort
        | some handler => do
            (Cell.handlers key id).write [handler]
            return true

/-- Offers a handler and catches the call if making the handler aborts it. -/
def offer (key : String) (id : LoggerId) (make : Unit → Option Handler) : Program Offer :=
  tryCatch (return if ← attachIfEmpty key id make then .attached else .declined) fun _ =>
    return .failed

def build (key name : String) (echo : Echo) (handler : Handler) :
    Program (Outlet × Option Offer) := do
  let id ← obtain key name
  match echo.level? with
  | none => return (.direct id, none)
  | some _ =>
      return (.adapted { echo, logger := id }, some (← offer key id fun _ => some handler))

/-- A registry in which someone has read the handlers of a logger under their lock. -/
def view (key : String) (id : LoggerId) : Program Registry := do
  let handlers ← handlers key id
  return (← registry key).update id fun settings => { settings with handlers }

def handlerIds (key : String) (id : LoggerId) : Program (List HandlerId) :=
  return (← view key id).handlerIds id

def describe (key : String) (id : LoggerId) : Program String :=
  return (← view key id).describe id

def report (key : String) (id : LoggerId) : Program LoggerReport := do
  let hasHandlers ← hasHandlers key (← registry key) id
  return { (← view key id).report id with hasHandlers }

end LogTree.Program
