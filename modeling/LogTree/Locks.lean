import LogTree.Session.Changes

/-!
The locks around what the threads of a program share. A thread that is aborted while it holds a lock
leaves the lock poisoned and the data as they are at that moment. Whoever takes a lock later takes
the data over, poisoned or not.
-/

namespace LogTree

inductive Lock where
  | loggers (registry : String)
  | handlers (registry : String) (logger : LoggerId)
  /-- The writer under a stream handler. -/
  | writer (handler : HandlerId)
  | records (journal : String)
  | octets (buffer : String)
  | classes
deriving DecidableEq

/-- What is behind a lock for someone who takes it. -/
inductive Taken (α : Type) where
  | clean (data : α)
  /-- An earlier holder was aborted. -/
  | poisoned (data : α)

def Taken.intoInner {α : Type} : Taken α → α
  | clean data | poisoned data => data

/-- A session with its locks, and what becomes of the record that is being handled. -/
structure Locked where
  session : Session
  poisoned : List Lock := []
  /-- The handlers that the record was handed to, in order. -/
  invoked : List Handler := []
  /-- How often the message of the record was rendered. -/
  renderings : Nat := 0

def Locked.poison (locked : Locked) (lock : Lock) : Locked :=
  { locked with poisoned := lock :: locked.poisoned }

/-- Something that a thread does. If it is aborted, what it did until then stays done. -/
abbrev Program :=
  EStateM Unit Locked

namespace Program

variable {α : Type}

def abort : Program α :=
  throw ()

def session : Program Session :=
  return (← get).session

def registry (key : String) : Program Registry :=
  return (← session).registry key

/-- Changes something that is not behind a lock. -/
def change (f : Session → Session) : Program Unit :=
  modify fun locked => { locked with session := f locked.session }

def changeRegistry (key : String) (f : Registry → Registry) : Program Unit :=
  change fun session => session.setRegistry key (f (session.registry key))

/-- Runs a program to its end or to the point where it is aborted, and says which. -/
def attempt (program : Program Unit) : Program Bool :=
  tryCatch (do program; return false) fun _ => return true

end Program

/-- Data behind a lock. -/
structure Cell (α : Type) where
  lock : Lock
  load : Session → α
  store : α → Session → Session

namespace Cell

variable {α β : Type}

def take (cell : Cell α) (locked : Locked) : Taken α :=
  if cell.lock ∈ locked.poisoned then .poisoned (cell.load locked.session)
  else .clean (cell.load locked.session)

/-- Copies the data under a lock that is shared with other readers. -/
def read (cell : Cell α) : Program α :=
  return (cell.take (← get)).intoInner

/-- Holds a lock while something is done with the data. -/
def hold (cell : Cell α) (body : α → Program β) : Program β := do
  let taken := cell.take (← get)
  tryCatch (body taken.intoInner) fun _ => do
    modify (Locked.poison · cell.lock)
    Program.abort

/-- Puts other data in the place of those behind a lock, which is held. -/
def write (cell : Cell α) (data : α) : Program Unit :=
  Program.change (cell.store data)

def loggers (key : String) : Cell Registry where
  lock := .loggers key
  load session := session.registry key
  store registry session := session.setRegistry key registry

def handlers (key : String) (id : LoggerId) : Cell (List Handler) where
  lock := .handlers key id
  load session := (session.registry key).handlers id
  store handlers session := session.setRegistry key
    ((session.registry key).update id fun settings => { settings with handlers })

/-- The writer of a stream handler is told apart by whether it has aborted a call. -/
def writer (id : HandlerId) : Cell Bool where
  lock := .writer id
  load session := id ∈ session.outputs.aborted
  store hasAborted session :=
    if hasAborted then
      { session with outputs :=
          { session.outputs with aborted := session.outputs.aborted ++ [id] } }
    else session

def records (key : String) : Cell (List Captured) where
  lock := .records key
  load session := session.outputs.journal key
  store records session :=
    { session with outputs :=
        { session.outputs with journals := session.outputs.journals.insert key records } }

def octets (key : String) : Cell Stream where
  lock := .octets key
  load session := session.outputs.buffer key
  store stream session :=
    { session with outputs :=
        { session.outputs with buffers := session.outputs.buffers.insert key stream } }

def classes : Cell (NameMap Unit) where
  lock := .classes
  load := Session.loggedClasses
  store loggedClasses session := { session with loggedClasses }

end Cell

end LogTree
