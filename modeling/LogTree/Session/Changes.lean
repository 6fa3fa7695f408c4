import LogTree.Session

namespace LogTree

structure Changes where
  /-- The new sizes of journals and tallies by handler. -/
  sizes : List (String × Nat)
  buffers : List (String × String)
  events : List Event
  standardOutput : String
  standardError : String
deriving DecidableEq

namespace Session

def size? (session : Session) (handler : Handler) : Option Nat :=
  match handler.destination with
  | .journal key => some (session.outputs.journal key).length
  | .tally key => some (session.outputs.tally key)
  | .trace | .stream _ _ _ => none

def addition (before after : Stream) : String :=
  Stream.contents (after.drop before.length)

def changes (before after : Session) : Changes where
  sizes := after.handlers.entries.filterMap fun entry =>
    match after.size? entry.2 with
    | none => none
    | some size => if before.size? entry.2 = some size then none else some (entry.1, size)
  buffers := after.outputs.buffers.entries.filterMap fun entry =>
    let contents := entry.2.contents
    if (before.outputs.buffer entry.1).contents = contents then none
    else some (entry.1, contents)
  events := (after.outputs.events.drop before.outputs.events.length).map Published.event
  standardOutput := addition before.outputs.standardOutput after.outputs.standardOutput
  standardError := addition before.outputs.standardError after.outputs.standardError

end Session

end LogTree
