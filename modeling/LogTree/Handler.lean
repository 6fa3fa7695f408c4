import LogTree.Record

namespace LogTree

/-- What tells handlers apart. -/
inductive HandlerId where
  | named (key : String)
  /-- The handler that verbose objects attach where a logger has none. Each logger has one of its
  own, and this is the one on the logger at hand. -/
  | standard
deriving DecidableEq

/-- Where the octets of a stream handler go. -/
inductive Sink where
  | buffer (key : String)
  | standardOutput
  | standardError
deriving DecidableEq

/-- How the writer under a stream handler misbehaves. -/
inductive WriterFault where
  | refusesWrites
  | failsFlush
  /-- At most so many octets are accepted at a time. -/
  | writesShort (limit : Nat) (positive : 0 < limit)
  /-- The first write aborts the call that caused it. -/
  | abortsOnce
deriving DecidableEq

inductive Destination where
  | journal (key : String)
  /-- Counts them without looking at them. -/
  | tally (key : String)
  | trace
  | stream (sink : Sink) (layout : Layout) (fault : Option WriterFault)
deriving DecidableEq

/-- A handler. Those attached to a logger see the records of the logger and of the loggers below
it. -/
structure Handler where
  id : HandlerId
  /-- The least level that the handler accepts. -/
  threshold : Level := .notset
  destination : Destination
deriving DecidableEq

namespace Handler

def standard : Handler :=
  { id := .standard, destination := .stream .standardOutput {} none }

def accepts (handler : Handler) (level : Level) : Bool :=
  handler.threshold ≤ level

end Handler

end LogTree
