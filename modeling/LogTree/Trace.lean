import LogTree.Record

/-!
The bridge to structured tracing: records become events of five severities, and a subscriber shows
those that its filter lets through.
-/

namespace LogTree

inductive Severity where
  | trace
  | debug
  | info
  | warn
  | error
deriving DecidableEq

namespace Severity

def rank : Severity → Nat
  | trace => 0
  | debug => 1
  | info => 2
  | warn => 3
  | error => 4

instance : LE Severity :=
  ⟨fun a b => a.rank ≤ b.rank⟩

instance (a b : Severity) : Decidable (a ≤ b) :=
  inferInstanceAs (Decidable (a.rank ≤ b.rank))

/-- Each severity covers the levels from its named level up to the next one. -/
def ofLevel (level : Level) : Severity :=
  if Level.error ≤ level then error
  else if Level.warning ≤ level then warn
  else if Level.info ≤ level then info
  else if Level.debug ≤ level then debug
  else trace

def text : Severity → String
  | trace => "TRACE"
  | debug => "DEBUG"
  | info => "INFO"
  | warn => "WARN"
  | error => "ERROR"

end Severity

structure Event where
  severity : Severity
  origin : String
  message : String
  error : Option String
deriving DecidableEq

def Event.ofRecord (record : Record) (message : String) : Event :=
  { severity := Severity.ofLevel record.level, origin := record.logger, message,
    error := record.error }

/-- The target under which all events are published. -/
def Event.target : String :=
  "logging"

def Event.fields : List String :=
  ["message", "namespace", "file", "line", "error"]

end LogTree
