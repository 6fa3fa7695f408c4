import LogTree.Outputs
import LogTree.Registry.Walk

/-!
The way of a record through the registry. A record goes to the handlers of the logger to which it
was handed and on to those of its ancestors, up to the first logger that does not propagate.
-/

namespace LogTree

structure Delivery where
  outputs : Outputs
  /-- The handlers that the record was handed to, in order. The last one may have aborted. -/
  invoked : List Handler := []
  renderings : Nat := 0
  /-- Whether the record came past any handler, even one that does not accept its level. -/
  reached : Bool := false
  /-- The call was aborted; what came before has happened. -/
  aborted : Bool := false

namespace Delivery

def offer (delivery : Delivery) (record : Record) (handler : Handler) : Delivery :=
  if delivery.aborted then
    delivery
  else if handler.accepts record.level then
    let handled := delivery.outputs.handle handler record
    { outputs := handled.outputs
      invoked := delivery.invoked ++ [handler]
      renderings := delivery.renderings + handled.renderings
      reached := true
      aborted := handled.aborted }
  else
    { delivery with reached := true }

/-- Writes a record that came past no handler to the standard error, if it is at least a warning. -/
def finish (delivery : Delivery) (record : Record) : Delivery :=
  if !delivery.aborted && !delivery.reached && Level.warning ≤ record.level then
    let handled := delivery.outputs.lastResort record
    { delivery with
      outputs := handled.outputs
      renderings := delivery.renderings + handled.renderings
      aborted := handled.aborted }
  else
    delivery

end Delivery

namespace Registry

/-- Hands a record to the handlers of a logger and, while the loggers propagate, of its
ancestors. -/
def dispatch (registry : Registry) (record : Record) (id : LoggerId) (delivery : Delivery) :
    Delivery :=
  let delivery := (registry.handlers id).foldl (Delivery.offer · record ·) delivery
  if delivery.aborted || !registry.propagate id then
    delivery
  else
    match _ : registry.parent? id with
    | none => delivery
    | some outer => registry.dispatch record outer delivery
termination_by id
decreasing_by exact parent?_lt (by assumption)

/-- Hands a record to a logger, whatever its level. -/
def emit (registry : Registry) (id : LoggerId) (level : Level) (failure : Option Failure)
    (draft : Draft) (outputs : Outputs) : Delivery :=
  let record := Record.ofDraft (registry.name id) level failure draft
  (registry.dispatch record id { outputs }).finish record

end Registry

inductive Call where
  | debug
  | info
  | warning
  | error
  | critical
  | exception (failure : Failure)
  | log (level : Level)
deriving DecidableEq

namespace Call

def level : Call → Level
  | debug => .debug
  | info => .info
  | warning => .warning
  | error | exception _ => .error
  | critical => .critical
  | log level => level

def failure? : Call → Option Failure
  | exception failure => some failure
  | debug | info | warning | error | critical | log _ => none

end Call

def Registry.log (registry : Registry) (id : LoggerId) (call : Call) (draft : Draft)
    (outputs : Outputs) : Delivery :=
  if registry.isEnabledFor id call.level then
    registry.emit id call.level call.failure? draft outputs
  else
    { outputs }

end LogTree
