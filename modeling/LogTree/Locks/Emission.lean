import LogTree.Locks.Registry

/-!
The way of a record, lock by lock. The handlers of a logger are copied under their lock, so none of
these locks is held while a handler does its work. A handler takes the locks of its own.
-/

namespace LogTree.Program

/-- Asks a message for its text, which may abort the call. -/
def render : Message → Program String
  | .text text => do
      modify fun locked => { locked with renderings := locked.renderings + 1 }
      return text
  | .failing => do
      modify fun locked => { locked with renderings := locked.renderings + 1 }
      abort

def changeOutputs (f : Outputs → Outputs) : Program Unit :=
  change fun session => { session with outputs := f session.outputs }

/-- The standard streams have locks that cannot be poisoned. -/
def put (sink : Sink) (pieces : Stream) : Program Unit :=
  match sink with
  | .buffer key =>
      (Cell.octets key).hold fun stream => (Cell.octets key).write (stream ++ pieces)
  | .standardOutput | .standardError => changeOutputs (Outputs.append · sink pieces)

/-- Writes piece by piece. A buffer is there even if nothing is written to it. -/
def putAll (sink : Sink) : Stream → Program Unit
  | [] => put sink []
  | piece :: rest => do
      put sink [piece]
      putAll sink rest

def write (id : HandlerId) (sink : Sink) (fault : Option WriterFault) (text : String) :
    Program Unit :=
  (Cell.writer id).hold fun hasAborted =>
    if fault = some .abortsOnce ∧ hasAborted = false then do
      (Cell.writer id).write true
      abort
    else
      putAll sink (WriterFault.writeAll fault (.handler id) (Text.Utf8.encode text))

/-- Hands a record to a handler. A journal asks for the message while it holds the lock of its
records, a stream handler before it takes the lock of its writer. -/
def handle (handler : Handler) (record : Record) : Program Unit := do
  modify fun locked => { locked with invoked := locked.invoked ++ [handler] }
  match handler.destination with
  | .tally key => changeOutputs (Outputs.count · key)
  | .journal key =>
      (Cell.records key).hold fun records => do
        let message ← render record.message
        (Cell.records key).write (records ++ [record.capture message])
  | .trace => do
      let message ← render record.message
      changeOutputs (Outputs.publish · handler.id (Event.ofRecord record message))
  | .stream sink layout fault => do
      let message ← render record.message
      write handler.id sink fault (layout.render record message)

/-- Offers a record to some handlers and says whether it has come past any by now. -/
def offerTo (record : Record) : List Handler → Bool → Program Bool
  | [], reached => return reached
  | handler :: rest, _ => do
      if handler.accepts record.level then
        handle handler record
      offerTo record rest true

def dispatch (key : String) (registry : Registry) (record : Record) (id : LoggerId)
    (reached : Bool) : Program Bool := do
  let reached ← offerTo record (← handlers key id) reached
  if !(← Program.registry key).propagate id then
    return reached
  else
    match _ : registry.parent? id with
    | none => return reached
    | some outer => dispatch key registry record outer reached
termination_by id
decreasing_by exact Registry.parent?_lt (by assumption)

def lastResort (record : Record) : Program Unit := do
  let message ← render record.message
  changeOutputs (Outputs.append · .standardError
    [{ writer := .lastResort, octets := Text.Utf8.encode (message ++ "\n") }])

def emit (key : String) (id : LoggerId) (level : Level) (failure : Option Failure)
    (draft : Draft) : Program Unit := do
  let registry ← registry key
  let record := Record.ofDraft (registry.name id) level failure draft
  let reached ← dispatch key registry record id false
  if !reached && Level.warning ≤ record.level then
    lastResort record

def submit (outlet : Owned Outlet) (submission : Submission) (draft : Draft) : Program Unit := do
  let registry ← registry outlet.registry
  match submission with
  | .checked call =>
      if outlet.value.isEnabledFor registry call.level then
        emit outlet.registry outlet.value.logger call.level call.failure? draft
  | .raw level failure => emit outlet.registry outlet.value.logger level failure draft

end LogTree.Program
