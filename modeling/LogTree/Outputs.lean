import LogTree.NameMap
import LogTree.Stream
import LogTree.Trace

namespace LogTree

structure Published where
  handler : HandlerId
  event : Event
deriving DecidableEq

structure Outputs where
  journals : NameMap (List Captured) := ∅
  tallies : NameMap Nat := ∅
  events : List Published := []
  buffers : NameMap Stream := ∅
  standardOutput : Stream := []
  standardError : Stream := []
  /-- The handlers whose writer has aborted a call once and works from now on. -/
  aborted : List HandlerId := []
deriving DecidableEq

namespace Outputs

def journal (outputs : Outputs) (key : String) : List Captured :=
  outputs.journals.getD key []

def tally (outputs : Outputs) (key : String) : Nat :=
  outputs.tallies.getD key 0

def buffer (outputs : Outputs) (key : String) : Stream :=
  outputs.buffers.getD key []

def count (outputs : Outputs) (key : String) : Outputs :=
  { outputs with tallies := outputs.tallies.insert key (outputs.tally key + 1) }

def keep (outputs : Outputs) (key : String) (captured : Captured) : Outputs :=
  { outputs with journals := outputs.journals.insert key (outputs.journal key ++ [captured]) }

def publish (outputs : Outputs) (handler : HandlerId) (event : Event) : Outputs :=
  { outputs with events := outputs.events ++ [{ handler, event }] }

def drain (outputs : Outputs) (key : String) : Outputs :=
  { outputs with journals := outputs.journals.insert key [] }

def clear (outputs : Outputs) (key : String) : Outputs :=
  { outputs with buffers := outputs.buffers.insert key [] }

def append (outputs : Outputs) (sink : Sink) (pieces : Stream) : Outputs :=
  match sink with
  | .buffer key =>
      { outputs with buffers := outputs.buffers.insert key (outputs.buffer key ++ pieces) }
  | .standardOutput => { outputs with standardOutput := outputs.standardOutput ++ pieces }
  | .standardError => { outputs with standardError := outputs.standardError ++ pieces }

end Outputs

structure Handled where
  outputs : Outputs
  renderings : Nat := 0
  /-- The call was aborted; the handler has stored and written nothing. -/
  aborted : Bool := false

namespace Outputs

/-- Hands the rendered message to what stores the record. A message that cannot be rendered aborts
the call. -/
def rendering (outputs : Outputs) (message : Message) (store : String → Handled) : Handled :=
  match message with
  | .text text => { store text with renderings := 1 }
  | .failing => { outputs, renderings := 1, aborted := true }

def write (outputs : Outputs) (id : HandlerId) (sink : Sink) (fault : Option WriterFault)
    (text : String) : Handled :=
  if fault = some .abortsOnce ∧ id ∉ outputs.aborted then
    { outputs := { outputs with aborted := outputs.aborted ++ [id] }, aborted := true }
  else
    { outputs := outputs.append sink
        (WriterFault.writeAll fault (.handler id) (Text.Utf8.encode text)) }

def handle (outputs : Outputs) (handler : Handler) (record : Record) : Handled :=
  match handler.destination with
  | .tally key => { outputs := outputs.count key }
  | .journal key =>
      outputs.rendering record.message fun message =>
        { outputs := outputs.keep key (record.capture message) }
  | .trace =>
      outputs.rendering record.message fun message =>
        { outputs := outputs.publish handler.id (Event.ofRecord record message) }
  | .stream sink layout fault =>
      outputs.rendering record.message fun message =>
        outputs.write handler.id sink fault (layout.render record message)

/-- Writes the message of a record that no handler could have seen to the standard error. -/
def lastResort (outputs : Outputs) (record : Record) : Handled :=
  outputs.rendering record.message fun message =>
    { outputs := outputs.append .standardError
        [{ writer := .lastResort, octets := Text.Utf8.encode (message ++ "\n") }] }

end Outputs

end LogTree
