import LogTree.Locks.Emission

namespace LogTree.Program

abbrev Result :=
  Except Refusal Answer

def answer (answer : Answer) : Program Result :=
  return .ok answer

def refuse (refusal : Refusal) : Program Result :=
  return .error refusal

def configured (key : String) (config : Config) : Program Result := do
  configure key config
  answer (.names (← names key))

def stepRegistry (key : String) : RegistryCommand → Program Result
  | .names => do answer (.names (← names key))
  | .contains name => do answer (.flag (← contains key name))
  | .chain name => do
      let id ← obtain key name
      let registry ← registry key
      answer (.names ((registry.ancestry id).map registry.name))
  | .same name other => do
      let first ← obtain key name
      let second ← obtain key other
      answer (.flag (first = second))
  | .disable level => do
      changeRegistry key (Registry.disable · level)
      answer (.level (← registry key).disabledAt)
  | .isDisabled level => do answer (.flag ((← registry key).isDisabled level))
  | .apply config => configured key config
  | .configure directives =>
      match Config.parse directives with
      | .error e => refuse (.invalidDirective e)
      | .ok config => configured key config
  | .configureVerbosity name verbosity => configured key (Config.ofVerbosity name verbosity)
  | .installDefaultLevel name => do answer (.flag (← installDefaultLevel key name))
  | .classLogger cls => do
      let id ← classLogger key cls
      let registry ← registry key
      answer (.classLogger (registry.name id) (registry.level id) (registry.effectiveLevel id)
        (← isShared key id))

/-- What is told of an outlet that is kept, with the handlers as they are read under the lock. -/
def holdingReport (holding : Owned Holding) : Program HoldingReport := do
  let registry ← view holding.registry holding.value.toOutlet.logger
  return ((← session).setRegistry holding.registry registry).holdingReport holding

def hold (key : String) (holding : Owned Holding) : Program Result := do
  change (Session.setHolding · key holding)
  answer (.holding (← holdingReport holding))

def locate (address : Address) : Program (Option LoggerId) := do
  let id ← obtain address.registry address.name
  return (← registry address.registry).climb? id address.generations

def onHandler (key : String) (command : Handler → Program Result) : Program Result := do
  match (← session).handlers.get? key with
  | none => refuse .unknown
  | some handler => command handler

def stepLogger (key : String) (id : LoggerId) : LoggerCommand → Program Result
  | .report => do answer (.logger (← report key id))
  | .describe => do answer (.text (← describe key id))
  | .setLevel level => do
      changeRegistry key (Registry.setLevel · id level)
      let registry ← registry key
      answer (.levels (registry.level id) (registry.effectiveLevel id))
  | .setPropagate propagate => do
      changeRegistry key (Registry.setPropagate · id propagate)
      let registry ← registry key
      answer (.propagation (registry.propagate id) (← hasHandlers key registry id))
  | .attach handlerKey =>
      onHandler handlerKey fun handler => do
        let changed ← attach key id handler
        answer (.attachment changed (← handlerIds key id))
  | .detach handlerKey =>
      onHandler handlerKey fun handler => do
        let changed ← detach key id handler.id
        answer (.attachment changed (← handlerIds key id))
  | .offer handlerKey fails =>
      onHandler handlerKey fun handler => do
        let offered ← offer key id fun _ => if fails then none else some handler
        answer (.offer offered (← handlerIds key id))
  | .adapt holdingKey echo =>
      hold holdingKey { registry := key, value := .adapter { echo, logger := id } }
  | .keep holdingKey => hold holdingKey { registry := key, value := .outlet (.direct id) }

def resolve : Target → Program (Except Refusal (Owned Outlet))
  | .object key => do
      match (← session).objects.get? key with
      | none => return .error .unknown
      | some object =>
          return .ok { registry := object.registry, value := object.value.state.outlet }
  | .holding key => do
      match (← session).holdings.get? key with
      | none => return .error .unknown
      | some holding =>
          return .ok { registry := holding.registry, value := holding.value.toOutlet }
  | .logger address => do
      match ← locate address with
      | none => return .error .noParent
      | some id => return .ok { registry := address.registry, value := .direct id }

def stepOutlet (outlet : Owned Outlet) : TargetCommand → Program Result
  | .effectiveLevel => do
      answer (.level (outlet.value.effectiveLevel (← registry outlet.registry)))
  | .areEnabled levels => do
      answer (.flags (levels.map (outlet.value.isEnabledFor (← registry outlet.registry))))
  | .log submission message thread => do
      modify fun locked => { locked with invoked := [], renderings := 0 }
      let moment := (← session).moment
      let aborted ← attempt (submit outlet submission { message, thread, moment })
      answer (.logged (← get).renderings aborted)

def stepHandler (key : String) : HandlerCommand → Program Result
  | .make threshold destination => do
      if (← session).handlers.contains key then
        refuse .unknown
      else do
        change (Session.makeHandler · key threshold destination)
        answer (.level threshold)
  | .drain => do
      match ((← session).handlers.get? key).map Handler.destination with
      | some (.journal journal) => do
          let wasEmpty ← (Cell.records journal).hold fun records => return records.isEmpty
          let drained ← (Cell.records journal).hold fun records => do
            (Cell.records journal).write []
            return records
          answer (.drained wasEmpty drained)
      | _ => refuse .unknown

def stepBuffer (key : String) : BufferCommand → Program Result
  | .write octets => do
      put (.buffer key) [{ writer := .owner, octets }]
      answer (.count octets.length)
  | .clear => do
      (Cell.octets key).hold fun _ => (Cell.octets key).write []
      answer .done

/-- What is told of an object, with the handlers as they are read under the lock. -/
def objectReport (object : Owned Instance) : Program ObjectReport := do
  let registry ← view object.registry object.value.state.outlet.logger
  let isShared ← isShared object.registry object.value.state.outlet.logger
  return { ((← session).setRegistry object.registry registry).objectReport object with isShared }

def holdObject (key : String) (object : Owned Instance) : Program Result := do
  change (Session.setObject · key object)
  answer (.object (← objectReport object))

def onObject (key : String) (command : Owned Instance → Program Result) : Program Result := do
  match (← session).objects.get? key with
  | none => refuse .unknown
  | some object => command object

def stepObject (key : String) : ObjectCommand → Program Result
  | .make registryKey cls label stateLabel echo => do
      let _ ← classLogger registryKey cls
      let built ← build registryKey (cls.instanceName stateLabel) echo .standard
      holdObject key
        { registry := registryKey
          value := { loggedClass := cls, label, state := { echo, outlet := built.1 } } }
  | .copy source =>
      onObject source fun object =>
        holdObject key
          { object with value := { object.value with label := object.value.reportedLabel } }
  | .report => onObject key fun object => do answer (.object (← objectReport object))
  | .relabel label =>
      onObject key fun object =>
        holdObject key { object with value := { object.value with label } }
  | .writeEcho echo =>
      onObject key fun object => do
        let built ← build object.registry object.value.resolvedName echo .standard
        holdObject key
          { object with value := { object.value with state := { echo, outlet := built.1 } } }
  | .sameLogger other =>
      onObject key fun object =>
        onObject other fun another =>
          answer (.flag (object.registry = another.registry ∧
            object.value.state.outlet.logger = another.value.state.outlet.logger))

def buildHolding (key registryKey name : String) (echo : Echo) (handler : Option Handler) :
    Program Result := do
  let built ← build registryKey name echo (handler.getD .standard)
  let holding : Owned Holding := { registry := registryKey, value := .outlet built.1 }
  change (Session.setHolding · key holding)
  answer (.built (handler.map fun _ => built.2.any Offer.made) (← holdingReport holding))

def stepHolding (key : String) : HoldingCommand → Program Result
  | .build registryKey name echo none => buildHolding key registryKey name echo none
  | .build registryKey name echo (some handlerKey) =>
      onHandler handlerKey fun handler =>
        buildHolding key registryKey name echo (some handler)
  | .toOutlet => do
      match (← session).holdings.get? key with
      | none => refuse .unknown
      | some holding => hold key { holding with value := .outlet holding.value.toOutlet }
  | .report => do
      match (← session).holdings.get? key with
      | none => refuse .unknown
      | some holding => answer (.holding (← holdingReport holding))

def stepClasses : ClassCommand → Program Result
  | .isLogged typeName =>
      Cell.classes.hold fun loggedClasses => answer (.flag (loggedClasses.contains typeName))
  | .logged => Cell.classes.hold fun loggedClasses => answer (.names loggedClasses.names)

def step : Command → Program Result
  | .registry key command => stepRegistry key command
  | .logger address command => do
      match ← locate address with
      | none => refuse .noParent
      | some id => stepLogger address.registry id command
  | .target target command => do
      match ← resolve target with
      | .error refusal => refuse refusal
      | .ok outlet => stepOutlet outlet command
  | .handler key command => stepHandler key command
  | .buffer key command => stepBuffer key command
  | .object key command => stepObject key command
  | .holding key command => stepHolding key command
  | .classes command => stepClasses command

def size? (handler : Handler) : Program (Option Nat) :=
  match handler.destination with
  | .journal key => (Cell.records key).hold fun records => return some records.length
  | .tally key => do return some ((← session).outputs.tally key)
  | .trace | .stream _ _ _ => return none

def contents (key : String) : Program String :=
  (Cell.octets key).hold fun stream => return stream.contents

/-- The sizes of journals and tallies and the contents of buffers, as far as they are other than
before, and what has been added to the events and to the standard streams. -/
def changes (before : Session) : Program Changes := do
  let session ← session
  let sizes ← session.handlers.entries.mapM fun entry =>
    return (entry, ← size? entry.2)
  let buffers ← session.outputs.buffers.entries.mapM fun entry =>
    return (entry.1, ← contents entry.1)
  return {
    Session.changes before session with
    sizes := sizes.filterMap fun found =>
      match found.2 with
      | none => none
      | some size => if before.size? found.1.2 = some size then none else some (found.1.1, size)
    buffers := buffers.filter fun found =>
      (before.outputs.buffer found.1).contents ≠ found.2 }

/-- Carries out commands one after another and looks at the session after each of them. -/
def carryOut : List Command → Program (List (Result × Changes))
  | [] => return []
  | command :: rest => do
      let before ← session
      let result ← step command
      let visible ← changes before
      return (result, visible) :: (← carryOut rest)

end LogTree.Program
