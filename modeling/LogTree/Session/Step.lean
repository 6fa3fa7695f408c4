import LogTree.Session.Command

/-!
Carrying out commands. A command that is refused keeps what it did before.
-/

namespace LogTree

abbrev Outcome :=
  Session × Except Refusal Answer

namespace Session

def answer (session : Session) (answer : Answer) : Outcome :=
  (session, .ok answer)

def refuse (session : Session) (refusal : Refusal) : Outcome :=
  (session, .error refusal)

def configure (session : Session) (key : String) (config : Config) : Outcome :=
  let registry := (session.registry key).configure config
  (session.setRegistry key registry).answer (.names registry.names)

def stepRegistry (session : Session) (key : String) : RegistryCommand → Outcome
  | .names => session.answer (.names (session.registry key).names)
  | .contains name => session.answer (.flag ((session.registry key).contains name))
  | .chain name =>
      let located := (session.registry key).obtain name
      (session.setRegistry key located.registry).answer
        (.names ((located.registry.ancestry located.id).map located.registry.name))
  | .same name other =>
      let (registry, same) := (session.registry key).sameLogger name other
      (session.setRegistry key registry).answer (.flag same)
  | .disable level =>
      let registry := (session.registry key).disable level
      (session.setRegistry key registry).answer (.level registry.disabledAt)
  | .isDisabled level => session.answer (.flag ((session.registry key).isDisabled level))
  | .apply config => session.configure key config
  | .configure directives =>
      match Config.parse directives with
      | .error e => session.refuse (.invalidDirective e)
      | .ok config => session.configure key config
  | .configureVerbosity name verbosity => session.configure key (Config.ofVerbosity name verbosity)
  | .installDefaultLevel name =>
      let (registry, installed) := (session.registry key).installDefaultLevel name
      (session.setRegistry key registry).answer (.flag installed)
  | .classLogger cls =>
      let located := (session.registry key).classLogger cls
      let registry := located.registry
      ((session.recordClass cls).setRegistry key registry).answer
        (.classLogger (registry.name located.id) (registry.level located.id)
          (registry.effectiveLevel located.id) (registry.isShared located.id))

def holdingReport (session : Session) (holding : Owned Holding) : HoldingReport :=
  let registry := session.registry holding.registry
  let outlet := holding.value.toOutlet
  { holding := holding.value
    name := registry.name outlet.logger
    effective := outlet.effectiveLevel registry
    handlers := registry.handlerIds outlet.logger
    description := match holding.value with
      | .adapter adapter => adapter.describe registry
      | .outlet outlet => outlet.describe registry }

def hold (session : Session) (key : String) (holding : Owned Holding) : Outcome :=
  (session.setHolding key holding).answer (.holding (session.holdingReport holding))

def locate (session : Session) (address : Address) : Session × Option LoggerId :=
  let located := (session.registry address.registry).obtain address.name
  (session.setRegistry address.registry located.registry,
    located.registry.climb? located.id address.generations)

def stepLogger (session : Session) (key : String) (id : LoggerId) : LoggerCommand → Outcome
  | .report => session.answer (.logger ((session.registry key).report id))
  | .describe => session.answer (.text ((session.registry key).describe id))
  | .setLevel level =>
      let registry := (session.registry key).setLevel id level
      (session.setRegistry key registry).answer
        (.levels (registry.level id) (registry.effectiveLevel id))
  | .setPropagate propagate =>
      let registry := (session.registry key).setPropagate id propagate
      (session.setRegistry key registry).answer
        (.propagation (registry.propagate id) (registry.hasHandlers id))
  | .attach handlerKey =>
      match session.handlers.get? handlerKey with
      | none => session.refuse .unknown
      | some handler =>
          let (registry, changed) := (session.registry key).attach id handler
          (session.setRegistry key registry).answer
            (.attachment changed (registry.handlerIds id))
  | .detach handlerKey =>
      match session.handlers.get? handlerKey with
      | none => session.refuse .unknown
      | some handler =>
          let (registry, changed) := (session.registry key).detach id handler.id
          (session.setRegistry key registry).answer
            (.attachment changed (registry.handlerIds id))
  | .offer handlerKey fails =>
      match session.handlers.get? handlerKey with
      | none => session.refuse .unknown
      | some handler =>
          let (registry, offer) := (session.registry key).attachIfEmpty id fun _ =>
            if fails then none else some handler
          (session.setRegistry key registry).answer (.offer offer (registry.handlerIds id))
  | .adapt holdingKey echo =>
      session.hold holdingKey { registry := key, value := .adapter { echo, logger := id } }
  | .keep holdingKey =>
      session.hold holdingKey { registry := key, value := .outlet (.direct id) }

def resolve (session : Session) : Target → Session × Except Refusal (Owned Outlet)
  | .object key =>
      match session.objects.get? key with
      | none => (session, .error .unknown)
      | some object =>
          (session, .ok { registry := object.registry, value := object.value.state.outlet })
  | .holding key =>
      match session.holdings.get? key with
      | none => (session, .error .unknown)
      | some holding =>
          (session, .ok { registry := holding.registry, value := holding.value.toOutlet })
  | .logger address =>
      match session.locate address with
      | (session, none) => (session, .error .noParent)
      | (session, some id) =>
          (session, .ok { registry := address.registry, value := .direct id })

def submit (session : Session) (outlet : Owned Outlet) (submission : Submission) (draft : Draft) :
    Delivery :=
  let registry := session.registry outlet.registry
  match submission with
  | .checked call => outlet.value.log registry call draft session.outputs
  | .raw level failure => registry.emit outlet.value.logger level failure draft session.outputs

def stepOutlet (session : Session) (outlet : Owned Outlet) : TargetCommand → Outcome
  | .effectiveLevel =>
      session.answer (.level (outlet.value.effectiveLevel (session.registry outlet.registry)))
  | .areEnabled levels =>
      session.answer (.flags (levels.map
        (outlet.value.isEnabledFor (session.registry outlet.registry))))
  | .log submission message thread =>
      let delivery := session.submit outlet submission { message, thread, moment := session.moment }
      { session with outputs := delivery.outputs }.answer
        (.logged delivery.renderings delivery.aborted)

/-- Makes a handler. The buffer that it writes to is there from then on. -/
def makeHandler (session : Session) (key : String) (threshold : Level)
    (destination : Destination) : Session :=
  let handler : Handler := { id := .named key, threshold, destination }
  let outputs := match destination with
    | .stream (.buffer buffer) _ _ => session.outputs.append (.buffer buffer) []
    | .stream .standardOutput _ _ | .stream .standardError _ _ | .journal _ | .tally _ | .trace =>
        session.outputs
  { session with handlers := session.handlers.insert key handler, outputs }

def stepHandler (session : Session) (key : String) : HandlerCommand → Outcome
  | .make threshold destination =>
      if session.handlers.contains key then
        session.refuse .unknown
      else
        (session.makeHandler key threshold destination).answer (.level threshold)
  | .drain =>
      match (session.handlers.get? key).map Handler.destination with
      | some (.journal journal) =>
          let records := session.outputs.journal journal
          { session with outputs := session.outputs.drain journal }.answer
            (.drained records.isEmpty records)
      | _ => session.refuse .unknown

def stepBuffer (session : Session) (key : String) : BufferCommand → Outcome
  | .write octets =>
      let outputs := session.outputs.append (.buffer key) [{ writer := .owner, octets }]
      { session with outputs }.answer (.count octets.length)
  | .clear => { session with outputs := session.outputs.clear key }.answer .done

def objectReport (session : Session) (object : Owned Instance) : ObjectReport :=
  let registry := session.registry object.registry
  let outlet := object.value.state.outlet
  { echo := object.value.state.echo
    resolvedName := object.value.resolvedName
    name := registry.name outlet.logger
    isAdapted := outlet.isAdapted
    effective := outlet.effectiveLevel registry
    logsDebug := outlet.isEnabledFor registry .debug
    logsInfo := outlet.isEnabledFor registry .info
    isShared := registry.isShared outlet.logger
    handlers := registry.handlerIds outlet.logger }

def holdObject (session : Session) (key : String) (object : Owned Instance) : Outcome :=
  (session.setObject key object).answer (.object (session.objectReport object))

def onObject (session : Session) (key : String) (command : Owned Instance → Outcome) : Outcome :=
  match session.objects.get? key with
  | none => session.refuse .unknown
  | some object => command object

def stepObject (session : Session) (key : String) : ObjectCommand → Outcome
  | .make registryKey cls label stateLabel echo =>
      let (registry, state) := (session.registry registryKey).makeState cls stateLabel echo
      ((session.recordClass cls).setRegistry registryKey registry).holdObject key
        { registry := registryKey, value := { loggedClass := cls, label, state } }
  | .copy source =>
      session.onObject source fun object =>
        session.holdObject key
          { object with value := { object.value with label := object.value.reportedLabel } }
  | .report =>
      session.onObject key fun object => session.answer (.object (session.objectReport object))
  | .relabel label =>
      session.onObject key fun object =>
        session.holdObject key { object with value := { object.value with label } }
  | .writeEcho echo =>
      session.onObject key fun object =>
        let (registry, value) :=
          (session.registry object.registry).writeEcho object.value echo
        (session.setRegistry object.registry registry).holdObject key { object with value }
  | .sameLogger other =>
      session.onObject key fun object =>
        session.onObject other fun another =>
          session.answer (.flag (object.registry = another.registry ∧
            object.value.state.outlet.logger = another.value.state.outlet.logger))

/-- Builds an outlet and keeps it. With a handler in the place of the standard one, it is told
whether that handler was asked for. -/
def buildHolding (session : Session) (key registryKey : String) (name : String) (echo : Echo)
    (handler : Option Handler) : Outcome :=
  let registry := session.registry registryKey
  let built := match handler with
    | none => registry.build name echo
    | some handler => registry.buildWith name echo fun _ => some handler
  let holding : Owned Holding := { registry := registryKey, value := .outlet built.outlet }
  let session := session.setRegistry registryKey built.registry
  (session.setHolding key holding).answer
    (.built (handler.map fun _ => built.offer.any Offer.made) (session.holdingReport holding))

def stepHolding (session : Session) (key : String) : HoldingCommand → Outcome
  | .build registryKey name echo none => session.buildHolding key registryKey name echo none
  | .build registryKey name echo (some handlerKey) =>
      match session.handlers.get? handlerKey with
      | none => session.refuse .unknown
      | some handler => session.buildHolding key registryKey name echo (some handler)
  | .toOutlet =>
      match session.holdings.get? key with
      | none => session.refuse .unknown
      | some holding =>
          session.hold key { holding with value := .outlet holding.value.toOutlet }
  | .report =>
      match session.holdings.get? key with
      | none => session.refuse .unknown
      | some holding => session.answer (.holding (session.holdingReport holding))

def stepClasses (session : Session) : ClassCommand → Outcome
  | .isLogged typeName => session.answer (.flag (session.loggedClasses.contains typeName))
  | .logged => session.answer (.names session.loggedClasses.names)

def step (session : Session) : Command → Outcome
  | .registry key command => session.stepRegistry key command
  | .logger address command =>
      match session.locate address with
      | (session, none) => session.refuse .noParent
      | (session, some id) => session.stepLogger address.registry id command
  | .target target command =>
      match session.resolve target with
      | (session, .error refusal) => session.refuse refusal
      | (session, .ok outlet) => session.stepOutlet outlet command
  | .handler key command => session.stepHandler key command
  | .buffer key command => session.stepBuffer key command
  | .object key command => session.stepObject key command
  | .holding key command => session.stepHolding key command
  | .classes command => session.stepClasses command

def run (session : Session) : List Command → Session × List (Except Refusal Answer)
  | [] => (session, [])
  | command :: rest =>
      let (next, result) := session.step command
      let (last, results) := next.run rest
      (last, result :: results)

end Session

end LogTree
