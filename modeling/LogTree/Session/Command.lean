import LogTree.Session

namespace LogTree

/-- A logger: an ancestor, so many generations up, of the logger with a name. -/
structure Address where
  registry : String
  name : String
  generations : Nat := 0
deriving DecidableEq

inductive Target where
  | object (key : String)
  | holding (key : String)
  | logger (address : Address)
deriving DecidableEq

inductive RegistryCommand where
  | names
  | contains (name : String)
  | chain (name : String)
  | same (name other : String)
  | disable (level : Level)
  | isDisabled (level : Level)
  | apply (config : Config)
  | configure (directives : String)
  | configureVerbosity (name : String) (verbosity : Nat)
  | installDefaultLevel (name : String)
  | classLogger (cls : LoggedClass)
deriving DecidableEq

inductive LoggerCommand where
  | report
  | describe
  | setLevel (level : Level)
  | setPropagate (propagate : Bool)
  | attach (handler : String)
  | detach (handler : String)
  /-- Offers a handler to a logger that may have some; making it may fail. -/
  | offer (handler : String) (fails : Bool)
  | adapt (key : String) (echo : Echo)
  | keep (key : String)
deriving DecidableEq

inductive Submission where
  | checked (call : Call)
  /-- Past all levels, to the logger beneath the target. -/
  | raw (level : Level) (failure : Option Failure)
deriving DecidableEq

inductive TargetCommand where
  | effectiveLevel
  | areEnabled (levels : List Level)
  | log (submission : Submission) (message : Message) (thread : Option String)
deriving DecidableEq

inductive HandlerCommand where
  | make (threshold : Level) (destination : Destination)
  | drain
deriving DecidableEq

inductive BufferCommand where
  | write (octets : List UInt8)
  | clear
deriving DecidableEq

inductive ObjectCommand where
  /-- Makes an object; its state is made for a label that may differ from the one it bears. -/
  | make (registry : String) (cls : LoggedClass) (label stateLabel : Option String) (echo : Echo)
  /-- Makes an object with the state of another one and the label that one reports. -/
  | copy (source : String)
  | report
  | relabel (label : Option String)
  | writeEcho (echo : Echo)
  | sameLogger (other : String)
deriving DecidableEq

inductive HoldingCommand where
  /-- Builds an outlet; a handler may be offered in the place of the standard one. -/
  | build (registry name : String) (echo : Echo) (handler : Option String)
  | toOutlet
  | report
deriving DecidableEq

inductive ClassCommand where
  | isLogged (typeName : String)
  | logged
deriving DecidableEq

inductive Command where
  | registry (key : String) (command : RegistryCommand)
  | logger (address : Address) (command : LoggerCommand)
  | target (target : Target) (command : TargetCommand)
  | handler (key : String) (command : HandlerCommand)
  | buffer (key : String) (command : BufferCommand)
  | object (key : String) (command : ObjectCommand)
  | holding (key : String) (command : HoldingCommand)
  | classes (command : ClassCommand)
deriving DecidableEq

structure ObjectReport where
  echo : Echo
  resolvedName : String
  name : String
  isAdapted : Bool
  effective : Level
  logsDebug : Bool
  logsInfo : Bool
  isShared : Bool
  handlers : List HandlerId
deriving DecidableEq

structure HoldingReport where
  holding : Holding
  name : String
  effective : Level
  handlers : List HandlerId
  description : String
deriving DecidableEq

inductive Answer where
  | done
  | flag (value : Bool)
  | flags (values : List Bool)
  | level (level : Level)
  | count (count : Nat)
  | text (text : String)
  | names (names : List String)
  | levels (own effective : Level)
  | propagation (propagate hasHandlers : Bool)
  | logger (report : LoggerReport)
  | attachment (changed : Bool) (handlers : List HandlerId)
  | offer (offer : Offer) (handlers : List HandlerId)
  | drained (wasEmpty : Bool) (records : List Captured)
  | logged (renderings : Nat) (aborted : Bool)
  | classLogger (name : String) (level effective : Level) (isShared : Bool)
  | object (report : ObjectReport)
  | holding (report : HoldingReport)
  | built (made : Option Bool) (report : HoldingReport)
deriving DecidableEq

inductive Refusal where
  /-- The root has no parent. -/
  | noParent
  | invalidDirective (e : DirectiveError)
  /-- A handler, an object or an outlet is not there, not of the right kind or there already. -/
  | unknown
deriving DecidableEq

end LogTree
