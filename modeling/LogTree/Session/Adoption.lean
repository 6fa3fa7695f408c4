import LogTree.Session.Step

namespace LogTree

/-- A standard handler is told apart from all others once it has a key. -/
def HandlerId.adopt (key : String) : HandlerId → HandlerId
  | .standard => .named key
  | .named place => .named place

def Handler.adopt (key : String) (handler : Handler) : Handler :=
  { handler with id := handler.id.adopt key }

def Settings.adopt (key : String) (settings : Settings) : Settings :=
  { settings with handlers := settings.handlers.map (Handler.adopt key) }

/-- What a program does in a session. Commands name handlers by their keys, and a standard handler
has none until the program takes it from the handlers of its logger. -/
inductive Act where
  | command (command : Command)
  | adopt (address : Address) (key : String)
deriving DecidableEq

namespace Session

/-- Whether a logger has a standard handler that can be told apart from all others by a key. -/
def canAdopt (session : Session) (registryKey : String) (id : LoggerId) (key : String) : Bool :=
  !session.handlers.contains key &&
    ((session.registry registryKey).settings id).hasHandler .standard

/-- Gives a key to the standard handler of a logger. The handler stays where it is, and commands can
attach it elsewhere, detach it and offer it from then on. -/
def adopt (session : Session) (address : Address) (key : String) : Outcome :=
  match session.locate address with
  | (session, none) => session.refuse .noParent
  | (session, some id) =>
      if session.canAdopt address.registry id key then
        let handlers := session.handlers.insert key (Handler.standard.adopt key)
        let registry := (session.registry address.registry).update id (Settings.adopt key)
        ({ session with handlers }.setRegistry address.registry registry).answer .done
      else
        session.refuse .unknown

def act (session : Session) : Act → Outcome
  | .command command => session.step command
  | .adopt address key => session.adopt address key

def play (session : Session) : List Act → Session × List (Except Refusal Answer)
  | [] => (session, [])
  | act :: rest =>
      let (next, result) := session.act act
      let (last, results) := next.play rest
      (last, result :: results)

end Session

end LogTree
