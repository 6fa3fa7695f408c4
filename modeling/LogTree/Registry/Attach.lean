import LogTree.Registry

namespace LogTree

inductive Offer where
  /-- The logger had handlers, so no handler was made. -/
  | declined
  | attached
  /-- A handler was asked for, but making it failed. -/
  | failed
deriving DecidableEq

def Offer.made : Offer → Bool
  | declined => false
  | attached | failed => true

namespace Settings

def hasHandler (settings : Settings) (id : HandlerId) : Bool :=
  settings.handlers.any fun handler => handler.id = id

def attach (settings : Settings) (handler : Handler) : Settings :=
  if settings.hasHandler handler.id then settings
  else { settings with handlers := settings.handlers ++ [handler] }

def detach (settings : Settings) (id : HandlerId) : Settings :=
  { settings with handlers := settings.handlers.filter fun handler => handler.id ≠ id }

end Settings

namespace Registry

/-- Attaches a handler and says whether it was not there before. -/
def attach (registry : Registry) (id : LoggerId) (handler : Handler) : Registry × Bool :=
  (registry.update id fun settings => settings.attach handler,
    !(registry.settings id).hasHandler handler.id)

def detach (registry : Registry) (id : LoggerId) (handler : HandlerId) : Registry × Bool :=
  (registry.update id fun settings => settings.detach handler,
    (registry.settings id).hasHandler handler)

/-- Attaches a handler to a logger without handlers. The handler is made only then, and making it
may fail. -/
def attachIfEmpty (registry : Registry) (id : LoggerId) (make : Unit → Option Handler) :
    Registry × Offer :=
  match registry.handlers id with
  | _ :: _ => (registry, .declined)
  | [] =>
      match make () with
      | none => (registry, .failed)
      | some handler =>
          (registry.update id fun settings => { settings with handlers := [handler] }, .attached)

end Registry

end LogTree
