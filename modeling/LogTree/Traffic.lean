import LogTree.Build

/-!
Requests of several threads to one registry. A request takes one lock after another: what it does
under a lock it does at one go, and between two locks the other threads have their turns.
-/

namespace LogTree

inductive Request where
  | logger (name : String)
  /-- Builds an outlet, with a handler at hand for a logger that has none. -/
  | build (name : String) (echo : Echo) (handler : Handler)
deriving DecidableEq

/-- How far a request has come. -/
inductive Progress where
  | begun
  /-- The name was looked up and not found. -/
  | missed
  /-- The logger is there, and a handler is to be offered to it. -/
  | offering (id : LoggerId) (echo : Echo) (handler : Handler)
  | finished (outlet : Outlet)
deriving DecidableEq

namespace Request

def name : Request → String
  | logger name | build name _ _ => name

/-- The request carried out without anyone in between. -/
def serve (request : Request) (registry : Registry) : Registry × Outlet :=
  match request with
  | logger name =>
      let located := registry.obtain name
      (located.registry, .direct located.id)
  | build name echo handler =>
      let built := registry.buildWith name echo fun _ => some handler
      (built.registry, built.outlet)

/-- What comes next when the logger has been found or created. -/
def proceed (request : Request) (id : LoggerId) : Progress :=
  match request with
  | logger _ => .finished (.direct id)
  | build _ echo handler =>
      match echo.level? with
      | none => .finished (.direct id)
      | some _ => .offering id echo handler

/-- What a request does under the next lock. -/
def advance (request : Request) (registry : Registry) : Progress → Registry × Progress
  | .begun =>
      match registry.lookup? request.name with
      | none => (registry, .missed)
      | some id => (registry, request.proceed id)
  | .missed =>
      -- Someone else may have created the logger by now, so the name is looked up once more.
      let located := registry.obtainNamed request.name
      (located.registry, request.proceed located.id)
  | .offering id echo handler =>
      ((registry.attachIfEmpty id fun _ => some handler).1,
        .finished (.adapted { echo, logger := id }))
  | .finished outlet => (registry, .finished outlet)

end Request

/-- A registry with the requests that are made to it, each by a thread of its own. -/
structure Traffic where
  registry : Registry
  threads : List (Request × Progress)

namespace Traffic

def start (registry : Registry) (requests : List Request) : Traffic :=
  { registry, threads := requests.map fun request => (request, .begun) }

def turn (traffic : Traffic) (index : Nat) : Traffic :=
  match traffic.threads[index]? with
  | none => traffic
  | some (request, progress) =>
      let (registry, next) := request.advance traffic.registry progress
      { registry, threads := traffic.threads.set index (request, next) }

/-- The threads have their turns in some order, each as often as it comes up. -/
def run (traffic : Traffic) (turns : List Nat) : Traffic :=
  turns.foldl turn traffic

def Finished (traffic : Traffic) : Prop :=
  ∀ thread ∈ traffic.threads, ∃ outlet, thread.2 = .finished outlet

end Traffic

end LogTree
