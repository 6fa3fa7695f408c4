import LogTree.Config
import LogTree.Echo

namespace LogTree

/-- An error attached to a record, with the errors that caused it, the nearest cause first. -/
structure Failure where
  message : String
  causes : List String := []
deriving DecidableEq

namespace Failure

def render (failure : Failure) : String :=
  failure.causes.foldl (fun text cause => text ++ "\ncaused by: " ++ cause)
    ("error: " ++ failure.message)

/-- The failure that a list of messages stands for, the outermost message first. -/
def ofMessages? : List String → Option Failure
  | [] => none
  | message :: causes => some { message, causes }

end Failure

def LevelError.toFailure (e : LevelError) : Failure :=
  { message := e.message }

def EchoError.toFailure (e : EchoError) : Failure :=
  { message := e.message }

def DirectiveError.toFailure (e : DirectiveError) : Failure :=
  { message := e.message, causes := (e.cause?.map LevelError.message).toList }

end LogTree
