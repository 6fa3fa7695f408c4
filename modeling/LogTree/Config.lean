import LogTree.Level
import LogTree.NameMap
import LogTree.Text.Split
import LogTree.Text.Utf8

/-!
Configurations and the directive language. A list of directives is separated by commas; each of them
is a level for the root logger, `name=LEVEL` for a named logger or `disable=LEVEL` for the threshold
up to which all records are suppressed.
-/

namespace LogTree

/-- Levels to be set; what is absent is left as it is. -/
structure Config where
  root : Option Level := none
  levels : NameMap Level := ∅
  disable : Option Level := none
deriving DecidableEq

inductive Directive where
  | root (level : Level)
  | logger (name : String) (level : Level)
  | disable (level : Level)
deriving DecidableEq

/-- Why a text is no directive. The texts carried are those of the directive without the blanks
around it. -/
inductive DirectiveError where
  | empty
  | missingName (directive : String)
  | invalidLevel (directive : String) (cause : LevelError)
deriving DecidableEq

namespace DirectiveError

def message : DirectiveError → String
  | empty => "empty logging directive"
  | missingName directive => "missing logger name in directive " ++ Text.quote directive
  | invalidLevel directive _ => "invalid level in directive " ++ Text.quote directive

def cause? : DirectiveError → Option LevelError
  | invalidLevel _ cause => some cause
  | empty | missingName _ => none

end DirectiveError

namespace Directive

/-- The name that addresses the suppression threshold instead of a logger. -/
def disableName : String :=
  "disable"

/-- Reads a directive whose surrounding blanks have been removed. -/
def parseTrimmed (directive : List Char) : Except DirectiveError Directive :=
  let text := String.ofList directive
  if directive = [] then
    .error .empty
  else
    match Text.cutFirst? '=' directive with
    | none =>
        match Level.parse text with
        | .error cause => .error (.invalidLevel text cause)
        | .ok level => .ok (.root level)
    | some (before, after) =>
        let name := String.ofList (Text.trim before)
        if name = "" then
          .error (.missingName text)
        else
          match Level.parse (String.ofList after) with
          | .error cause => .error (.invalidLevel text cause)
          | .ok level => .ok (if name = disableName then .disable level else .logger name level)

def parse (token : String) : Except DirectiveError Directive :=
  parseTrimmed (Text.trim token.toList)

end Directive

namespace Config

def add (config : Config) : Directive → Config
  | .root level => { config with root := some level }
  | .logger name level => { config with levels := config.levels.insert name level }
  | .disable level => { config with disable := some level }

def addToken (config : Config) (token : String) : Except DirectiveError Config :=
  (Directive.parse token).map config.add

/-- Reads directives up to the first one that is invalid. -/
def parse (directives : String) : Except DirectiveError Config :=
  (Text.pieces ',' directives.toList).foldlM (fun config token =>
    config.addToken (String.ofList token)) {}

/-- Reads the value of an environment variable. A variable that is not set, that is no text or that
is blank configures nothing. -/
def ofVariable (value : Option (List UInt8)) : Except DirectiveError Config :=
  match value.bind Text.Utf8.decode? with
  | none => .ok {}
  | some text => if Text.trim text.toList = [] then .ok {} else parse text

/-- The level of a namespace for a count of requests for more output. -/
def ofVerbosity (namespaceName : String) (verbosity : Nat) : Config :=
  let level := match verbosity with
    | 0 => Level.warning
    | 1 => Level.info
    | _ => Level.debug
  { levels := NameMap.insert ∅ namespaceName level }

end Config

end LogTree
