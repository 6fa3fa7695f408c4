import LogTree.Config

/-!
Configurations that are amended in place, one directive after another. What a directive has changed
before it fails would stay changed, since the next one finds the configuration as it was left.
-/

namespace LogTree.Config

/-- Something done to a configuration. If it fails, what it did until then stays done. -/
abbrev Amendment :=
  EStateM DirectiveError Config

namespace Amendment

/-- The level that stands in a directive. -/
def readLevel (directive level : List Char) : Amendment Level :=
  match Level.parse (String.ofList level) with
  | .ok level => return level
  | .error cause => throw (.invalidLevel (String.ofList directive) cause)

/-- Carries out one directive. -/
def carryOut (token : String) : Amendment Unit := do
  let directive := Text.trim token.toList
  if directive = [] then
    throw .empty
  match Text.cutFirst? '=' directive with
  | none =>
      let level ← readLevel directive directive
      modify fun config => { config with root := some level }
  | some (before, after) =>
      let name := String.ofList (Text.trim before)
      if name = "" then
        throw (.missingName (String.ofList directive))
      let level ← readLevel directive after
      if name = Directive.disableName then
        modify fun config => { config with disable := some level }
      else
        modify fun config => { config with levels := config.levels.insert name level }

end Amendment

/-- Carries out one directive and says why it was refused, if it was. -/
def amend (token : String) : StateM Config (Option DirectiveError) :=
  fun config =>
    match Amendment.carryOut token config with
    | .ok _ amended => (none, amended)
    | .error e left => (some e, left)

/-- Carries out one directive after another. If one is refused, the next one is taken up. -/
def amendAll (tokens : List String) : StateM Config (List (Option DirectiveError)) :=
  tokens.mapM amend

end LogTree.Config
