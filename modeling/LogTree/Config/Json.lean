import LogTree.Config
import LogTree.Json.Decode

namespace LogTree.Config

def optionalLevelToJson : Option Level → Json
  | none => .null
  | some level => level.toJson

def toJson (config : Config) : Json :=
  .object [
    ("disable", optionalLevelToJson config.disable),
    ("levels", .object (config.levels.entries.map fun entry => (entry.1, entry.2.toJson))),
    ("root", optionalLevelToJson config.root)]

/-- Decodes the levels of the named loggers in ascending order of the names. -/
def levelsOfJson : Json → Except DecodeError (NameMap Level)
  | .object fields =>
      (Json.members fields).entries.foldlM (fun levels entry =>
        (Level.ofJson entry.2).map (levels.insert entry.1)) ∅
  | value => .error (.mismatch value .map)

def addMember (config : Config) : String × Json → Except DecodeError Config
  | ("disable", value) =>
      (Level.optionalOfJson value).map fun disable => { config with disable }
  | ("levels", value) => (levelsOfJson value).map fun levels => { config with levels }
  | ("root", value) => (Level.optionalOfJson value).map fun root => { config with root }
  | _ => .ok config

/-- The members for which the elements of an array stand. -/
def elementNames : List String :=
  ["root", "levels", "disable"]

/-- Decodes an object, in ascending order of its members, or an array of the three parts, of which
the last ones may be left out. -/
def ofJson : Json → Except DecodeError Config
  | .object fields => (Json.members fields).entries.foldlM addMember {}
  | .array elements => do
      let config ← (elementNames.zip elements).foldlM addMember {}
      if elementNames.length < elements.length then
        .error (.tooManyElements elements.length)
      else
        .ok config
  | value => .error (.mismatch value .config)

/-- Decodes what the configuration is encoded as, and says whether that is the configuration
again. -/
def readsBack (config : Config) : Except DecodeError Bool :=
  (ofJson config.toJson).map (· == config)

end LogTree.Config
