import LogTree.Config
import LogTree.Registry.Lookup

namespace LogTree.Registry

def configureLogger (registry : Registry) (name : String) (level : Level) : Registry :=
  let located := registry.obtain name
  located.registry.setLevel located.id level

/-- Sets the level of the root, those of the named loggers in ascending order and the suppression
threshold, as far as the configuration has them. -/
def configure (registry : Registry) (config : Config) : Registry :=
  let registry := match config.root with
    | none => registry
    | some level => registry.setLevel rootId level
  let registry := config.levels.entries.foldl (fun registry entry =>
    registry.configureLogger entry.1 entry.2) registry
  match config.disable with
  | none => registry
  | some level => registry.disable level

/-- Sets the level of a library's namespace to warnings unless it has a level, and says whether it
did. -/
def installDefaultLevel (registry : Registry) (name : String) : Registry × Bool :=
  let located := registry.obtain name
  if (located.registry.level located.id).isNotset then
    (located.registry.setLevel located.id .warning, true)
  else
    (located.registry, false)

end LogTree.Registry
