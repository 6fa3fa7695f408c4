import LogTree.NameMap.Lemmas
import LogTree.Proofs.EnclosingNamespaces
import LogTree.Session.Command

/-!
The levels of a registry without its loggers: a table that holds for each name the level written
last. The level that counts for a name is read off the table by going through the texts before its
dots.
-/

namespace LogTree

theorem Level.isNotset_iff {level : Level} : level.isNotset = true ↔ level = .notset := by
  obtain ⟨severity, hlt⟩ := level
  simp [isNotset, notset]

abbrev LevelTable :=
  NameMap Level

namespace LevelTable

/-- The entry of a name. The two names of the root share one. -/
def entryName (name : String) : String :=
  if Namespace.IsRoot name then Namespace.rootName else name

/-- The level written last for a name. Where none was written, no level is set. -/
def read (table : LevelTable) (name : String) : Level :=
  table.getD (entryName name) .notset

def write (table : LevelTable) (name : String) (level : Level) : LevelTable :=
  table.insert (entryName name) level

def fresh : LevelTable :=
  write ∅ Namespace.rootName .warning

def writeDefault (table : LevelTable) (name : String) : LevelTable :=
  if table.read name = .notset then table.write name .warning else table

def configure (table : LevelTable) (config : Config) : LevelTable :=
  let table := match config.root with
    | none => table
    | some level => table.write Namespace.rootName level
  config.levels.entries.foldl (fun table entry => table.write entry.1 entry.2) table

def afterRegistryCommand (table : LevelTable) : RegistryCommand → LevelTable
  | .apply config => table.configure config
  | .configure directives =>
      match Config.parse directives with
      | .error _ => table
      | .ok config => table.configure config
  | .configureVerbosity name verbosity => table.configure (Config.ofVerbosity name verbosity)
  | .installDefaultLevel name => table.writeDefault name
  | .names | .contains _ | .chain _ | .same _ _ | .disable _ | .isDisabled _ | .classLogger _ =>
      table

def after (key : String) (table : LevelTable) : Command → LevelTable
  | .registry addressed command =>
      if addressed = key then table.afterRegistryCommand command else table
  | .logger address (.setLevel level) =>
      if address.registry = key then table.write address.name level else table
  | _ => table

def afterRun (key : String) (commands : List Command) : LevelTable :=
  commands.foldl (after key) fresh

def firstSet (levels : List Level) : Level :=
  (levels.find? (· ≠ .notset)).getD .notset

/-- The level that counts for a name: the first one that is set among those of the name, of the
texts before its dots, the longest first, and of the root. -/
def resolve (table : LevelTable) (name : String) : Level :=
  firstSet ((name :: Namespace.outers name ++ [Namespace.rootName]).map table.read)

end LevelTable

def Command.writesLevels (key : String) : Command → Bool
  | .registry addressed (.apply _) | .registry addressed (.configure _)
  | .registry addressed (.configureVerbosity _ _)
  | .registry addressed (.installDefaultLevel _) => addressed = key
  | .logger address (.setLevel _) => address.registry = key
  | _ => false

/-- A level is set on no logger but one that is addressed by its own name. -/
def Command.SetsLevelByName : Command → Prop
  | .logger address (.setLevel _) => address.generations = 0
  | _ => True

namespace LevelTable

theorem read_write (table : LevelTable) (name other : String) (level : Level) :
    (table.write name level).read other =
      if entryName other = entryName name then level else table.read other := by
  rw [read, write, NameMap.getD, NameMap.get?_insert]
  split <;> rfl

theorem entryName_eq_iff {name other : String} :
    entryName name = entryName other ↔
      name = other ∨ Namespace.IsRoot name ∧ Namespace.IsRoot other := by
  constructor
  · intro heq
    rw [entryName, entryName] at heq
    split at heq
    · next hname =>
        split at heq
        · next hother =>
            exact .inr ⟨hname, hother⟩
        · next hother =>
            exact absurd (.inr heq.symm) hother
    · next hname =>
        split at heq
        · exact absurd (.inr heq) hname
        · exact .inl heq
  · rintro (rfl | ⟨hname, hother⟩)
    · rfl
    · rw [entryName, entryName, if_pos hname, if_pos hother]

theorem read_of_isRoot (table : LevelTable) {name : String} (h : Namespace.IsRoot name) :
    table.read name = table.read Namespace.rootName := by
  rw [read, read, entryName, if_pos h, entryName, if_pos (.inr rfl)]

theorem firstSet_cons (level : Level) (rest : List Level) :
    firstSet (level :: rest) = if level = .notset then firstSet rest else level := by
  rw [firstSet, List.find?_cons]
  split
  · next hset =>
      rw [if_neg (of_decide_eq_true hset)]
      rfl
  · next hnotset =>
      rw [if_pos (Decidable.not_not.mp (of_decide_eq_false hnotset))]
      rfl

theorem resolve_of_enclosing?_eq_none (table : LevelTable) {name : String}
    (h : Namespace.enclosing? name = none) :
    table.resolve name =
      if table.read name = .notset then table.read Namespace.rootName else table.read name := by
  have hroot : firstSet [table.read Namespace.rootName] = table.read Namespace.rootName := by
    rw [firstSet_cons]
    split
    · next hnotset =>
        exact hnotset.symm
    · rfl
  rw [resolve, Namespace.outers_of_enclosing?_eq_none h, List.singleton_append, List.map_cons,
    List.map_singleton, firstSet_cons, hroot]

theorem resolve_of_enclosing? (table : LevelTable) {name outer : String}
    (h : Namespace.enclosing? name = some outer) :
    table.resolve name =
      if table.read name = .notset then table.resolve outer else table.read name := by
  rw [resolve, Namespace.outers_of_enclosing? h, List.cons_append, List.map_cons, firstSet_cons]
  rfl

theorem resolve_of_isRoot (table : LevelTable) {name : String} (h : Namespace.IsRoot name) :
    table.resolve name = table.read Namespace.rootName := by
  have henclosing : Namespace.enclosing? name = none := by
    rcases h with rfl | rfl <;> rfl
  rw [resolve_of_enclosing?_eq_none table henclosing, table.read_of_isRoot h]
  exact ite_self _

theorem after_of_not_writesLevels {key : String} {command : Command}
    (h : command.writesLevels key = false) (table : LevelTable) :
    table.after key command = table := by
  cases command with
  | registry addressed command =>
      cases command <;> simp_all [Command.writesLevels, after, afterRegistryCommand]
  | logger address command =>
      cases command <;> simp_all [Command.writesLevels, after]
  | _ => rfl

theorem afterRun_filter (key : String) (commands : List Command) :
    afterRun key (commands.filter (Command.writesLevels key)) = afterRun key commands := by
  rw [afterRun, List.foldl_filter, afterRun]
  congr
  funext table command
  split
  · rfl
  · next hwrites =>
      exact (after_of_not_writesLevels (by simpa using hwrites) table).symm

end LevelTable

end LogTree
