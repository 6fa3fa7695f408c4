import LogTree.Text.Blank
import LogTree.Text.Digits
import LogTree.Text.Quoted

namespace LogTree

/-- A severity. The greater the number, the more severe; zero stands for a level that is not set. -/
structure Level where
  severity : Nat
  severity_lt : severity < UInt32.size := by decide
deriving DecidableEq

namespace Level

def notset : Level := { severity := 0 }

def debug : Level := { severity := 10 }

def info : Level := { severity := 20 }

def warning : Level := { severity := 30 }

def error : Level := { severity := 40 }

def critical : Level := { severity := 50 }

instance : Inhabited Level :=
  ⟨notset⟩

instance : LE Level :=
  ⟨fun a b => a.severity ≤ b.severity⟩

instance : LT Level :=
  ⟨fun a b => a.severity < b.severity⟩

instance (a b : Level) : Decidable (a ≤ b) :=
  inferInstanceAs (Decidable (a.severity ≤ b.severity))

instance (a b : Level) : Decidable (a < b) :=
  inferInstanceAs (Decidable (a.severity < b.severity))

instance : Max Level :=
  maxOfLe

instance : Ord Level :=
  ⟨fun a b => compare a.severity b.severity⟩

theorem le_def {a b : Level} : a ≤ b ↔ a.severity ≤ b.severity :=
  Iff.rfl

def isNotset (level : Level) : Bool :=
  level.severity == 0

def name? (level : Level) : Option String :=
  match level.severity with
  | 0 => some "NOTSET"
  | 10 => some "DEBUG"
  | 20 => some "INFO"
  | 30 => some "WARNING"
  | 40 => some "ERROR"
  | 50 => some "CRITICAL"
  | _ => none

/-- A level as it is shown in records and stored in configurations. -/
def text (level : Level) : String :=
  match level.name? with
  | some name => name
  | none => "Level " ++ toString level.severity

def describe (level : Level) : String :=
  "Level(" ++ toString level.severity ++ ")"

def words : List (String × Level) :=
  [("NOTSET", notset), ("DEBUG", debug), ("INFO", info), ("WARNING", warning), ("WARN", warning),
    ("ERROR", error), ("CRITICAL", critical), ("FATAL", critical)]

def ofNat? (severity : Nat) : Option Level :=
  if h : severity < UInt32.size then some ⟨severity, h⟩ else none

end Level

structure LevelError where
  input : String
deriving DecidableEq

def LevelError.message (e : LevelError) : String :=
  "unknown log level: " ++ Text.quote e.input

/-- Reads a word for a level, in any case of its letters, or a severity; blanks around it do not
count. An error keeps the whole input. -/
def Level.parse (input : String) : Except LevelError Level :=
  let word := Text.upperAscii (Text.trim input.toList)
  match Level.words.lookup (String.ofList word) with
  | some level => .ok level
  | none =>
      match (Text.readNumber? word).bind Level.ofNat? with
      | some level => .ok level
      | none => .error { input }

end LogTree
