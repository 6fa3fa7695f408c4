import LogTree.Text.Octets
import LogTree.Text.Pattern
import LogTree.Text.Split
import LogTree.Trace

/-!
The rules by which events are chosen, and how they are written: a limit such as `info`, a target
such as `logging`, or a target with a limit such as `logging=debug`. Between target and limit may
stand brackets that narrow the rule to a span, to a field, or to both: `logging[span{field}]=debug`.
-/

namespace LogTree

inductive RuleScope where
  | events
  | withField (name : String)
  /-- Nothing but spans. No event here lies in a span, so such a rule chooses none. -/
  | spans
deriving DecidableEq

namespace RuleScope

def Covers (fields : List String) : RuleScope → Prop
  | events => True
  | withField name => name ∈ fields
  | spans => False

instance (fields : List String) : DecidablePred (Covers fields)
  | events => isTrue trivial
  | withField name => inferInstanceAs (Decidable (name ∈ fields))
  | spans => isFalse id

/-- A scope with a field is narrower than one without; of two fields the later name counts as the
narrower. -/
def Narrower : RuleScope → RuleScope → Prop
  | withField a, withField b => b < a
  | withField _, _ => True
  | _, _ => False

instance : DecidableRel Narrower
  | withField a, withField b => inferInstanceAs (Decidable (b < a))
  | withField _, events => isTrue trivial
  | withField _, spans => isTrue trivial
  | events, _ => isFalse id
  | spans, _ => isFalse id

end RuleScope

/-- One rule of a filter, about the targets that begin with a text. -/
structure FilterRule where
  target : List Char := []
  scope : RuleScope := .events
  /-- The least severity that is shown; nothing is shown without one. -/
  least : Option Severity := some .trace
deriving DecidableEq

namespace FilterRule

def Concerns (target : String) (fields : List String) (rule : FilterRule) : Prop :=
  rule.target <+: target.toList ∧ rule.scope.Covers fields

instance (target : String) (fields : List String) : DecidablePred (Concerns target fields) :=
  fun _ => inferInstanceAs (Decidable (_ ∧ _))

/-- Of two rules about one target the one that names more of it is the more specific, and of two
that name as much of it the one with the narrower scope. -/
def MoreSpecific (a b : FilterRule) : Prop :=
  b.target.length < a.target.length ∨
    a.target.length = b.target.length ∧ a.scope.Narrower b.scope

instance : DecidableRel MoreSpecific :=
  fun _ _ => inferInstanceAs (Decidable (_ ∨ _))

def limits : List (String × Option Severity) :=
  [("off", none), ("error", some .error), ("warn", some .warn), ("info", some .info),
    ("debug", some .debug), ("trace", some .trace)]

def limit? (text : List Char) : Option (Option Severity) :=
  match (Text.readNumber? text).bind (limits[·]?) with
  | some (_, least) => some least
  | none => limits.lookup (String.ofList (Text.lowerAscii text))

def StartsRule (c : Char) : Prop :=
  Text.isAlphanumeric c ∨ c ∈ ['-', ':', '_']

instance : DecidablePred StartsRule :=
  fun _ => inferInstanceAs (Decidable (_ ∨ _))

/-- The scope of a field, which may be narrowed to the values that are a number or fit a pattern.
Values are known of spans only. -/
def fieldScope? (inSpan : Bool) (field : List Char) : Option RuleScope :=
  match Text.pieces '=' field with
  | _ :: value :: _ => if Text.isNumber value || Text.isPattern value then some .spans else none
  | _ => some (if inSpan then .spans else .withField (String.ofList field))

inductive Fault where
  | malformed
  /-- One of its parts would begin or end inside a character. Reading breaks down there. -/
  | dividesCharacter
deriving DecidableEq

/-- How far a rule has been read. Parts that are still open are known by their first position. -/
inductive Reading where
  | start
  /-- A target, or a limit for all targets. -/
  | head (first : Nat)
  | span (target : List Char) (first : Nat)
  /-- A field of the spans, or of the events too if no span has been named. -/
  | field (target : List Char) (inSpan : Bool) (first : Nat)
  | fields (rule : FilterRule)
  | scope (rule : FilterRule)
  | limit (rule : FilterRule) (first : Nat)

namespace Reading

def rest (text : List Char) (first : Nat) : Except Fault (List Char) :=
  match Text.dropOctets? first text with
  | some part => .ok part
  | none => .error .dividesCharacter

def part (text : List Char) (first next : Nat) : Except Fault (List Char) :=
  match (Text.dropOctets? first text).bind (Text.takeOctets? (next - first)) with
  | some part => .ok part
  | none => .error .dividesCharacter

def step (text : List Char) (reading : Reading) : Char × Nat → Except Fault Reading
  | (c, position) =>
    match reading, c with
    | start, '[' => .ok (span [] (position + 1))
    | start, c => if StartsRule c then .ok (head position) else .error .malformed
    | head first, '=' => do
        let target ← part text first position
        return limit { target } (position + 1)
    | head first, '[' => do
        let target ← part text first position
        return span target (position + 1)
    | head first, _ => .ok (head first)
    | span target first, ']' => do
        let _ ← part text first position
        return scope { target, scope := .spans }
    | span target first, '\x7b' => do
        let name ← part text first position
        return field target (name ≠ []) (position + 1)
    | span target first, _ => .ok (span target first)
    | field target inSpan first, '\x7d' => do
        match ← part text first position with
        | [] => .error .malformed
        | name =>
            match fieldScope? inSpan name with
            | some found => .ok (fields { target, scope := found })
            | none => .error .malformed
    | field target inSpan first, _ => .ok (field target inSpan first)
    | fields rule, ']' => .ok (scope rule)
    | fields _, _ => .error .malformed
    | scope rule, '=' => .ok (limit rule (position + 1))
    | scope _, _ => .error .malformed
    | limit rule first, _ => .ok (limit rule first)

/-- The rule of a text that has been read to its end. What has no limit is shown in full. -/
def finish (text : List Char) : Reading → Except Fault FilterRule
  | head first => do
      let word ← rest text first
      match limit? word with
      | some least => return { least }
      | none => return { target := word }
  | scope rule => .ok rule
  | limit rule first => do
      match ← rest text first with
      | [] => return rule
      | word =>
          match limit? word with
          | some least => return { rule with least }
          | none => .error .malformed
  | start | span .. | field .. | fields _ => .error .malformed

end Reading

/-- Reads a rule. The parts are found as if there were no blanks at the ends of the text, but are
cut from the text with them, so `info` with a blank behind it is a target and not a limit, and a
wide blank before a rule can put the end of a part inside a character. -/
def parse (text : List Char) : Except Fault FilterRule := do
  let reading ← (Text.octetPositions 0 (Text.trim text)).foldlM (Reading.step text) Reading.start
  reading.finish text

end FilterRule

end LogTree
