import LogTree.Text.Alphanumeric
import LogTree.Text.Pattern.Escape
import LogTree.Text.Pattern.State

/-!
Which texts are patterns, that is regular expressions. Nothing is ever matched with them here, so
only their form is read. Patterns have no counted repetitions, no classes by Unicode property and no
letters that match in both cases by the rules of Unicode.
-/

namespace LogTree.Text.Pattern

/-- Names of groups begin like a word; behind that they may have points and brackets. -/
def IsName : List Char → Prop
  | [] => False
  | c :: cs => (c = '_' ∨ isLetter c) ∧ ∀ d ∈ cs, isAlphanumeric d ∨ d ∈ ['_', '.', '[', ']']

instance : DecidablePred IsName
  | [] => isFalse id
  | _ :: _ => inferInstanceAs (Decidable (_ ∧ _))

def readName? (state : State) (text : List Char) : Option (State × List Char) :=
  let name := text.takeWhile (· ≠ '>')
  match text.dropWhile (· ≠ '>') with
  | [] => none
  | _ :: rest =>
      if IsName name ∧ name ∉ state.names then
        some ({ state.enter state.flags with names := name :: state.names }, rest)
      else
        none

/-- Reads switches, which hold for a group that begins with them or up to the end of the group in
which they stand. -/
def readSwitches? (state : State) (text : List Char) : Option (State × List Char) :=
  let switches := text.takeWhile (· ∉ [':', ')'])
  let flags := state.flags.switch switches
  if Flags.AreSwitches switches then
    match text.dropWhile (· ∉ [':', ')']) with
    | [] => none
    | ':' :: rest => some (state.enter flags, rest)
    | _ :: rest => if switches = [] then none else some (state.withSwitches flags, rest)
  else
    none

/-- Reads what follows the opening parenthesis of a group. Groups cannot look ahead or back. -/
def readGroup? (state : State) (text : List Char) : Option (State × List Char) :=
  match state.flags.next text with
  | '?' :: 'P' :: '<' :: rest => readName? state rest
  | '?' :: '<' :: rest => readName? state rest
  | '?' :: rest => readSwitches? state rest
  | rest => some (state.enter state.flags, rest)

def classNames : List String :=
  ["alnum", "alpha", "ascii", "blank", "cntrl", "digit", "graph", "lower", "print", "punct",
    "space", "upper", "word", "xdigit"]

def readNamedClass? : List Char → Option (Bool × List Char)
  | ':' :: text =>
      let negated := text.head? = some '^'
      let text := if negated then text.drop 1 else text
      match text.dropWhile (· ≠ ':') with
      | ':' :: ']' :: rest =>
          if String.ofList (text.takeWhile (· ≠ ':')) ∈ classNames then some (negated, rest)
          else none
      | _ => none
  | _ => none

def readMember? (flags : Flags) (c : Char) (rest : List Char) : Option (Escape × List Char) :=
  if c = '\\' then readEscape? flags rest else some (.literal c false, rest)

def isMember (flags : Flags) : Escape → Bool
  | .literal c _ => flags.admitsMember c
  | .kind negated => flags.admitsKind negated
  | .anchor | .boundary => false

def isRange (flags : Flags) : Escape → Escape → Bool
  | .literal a _, .literal b _ => flags.admitsMember a && flags.admitsMember b && a ≤ b
  | _, _ => false

/-- Reads a member or a range of a class, from its first character on, and gives what follows it. A
hyphen before a closing bracket or before another hyphen does not make a range. -/
def readRange? (flags : Flags) (c : Char) (rest : List Char) : Option (List Char) :=
  (readMember? flags c rest).bind fun (first, rest) =>
    match flags.next rest with
    | [] => none
    | '-' :: more =>
        if flags.ahead? more = some ']' ∨ flags.ahead? more = some '-' then
          if isMember flags first then some ('-' :: more) else none
        else
          match flags.next more with
          | [] => none
          | d :: more =>
              (readMember? flags d more).bind fun (last, rest) =>
                if isRange flags first last then some rest else none
    | rest => if isMember flags first then some rest else none

def readInClass? (state : State) (c : Char) (rest : List Char) : Option (State × List Char) :=
  if c = '^' ∧ state.place = .opened then
    if state.flags.admitsNegation then some ({ state with place := .negated }, rest) else none
  else if c = '-' ∧ state.place ≠ .inside then
    if state.flags.admitsMember c then some (state.withMember .hyphens, rest) else none
  else if c = ']' ∧ (state.place = .opened ∨ state.place = .negated) then
    if state.flags.admitsMember c then some (state.withMember .inside, rest) else none
  else if c = ']' then
    state.closeClass?.map fun state => (state, rest)
  else if c = '[' then
    match readNamedClass? rest with
    | some (negated, rest) =>
        if state.flags.admitsNamed negated then some (state.withMember .inside, rest) else none
    | none => some (state.openClass, rest)
  else if c ∈ ['&', '-', '~'] ∧ rest.head? = some c then
    some (state.operand, rest.drop 1)
  else
    (readRange? state.flags c rest).map fun rest => (state.withMember .inside, rest)

def readOutside? (state : State) (c : Char) (rest : List Char) : Option (State × List Char) :=
  match c with
  | '(' => readGroup? state rest
  | ')' => state.leave?.map fun state => (state, rest)
  | '|' => some ({ state with nesting := state.nesting.alternative, repeatable := false }, rest)
  | '[' => some (state.openClass, rest)
  | '?' | '*' | '+' =>
      if state.repeatable then
        some ({ state with nesting := state.nesting.repeated },
          if rest.head? = some '?' then rest.drop 1 else rest)
      else
        none
  | '\x7b' => none
  | '.' => if state.flags.unicode then some (state.withPart, rest) else none
  | '^' | '$' => some (state.withPart, rest)
  | '\\' =>
      (readEscape? state.flags rest).bind fun (escape, rest) =>
        let admitted := match escape with
          | .literal c isOctet => state.flags.admitsLiteral c isOctet
          | .kind negated => state.flags.admitsKind negated
          | .anchor => true
          | .boundary => !state.flags.unicode
        if admitted then some (state.withPart, rest) else none
  | c => if state.flags.admitsLiteral c false then some (state.withPart, rest) else none

def readPart? (state : State) (c : Char) (rest : List Char) : Option (State × List Char) :=
  let text := c :: rest
  let next := state.flags.next text
  if next.length < text.length then some (state, next)
  else if state.brackets = 0 then readOutside? state c rest
  else readInClass? state c rest

def read? : Nat → State → List Char → Option State
  | _, state, [] => some state
  | skipped + 1, state, _ :: rest => read? skipped state rest
  | 0, state, c :: rest =>
      (readPart? state c rest).bind fun (next, after) =>
        read? (rest.length - after.length) next rest

def deepest : Nat :=
  250

end Pattern

/-- Whether a text is a pattern: its parts can be read, all its groups and classes are closed, and
it is not nested too deeply. -/
def isPattern (text : List Char) : Bool :=
  match Pattern.read? 0 {} text with
  | some state => state.outer.isEmpty && state.nesting.depth ≤ Pattern.deepest
  | none => false

end LogTree.Text
