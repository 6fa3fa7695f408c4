import LogTree.Text.Blank

namespace LogTree.Text.Pattern

structure Flags where
  /-- Blanks and comments between the parts do not count. -/
  verbose : Bool := false
  caseless : Bool := false
  /-- The pattern is about characters and not about octets. -/
  unicode : Bool := true
deriving DecidableEq

/-- The text behind blanks and comments, which end with their line. -/
def skipBlanks (inComment : Bool) : List Char → List Char
  | [] => []
  | c :: cs =>
      if inComment then skipBlanks (c ≠ '\n') cs
      else if c = '#' then skipBlanks true cs
      else if isBlank c then skipBlanks false cs
      else c :: cs

namespace Flags

def letters : List Char :=
  ['i', 'm', 's', 'U', 'u', 'R', 'x', '-']

/-- Every letter stands at most once, and the sign stands before a letter. -/
def AreSwitches (switches : List Char) : Prop :=
  (∀ c ∈ switches, c ∈ letters) ∧ switches.Nodup ∧ switches.getLast? ≠ some '-'

instance (switches : List Char) : Decidable (AreSwitches switches) :=
  inferInstanceAs (Decidable (_ ∧ _))

def switch (flags : Flags) (switches : List Char) : Flags :=
  let state (letter : Char) (before : Bool) : Bool :=
    if letter ∈ switches.takeWhile (· ≠ '-') then true
    else if letter ∈ switches then false
    else before
  { verbose := state 'x' flags.verbose, caseless := state 'i' flags.caseless,
    unicode := state 'u' flags.unicode }

def next (flags : Flags) (text : List Char) : List Char :=
  if flags.verbose then skipBlanks false text else text

/-- The character by which a hyphen before a text is judged. It may stand behind blanks, and in a
comment if that is where they end. -/
def ahead? (flags : Flags) (text : List Char) : Option Char :=
  if flags.verbose then
    let found := match text.dropWhile isBlank with
      | '#' :: comment => (comment.dropWhile isBlank).head?
      | rest => rest.head?
    found.or text.head?
  else
    text.head?

/-- Characters can be matched in both cases only if they are octets. -/
def folds (flags : Flags) : Bool :=
  !(flags.unicode && flags.caseless)

/-- Whether a character may stand for itself. Octets must be ASCII to be text on their own. -/
def admitsLiteral (flags : Flags) (c : Char) (isOctet : Bool) : Bool :=
  flags.folds && (flags.unicode || !isOctet || c.toNat < 0x80)

def admitsMember (flags : Flags) (c : Char) : Bool :=
  flags.folds && (flags.unicode || c.toNat < 0x80)

/-- Whether a class may stand for the characters that are not in it. Octets that are not in a class
of ASCII characters need not be text on their own. -/
def admitsNegation (flags : Flags) : Bool :=
  flags.unicode

def admitsNamed (flags : Flags) (negated : Bool) : Bool :=
  flags.folds && (flags.admitsNegation || !negated)

def admitsKind (flags : Flags) (negated : Bool) : Bool :=
  !flags.unicode && !negated

end Flags

end LogTree.Text.Pattern
