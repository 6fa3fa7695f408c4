import LogTree.Text.Digits
import LogTree.Text.Pattern.Flags

namespace LogTree.Text.Pattern

inductive Escape where
  /-- A character, which may be given as an octet. -/
  | literal (c : Char) (isOctet : Bool)
  /-- The digits, the blanks or the word characters, or all others. -/
  | kind (negated : Bool)
  | anchor
  | boundary

def hexDigit? (c : Char) : Option Nat :=
  if c.isDigit then some (digitValue c)
  else if 'a' ≤ c ∧ c ≤ 'f' then some (c.toNat - 87)
  else if 'A' ≤ c ∧ c ≤ 'F' then some (c.toNat - 55)
  else none

def readHex? (flags : Flags) (value : Nat) : Nat → List Char → Option (Nat × List Char)
  | 0, text => some (value, text)
  | count + 1, text =>
      match flags.next text with
      | [] => none
      | c :: rest => (hexDigit? c).bind fun digit => readHex? flags (16 * value + digit) count rest

def readCode? (flags : Flags) (count : Nat) (isOctet : Bool) (text : List Char) :
    Option (Escape × List Char) :=
  (readHex? flags 0 count text).bind fun (code, rest) =>
    if code.isValidChar then some (.literal (Char.ofNat code) isOctet, rest) else none

def letterEscapes : List (Char × Escape) :=
  [('a', .literal '\x07' false), ('t', .literal '\t' false), ('n', .literal '\n' false),
    ('v', .literal '\x0b' false), ('f', .literal '\x0c' false), ('r', .literal '\r' false),
    ('d', .kind false), ('D', .kind true), ('s', .kind false), ('S', .kind true),
    ('w', .kind false), ('W', .kind true), ('A', .anchor), ('z', .anchor), ('b', .boundary),
    ('B', .boundary), ('<', .boundary), ('>', .boundary)]

/-- Reads what follows a backslash, and gives the text behind it. References to groups and classes
by property are not known. -/
def readEscape? (flags : Flags) : List Char → Option (Escape × List Char)
  | [] => none
  | c :: rest =>
      if c = 'x' then readCode? flags 2 true rest
      else if c = 'u' then readCode? flags 4 false rest
      else if c = 'U' then readCode? flags 8 false rest
      else
        match letterEscapes.lookup c with
        | some escape => some (escape, rest)
        | none =>
            if c.toNat < 0x80 ∧ ¬ c.isAlphanum then some (.literal c false, rest) else none

end LogTree.Text.Pattern
