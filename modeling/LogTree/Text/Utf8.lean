namespace LogTree.Text.Utf8

def encodeChar (c : Char) : List UInt8 :=
  let code := c.toNat
  if code < 0x80 then
    [code.toUInt8]
  else if code < 0x800 then
    [(0xc0 + code / 64).toUInt8, (0x80 + code % 64).toUInt8]
  else if code < 0x10000 then
    [(0xe0 + code / 4096).toUInt8, (0x80 + code / 64 % 64).toUInt8, (0x80 + code % 64).toUInt8]
  else
    [(0xf0 + code / 262144).toUInt8, (0x80 + code / 4096 % 64).toUInt8,
      (0x80 + code / 64 % 64).toUInt8, (0x80 + code % 64).toUInt8]

def encode (text : String) : List UInt8 :=
  text.toList.flatMap encodeChar

/-- A character of which some octets have been read. The bounds on the next octet exclude overlong
forms, surrogates and codes beyond the last one. -/
structure Partial where
  code : Nat
  missing : Nat
  least : Nat := 0x80
  greatest : Nat := 0xbf
deriving DecidableEq

inductive Reading where
  | character (c : Char)
  | unfinished (sequence : Partial)
  | malformed
deriving DecidableEq

def begin (octet : UInt8) : Reading :=
  let o := octet.toNat
  if o < 0x80 then .character (Char.ofNat o)
  else if o < 0xc2 then .malformed
  else if o < 0xe0 then .unfinished { code := o - 0xc0, missing := 1 }
  else if o = 0xe0 then .unfinished { code := 0, missing := 2, least := 0xa0 }
  else if o = 0xed then .unfinished { code := 0xd, missing := 2, greatest := 0x9f }
  else if o < 0xf0 then .unfinished { code := o - 0xe0, missing := 2 }
  else if o = 0xf0 then .unfinished { code := 0, missing := 3, least := 0x90 }
  else if o < 0xf4 then .unfinished { code := o - 0xf0, missing := 3 }
  else if o = 0xf4 then .unfinished { code := 4, missing := 3, greatest := 0x8f }
  else .malformed

def Partial.continue (sequence : Partial) (octet : UInt8) : Reading :=
  let o := octet.toNat
  if sequence.least ≤ o ∧ o ≤ sequence.greatest then
    let code := 64 * sequence.code + (o - 0x80)
    if sequence.missing ≤ 1 then .character (Char.ofNat code)
    else .unfinished { code, missing := sequence.missing - 1 }
  else
    .malformed

mutual

/-- The characters of a text from a place between two characters; `none` stands for a malformed
stretch, which is as long as it could still have become a character. -/
def pieces : List UInt8 → List (Option Char)
  | [] => []
  | octet :: rest =>
      match begin octet with
      | .character c => some c :: pieces rest
      | .unfinished sequence => piecesAfter sequence rest
      | .malformed => none :: pieces rest

/-- The same from a place inside a character. An octet that cannot continue it is read afresh. -/
def piecesAfter (sequence : Partial) : List UInt8 → List (Option Char)
  | [] => [none]
  | octet :: rest =>
      match sequence.continue octet with
      | .character c => some c :: pieces rest
      | .unfinished longer => piecesAfter longer rest
      | .malformed =>
          none ::
            match begin octet with
            | .character c => some c :: pieces rest
            | .unfinished other => piecesAfter other rest
            | .malformed => none :: pieces rest

end

/-- The text, with the replacement character for each malformed stretch. -/
def decodeLossy (octets : List UInt8) : String :=
  String.ofList ((pieces octets).map fun piece => piece.getD '\ufffd')

def decode? (octets : List UInt8) : Option String :=
  ((pieces octets).mapM id).map String.ofList

end LogTree.Text.Utf8
