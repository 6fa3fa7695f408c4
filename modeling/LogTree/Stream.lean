import LogTree.Handler
import LogTree.Text.Utf8

/-!
Streams of octets. A stream remembers who wrote what, so that the parts of several writers can be
told apart; its contents do not depend on that.
-/

namespace LogTree

inductive Writer where
  | handler (id : HandlerId)
  /-- A record for which there is no handler at all. -/
  | lastResort
  | owner
deriving DecidableEq

/-- The octets of one accepted write. -/
structure Piece where
  writer : Writer
  octets : List UInt8
deriving DecidableEq

abbrev Stream :=
  List Piece

namespace Stream

def octets (stream : Stream) : List UInt8 :=
  stream.flatMap Piece.octets

def contents (stream : Stream) : String :=
  Text.Utf8.decodeLossy stream.octets

def contribution (stream : Stream) (writer : Writer) : List UInt8 :=
  octets (stream.filter fun piece => piece.writer = writer)

end Stream

namespace WriterFault

/-- How many of the octets offered in one write are accepted. -/
def accepted (fault : Option WriterFault) (offered : Nat) : Nat :=
  match fault with
  | some refusesWrites => 0
  | some (writesShort limit _) => min limit offered
  | some failsFlush | some abortsOnce | none => offered

theorem accepted_le (fault : Option WriterFault) (offered : Nat) :
    accepted fault offered ≤ offered := by
  unfold accepted
  split <;> omega

def writeAll (fault : Option WriterFault) (writer : Writer) (octets : List UInt8) : Stream :=
  let count := accepted fault octets.length
  if count = 0 then
    []
  else
    { writer, octets := octets.take count } :: writeAll fault writer (octets.drop count)
termination_by octets.length
decreasing_by
  have hle := accepted_le fault octets.length
  simp only [List.length_drop]
  omega

end WriterFault

end LogTree
