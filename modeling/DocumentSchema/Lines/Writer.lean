import DocumentSchema.Json.Printer
import DocumentSchema.SchemaError
import DocumentSchema.Text.Utf8

/-!
# Writing lines

A document is written as its compact text and a line feed. The text itself holds no line feed, so
what was written can be read back line by line.

A stream takes octets until its room is used up. Writing then fails, with all octets taken for which
there was room.
-/

namespace DocumentSchema

/-- The line of a document. -/
def documentLine (document : Json) : Octets := encodeText (document.text ++ "\n")

/-- A stream that has taken octets, and the room left in it, if it is bounded. -/
structure Stream where
  octets : Octets := []
  room : Option Nat := none

namespace Stream

/-- The octets fit into the stream. -/
def fits (stream : Stream) (octets : Octets) : Bool :=
  match stream.room with
  | none => true
  | some room => octets.length ≤ room

/-- The stream after octets, all of them or those for which there is room. -/
def take (stream : Stream) (octets : Octets) : Stream :=
  match stream.room with
  | none => { stream with octets := stream.octets ++ octets }
  | some room =>
    { octets := stream.octets ++ octets.take room, room := some (room - octets.length) }

/-- The stream after a document is written to it. -/
def add (stream : Stream) (document : Json) : Stream × Except Failure Unit :=
  let line := documentLine document
  (stream.take line,
    if stream.fits line then .ok () else .error (.io "failed to write document"))

/-- The stream after documents, and what became of each. -/
def addAll : Stream → List Json → Stream × List (Except Failure Unit)
  | stream, [] => (stream, [])
  | stream, document :: rest =>
    let (stream, result) := stream.add document
    let (stream, results) := stream.addAll rest
    (stream, result :: results)

end Stream

end DocumentSchema
