import MediaServer.Message.Header

namespace MediaServer

/-- The body of a response: bytes whose number is known, the content of an open file that is
read piece by piece, or something open that cannot be read. -/
inductive Payload
  | bytes (content : Bytes)
  | file (content : Bytes)
  | unreadable
  deriving DecidableEq, Repr

structure Response where
  status : Nat
  headers : Headers
  payload : Payload
  deriving DecidableEq, Repr

def Payload.content? : Payload → Option Bytes
  | .bytes content => some content
  | .file content => some content
  | .unreadable => none

/-- The most bytes that are read from a file at once. -/
def chunkSize : Nat := 64 * 1024

/-- The pieces a file is read in, when the reader gives `sizes n` bytes at the n-th turn, but
at least one byte and no more than fit. The end of the file ends the pieces. -/
def readChunks (sizes : Nat → Nat) : (fuel turn : Nat) → Bytes → List Bytes
  | 0, _, _ => []
  | fuel + 1, turn, content =>
    if content.isEmpty then []
    else
      let size := min chunkSize (max 1 (sizes turn))
      content.take size :: readChunks sizes fuel (turn + 1) (content.drop size)

def Payload.chunks (sizes : Nat → Nat) : Payload → List Bytes
  | .bytes content => if content.isEmpty then [] else [content]
  | .file content => readChunks sizes content.length 0 content
  | .unreadable => []

end MediaServer
