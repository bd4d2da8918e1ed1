import MediaServer.Text.Utf8
import MediaServer.Lifetime.Guard

namespace MediaServer

/-- What comes after the last piece of a body: its end, a failure, or nothing any more. -/
inductive Ending
  | complete
  | failed (reason : String)
  | stalled
  deriving DecidableEq, Repr

structure Incoming where
  chunks : List Bytes
  ending : Ending
  deriving DecidableEq, Repr

inductive BodyFault
  | tooLarge (limit : Nat)
  | consumed
  | cancelled
  | failed (reason : String)
  deriving DecidableEq, Repr

def BodyFault.message : BodyFault → String
  | .tooLarge limit => "request body exceeds " ++ toString limit ++ " bytes"
  | .consumed => "request body already consumed"
  | .cancelled => "request cancelled while reading body"
  | .failed reason => "failed to read request body: " ++ reason

inductive Reading
  | whole (bytes : Bytes)
  | refused (fault : BodyFault)
  | waiting
  deriving DecidableEq, Repr

def Reading.after (chunk : Bytes) : Reading → Reading
  | .whole bytes => .whole (chunk ++ bytes)
  | other => other

/-- At each turn either the guard or the body may be looked at first, as `guardFirst` has it. -/
abbrev Schedule := Nat → Bool

/-- Collects a body after `size` bytes of it. A turn ends the reading if the guard was
dropped and is looked at first, or if the body has nothing to give. -/
def Ending.collect (ending : Ending) (limit : Nat) (guard : Guard) (guardFirst : Schedule) :
    (turn size : Nat) → List Bytes → Reading
  | turn, _, [] =>
    if guard.isCancelled && guardFirst turn then .refused .cancelled
    else
      match ending with
      | .complete => .whole []
      | .failed reason => .refused (.failed reason)
      | .stalled => if guard.isCancelled then .refused .cancelled else .waiting
  | turn, size, chunk :: chunks =>
    if guard.isCancelled && guardFirst turn then .refused .cancelled
    else if limit < size + chunk.length then .refused (.tooLarge limit)
    else (ending.collect limit guard guardFirst (turn + 1) (size + chunk.length) chunks).after chunk

/-- Reads a whole body of at most `limit` bytes. A body is handed out once. -/
def Incoming.read (body? : Option Incoming) (limit : Nat) (guard : Guard) (guardFirst : Schedule) :
    Reading × Option Incoming :=
  match body? with
  | none => (.refused .consumed, none)
  | some body => (body.ending.collect limit guard guardFirst 0 0 body.chunks, none)

end MediaServer
