import MediaServer.Message.Request
import MediaServer.Route.Table
import MediaServer.Settings.Basic
import MediaServer.Reply.Basic
import MediaServer.Log.Event
import MediaServer.Text.Form

namespace MediaServer

/-- Draws an image of a width and a height for a seed. -/
abbrev IdenticonMaker := String → Nat → Nat → Bytes

/-- All that a handler gets to see of one request. The body is none once it was read. -/
structure Context where
  requestId : Nat
  method : String
  path : String
  host : String
  client : String
  captures : Captures
  query : List (String × String)
  headers : Headers
  settings : Settings
  identicons? : Option IdenticonMaker
  guard : Guard
  body? : Option Incoming
  newId : String
  guardFirst : Schedule

def Context.capture? (context : Context) (name : String) : Option String :=
  context.captures.lookup name

/-- The first value of a query parameter. -/
def Context.param? (context : Context) (name : String) : Option String :=
  context.query.lookup name

def Context.header? (context : Context) (name : String) : Option String :=
  context.headers.text? name

/-- The length that the client announced, if it is a number of 64 bits. -/
def Context.contentLength? (context : Context) : Option Nat :=
  (context.header? "content-length").bind (readUnsigned? max64)

/-- What a handler leaves: its answer, what it logged, and the disk. -/
structure Outcome where
  reply : Reply
  events : List Event
  disk : Disk

/-- A handler answers a request, or none as long as it waits for the body. -/
abbrev Handler := Context → Disk → Option Outcome

/-- A handler that neither waits nor touches the disk. -/
def Handler.pure (answer : Context → Reply) : Handler :=
  fun context disk => some ⟨answer context, [], disk⟩

end MediaServer
