namespace MediaServer

/-- What has become of the guard that watches over a request: it is still held, it was dropped
because the client went away, or it was disarmed because the request was answered. -/
inductive Guard
  | held
  | dropped
  | disarmed
  deriving DecidableEq, Repr

/-- The request was abandoned before it was answered. -/
def Guard.isCancelled : Guard → Bool
  | .dropped => true
  | _ => false

/-- Drops a guard. One that is no longer held cannot be dropped again. -/
def Guard.drop? : Guard → Option Guard
  | .held => some .dropped
  | _ => none

/-- Disarms a guard. A wait for it to be dropped never ends after that. -/
def Guard.disarm? : Guard → Option Guard
  | .held => some .disarmed
  | _ => none

end MediaServer
