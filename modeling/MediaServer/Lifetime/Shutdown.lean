namespace MediaServer

/-- One task's view of the shutdown: how many of the messages it needs no more, because they were
sent before it came or were received, and whether a wait of it has passed the latch. -/
structure Listener where
  heard : Nat
  waiting : Bool
  deriving DecidableEq, Repr

/-- The latch, whether its owner still exists, the calls that have set the latch and not yet sent,
the number of messages sent, and the listeners by number; a listener that left is none. -/
structure Shutdown where
  fired : Bool
  owned : Bool
  sending : Nat
  sent : Nat
  listeners : List (Option Listener)
  deriving DecidableEq, Repr

def Shutdown.start : Shutdown :=
  ⟨false, true, 0, 0, []⟩

/-- The indivisible moves. A trigger call is `latch` and then, if it set the latch, `send`;
a wait is `look` and then, if the latch was not set, `receive` until it ends. -/
inductive Shutdown.Move
  | latch
  | send
  | listen
  | fork (number : Nat)
  | look (number : Nat)
  | receive (number : Nat)
  | giveUp (number : Nat)
  | leave (number : Nat)
  | dropOwner
  deriving DecidableEq, Repr

def Shutdown.listener? (s : Shutdown) (number : Nat) : Option Listener :=
  s.listeners[number]?.join

def Shutdown.setListener (s : Shutdown) (number : Nat) (listener : Option Listener) : Shutdown :=
  { s with listeners := s.listeners.set number listener }

/-- A new listener gets the messages that are sent from now on. -/
def Shutdown.addListener (s : Shutdown) : Shutdown :=
  { s with listeners := s.listeners ++ [some ⟨s.sent, false⟩] }

/-- A wait that has passed the latch ends with a message or when the owner is gone. -/
def Shutdown.receive (s : Shutdown) (number : Nat) (listener : Listener) : Shutdown × Bool :=
  if listener.heard < s.sent then
    (s.setListener number (some ⟨listener.heard + 1, false⟩), true)
  else if s.owned then (s, false)
  else (s.setListener number (some ⟨listener.heard, false⟩), true)

/-- The state after a move and whether the move ended a wait; none if the move is not possible. -/
def Shutdown.step (s : Shutdown) : Shutdown.Move → Option (Shutdown × Bool)
  | .latch =>
    if !s.owned then none
    else if s.fired then some (s, false)
    else some ({ s with fired := true, sending := s.sending + 1 }, false)
  | .send =>
    if s.sending = 0 then none
    else some ({ s with sending := s.sending - 1, sent := s.sent + 1 }, false)
  | .listen => if s.owned then some (s.addListener, false) else none
  | .fork number => (s.listener? number).map fun _ => (s.addListener, false)
  | .look number =>
    (s.listener? number).bind fun listener =>
      if listener.waiting then none
      else if s.fired then some (s, true)
      else some (s.setListener number (some { listener with waiting := true }), false)
  | .receive number =>
    (s.listener? number).bind fun listener =>
      if listener.waiting then some (s.receive number listener) else none
  | .giveUp number =>
    (s.listener? number).bind fun listener =>
      if listener.waiting then
        some (s.setListener number (some { listener with waiting := false }), false)
      else none
  | .leave number => (s.listener? number).map fun _ => (s.setListener number none, false)
  | .dropOwner =>
    if s.owned && s.sending = 0 then some ({ s with owned := false }, false) else none

/-- A whole trigger call; calls after the first change nothing. -/
def Shutdown.trigger? (s : Shutdown) : Option Shutdown :=
  (s.step .latch).map fun (latched, _) =>
    match latched.step .send with
    | some (after, _) => after
    | none => latched

/-- A wait that is looked at once and given up if it has not ended. -/
def Shutdown.poll? (s : Shutdown) (number : Nat) : Option (Shutdown × Bool) :=
  (s.step (.look number)).bind fun (looked, ended) =>
    if ended then some (looked, true)
    else (looked.step (.receive number)).bind fun (asked, ended) =>
      if ended then some (asked, true) else asked.step (.giveUp number)

def Shutdown.present (s : Shutdown) : Nat :=
  s.listeners.countP (·.isSome)

end MediaServer
