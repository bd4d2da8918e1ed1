namespace MediaServer

structure TallyLabel where
  method : String
  status : Nat
  kind : String
  deriving DecidableEq, Repr

/-- The answers to dispatched requests, and the number of requests refused for their rate. -/
structure Tally where
  answered : List TallyLabel
  limited : Nat
  deriving DecidableEq, Repr

def Tally.empty : Tally :=
  ⟨[], 0⟩

def Tally.record (tally : Tally) (label : TallyLabel) : Tally :=
  { tally with answered := tally.answered ++ [label] }

def Tally.recordLimited (tally : Tally) : Tally :=
  { tally with limited := tally.limited + 1 }

def TallyLabel.line (label : TallyLabel) (count : Nat) : String :=
  "media_requests_total\x7bmethod=\"" ++ label.method ++ "\",status=\"" ++ toString label.status ++
    "\",result=\"" ++ label.kind ++ "\"\x7d " ++ toString count

/-- How long requests of a method took is counted once for each of them. -/
def Tally.durationLine (tally : Tally) (method : String) : String :=
  "media_request_duration_seconds_count\x7bmethod=\"" ++ method ++ "\"\x7d " ++
    toString (tally.answered.countP (·.method == method))

/-- A line for every counter that has counted something. -/
def Tally.lines (tally : Tally) : List String :=
  (tally.answered.eraseDups.map fun label => label.line (tally.answered.count label)) ++
  (tally.answered.map (·.method)).eraseDups.map tally.durationLine ++
  if tally.limited = 0 then [] else ["media_rate_limited_total " ++ toString tally.limited]

end MediaServer
