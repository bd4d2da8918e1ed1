import MediaServer.Gateway.Serve

namespace MediaServer

/-- A running server: what its requests share, and all requests there were with how far each has come. -/
structure Running where
  world : World
  requests : List (Request × Stage)

/-- What happens to a running server: a request comes in, one of its requests takes its next step, or
the buckets of idle clients are dropped. -/
inductive Move
  | arrive (request : Request)
  | advance (place : Nat)
  | sweep (now : Nat)

def Running.start (settings : Settings) (disk : Disk) : Running :=
  ⟨World.start settings disk, []⟩

def World.sweep (world : World) (now : Nat) : World :=
  { world with limiter? := world.limiter?.map fun limiter => (limiter.evict now).2 }

def Gateway.move (gateway : Gateway) (running : Running) : Move → Running
  | .arrive request => { running with requests := running.requests ++ [(request, .arrived)] }
  | .advance place =>
    match running.requests[place]? with
    | none => running
    | some (request, stage) =>
      let (world, next) := gateway.step running.world request stage
      ⟨world, running.requests.set place (request, next)⟩
  | .sweep now => { running with world := running.world.sweep now }

def Gateway.after (gateway : Gateway) (moves : List Move) (running : Running) : Running :=
  moves.foldl gateway.move running

def Running.asked (running : Running) : List Request :=
  running.requests.map (·.1)

/-- What the request at a place has been sent, if it has been answered. -/
def Running.response? (running : Running) (place : Nat) : Option Response :=
  running.requests[place]?.bind fun (request, stage) => stage.response?.map (Response.finish request.method)

def Move.arrivals : Move → List Request
  | .arrive request => [request]
  | _ => []

def Move.advances (place : Nat) : Move → Bool
  | .advance other => other == place
  | _ => false

variable {gateway : Gateway} {running : Running} {place : Nat} {request : Request} {stage : Stage}

theorem Gateway.after_cons (move : Move) (moves : List Move) :
    gateway.after (move :: moves) running = gateway.after moves (gateway.move running move) :=
  rfl

theorem Gateway.after_append (moves more : List Move) :
    gateway.after (moves ++ more) running = gateway.after more (gateway.after moves running) :=
  List.foldl_append

/-- What every move keeps, a run keeps. -/
theorem Gateway.after_invariant {Invariant : Running → Prop}
    (kept : ∀ running, Invariant running → ∀ move, Invariant (gateway.move running move))
    (holds : Invariant running) (moves : List Move) : Invariant (gateway.after moves running) := by
  induction moves generalizing running with
  | nil => exact holds
  | cons move moves ih => exact ih (kept running holds move)

theorem Gateway.move_advance (there : running.requests[place]? = some (request, stage)) :
    gateway.move running (.advance place) =
      ⟨(gateway.step running.world request stage).1,
        running.requests.set place (request, (gateway.step running.world request stage).2)⟩ := by
  simp only [move, there]

theorem Gateway.move_advance_none (absent : running.requests[place]? = none) :
    gateway.move running (.advance place) = running := by
  simp only [move, absent]

theorem Running.asked_getElem? (there : running.requests[place]? = some (request, stage)) :
    running.asked[place]? = some request := by
  rw [asked, List.getElem?_map, there]
  rfl

theorem Running.mem_requests (there : running.requests[place]? = some (request, stage)) :
    (request, stage) ∈ running.requests :=
  List.mem_of_getElem? there

/-- A move adds no request but one that comes in, and changes none. -/
theorem Gateway.asked_move (move : Move) :
    (gateway.move running move).asked = running.asked ++ move.arrivals := by
  cases move with
  | arrive request => exact List.map_append ..
  | sweep now => exact (List.append_nil _).symm
  | advance place =>
    have unasked : running.asked ++ (Move.advance place).arrivals = running.asked := List.append_nil _
    rw [unasked]
    rcases there : running.requests[place]? with _ | ⟨request, stage⟩
    · rw [move_advance_none there]
    · rw [move_advance there]
      simp only [Running.asked, List.map_set]
      apply List.ext_getElem?
      intro other
      rw [List.getElem?_set]
      split
      · rename_i same
        subst same
        split
        · rw [List.getElem?_map, there]
          rfl
        · rename_i outside
          rw [List.getElem?_eq_none (Nat.le_of_not_lt outside)]
      · rfl

theorem Gateway.asked_after (moves : List Move) :
    (gateway.after moves running).asked = running.asked ++ moves.flatMap Move.arrivals := by
  induction moves generalizing running with
  | nil => exact (List.append_nil _).symm
  | cons move moves ih => rw [after_cons, ih, asked_move, List.flatMap_cons, List.append_assoc]

/-- What is true of every request that arrives, and of each as far as it has come if its steps keep it, is true
of all requests after a move. -/
theorem Gateway.stages_move {Kept : Request → Stage → Prop} (arrived : ∀ request, Kept request .arrived)
    (stepped : ∀ request stage, (request, stage) ∈ running.requests → Kept request stage →
      Kept request (gateway.step running.world request stage).2)
    (kept : ∀ entry ∈ running.requests, Kept entry.1 entry.2) (move : Move) :
    ∀ entry ∈ (gateway.move running move).requests, Kept entry.1 entry.2 := by
  cases move with
  | arrive request =>
    intro entry member
    rcases List.mem_append.mp member with old | new
    · exact kept entry old
    · rw [List.mem_singleton.mp new]
      exact arrived request
  | sweep now => exact kept
  | advance place =>
    rcases there : running.requests[place]? with _ | ⟨request, stage⟩
    · rwa [move_advance_none there]
    · have member := Running.mem_requests there
      rw [move_advance there]
      intro entry inside
      rcases List.mem_or_eq_of_mem_set inside with old | rfl
      · exact kept entry old
      · exact stepped request stage member (kept _ member)

/-- Only the step of a request changes the disk. -/
theorem Gateway.disk_move {Kept : Disk → Prop}
    (stepped : ∀ request stage, (request, stage) ∈ running.requests →
      Kept (gateway.step running.world request stage).1.disk)
    (kept : Kept running.world.disk) (move : Move) : Kept (gateway.move running move).world.disk := by
  cases move with
  | arrive request => exact kept
  | sweep now => exact kept
  | advance place =>
    rcases there : running.requests[place]? with _ | ⟨request, stage⟩
    · rwa [move_advance_none there]
    · rw [move_advance there]
      exact stepped request stage (Running.mem_requests there)

/-- What every move keeps that finds only requests of a kind, a run of such requests keeps. -/
theorem Gateway.after_invariant_of_asked {Invariant : Running → Prop} {Kind : Request → Prop}
    (kept : ∀ running, Invariant running → (∀ request ∈ running.asked, Kind request) →
      ∀ move, Invariant (gateway.move running move))
    (holds : Invariant running) (moves : List Move)
    (kind : ∀ request ∈ (gateway.after moves running).asked, Kind request) :
    Invariant (gateway.after moves running) := by
  induction moves generalizing running with
  | nil => exact holds
  | cons move moves ih =>
    -- No request is forgotten, so that those at the start are among those at the end.
    have before : ∀ request ∈ running.asked, Kind request := by
      intro request member
      apply kind
      rw [asked_after]
      exact List.mem_append_left _ member
    exact ih (kept running holds before move) kind

theorem Running.requests_set_self (there : running.requests[place]? = some (request, stage)) (next : Stage) :
    (running.requests.set place (request, next))[place]? = some (request, next) :=
  List.getElem?_set_self (List.getElem?_eq_some_iff.mp there).1

/-- After a step of one request, that request has come further and all others are where they were. -/
theorem Running.requests_set (there : running.requests[place]? = some (request, stage)) (next : Stage)
    {other : Nat} {otherRequest : Request} {otherStage : Stage} :
    (running.requests.set place (request, next))[other]? = some (otherRequest, otherStage) ↔
      if other = place then request = otherRequest ∧ next = otherStage
      else running.requests[other]? = some (otherRequest, otherStage) := by
  have inside := (List.getElem?_eq_some_iff.mp there).1
  rw [List.getElem?_set]
  by_cases same : other = place
  · subst same
    simp [inside]
  · have different : ¬ place = other := fun equal => same equal.symm
    simp [same, different]

theorem Gateway.requests_arrive (there : running.requests[place]? = some (request, stage)) (new : Request) :
    (gateway.move running (.arrive new)).requests[place]? = some (request, stage) := by
  rw [move, List.getElem?_append_left (List.getElem?_eq_some_iff.mp there).1, there]

theorem Gateway.requests_advance_other (there : running.requests[place]? = some (request, stage))
    {other : Nat} (different : other ≠ place) :
    (gateway.move running (.advance other)).requests[place]? = some (request, stage) := by
  rcases otherThere : running.requests[other]? with _ | ⟨otherRequest, otherStage⟩
  · rwa [move_advance_none otherThere]
  · rw [move_advance otherThere, Running.requests_set otherThere, if_neg fun same => different same.symm]
    exact there

/-- A request that has been answered has come to its end. -/
theorem Gateway.answered_after {answer : Response} (moves : List Move)
    (there : running.requests[place]? = some (request, .answered answer)) :
    (gateway.after moves running).requests[place]? = some (request, .answered answer) := by
  induction moves generalizing running with
  | nil => exact there
  | cons move moves ih =>
    apply ih
    cases move with
    | arrive new => exact requests_arrive there new
    | sweep now => exact there
    | advance other =>
      by_cases own : other = place
      · subst own
        rw [move_advance there]
        exact Running.requests_set_self there _
      · exact requests_advance_other there own

/-- Steps of one request with nothing in between are its undisturbed run. -/
theorem Gateway.after_replicate (count : Nat) (there : running.requests[place]? = some (request, stage)) :
    gateway.after (List.replicate count (.advance place)) running =
      ⟨(gateway.run request count (running.world, stage)).1,
        running.requests.set place (request, (gateway.run request count (running.world, stage)).2)⟩ := by
  induction count generalizing running stage with
  | zero =>
    obtain ⟨_, here⟩ := List.getElem?_eq_some_iff.mp there
    simp only [List.replicate_zero, after, List.foldl_nil, run, ← here, List.set_getElem_self]
  | succ count ih =>
    have stepped := Running.requests_set_self there (gateway.step running.world request stage).2
    rw [List.replicate_succ, after_cons, move_advance there, ih stepped]
    simp only [List.set_set, run]

theorem Running.response?_eq_some_iff {sent : Response} :
    running.response? place = some sent ↔
      ∃ request answer, running.requests[place]? = some (request, .answered answer) ∧
        answer.finish request.method = sent := by
  unfold response?
  constructor
  · intro found
    obtain ⟨⟨request, stage⟩, there, sent⟩ := Option.bind_eq_some_iff.mp found
    obtain ⟨answer, answered, rfl⟩ := Option.map_eq_some_iff.mp sent
    cases stage with
    | answered response =>
      obtain rfl : response = answer := Option.some.inj answered
      exact ⟨request, response, there, rfl⟩
    | _ => cases answered
  · rintro ⟨request, answer, there, rfl⟩
    rw [there]
    rfl

/-- A request that is served alone is one whose steps nothing comes between. -/
theorem Gateway.serve_eq_after (request : Request) :
    gateway.serve running.world request =
      let served := gateway.after
        (.arrive request :: List.replicate 5 (.advance running.requests.length)) running
      (served.world, served.response? running.requests.length) := by
  have there : (running.requests ++ [(request, Stage.arrived)])[running.requests.length]? =
      some (request, .arrived) := by simp
  dsimp only
  rw [after_cons, move, after_replicate 5 there, serve, Running.response?,
    Running.requests_set_self there]
  rfl

end MediaServer
