import MediaServer.Proofs.Gateway.Run
import MediaServer.Proofs.Gateway.Steps
import MediaServer.Proofs.Reply.Encode

namespace MediaServer

/-- A step that a request took, from one state to another. -/
structure Turn where
  place : Nat
  request : Request
  before : World × Stage
  after : World × Stage

def Gateway.turn? (gateway : Gateway) (running : Running) : Move → Option Turn
  | .advance place => running.requests[place]?.map fun entry =>
    ⟨place, entry.1, (running.world, entry.2), gateway.step running.world entry.1 entry.2⟩
  | _ => none

/-- All steps that requests took, in their order. -/
def Gateway.turns (gateway : Gateway) : List Move → Running → List Turn
  | [], _ => []
  | move :: moves, running =>
    (gateway.turn? running move).toList ++ gateway.turns moves (gateway.move running move)

/-- The steps that the request at a place took. -/
def turnsAt (place : Nat) (turns : List Turn) : List Turn :=
  turns.filter (·.place == place)

/-- The id that the request got in this step. -/
def Turn.issued? (turn : Turn) : Option Nat :=
  match turn.before.2, turn.after.2 with
  | .admitted, .numbered requestId => some requestId
  | _, _ => none

/-- A call of a handler that has come to an end: what the handler got to see, and what it left. -/
structure HandlerRun where
  handler : Handler
  context : Context
  outcome : Outcome

/-- The handler that the request got to in this step, and what the handler gets to see. -/
def Gateway.called? (gateway : Gateway) (turn : Turn) : Option (Handler × Context) :=
  match turn.before.2, turn.after.2 with
  | .numbered _, .routed requestId handler captures =>
    some (handler, gateway.context turn.request requestId captures)
  | _, _ => none

/-- The handler that is at work in this step, and what it gets to see. -/
def Gateway.atWork? (gateway : Gateway) (turn : Turn) : Option (Handler × Context) :=
  match turn.before.2 with
  | .routed requestId handler captures =>
    some (handler, gateway.context turn.request requestId captures)
  | _ => none

/-- The call that comes to an end in this step, if one does: the handler is applied to what it gets to see and
to the disk as it is, and does not wait. -/
def Gateway.ran? (gateway : Gateway) (turn : Turn) : Option HandlerRun :=
  (gateway.atWork? turn).bind fun (handler, context) =>
    (handler context turn.before.1.disk).map (⟨handler, context, ·⟩)

/-- The step leaves the reply and the disk that the handler has left, or everything as it was if the handler
waits. Where no handler is at work, nothing on the disk is changed. -/
structure Gateway.Heeds (gateway : Gateway) (turn : Turn) : Prop where
  ends : ∀ run ∈ gateway.ran? turn, turn.after.1.disk = run.outcome.disk ∧
    turn.after.2 = .handled run.context.requestId run.outcome.reply
  waits : gateway.atWork? turn ≠ none → gateway.ran? turn = none → turn.after = turn.before
  rests : gateway.atWork? turn = none → ∀ path, turn.after.1.disk.node? path = turn.before.1.disk.node? path

/-- The limiter refused the request in this step. -/
def Turn.refused (turn : Turn) : Bool :=
  match turn.before.2 with
  | .arrived => turn.before.1.refuses turn.request
  | _ => false

/-- What there was of a request that the limiter let in: the ids it got, the calls made for it, and those of
them that have come to an end. No handler was at work but in these calls. -/
structure Gateway.Served (gateway : Gateway) (turns : List Turn) (ids : List Nat)
    (calls : List (Handler × Context)) (runs : List HandlerRun) : Prop where
  issued : turns.filterMap Turn.issued? = ids
  called : turns.filterMap gateway.called? = calls
  atWork : turns.filterMap gateway.atWork? ⊆ calls
  ran : turns.filterMap gateway.ran? = runs
  heeded : ∀ turn ∈ turns, gateway.Heeds turn
  letIn : ∀ turn ∈ turns, turn.refused = false

/-- The steps of a request up to its reply: it got one id. If it has a handler, the one call of it came to an
end and left the reply. If it has none, no handler was called. -/
inductive Gateway.Attended (gateway : Gateway) (turns : List Turn) (request : Request) (requestId : Nat) :
    Reply → Prop
  | run {run : HandlerRun} (asked : gateway.call? request requestId = some (run.handler, run.context))
      (served : gateway.Served turns [requestId] [(run.handler, run.context)] [run]) :
      Attended gateway turns request requestId run.outcome.reply
  | unrouted (unasked : gateway.call? request requestId = none) (served : gateway.Served turns [requestId] [] []) :
      Attended gateway turns request requestId (gateway.unrouted request)

/-- What there was of a request that the limiter refused. -/
structure Gateway.TurnedAway (gateway : Gateway) (turns : List Turn) : Prop where
  issued : turns.filterMap Turn.issued? = []
  called : turns.filterMap gateway.called? = []
  idle : turns.filterMap gateway.atWork? = []
  disk : ∀ turn ∈ turns, turn.after.1.disk = turn.before.1.disk
  refused : ∃ turn ∈ turns, turn.refused = true

/-- What the steps of a request have to be when it has come to a stage. -/
def Gateway.Tells (gateway : Gateway) (turns : List Turn) (request : Request) : Stage → Prop
  | .arrived => turns = []
  | .admitted => gateway.Served turns [] [] []
  | .numbered requestId => gateway.Served turns [requestId] [] []
  | .routed requestId handler captures =>
    gateway.call? request requestId = some (handler, gateway.context request requestId captures) ∧
      gateway.Served turns [requestId] [(handler, gateway.context request requestId captures)] []
  | .handled requestId reply => gateway.Attended turns request requestId reply
  | .answered response =>
    response = .rateLimited ∧ gateway.TurnedAway turns ∨
      response.status ≠ 429 ∧ ∃ requestId reply, gateway.Attended turns request requestId reply ∧
        ∃ turn ∈ turns, turn.before.2 = .handled requestId reply ∧ turn.after.2 = .answered response

theorem filterMap_concat {α β : Type} (f : α → Option β) (items : List α) (item : α) :
    (items ++ [item]).filterMap f = items.filterMap f ++ (f item).toList := by
  rcases made : f item with _ | value <;> simp [List.filterMap_append, made]

section Step

variable {gateway : Gateway} {world later : World} {request : Request} {stage next : Stage}
  {turns : List Turn} {turn : Turn} {ids : List Nat} {calls : List (Handler × Context)}
  {runs : List HandlerRun} {requestId : Nat} {reply : Reply}

theorem Gateway.ran?_of_idle (idle : gateway.atWork? turn = none) : gateway.ran? turn = none := by
  rw [ran?, idle, Option.bind_none]

/-- A step with no handler at work. -/
theorem Gateway.Heeds.of_idle (idle : gateway.atWork? turn = none)
    (same : ∀ path, turn.after.1.disk.node? path = turn.before.1.disk.node? path) : gateway.Heeds turn where
  ends run ran := by
    rw [ran?_of_idle idle] at ran
    cases ran
  waits busy := absurd idle busy
  rests _ := same

/-- A step whose handler waits. -/
theorem Gateway.Heeds.of_waits (unrun : gateway.ran? turn = none) (same : turn.after = turn.before) :
    gateway.Heeds turn where
  ends run ran := by
    rw [unrun] at ran
    cases ran
  waits _ _ := same
  rests _ path := by rw [same]

/-- A step in which a call comes to an end. -/
theorem Gateway.Heeds.of_ends {run : HandlerRun} (ran : gateway.ran? turn = some run)
    (disk : turn.after.1.disk = run.outcome.disk)
    (left : turn.after.2 = .handled run.context.requestId run.outcome.reply) : gateway.Heeds turn where
  ends other made := by
    rw [ran] at made
    cases made
    exact ⟨disk, left⟩
  waits _ unrun := by
    rw [ran] at unrun
    cases unrun
  rests idle := by
    rw [ran?_of_idle idle] at ran
    cases ran

section Routed

variable {place : Nat} {handler : Handler} {captures : Captures} {after : World × Stage}

theorem Gateway.ran?_of_waits (waits : handler (gateway.context request requestId captures) world.disk = none) :
    gateway.ran? ⟨place, request, (world, .routed requestId handler captures), after⟩ = none := by
  rw [ran?, atWork?, Option.bind_some]
  dsimp only
  rw [waits, Option.map_none]

theorem Gateway.ran?_of_ends {outcome : Outcome}
    (ends : handler (gateway.context request requestId captures) world.disk = some outcome) :
    gateway.ran? ⟨place, request, (world, .routed requestId handler captures), after⟩ =
      some ⟨handler, gateway.context request requestId captures, outcome⟩ := by
  rw [ran?, atWork?, Option.bind_some]
  dsimp only
  rw [ends, Option.map_some]

end Routed

theorem Gateway.Served.step (served : gateway.Served turns ids calls runs) (letIn : turn.refused = false)
    (atWork : (gateway.atWork? turn).toList ⊆ calls) (heeds : gateway.Heeds turn) :
    gateway.Served (turns ++ [turn]) (ids ++ turn.issued?.toList) (calls ++ (gateway.called? turn).toList)
      (runs ++ (gateway.ran? turn).toList) where
  issued := by rw [filterMap_concat, served.issued]
  called := by rw [filterMap_concat, served.called]
  atWork := by
    rw [filterMap_concat]
    exact List.subset_append_of_subset_left _ (List.append_subset.mpr ⟨served.atWork, atWork⟩)
  ran := by rw [filterMap_concat, served.ran]
  heeded := by
    rw [List.forall_mem_append, List.forall_mem_singleton]
    exact ⟨served.heeded, heeds⟩
  letIn := by
    rw [List.forall_mem_append, List.forall_mem_singleton]
    exact ⟨served.letIn, letIn⟩

/-- A step with no handler at work, in which the request perhaps gets an id or to its handler. -/
theorem Gateway.Served.idle (served : gateway.Served turns ids calls runs) (letIn : turn.refused = false)
    (idle : gateway.atWork? turn = none)
    (same : ∀ path, turn.after.1.disk.node? path = turn.before.1.disk.node? path) :
    gateway.Served (turns ++ [turn]) (ids ++ turn.issued?.toList) (calls ++ (gateway.called? turn).toList)
      runs := by
  have stepped := served.step letIn (by rw [idle]; exact List.nil_subset _) (.of_idle idle same)
  rwa [ran?_of_idle idle, Option.toList_none, List.append_nil] at stepped

/-- A step of the request in which it gets neither an id nor to a handler. -/
theorem Gateway.Served.pass (served : gateway.Served turns ids calls runs) (letIn : turn.refused = false)
    (unissued : turn.issued? = none) (uncalled : gateway.called? turn = none) (idle : gateway.atWork? turn = none)
    (same : ∀ path, turn.after.1.disk.node? path = turn.before.1.disk.node? path) :
    gateway.Served (turns ++ [turn]) ids calls runs := by
  have stepped := served.idle letIn idle same
  rwa [unissued, uncalled, Option.toList_none, Option.toList_none, List.append_nil, List.append_nil] at stepped

/-- A step in which the handler of the request is at work. -/
theorem Gateway.Served.work {call : Handler × Context} (served : gateway.Served turns ids [call] [])
    (letIn : turn.refused = false) (unissued : turn.issued? = none) (uncalled : gateway.called? turn = none)
    (atWork : gateway.atWork? turn = some call) (ran : (gateway.ran? turn).toList = runs)
    (heeds : gateway.Heeds turn) : gateway.Served (turns ++ [turn]) ids [call] runs := by
  have stepped := served.step letIn (by rw [atWork]; exact List.Subset.refl _) heeds
  rwa [unissued, uncalled, ran, Option.toList_none, Option.toList_none, List.append_nil, List.append_nil,
    List.nil_append] at stepped

/-- Once there is a reply, no more steps of the request have to do with its handler. -/
theorem Gateway.Attended.pass (attended : gateway.Attended turns request requestId reply)
    (letIn : turn.refused = false) (unissued : turn.issued? = none) (uncalled : gateway.called? turn = none)
    (idle : gateway.atWork? turn = none)
    (same : ∀ path, turn.after.1.disk.node? path = turn.before.1.disk.node? path) :
    gateway.Attended (turns ++ [turn]) request requestId reply := by
  cases attended with
  | run asked served => exact .run asked (served.pass letIn unissued uncalled idle same)
  | unrouted unasked served => exact .unrouted unasked (served.pass letIn unissued uncalled idle same)

theorem Gateway.TurnedAway.rest {response : Response} {place : Nat} (away : gateway.TurnedAway turns) :
    gateway.TurnedAway
      (turns ++ [⟨place, request, (world, .answered response), (world, .answered response)⟩]) where
  issued := by rw [filterMap_concat, away.issued]; rfl
  called := by rw [filterMap_concat, away.called]; rfl
  idle := by rw [filterMap_concat, away.idle]; rfl
  disk := by
    rw [List.forall_mem_append, List.forall_mem_singleton]
    exact ⟨away.disk, rfl⟩
  refused := by
    obtain ⟨turn, member, refused⟩ := away.refused
    exact ⟨turn, List.mem_append_left _ member, refused⟩

/-- One step of a request, from what its steps have told before. -/
theorem Gateway.Effect.tells (effect : gateway.Effect world request stage later next) (place : Nat)
    (told : gateway.Tells turns request stage) :
    gateway.Tells (turns ++ [⟨place, request, (world, stage), (later, next)⟩]) request next := by
  cases effect with
  | enter room =>
    subst told
    exact Served.idle ⟨rfl, rfl, List.nil_subset _, rfl, by simp, by simp⟩ room rfl fun _ => rfl
  | refuse full =>
    subst told
    refine Or.inl ⟨rfl, rfl, rfl, rfl, ?_, ⟨_, List.mem_singleton_self _, full⟩⟩
    rw [List.nil_append, List.forall_mem_singleton]
  | number => exact Served.idle told rfl rfl fun _ => rfl
  | call asked => exact ⟨asked, Served.idle told rfl rfl fun _ => rfl⟩
  | pass unasked => exact .unrouted unasked (Served.pass told rfl rfl rfl rfl fun _ => rfl)
  | wait waits =>
    obtain ⟨asked, served⟩ := told
    refine ⟨asked, served.work rfl rfl rfl rfl (congrArg Option.toList (ran?_of_waits waits)) ?_⟩
    exact .of_waits (ran?_of_waits waits) rfl
  | @finish requestId handler captures outcome log ends =>
    obtain ⟨asked, served⟩ := told
    let run : HandlerRun := ⟨handler, gateway.context request requestId captures, outcome⟩
    refine @Attended.run _ _ _ _ run asked
      (served.work rfl rfl rfl rfl (congrArg Option.toList (ran?_of_ends ends)) ?_)
    exact .of_ends (ran?_of_ends ends) rfl rfl
  | @answer requestId reply label log response inRate =>
    refine Or.inr ⟨inRate, requestId, reply, Attended.pass told rfl rfl rfl rfl ?_, _,
      List.mem_append_right _ (List.mem_singleton_self _), rfl, rfl⟩
    exact reply.encode_node? world.disk
  | rest =>
    rcases told with ⟨limited, away⟩ | ⟨inRate, requestId, reply, attended, turn, member, left, made⟩
    · exact Or.inl ⟨limited, away.rest⟩
    · exact Or.inr ⟨inRate, requestId, reply, attended.pass rfl rfl rfl rfl fun _ => rfl, turn,
        List.mem_append_left _ member, left, made⟩

/-- A request that has been refused is not at any other stage. -/
theorem Gateway.Tells.turnedAway (told : gateway.Tells turns request stage) (member : turn ∈ turns)
    (refused : turn.refused = true) : gateway.TurnedAway turns ∧ stage = .answered .rateLimited := by
  have letOut : ∀ {ids calls runs}, ¬ gateway.Served turns ids calls runs := by
    intro ids calls runs served
    rw [served.letIn turn member] at refused
    cases refused
  have unattended : ∀ {requestId reply}, ¬ gateway.Attended turns request requestId reply := by
    rintro requestId reply (⟨_, served⟩ | ⟨_, served⟩) <;> exact letOut served
  cases stage with
  | arrived =>
    rw [Tells] at told
    rw [told] at member
    cases member
  | admitted => exact absurd told letOut
  | numbered requestId => exact absurd told letOut
  | routed requestId handler captures => exact absurd told.2 letOut
  | handled requestId reply => exact absurd told unattended
  | answered response =>
    rcases told with ⟨rfl, away⟩ | ⟨_, requestId, reply, attended, _⟩
    · exact ⟨away, rfl⟩
    · exact absurd attended unattended

/-- Only the limiter tells a client to wait. -/
theorem Gateway.Tells.refused (told : gateway.Tells turns request (.answered .rateLimited)) :
    ∃ turn ∈ turns, turn.refused = true := by
  rcases told with ⟨_, away⟩ | ⟨inRate, _⟩
  · exact away.refused
  · exact absurd rfl inRate

/-- Ids are given in their order, one in a step. -/
theorem Gateway.Effect.issues (effect : gateway.Effect world request stage later next) (place : Nat) :
    List.range later.issued =
      List.range world.issued ++
        (Turn.mk place request (world, stage) (later, next)).issued?.toList := by
  cases effect with
  | number => exact List.range_succ
  | _ => exact (List.append_nil _).symm

end Step

/-- A request that arrives has taken no step, and each of its steps adds to what its steps have told. -/
structure Gateway.Telling (gateway : Gateway) (told : List Turn → Request → Stage → Prop) : Prop where
  arrived : ∀ request, told [] request .arrived
  step : ∀ {turns : List Turn} {request : Request} {stage : Stage}, told turns request stage →
    ∀ (world : World) (place : Nat),
      told (turns ++ [⟨place, request, (world, stage), gateway.step world request stage⟩]) request
        (gateway.step world request stage).2

/-- The steps taken so far tell of all requests how far they have come. -/
structure Running.Told (running : Running) (told : List Turn → Request → Stage → Prop) (turns : List Turn) :
    Prop where
  tells : ∀ {place request stage}, running.requests[place]? = some (request, stage) →
    told (turnsAt place turns) request stage
  within : ∀ turn ∈ turns, turn.place < running.requests.length

/-- The steps taken so far tell of all requests how far they have come, and of all ids. -/
structure Gateway.Recounts (gateway : Gateway) (turns : List Turn) (running : Running) : Prop where
  issued : turns.filterMap Turn.issued? = List.range running.world.issued
  tells : ∀ {place request stage}, running.requests[place]? = some (request, stage) →
    gateway.Tells (turnsAt place turns) request stage
  within : ∀ turn ∈ turns, turn.place < running.requests.length

section Run

variable {gateway : Gateway} {running : Running} {turns : List Turn}
  {told : List Turn → Request → Stage → Prop}

theorem turnsAt_concat (place : Nat) (turns : List Turn) (turn : Turn) :
    turnsAt place (turns ++ [turn]) = turnsAt place turns ++ if turn.place = place then [turn] else [] := by
  rw [turnsAt, List.filter_append, turnsAt]
  by_cases here : turn.place = place <;> simp [here]

theorem Gateway.turn?_advance {place : Nat} {request : Request} {stage : Stage}
    (there : running.requests[place]? = some (request, stage)) :
    (gateway.turn? running (.advance place)).toList =
      [⟨place, request, (running.world, stage), gateway.step running.world request stage⟩] := by
  rw [turn?, there]
  rfl

theorem Running.Told.arrive (tells : running.Told told turns) (telling : gateway.Telling told) (request : Request) :
    (gateway.move running (.arrive request)).Told told turns where
  tells {place asked stage} there := by
    rw [Gateway.move, List.getElem?_append] at there
    split at there
    · exact tells.tells there
    · rename_i outside
      obtain ⟨_, same⟩ := List.getElem?_eq_some_iff.mp there
      rw [List.getElem_singleton] at same
      cases same
      -- No step has been taken at a place that is new.
      have fresh : turnsAt place turns = [] := by
        rw [turnsAt, List.filter_eq_nil_iff]
        intro turn member here
        exact outside (beq_iff_eq.mp here ▸ tells.within turn member)
      rw [fresh]
      exact telling.arrived request
  within turn member := by
    rw [Gateway.move, List.length_append]
    exact Nat.lt_add_right _ (tells.within turn member)

theorem Running.Told.advance (tells : running.Told told turns) (telling : gateway.Telling told) {place : Nat}
    {request : Request} {stage : Stage} (there : running.requests[place]? = some (request, stage)) :
    (gateway.move running (.advance place)).Told told
      (turns ++ [⟨place, request, (running.world, stage), gateway.step running.world request stage⟩]) := by
  rw [Gateway.move_advance there]
  constructor
  · intro other asked reached found
    rw [Running.requests_set there] at found
    rw [turnsAt_concat]
    by_cases own : other = place
    · subst own
      rw [if_pos rfl] at found ⊢
      obtain ⟨rfl, rfl⟩ := found
      exact telling.step (tells.tells there) running.world other
    · rw [if_neg own] at found
      rw [if_neg (Ne.symm own), List.append_nil]
      exact tells.tells found
  · rw [List.forall_mem_append, List.forall_mem_singleton, List.length_set]
    exact ⟨tells.within, (List.getElem?_eq_some_iff.mp there).1⟩

theorem Running.Told.move (tells : running.Told told turns) (telling : gateway.Telling told) (move : Move) :
    (gateway.move running move).Told told (turns ++ (gateway.turn? running move).toList) := by
  cases move with
  | arrive request =>
    change Told _ told (turns ++ [])
    rw [List.append_nil]
    exact tells.arrive telling request
  | sweep now =>
    change Told _ told (turns ++ [])
    rw [List.append_nil]
    exact ⟨tells.tells, tells.within⟩
  | advance place =>
    rcases there : running.requests[place]? with _ | ⟨request, stage⟩
    · rw [Gateway.turn?, there, Gateway.move_advance_none there, Option.map_none, Option.toList_none,
        List.append_nil]
      exact tells
    · rw [Gateway.turn?_advance there]
      exact tells.advance telling there

theorem Running.Told.after (tells : running.Told told turns) (telling : gateway.Telling told)
    (moves : List Move) : (gateway.after moves running).Told told (turns ++ gateway.turns moves running) := by
  induction moves generalizing turns running with
  | nil =>
    rw [Gateway.turns, List.append_nil]
    exact tells
  | cons move moves ih =>
    rw [Gateway.turns, ← List.append_assoc]
    exact ih (tells.move telling move)

/-- In every run the steps of each request tell how far it has come. -/
theorem Gateway.Telling.run (telling : gateway.Telling told) (settings : Settings) (disk : Disk)
    (moves : List Move) :
    (gateway.after moves (.start settings disk)).Told told (gateway.turns moves (.start settings disk)) := by
  have started : (Running.start settings disk).Told told [] :=
    ⟨fun there => by simp [Running.start] at there, by simp⟩
  exact started.after telling moves

/-- Without a limiter no request is refused in any step. -/
theorem Gateway.letIn_of_unlimited (unlimited : running.world.limiter? = none) (moves : List Move) :
    ∀ turn ∈ gateway.turns moves running, turn.refused = false := by
  induction moves generalizing running with
  | nil => exact List.forall_mem_nil _
  | cons move moves ih =>
    rw [Gateway.turns, List.forall_mem_append]
    cases move with
    | arrive request => exact ⟨List.forall_mem_nil _, ih unlimited⟩
    | sweep now =>
      refine ⟨List.forall_mem_nil _, ih ?_⟩
      rw [move, World.sweep, unlimited]
      rfl
    | advance place =>
      rcases there : running.requests[place]? with _ | ⟨request, stage⟩
      · rw [turn?, there, move_advance_none there]
        exact ⟨List.forall_mem_nil _, ih unlimited⟩
      · rw [turn?_advance there, List.forall_mem_singleton, move_advance there]
        refine ⟨?_, ih ((gateway.step_effect running.world request stage).unlimited unlimited)⟩
        cases stage with
        | arrived =>
          dsimp only [Turn.refused]
          rw [World.refuses, unlimited]
        | _ => rfl

theorem Gateway.tells_telling (gateway : Gateway) : gateway.Telling gateway.Tells where
  arrived _ := rfl
  step told world place := (gateway.step_effect world _ _).tells place told

theorem Gateway.start_recounts (settings : Settings) (disk : Disk) :
    gateway.Recounts [] (.start settings disk) where
  issued := rfl
  tells there := by simp [Running.start] at there
  within := by simp

theorem Gateway.issued_move (issued : turns.filterMap Turn.issued? = List.range running.world.issued)
    (move : Move) :
    (turns ++ (gateway.turn? running move).toList).filterMap Turn.issued? =
      List.range (gateway.move running move).world.issued := by
  cases move with
  | arrive request =>
    change (turns ++ []).filterMap Turn.issued? = _
    rw [List.append_nil]
    exact issued
  | sweep now =>
    change (turns ++ []).filterMap Turn.issued? = _
    rw [List.append_nil]
    exact issued
  | advance place =>
    rcases there : running.requests[place]? with _ | ⟨request, stage⟩
    · rw [turn?, there, move_advance_none there, Option.map_none, Option.toList_none, List.append_nil, issued]
    · rw [turn?_advance there, filterMap_concat, issued, move_advance there]
      exact ((gateway.step_effect running.world request stage).issues place).symm

theorem Gateway.Recounts.move (recounts : gateway.Recounts turns running) (move : Move) :
    gateway.Recounts (turns ++ (gateway.turn? running move).toList) (gateway.move running move) := by
  have tells : running.Told gateway.Tells turns := ⟨recounts.tells, recounts.within⟩
  have moved := tells.move gateway.tells_telling move
  exact ⟨issued_move recounts.issued move, moved.tells, moved.within⟩

theorem Gateway.Recounts.after (recounts : gateway.Recounts turns running) (moves : List Move) :
    gateway.Recounts (turns ++ gateway.turns moves running) (gateway.after moves running) := by
  induction moves generalizing turns running with
  | nil =>
    rw [Gateway.turns, List.append_nil]
    exact recounts
  | cons move moves ih =>
    rw [Gateway.turns, ← List.append_assoc]
    exact ih (recounts.move move)

end Run

end MediaServer
