import MediaServer.Proofs.Gateway.RoundTrip
import MediaServer.Proofs.Gateway.Shapes
import MediaServer.Proofs.Gateway.Turns
import MediaServer.Proofs.Reply.Events

namespace MediaServer

/-- What was added to the log in this step. -/
def Turn.written (turn : Turn) : List LogEntry :=
  turn.after.1.log.drop turn.before.1.log.length

/-- What was added to the log in this step, unless a handler ran in it. -/
def Turn.own (turn : Turn) : List LogEntry :=
  match turn.before.2 with
  | .routed _ _ _ => []
  | _ => turn.written

/-- What is told of the gate: nothing, unless it refuses the host. -/
def Gateway.rejection (gateway : Gateway) (request : Request) : List Event :=
  if request.host ∈ gateway.settings.homeservers then [] else [.hostRejected]

/-- The log of a request: that it was received, that its host was refused if it was, and what the encoder
tells. -/
def Gateway.account (gateway : Gateway) (request : Request) (requestId : Nat) (told : List Event) :
    List LogEntry :=
  (request.receivedEvent :: (gateway.rejection request ++ told)).map (⟨·, some (request.span requestId)⟩)

/-- The ids that were given in these steps, and the entries that the gateway itself wrote. -/
structure Wrote (turns : List Turn) (ids : List Nat) (entries : List LogEntry) : Prop where
  issued : turns.filterMap Turn.issued? = ids
  own : turns.flatMap Turn.own = entries

/-- The entries tell of a request with this id what it was answered with this reply, and no more of its
arrival and of the gate than is the case. -/
structure Gateway.Logs (gateway : Gateway) (request : Request) (requestId : Nat) (reply : Reply) (disk : Disk)
    (entries : List LogEntry) : Prop where
  bears : ∀ entry ∈ entries, entry.span? = some (request.span requestId)
  first : (entries.map (·.event)).head? = some request.receivedEvent
  received : (entries.map (·.event)).filter (·.message = "Received request") = [request.receivedEvent]
  rejected : (entries.map (·.event)).filter (·.message = "Host is not served here, rejecting") =
    if request.host ∈ gateway.settings.homeservers then [] else [.hostRejected]
  refused : request.host ∉ gateway.settings.homeservers → reply = .error .authFailed
  tells : reply.LoggedAs disk (reply.encode disk).1 (entries.map (·.event))

/-- What the gateway has written of a request that has come to a stage. -/
def Gateway.Narrates (gateway : Gateway) (turns : List Turn) (request : Request) : Stage → Prop
  | .arrived => Wrote turns [] []
  | .admitted => Wrote turns [] []
  | .numbered requestId => Wrote turns [requestId] [⟨request.receivedEvent, some (request.span requestId)⟩]
  | .routed requestId _ _ =>
    request.host ∈ gateway.settings.homeservers ∧ Wrote turns [requestId] (gateway.account request requestId [])
  | .handled requestId reply =>
    (request.host ∉ gateway.settings.homeservers → reply = .error .authFailed) ∧
      Wrote turns [requestId] (gateway.account request requestId [])
  | .answered response =>
    (response = .rateLimited ∧ turns.filterMap Turn.issued? = []) ∨
      ∃ requestId reply, (request.host ∉ gateway.settings.homeservers → reply = .error .authFailed) ∧
        ∃ turn ∈ turns, turn.before.2 = .handled requestId reply ∧
          response = (reply.encode turn.before.1.disk).1.withBase gateway.settings.general.serverName ∧
          Wrote turns [requestId]
            (gateway.account request requestId (reply.encode turn.before.1.disk).2.1)

section Steps

variable {gateway : Gateway} {request : Request} {turns : List Turn} {turn : Turn} {ids : List Nat}
  {entries : List LogEntry}

theorem Turn.written_eq (more : turn.after.1.log = turn.before.1.log ++ entries) : turn.written = entries := by
  rw [written, more, List.drop_left]

theorem Wrote.step (wrote : Wrote turns ids entries) (turn : Turn) :
    Wrote (turns ++ [turn]) (ids ++ turn.issued?.toList) (entries ++ turn.own) where
  issued := by rw [filterMap_concat, wrote.issued]
  own := by rw [List.flatMap_append, wrote.own, List.flatMap_singleton]

/-- A step in which no id is given and the gateway writes nothing. -/
theorem Wrote.pass (wrote : Wrote turns ids entries) (unissued : turn.issued? = none) (silent : turn.own = []) :
    Wrote (turns ++ [turn]) ids entries := by
  have stepped := wrote.step turn
  rwa [unissued, silent, Option.toList_none, List.append_nil, List.append_nil] at stepped

theorem Gateway.route_log (gateway : Gateway) (world : World) (request : Request) (requestId : Nat) :
    (gateway.route world request requestId).1.log =
      world.log ++ (gateway.rejection request).map (⟨·, some (request.span requestId)⟩) := by
  by_cases served : request.host ∈ gateway.settings.homeservers
  · rw [rejection, if_pos served, List.map_nil, List.append_nil, route, if_pos (Settings.serves_iff.mpr served)]
    split <;> rfl
  · have stopped : ¬ gateway.settings.serves request.host = true :=
      fun own => served (Settings.serves_iff.mp own)
    rw [rejection, if_neg served, route, if_neg stopped]
    rfl

/-- The limiter writes nothing, unless it refuses. -/
theorem Gateway.step_arrived_cases (gateway : Gateway) (world : World) (request : Request) :
    ((gateway.step world request .arrived).2 = .admitted ∧
        (gateway.step world request .arrived).1.log = world.log) ∨
      (gateway.step world request .arrived).2 = .answered .rateLimited := by
  rw [step, World.admit]
  split
  · exact Or.inl ⟨rfl, rfl⟩
  · split
    · exact Or.inl ⟨rfl, rfl⟩
    · exact Or.inr rfl

/-- Where a request with an id is led: to a handler if its host is served, or to a reply, which is fixed if
its host is not. -/
theorem Gateway.route_cases (gateway : Gateway) (world : World) (request : Request) (requestId : Nat) :
    (request.host ∈ gateway.settings.homeservers ∧
        ∃ handler captures, (gateway.route world request requestId).2 = .routed requestId handler captures) ∨
      ∃ reply, (gateway.route world request requestId).2 = .handled requestId reply ∧
        (request.host ∉ gateway.settings.homeservers → reply = .error .authFailed) := by
  by_cases served : request.host ∈ gateway.settings.homeservers
  · rw [route, if_pos (Settings.serves_iff.mpr served)]
    split
    · exact Or.inl ⟨served, _, _, rfl⟩
    all_goals exact Or.inr ⟨_, rfl, absurd served⟩
  · have stopped : ¬ gateway.settings.serves request.host = true :=
      fun own => served (Settings.serves_iff.mp own)
    rw [route, if_neg stopped]
    exact Or.inr ⟨_, rfl, fun _ => rfl⟩

/-- Every step only adds to the log. -/
theorem Gateway.step_log (gateway : Gateway) (world : World) (request : Request) (stage : Stage) :
    ∃ entries, (gateway.step world request stage).1.log = world.log ++ entries := by
  have same : ∃ entries, world.log = world.log ++ entries := ⟨[], (List.append_nil _).symm⟩
  cases stage with
  | arrived =>
    rw [step, World.admit]
    split
    · exact same
    · split
      · exact same
      · exact ⟨_, rfl⟩
  | admitted => exact ⟨_, rfl⟩
  | numbered requestId => exact ⟨_, gateway.route_log world request requestId⟩
  | routed requestId handler captures =>
    rw [step, handle]
    split
    · exact same
    · exact ⟨_, rfl⟩
  | handled requestId reply => exact ⟨_, rfl⟩
  | answered response => exact same

theorem Gateway.account_append (gateway : Gateway) (request : Request) (requestId : Nat) (told : List Event) :
    gateway.account request requestId [] ++ told.map (⟨·, some (request.span requestId)⟩) =
      gateway.account request requestId told := by
  simp [account]

theorem Gateway.account_rejection (gateway : Gateway) (request : Request) (requestId : Nat) :
    [⟨request.receivedEvent, some (request.span requestId)⟩] ++
        (gateway.rejection request).map (⟨·, some (request.span requestId)⟩) =
      gateway.account request requestId [] := by
  simp [account]

/-- One step of a request adds what is to be told at the stage it leads to. -/
theorem Gateway.Narrates.step {stage : Stage} (narrates : gateway.Narrates turns request stage) (world : World)
    (place : Nat) :
    gateway.Narrates (turns ++ [⟨place, request, (world, stage), gateway.step world request stage⟩]) request
      (gateway.step world request stage).2 := by
  cases stage with
  | arrived =>
    rcases gateway.step_arrived_cases world request with ⟨next, silent⟩ | next
    · rw [next]
      exact Wrote.pass narrates rfl (Turn.written_eq (silent.trans (List.append_nil _).symm))
    · rw [next]
      exact Or.inl ⟨rfl, by rw [filterMap_concat, narrates.issued]; rfl⟩
  | admitted =>
    have stepped := Wrote.step narrates ⟨place, request, (world, .admitted), gateway.step world request .admitted⟩
    have own : Turn.own ⟨place, request, (world, .admitted), gateway.step world request .admitted⟩ =
        [⟨request.receivedEvent, some (request.span world.issued)⟩] := Turn.written_eq rfl
    rwa [own] at stepped
  | numbered requestId =>
    have stepped := Wrote.step narrates
      ⟨place, request, (world, .numbered requestId), gateway.step world request (.numbered requestId)⟩
    have own : Turn.own
        ⟨place, request, (world, .numbered requestId), gateway.step world request (.numbered requestId)⟩ =
          (gateway.rejection request).map (⟨·, some (request.span requestId)⟩) :=
      Turn.written_eq (gateway.route_log world request requestId)
    rw [own, account_rejection] at stepped
    rcases gateway.route_cases world request requestId with ⟨served, handler, captures, next⟩ | ⟨reply, next, refused⟩
    · rw [Gateway.step, next]
      exact ⟨served, stepped⟩
    · rw [Gateway.step, next]
      exact ⟨refused, stepped⟩
  | routed requestId handler captures =>
    obtain ⟨served, wrote⟩ := narrates
    rcases handled : handler (gateway.context request requestId captures) world.disk with _ | outcome
    · simp only [Gateway.step, handle, handled]
      exact ⟨served, wrote.pass rfl rfl⟩
    · simp only [Gateway.step, handle, handled]
      exact ⟨absurd served, wrote.pass rfl rfl⟩
  | handled requestId reply =>
    obtain ⟨refused, wrote⟩ := narrates
    have stepped := wrote.step
      ⟨place, request, (world, .handled requestId reply), gateway.step world request (.handled requestId reply)⟩
    have own : Turn.own ⟨place, request, (world, .handled requestId reply),
        gateway.step world request (.handled requestId reply)⟩ =
          (reply.encode world.disk).2.1.map (⟨·, some (request.span requestId)⟩) := Turn.written_eq rfl
    rw [own, account_append] at stepped
    exact Or.inr ⟨requestId, reply, refused, _, List.mem_append_right _ (List.mem_singleton_self _), rfl, rfl,
      stepped⟩
  | answered response =>
    rcases narrates with ⟨limited, unissued⟩ | ⟨requestId, reply, refused, turn, member, left, made, wrote⟩
    · exact Or.inl ⟨limited, by rw [filterMap_concat, unissued]; rfl⟩
    · have silent : Turn.own ⟨place, request, (world, .answered response),
          gateway.step world request (.answered response)⟩ = [] :=
        Turn.written_eq (List.append_nil _).symm
      exact Or.inr ⟨requestId, reply, refused, turn, List.mem_append_left _ member, left, made,
        wrote.pass rfl silent⟩

theorem Gateway.narrates_telling (gateway : Gateway) : gateway.Telling gateway.Narrates where
  arrived _ := ⟨rfl, rfl⟩
  step := Narrates.step

/-- What is written of a request tells what it was answered. -/
theorem Gateway.account_logs {reply : Reply} {requestId : Nat}
    (refused : request.host ∉ gateway.settings.homeservers → reply = .error .authFailed) (disk : Disk) :
    gateway.Logs request requestId reply disk (gateway.account request requestId (reply.encode disk).2.1) := by
  have events : (gateway.account request requestId (reply.encode disk).2.1).map (·.event) =
      request.receivedEvent :: (gateway.rejection request ++ (reply.encode disk).2.1) := by
    simp [account, Function.comp_def]
  have silent := (reply.encode_recorded disk).silent
  have unreceived : (reply.encode disk).2.1.filter (·.message = "Received request") = [] :=
    List.filter_eq_nil_iff.mpr fun event member => by simpa using (silent event member).1
  have unrejected : (reply.encode disk).2.1.filter (·.message = "Host is not served here, rejecting") = [] :=
    List.filter_eq_nil_iff.mpr fun event member => by simpa using (silent event member).2
  constructor
  · intro entry member
    obtain ⟨event, _, rfl⟩ := List.mem_map.mp member
    rfl
  · rw [events]
    rfl
  · rw [events, List.filter_cons_of_pos (by rfl), List.filter_append, unreceived, rejection]
    split <;> rfl
  · rw [events, List.filter_cons_of_neg (by simp [Request.receivedEvent, Event.message]), List.filter_append,
      unrejected, rejection]
    split <;> rfl
  · exact refused
  · rw [events, ← List.cons_append]
    apply (reply.encode_loggedAs disk).after
    rw [rejection]
    split <;> simp [Request.receivedEvent, Event.message]

end Steps

/-- What is in the log was there at first or was written in one of the steps. -/
theorem Gateway.log_after {gateway : Gateway} (moves : List Move) (running : Running) :
    (gateway.after moves running).world.log =
      running.world.log ++ (gateway.turns moves running).flatMap Turn.written := by
  induction moves generalizing running with
  | nil => exact (List.append_nil _).symm
  | cons move moves ih =>
    rw [after_cons, ih, Gateway.turns, List.flatMap_append, ← List.append_assoc]
    congr 1
    cases move with
    | arrive request => exact (List.append_nil _).symm
    | sweep now => exact (List.append_nil _).symm
    | advance place =>
      rcases there : running.requests[place]? with _ | ⟨request, stage⟩
      · rw [move_advance_none there, turn?, there]
        exact (List.append_nil _).symm
      · obtain ⟨entries, more⟩ := gateway.step_log running.world request stage
        rw [turn?_advance there, move_advance there, List.flatMap_singleton]
        dsimp only
        rw [more, Turn.written_eq more]

/-- The log tells what was answered, whatever the handlers do and in whatever order requests take their steps.
It grows by what is written in the steps. A request that has been answered was refused by the limiter, before
it got an id, or it got one id and a reply, the response to which it was answered; then the entries that the
gateway itself wrote in its steps all bear this id, begin with the one that tells of its arrival, tell of the
gate exactly if it refused, and tell what the response is. -/
theorem Gateway.log_tells_answers (gateway : Gateway) (disk : Disk) (moves : List Move) {place : Nat}
    {request : Request} {response : Response}
    (answered : (gateway.after moves (.start gateway.settings disk)).requests[place]? =
      some (request, .answered response)) :
    (gateway.after moves (.start gateway.settings disk)).world.log =
        (World.start gateway.settings disk).log ++
          (gateway.turns moves (.start gateway.settings disk)).flatMap Turn.written ∧
      let turns := turnsAt place (gateway.turns moves (.start gateway.settings disk))
      (response = .rateLimited ∧ turns.filterMap Turn.issued? = []) ∨
        ∃ requestId reply, turns.filterMap Turn.issued? = [requestId] ∧
          ∃ turn ∈ turns, turn.before.2 = .handled requestId reply ∧
            response = (reply.encode turn.before.1.disk).1.withBase gateway.settings.general.serverName ∧
            gateway.Logs request requestId reply turn.before.1.disk (turns.flatMap Turn.own) := by
  refine ⟨log_after moves (.start gateway.settings disk), ?_⟩
  have told := gateway.narrates_telling.run gateway.settings disk moves
  rcases told.tells answered with limited | ⟨requestId, reply, refused, turn, member, left, made, wrote⟩
  · exact Or.inl limited
  · refine Or.inr ⟨requestId, reply, wrote.issued, turn, member, left, made, ?_⟩
    rw [wrote.own]
    exact account_logs refused turn.before.1.disk

/-- The record of an item is in no legal form. -/
def corruptDisk : Disk :=
  ⟨[(["localhost"], .directory), (["localhost", "a1.json"], .file [0])], []⟩

theorem corruptItem_logged : ∃ gateway response requestId reply disk,
    Gateway.ofSettings shortSettings none = .ok gateway ∧
      let moves := .arrive quotedDownload :: List.replicate 5 (.advance 0)
      let entries := (turnsAt 0 (gateway.turns moves (.start gateway.settings corruptDisk))).flatMap Turn.own
      (gateway.after moves (.start gateway.settings corruptDisk)).requests[0]? =
          some (quotedDownload, .answered response) ∧
        entries.map (·.event.message) = ["Received request", "Handler returned an error", "Replying with result"] ∧
        gateway.Logs quotedDownload requestId reply disk entries := by
  have evaluated : ((Gateway.ofSettings shortSettings none).toOption.bind fun gateway =>
      let moves := .arrive quotedDownload :: List.replicate 5 (.advance 0)
      ((gateway.after moves (.start gateway.settings corruptDisk)).response? 0).map fun response =>
        (response.status,
          ((turnsAt 0 (gateway.turns moves (.start gateway.settings corruptDisk))).flatMap Turn.own).map
            (·.event.message))) =
        some (500, ["Received request", "Handler returned an error", "Replying with result"]) := by
    decide +kernel
  obtain ⟨gateway, made, found⟩ := Option.bind_eq_some_iff.mp evaluated
  obtain ⟨sent, answered, seen⟩ := Option.map_eq_some_iff.mp found
  obtain ⟨status, messages⟩ := Prod.mk.inj seen
  obtain ⟨request, response, there, rfl⟩ := Running.response?_eq_some_iff.mp answered
  obtain rfl : quotedDownload = request := by
    have asked := Running.asked_getElem? there
    rw [Gateway.asked_after] at asked
    exact Option.some.inj asked
  obtain ⟨-, ⟨limited, -⟩ | ⟨requestId, reply, -, turn, -, -, -, logs⟩⟩ :=
    Gateway.log_tells_answers gateway corruptDisk _ there
  · rw [limited] at status
    exact absurd status (by decide +kernel)
  · exact ⟨gateway, response, requestId, reply, turn.before.1.disk, eq_ok_of_toOption made, there, messages, logs⟩

/-- A directory stands where the bytes of an item are to be. -/
def hollowDisk : Disk :=
  ⟨[(["localhost"], .directory), (["localhost", "a1"], .directory),
    (["localhost", "a1.json"],
      .file (StoredMedia.record ⟨"localhost", "a1", "a/b", "f", 1, itemPlace "localhost" "a1"⟩))], []⟩

/-- An item is logged as sent with a size, and no byte of it can be sent. -/
theorem hollowItem_logged_with_size : ∃ gateway response,
    Gateway.ofSettings shortSettings none = .ok gateway ∧
      (gateway.after (.arrive quotedDownload :: List.replicate 5 (.advance 0))
        (.start shortSettings hollowDisk)).response? 0 = some response ∧
      response.status = 200 ∧
      (∃ entry ∈ (gateway.after (.arrive quotedDownload :: List.replicate 5 (.advance 0))
          (.start shortSettings hollowDisk)).world.log,
        entry.event = .repliedMedia "binary_stream" "a/b" "f" 1) ∧
      ∀ sizes, (response.payload.chunks sizes).flatten.length = 0 := by
  have sent : ((Gateway.ofSettings shortSettings none).toOption.bind fun gateway =>
      ((gateway.after (.arrive quotedDownload :: List.replicate 5 (.advance 0))
        (.start shortSettings hollowDisk)).response? 0).map fun response =>
          (response.status, response.payload,
            (gateway.after (.arrive quotedDownload :: List.replicate 5 (.advance 0))
              (.start shortSettings hollowDisk)).world.log.any
                (·.event = .repliedMedia "binary_stream" "a/b" "f" 1))) =
        some (200, .unreadable, true) := by
    decide +kernel
  obtain ⟨gateway, made, found⟩ := Option.bind_eq_some_iff.mp sent
  obtain ⟨response, answered, seen⟩ := Option.map_eq_some_iff.mp found
  simp only [Prod.mk.injEq, List.any_eq_true, decide_eq_true_eq] at seen
  obtain ⟨status, unreadable, logged⟩ := seen
  refine ⟨gateway, response, eq_ok_of_toOption made, answered, status, logged, ?_⟩
  intro sizes
  rw [unreadable]
  rfl

end MediaServer
