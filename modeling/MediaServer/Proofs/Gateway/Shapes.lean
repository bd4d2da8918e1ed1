import MediaServer.Proofs.Gateway.Footprint
import MediaServer.Proofs.Reply.Shapes

namespace MediaServer

section Length

variable {response : Response}

/-- No more is added than a length, where none is announced and the number of bytes is known. -/
theorem Response.withLength_added (response : Response) : ∃ added : Headers,
    response.withLength = { response with headers := response.headers ++ added } ∧
      (added = [] ∨ response.headers.values "content-length" = [] ∧ ∃ content,
        response.payload = .bytes content ∧
          added = [("content-length", Utf8.encode (toString content.length))]) := by
  obtain ⟨status, headers, payload⟩ := response
  have unchanged : (⟨status, headers, payload⟩ : Response) = ⟨status, headers ++ [], payload⟩ := by
    rw [List.append_nil]
  cases payload with
  | file content => exact ⟨[], unchanged, Or.inl rfl⟩
  | unreadable => exact ⟨[], unchanged, Or.inl rfl⟩
  | bytes content =>
    simp only [withLength, Payload.knownLength?]
    split
    · exact ⟨[], unchanged, Or.inl rfl⟩
    · rename_i unannounced
      have absent : "content-length" ∉ headers.map (·.1) := by
        intro member
        obtain ⟨entry, inside, name⟩ := List.mem_map.mp member
        exact unannounced (List.any_eq_true.mpr ⟨entry, inside, beq_iff_eq.mpr name⟩)
      exact ⟨_, rfl, Or.inr ⟨Headers.values_eq_nil absent, content, rfl, rfl⟩⟩

theorem Response.TellsFailure.withLength (tells : response.TellsFailure) : response.withLength.TellsFailure := by
  obtain ⟨added, grown, _⟩ := response.withLength_added
  rw [grown]
  exact tells

/-- An added length is that of the body. -/
theorem Response.TellsLength.withLength (tells : response.TellsLength) : response.withLength.TellsLength := by
  obtain ⟨added, grown, none | ⟨unannounced, content, known, length⟩⟩ := response.withLength_added
  · rwa [grown, none, List.append_nil]
  · rw [grown, length]
    intro value announced sizes
    dsimp only at announced ⊢
    rw [Headers.values_append, unannounced, List.nil_append] at announced
    obtain rfl := List.mem_singleton.mp announced
    rw [Payload.chunks_flatten (by rw [known]; rfl) sizes]

end Length

/-- A response as it is answered, before its length is added. -/
def Response.withBase (encoded : Response) (serverName : String) : Response :=
  { encoded with headers := (BaseHeaders.ofServer serverName).apply encoded.headers }

section Base

variable {encoded : Response} {serverName : String}
  (names : ∀ entry ∈ encoded.headers, entry.1 ∈ replyHeaders)

include names

end Base

variable {gateway : Gateway} {world : World} {request : Request} {stage : Stage} {response : Response}
  {disk : Disk}

/-- A step that answers a request refuses it for its rate, or encodes the reply that its handler left. -/
theorem Gateway.step_answered (answered : (gateway.step world request stage).2 = .answered response) :
    stage = .answered response ∨ response = .rateLimited ∨
      ∃ requestId reply, stage = .handled requestId reply ∧
        response = (reply.encode world.disk).1.withBase gateway.settings.general.serverName := by
  cases stage with
  | arrived =>
    rcases (@step_arrived gateway world request).2 with next | next
    · rw [next] at answered
      cases answered
    · rw [next] at answered
      cases answered
      exact Or.inr (Or.inl rfl)
  | admitted => cases answered
  | numbered requestId =>
    rw [step, route] at answered
    split at answered
    · split at answered <;> cases answered
    · cases answered
  | routed requestId handler captures =>
    rcases handled : handler (gateway.context request requestId captures) world.disk with _ | outcome
    · simp only [step, handle, handled] at answered
      cases answered
    · rw [step, handle_disk handled] at answered
      cases answered
  | handled requestId reply =>
    cases answered
    exact Or.inr (Or.inr ⟨requestId, reply, rfl, rfl⟩)
  | answered own => exact Or.inl answered

/-- In one of these moves the request at a place was answered, from this reply and what was then on the
disk. -/
def Gateway.Replied (gateway : Gateway) (disk : Disk) (moves : List Move) (place : Nat) (request : Request)
    (reply : Reply) (point : Disk) : Prop :=
  ∃ before later requestId, moves = before ++ .advance place :: later ∧
    (gateway.after before (.start gateway.settings disk)).requests[place]? =
      some (request, .handled requestId reply) ∧
    (gateway.after before (.start gateway.settings disk)).world.disk = point

theorem Gateway.Replied.append {moves : List Move} {place : Nat} {reply : Reply} {point : Disk}
    (replied : gateway.Replied disk moves place request reply point) (more : List Move) :
    gateway.Replied disk (moves ++ more) place request reply point := by
  obtain ⟨before, later, requestId, rfl, handled, there⟩ := replied
  exact ⟨before, later ++ more, requestId, by simp, handled, there⟩

/-- Behind every answer there is the move in which it was made. -/
theorem Gateway.answered_origin {moves : List Move} {place : Nat}
    (answered : (gateway.after moves (.start gateway.settings disk)).requests[place]? =
      some (request, .answered response)) :
    response = .rateLimited ∨ ∃ reply point, gateway.Replied disk moves place request reply point ∧
      response = (reply.encode point).1.withBase gateway.settings.general.serverName := by
  induction moves using List.reverseRecOn with
  | nil => cases answered
  | append_singleton moves move ih =>
    rw [after_append] at answered
    change (gateway.move (gateway.after moves (.start gateway.settings disk)) move).requests[place]? =
      some (request, .answered response) at answered
    have earlier : (gateway.after moves (.start gateway.settings disk)).requests[place]? =
        some (request, .answered response) →
        response = .rateLimited ∨ ∃ reply point,
          gateway.Replied disk (moves ++ [move]) place request reply point ∧
            response = (reply.encode point).1.withBase gateway.settings.general.serverName := by
      intro before
      rcases ih before with limited | ⟨reply, point, replied, made⟩
      · exact Or.inl limited
      · exact Or.inr ⟨reply, point, replied.append [move], made⟩
    cases move with
    | arrive new =>
      rw [Gateway.move, List.getElem?_append] at answered
      split at answered
      · exact earlier answered
      · rw [List.getElem?_singleton] at answered
        split at answered <;> cases answered
    | sweep now => exact earlier answered
    | advance other =>
      rcases there : (gateway.after moves (.start gateway.settings disk)).requests[other]? with
        _ | ⟨otherRequest, stage⟩
      · rw [move_advance_none there] at answered
        exact earlier answered
      · rw [move_advance there, Running.requests_set there] at answered
        split at answered
        · rename_i same
          obtain ⟨rfl, stepped⟩ := answered
          subst same
          rcases step_answered stepped with before | limited | ⟨requestId, reply, handled, made⟩
          · exact earlier (before ▸ there)
          · exact Or.inl limited
          · exact Or.inr ⟨reply, _, ⟨moves, [], requestId, rfl, handled ▸ there, rfl⟩, made⟩
        · exact earlier answered

def strayRequest : Request where
  method := "GET"
  uri := ⟨none, "/nowhere", none⟩
  headers := [("host", Utf8.encode "localhost")]
  body := ⟨[], .complete⟩
  peer? := none
  arrival := 0
  newId := "a1"
  guardFirst := fun _ => false

end MediaServer
