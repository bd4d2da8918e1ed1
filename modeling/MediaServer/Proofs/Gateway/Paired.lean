import MediaServer.Proofs.Gateway.Run
import MediaServer.Proofs.Lists.Related

namespace MediaServer

/-- Two running servers whose worlds stand in one relation, and whose requests, place by place, in another. -/
structure Running.Paired (worlds : World → World → Prop) (entries : Request × Stage → Request × Stage → Prop)
    (running other : Running) : Prop where
  world : worlds running.world other.world
  requests : List.Forall₂ entries running.requests other.requests

variable {worlds : World → World → Prop} {entries : Request × Stage → Request × Stage → Prop}
  {running other : Running}

theorem Running.Paired.arrive {gateway otherGateway : Gateway} (paired : running.Paired worlds entries other)
    {request twin : Request} (new : entries (request, .arrived) (twin, .arrived)) :
    (gateway.move running (.arrive request)).Paired worlds entries (otherGateway.move other (.arrive twin)) :=
  ⟨paired.world, List.rel_append paired.requests (.cons new .nil)⟩

theorem Running.Paired.sweep {gateway otherGateway : Gateway} (paired : running.Paired worlds entries other)
    {now : Nat} (swept : worlds (running.world.sweep now) (other.world.sweep now)) :
    (gateway.move running (.sweep now)).Paired worlds entries (otherGateway.move other (.sweep now)) :=
  ⟨swept, paired.requests⟩

/-- If the steps of two requests that stand at one place keep both relations, so does the move in which they
are taken. -/
theorem Running.Paired.advance {gateway otherGateway : Gateway} (paired : running.Paired worlds entries other)
    (place : Nat)
    (stepped : ∀ entry twin, entry ∈ running.requests → entries entry twin →
      worlds (gateway.step running.world entry.1 entry.2).1 (otherGateway.step other.world twin.1 twin.2).1 ∧
      entries (entry.1, (gateway.step running.world entry.1 entry.2).2)
        (twin.1, (otherGateway.step other.world twin.1 twin.2).2)) :
    (gateway.move running (.advance place)).Paired worlds entries
      (otherGateway.move other (.advance place)) := by
  have twins := forall₂_getElem? paired.requests place
  rcases there : running.requests[place]? with _ | entry <;>
    rcases otherThere : other.requests[place]? with _ | twin <;> rw [there, otherThere] at twins
  · rwa [Gateway.move_advance_none there, Gateway.move_advance_none otherThere]
  · cases twins
  · cases twins
  · cases twins with
    | some related =>
      obtain ⟨world, stages⟩ := stepped entry twin (Running.mem_requests there) related
      rw [Gateway.move_advance there, Gateway.move_advance otherThere]
      exact ⟨world, forall₂_set paired.requests place stages⟩

/-- Requests that have been sent the same at each place. -/
theorem Running.Paired.response? (paired : running.Paired worlds entries other)
    (sent : ∀ entry twin, entries entry twin → entry.2.response?.map (Response.finish entry.1.method) =
      twin.2.response?.map (Response.finish twin.1.method)) (place : Nat) :
    running.response? place = other.response? place := by
  have twins := forall₂_getElem? paired.requests place
  unfold Running.response?
  generalize running.requests[place]? = entry? at twins
  generalize other.requests[place]? = twin? at twins
  cases twins with
  | none => rfl
  | some related => exact sent _ _ related

end MediaServer
