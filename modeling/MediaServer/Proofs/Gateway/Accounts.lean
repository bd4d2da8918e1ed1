import Mathlib.Algebra.GroupWithZero.Nat
import MediaServer.Proofs.Gateway.Turns

namespace MediaServer

/-- How often each of the items occurs adds up to their number. -/
theorem sum_count_eraseDups {α : Type} [DecidableEq α] (items : List α) :
    (items.eraseDups.map items.count).sum = items.length := by
  induction size : items.length using Nat.strongRecOn generalizing items with
  | ind length ih =>
    cases items with
    | nil => exact size
    | cons item others =>
      -- Without the first item and those that are equal to it, the list is shorter and its counts are the same.
      let different := others.filter fun other => !other == item
      have parts : others.count item + different.length = others.length := by
        rw [← List.countP_eq_length_filter, List.length_eq_countP_add_countP (· == item), List.count]
        congr 2
        funext other
        cases other == item <;> rfl
      have shorter : different.length < length := by
        rw [← size, List.length_cons]
        omega
      have counts : ∀ other ∈ different.eraseDups, (item :: others).count other = different.count other := by
        intro other member
        have apart : ¬ other = item := by
          have inside := (List.mem_filter.mp (List.mem_eraseDups.mp member)).2
          simpa using inside
        rw [List.count_cons_of_ne (Ne.symm apart), List.count_filter]
        simpa using apart
      rw [List.eraseDups_cons, List.map_cons, List.sum_cons, List.map_congr_left counts,
        ih _ shorter different rfl, List.count_cons_self]
      rw [List.length_cons] at size
      omega

/-- The request has been let in and has got an id. -/
def Stage.hasId : Stage → Bool
  | .arrived => false
  | .admitted => false
  | .numbered _ => true
  | .routed _ _ _ => true
  | .handled _ _ => true
  | .answered response => response.status != 429

/-- The request has been let in and has been answered. -/
def Stage.isDone : Stage → Bool
  | .answered response => response.status != 429
  | _ => false

/-- The request has been told to wait. -/
def Stage.isLimited : Stage → Bool
  | .answered response => response.status == 429
  | _ => false

/-- How many of the requests are at a stage of a kind. -/
def Running.count (running : Running) (kind : Stage → Bool) : Nat :=
  running.requests.countP fun entry => kind entry.2

/-- What is counted of the requests is how many of them there are. -/
structure Running.Balanced (running : Running) : Prop where
  issued : running.world.issued = running.count Stage.hasId
  answered : running.world.tally.answered.length = running.count Stage.isDone
  limited : running.world.tally.limited = running.count Stage.isLimited

section Balance

variable {gateway : Gateway} {running : Running}

theorem Running.start_balanced (settings : Settings) (disk : Disk) :
    (Running.start settings disk).Balanced :=
  ⟨rfl, rfl, rfl⟩

/-- A step moves one request from a stage to another. -/
theorem Running.count_set {place : Nat} {request : Request} {stage : Stage}
    (there : running.requests[place]? = some (request, stage)) (world : World) (next : Stage)
    (kind : Stage → Bool) :
    Running.count ⟨world, running.requests.set place (request, next)⟩ kind + (kind stage).toNat =
      running.count kind + (kind next).toNat := by
  obtain ⟨inside, here⟩ := List.getElem?_eq_some_iff.mp there
  have counted : (kind stage).toNat ≤ running.count kind := by
    rcases kept : kind stage with _ | _
    · exact Nat.zero_le _
    · exact List.countP_pos_iff.mpr ⟨(request, stage), List.mem_of_getElem? there, kept⟩
  have flag : ∀ kept : Bool, (if kept = true then 1 else 0) = kept.toNat := by decide
  rw [count, List.countP_set inside, here, flag, flag]
  rw [count] at counted ⊢
  dsimp only
  omega

/-- Whatever a step counts, its request does. -/
theorem Gateway.Effect.balances {world later : World} {request : Request} {stage next : Stage}
    (effect : gateway.Effect world request stage later next) :
    later.issued + stage.hasId.toNat = world.issued + next.hasId.toNat ∧
      later.tally.answered.length + stage.isDone.toNat = world.tally.answered.length + next.isDone.toNat ∧
      later.tally.limited + stage.isLimited.toNat = world.tally.limited + next.isLimited.toNat := by
  cases effect with
  | @answer _ _ _ _ response inRate =>
    have done : (response.status != 429) = true := bne_iff_ne.mpr inRate
    simp [Stage.hasId, Stage.isDone, Stage.isLimited, Tally.record, done, inRate]
  | _ => exact ⟨rfl, rfl, rfl⟩

theorem Running.Balanced.move (balanced : running.Balanced) (move : Move) :
    (gateway.move running move).Balanced := by
  cases move with
  | arrive request =>
    have uncounted : ∀ kind : Stage → Bool, kind .arrived = false →
        (gateway.move running (.arrive request)).count kind = running.count kind := by
      intro kind new
      rw [Gateway.move, Running.count, List.countP_append, List.countP_singleton, new]
      rfl
    constructor
    · rw [uncounted _ rfl]
      exact balanced.issued
    · rw [uncounted _ rfl]
      exact balanced.answered
    · rw [uncounted _ rfl]
      exact balanced.limited
  | sweep now => exact ⟨balanced.issued, balanced.answered, balanced.limited⟩
  | advance place =>
    rcases there : running.requests[place]? with _ | ⟨request, stage⟩
    · rwa [Gateway.move_advance_none there]
    · obtain ⟨issued, answered, limited⟩ := (gateway.step_effect running.world request stage).balances
      rw [Gateway.move_advance there]
      have moved := Running.count_set there (gateway.step running.world request stage).1
        (gateway.step running.world request stage).2
      obtain ⟨wasIssued, wasAnswered, wasLimited⟩ := balanced
      constructor
      · have balance := moved Stage.hasId
        dsimp only
        omega
      · have balance := moved Stage.isDone
        dsimp only
        omega
      · have balance := moved Stage.isLimited
        dsimp only
        omega

theorem Running.Balanced.after (balanced : running.Balanced) (moves : List Move) :
    (gateway.after moves running).Balanced :=
  Gateway.after_invariant (fun _ => Balanced.move) balanced moves

theorem Running.count_answered (all : ∀ entry ∈ running.requests, ∃ response, entry.2 = .answered response) :
    running.count Stage.isDone = running.count Stage.hasId := by
  apply List.countP_congr
  intro entry member
  obtain ⟨response, answered⟩ := all entry member
  rw [answered]
  rfl

end Balance

/-- In every run, in whatever order requests take their steps: the ids are given out one after the other.
A request that the limiter refuses gets none, no handler is at work for it, its steps leave the disk as it is,
and it has one answer. Any other request that has been answered has got one id. If its host and the routes ask
for a call, that call was made once, with this id, and came to an end once; the step in which it did left the
disk and the reply of the handler, and this reply was answered. If they ask for none, no handler was at work.
Once all requests have been answered, the counters add up to the ids that were given out and the answers that
told clients to wait. -/
theorem Gateway.requests_accounted (gateway : Gateway) (disk : Disk) (moves : List Move) :
    let turns := gateway.turns moves (.start gateway.settings disk)
    let running := gateway.after moves (.start gateway.settings disk)
    let tally := running.world.tally
    turns.filterMap Turn.issued? = List.range running.world.issued ∧
      running.world.issued ≤ running.requests.length ∧
      (∀ place request stage, running.requests[place]? = some (request, stage) →
        ((∃ turn ∈ turnsAt place turns, turn.refused = true) →
          gateway.TurnedAway (turnsAt place turns) ∧ stage = .answered .rateLimited) ∧
        ((∀ turn ∈ turnsAt place turns, turn.refused = false) → ∀ response, stage = .answered response →
          response.status ≠ 429 ∧ ∃ requestId reply,
            gateway.Attended (turnsAt place turns) request requestId reply ∧
            (∀ call ∈ gateway.call? request requestId, call.2.requestId = requestId) ∧
            ∃ turn ∈ turnsAt place turns,
              turn.before.2 = .handled requestId reply ∧ turn.after.2 = .answered response)) ∧
      ((∀ entry ∈ running.requests, ∃ response, entry.2 = .answered response) →
        (tally.answered.eraseDups.map tally.answered.count).sum = running.world.issued) ∧
      tally.limited = running.count Stage.isLimited := by
  intro turns running tally
  have recounts : gateway.Recounts turns running := (gateway.start_recounts _ disk).after moves
  have balanced : running.Balanced := (Running.start_balanced gateway.settings disk).after moves
  refine ⟨recounts.issued, ?_, fun place request stage there => ⟨?_, ?_⟩, fun all => ?_, balanced.limited⟩
  · rw [balanced.issued]
    exact List.countP_le_length
  · rintro ⟨turn, member, refused⟩
    exact (recounts.tells there).turnedAway member refused
  · rintro letIn response rfl
    rcases recounts.tells there with ⟨_, away⟩ | ⟨inRate, requestId, reply, attended, sent⟩
    · obtain ⟨turn, member, refused⟩ := away.refused
      rw [letIn turn member] at refused
      cases refused
    · exact ⟨inRate, requestId, reply, attended, fun call asked => gateway.call?_requestId asked, sent⟩
  · rw [sum_count_eraseDups, balanced.answered, balanced.issued, Running.count_answered all]

end MediaServer
