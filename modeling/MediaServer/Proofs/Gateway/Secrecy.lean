import MediaServer.Proofs.Gateway.Footprint
import MediaServer.Proofs.Gateway.Paired
import MediaServer.Proofs.Log.Query

namespace MediaServer

/-- The request with another query. -/
def Request.withQuery (request : Request) (query? : Option String) : Request :=
  { request with uri := { request.uri with query? } }

/-- The raw query may be another one, as long as it decodes to the same pairs but for access tokens. -/
def Request.Conceals (request : Request) (query? : Option String) : Prop :=
  AlikeButToken (Form.decode (request.uri.query?.getD "")) (Form.decode (query?.getD ""))

/-- The same move, or the arrival of a request with other access tokens in its query. -/
inductive Move.AlikeButToken : Move → Move → Prop
  | arrive {request : Request} {query? : Option String} : request.Conceals query? →
      AlikeButToken (.arrive request) (.arrive (request.withQuery query?))
  | advance (place : Nat) : AlikeButToken (.advance place) (.advance place)
  | sweep (now : Nat) : AlikeButToken (.sweep now) (.sweep now)

def Context.withQuery (context : Context) (query : List (String × String)) : Context :=
  { context with query }

section Handlers

variable {context : Context} {query : List (String × String)} (alike : AlikeButToken context.query query)

include alike

theorem Context.param?_withQuery {name : String} (visible : name ≠ "access_token") :
    (context.withQuery query).param? name = context.param? name :=
  (alike.lookup visible).symm

theorem Context.dimension_withQuery {name : String} (visible : name ≠ "access_token") (limit : Nat) :
    (context.withQuery query).dimension name limit = context.dimension name limit := by
  simp only [dimension, param?_withQuery alike visible]

theorem Context.upload_withQuery (disk : Disk) : (context.withQuery query).upload disk = context.upload disk := by
  have filename : (context.withQuery query).param? "filename" = context.param? "filename" :=
    param?_withQuery alike (by decide)
  have name : (context.withQuery query).uploadName = context.uploadName := by
    rw [uploadName, uploadName, filename]
  have store : ∀ bytes, (context.withQuery query).storeUpload bytes disk = context.storeUpload bytes disk := by
    intro bytes
    rw [storeUpload, name]
    rfl
  simp only [upload, store]
  rfl

theorem Context.thumbnail_withQuery (disk : Disk) :
    (context.withQuery query).thumbnail disk = context.thumbnail disk := by
  have width := dimension_withQuery alike (show "width" ≠ "access_token" by decide)
    context.settings.thumbnails.maxWidth
  have height := dimension_withQuery alike (show "height" ≠ "access_token" by decide)
    context.settings.thumbnails.maxHeight
  have method : (context.withQuery query).param? "method" = context.param? "method" :=
    param?_withQuery alike (by decide)
  have fault : (context.withQuery query).thumbnailFault? = context.thumbnailFault? := by
    have settings : (context.withQuery query).settings = context.settings := rfl
    rw [thumbnailFault?, thumbnailFault?, settings, width, height, method]
  rw [thumbnail, fault]
  rfl

theorem Context.previewUrl_withQuery : (context.withQuery query).previewUrl = context.previewUrl := by
  have url : (context.withQuery query).param? "url" = context.param? "url" := param?_withQuery alike (by decide)
  rw [previewUrl, url]
  rfl

theorem Context.identicon_withQuery : (context.withQuery query).identicon = context.identicon := by
  have width := dimension_withQuery alike (show "width" ≠ "access_token" by decide) identiconLimit
  have height := dimension_withQuery alike (show "height" ≠ "access_token" by decide) identiconLimit
  have drawn : ∀ draw : String → Nat → Nat → Id Bytes,
      (context.withQuery query).drawIdenticon draw = context.drawIdenticon draw := by
    intro draw
    rw [drawIdenticon, width, height]
    rfl
  simp only [identicon, drawn]
  rfl

/-- No handler asks for the access token. -/
theorem Endpoint.handler_withQuery (endpoint : Endpoint) (disk : Disk) :
    endpoint.handler (context.withQuery query) disk = endpoint.handler context disk := by
  cases endpoint with
  | upload => exact Context.upload_withQuery alike disk
  | download => rfl
  | thumbnail => exact congrArg some (Context.thumbnail_withQuery alike disk)
  | previewUrl => simp only [handler, Handler.pure, Context.previewUrl_withQuery alike]
  | identicon => simp only [handler, Handler.pure, Context.identicon_withQuery alike]

end Handlers

variable {gateway : Gateway} {request : Request} {query? : Option String}

/-- A step is the same for a request with other access tokens. Only two stages look at the query: the one
that logs it with the secret values hidden, and the one that runs a handler. -/
theorem Gateway.step_withQuery (conceals : request.Conceals query?) (world : World) {stage : Stage}
    (builtIn : stage.BuiltIn) :
    gateway.step world (request.withQuery query?) stage = gateway.step world request stage := by
  cases stage with
  | admitted =>
    have received : (request.withQuery query?).receivedEvent = request.receivedEvent := by
      simp only [Request.receivedEvent, logSafeQuery_congr conceals]
      rfl
    rw [step, step, World.number, received]
    rfl
  | routed requestId handler captures =>
    obtain ⟨endpoint, rfl⟩ := builtIn
    have context : gateway.context (request.withQuery query?) requestId captures =
        (gateway.context request requestId captures).withQuery (Form.decode (query?.getD "")) := rfl
    have alike : AlikeButToken (gateway.context request requestId captures).query
        (Form.decode (query?.getD "")) := conceals
    have handled := Endpoint.handler_withQuery alike endpoint world.disk
    rw [step, step, handle, context, handled]
    rfl
  | _ => rfl

theorem Gateway.BuiltIn.run_withQuery (media : gateway.BuiltIn) (conceals : request.Conceals query?)
    (count : Nat) {world : World} {stage : Stage} (builtIn : stage.BuiltIn) :
    gateway.run (request.withQuery query?) count (world, stage) = gateway.run request count (world, stage) := by
  induction count generalizing world stage with
  | zero => rfl
  | succ count ih =>
    rw [run, run, step_withQuery conceals world builtIn]
    exact ih (media.step builtIn)

/-- Equally far, with requests that differ in access tokens alone. -/
def Running.Twins (entry twin : Request × Stage) : Prop :=
  entry.2 = twin.2 ∧ ∃ query?, entry.1.Conceals query? ∧ twin.1 = entry.1.withQuery query?

structure Running.AlikeButToken (running other : Running) : Prop where
  world : running.world = other.world
  requests : List.Forall₂ Twins running.requests other.requests

theorem Running.alikeButToken_iff {running other : Running} :
    running.AlikeButToken other ↔ running.Paired (· = ·) Twins other :=
  ⟨fun alike => ⟨alike.world, alike.requests⟩, fun paired => ⟨paired.world, paired.requests⟩⟩

/-- A move leads both to the same world, and their requests to the same stages. -/
theorem Gateway.move_alike {running other : Running} (alike : running.AlikeButToken other)
    (builtIn : running.BuiltIn) {move twin : Move} (same : move.AlikeButToken twin) :
    (gateway.move running move).AlikeButToken (gateway.move other twin) := by
  rw [Running.alikeButToken_iff] at alike ⊢
  cases same with
  | arrive conceals => exact alike.arrive ⟨rfl, _, conceals, rfl⟩
  | sweep now => exact alike.sweep (congrArg (World.sweep · now) alike.world)
  | advance place =>
    apply alike.advance place
    rintro ⟨request, stage⟩ ⟨twin, _⟩ member ⟨rfl, query?, conceals, rfl⟩
    have stepped : gateway.step other.world (request.withQuery query?) stage =
        gateway.step other.world request stage :=
      step_withQuery conceals other.world (builtIn _ member)
    dsimp only
    rw [stepped, alike.world]
    exact ⟨rfl, rfl, query?, conceals, rfl⟩

theorem Gateway.BuiltIn.after_alike (media : gateway.BuiltIn) {moves twins : List Move}
    (same : List.Forall₂ Move.AlikeButToken moves twins) {running other : Running}
    (alike : running.AlikeButToken other) (builtIn : running.BuiltIn) :
    (gateway.after moves running).AlikeButToken (gateway.after twins other) := by
  induction same generalizing running other with
  | nil => exact alike
  | @cons move twin moves twins here _ ih =>
    rw [after_cons, after_cons]
    exact ih (move_alike alike builtIn here) (media.move builtIn move)

theorem Running.AlikeButToken.response? {running other : Running} (alike : running.AlikeButToken other)
    (place : Nat) : running.response? place = other.response? place := by
  apply (alikeButToken_iff.mp alike).response?
  rintro ⟨request, stage⟩ ⟨twin, _⟩ ⟨rfl, query?, conceals, rfl⟩
  rfl

/-- Access tokens never show. Two runs of a server that differ only in how queries are written and in the
values of access tokens there lead to the same world, with the same log, and send the same responses; and
so do two requests to one server at any time. -/
theorem Gateway.access_token_unseen {settings : Settings} {identicons? : Option IdenticonMaker}
    (built : Gateway.ofSettings settings identicons? = .ok gateway) (disk : Disk) {moves twins : List Move}
    (alike : List.Forall₂ Move.AlikeButToken moves twins) :
    let run := gateway.after moves (.start settings disk)
    let twin := gateway.after twins (.start settings disk)
    run.world.log = twin.world.log ∧ run.world = twin.world ∧
      (∀ place, run.response? place = twin.response? place) ∧
      ∀ request : Request, ∀ query?, request.Conceals query? →
        gateway.serve run.world (request.withQuery query?) = gateway.serve run.world request := by
  intro run twin
  obtain ⟨_, media⟩ := ofSettings_eq_ok built
  have start : (Running.start settings disk).AlikeButToken (.start settings disk) := ⟨rfl, .nil⟩
  have builtIn : (Running.start settings disk).BuiltIn := fun _ nothing => absurd nothing List.not_mem_nil
  have reached := media.after_alike alike start builtIn
  refine ⟨congrArg World.log reached.world, reached.world, reached.response?, ?_⟩
  intro request query? conceals
  have ran : gateway.run (request.withQuery query?) 5 (run.world, .arrived) =
      gateway.run request 5 (run.world, .arrived) := media.run_withQuery conceals 5 trivial
  rw [serve, serve, ran]
  rfl

/-- A preview is asked for with two access tokens. -/
def previewRequest : Request where
  method := "GET"
  uri := ⟨none, "/m/r0/preview_url", some "url=a&access%5Ftoken=one&access_token=two"⟩
  headers := [("host", Utf8.encode "localhost")]
  body := ⟨[], .complete⟩
  peer? := none
  arrival := 0
  newId := "a1"
  guardFirst := fun _ => false

/-- The same question in other letters, with one token empty and one that is not ASCII. -/
def previewQuery : String :=
  "%75rl=%61&access_token&acces%73_token=%C3%A9"

theorem previewRequest_conceals : previewRequest.Conceals (some previewQuery) := by
  have first : Form.decode "url=a&access%5Ftoken=one&access_token=two" =
      [("url", "a"), ("access_token", "one"), ("access_token", "two")] := by
    decide +kernel
  have second : Form.decode previewQuery = [("url", "a"), ("access_token", ""), ("access_token", "é")] := by
    decide +kernel
  have token : ∀ one two : String, ("access_token", one).1 = ("access_token", two).1 ∧
      (("access_token", one).1 ≠ "access_token" → ("access_token", one).2 = ("access_token", two).2) :=
    fun _ _ => ⟨rfl, fun other => absurd rfl other⟩
  simp only [Request.Conceals, previewRequest, Option.getD_some, first, second]
  exact .cons ⟨rfl, fun _ => rfl⟩ (.cons (token _ _) (.cons (token _ _) .nil))

theorem previewRequest_token_unseen : ∃ gateway response,
    Gateway.ofSettings shortSettings none = .ok gateway ∧
      let answered := List.replicate 5 (Move.advance 0)
      let run := gateway.after (.arrive previewRequest :: answered) (.start shortSettings .empty)
      let twin := gateway.after (.arrive (previewRequest.withQuery (some previewQuery)) :: answered)
        (.start shortSettings .empty)
      run.world.log = twin.world.log ∧ run.response? 0 = some response ∧ twin.response? 0 = some response := by
  have sent : ((Gateway.ofSettings shortSettings none).toOption.bind fun gateway =>
      (gateway.after (.arrive previewRequest :: List.replicate 5 (.advance 0))
        (.start shortSettings .empty)).response? 0).isSome = true := by
    decide +kernel
  obtain ⟨response, found⟩ := Option.isSome_iff_exists.mp sent
  obtain ⟨gateway, made, answered⟩ := Option.bind_eq_some_iff.mp found
  have built : Gateway.ofSettings shortSettings none = .ok gateway := eq_ok_of_toOption made
  have alike : List.Forall₂ Move.AlikeButToken (.arrive previewRequest :: List.replicate 5 (.advance 0))
      (.arrive (previewRequest.withQuery (some previewQuery)) :: List.replicate 5 (.advance 0)) :=
    .cons (.arrive previewRequest_conceals) (List.forall₂_same.mpr fun move member => by
      rw [List.eq_of_mem_replicate member]
      exact .advance 0)
  obtain ⟨log, _, same, _⟩ := Gateway.access_token_unseen built .empty alike
  exact ⟨gateway, response, built, log, answered, (same 0).symm.trans answered⟩

end MediaServer
