import MediaServer.Proofs.Gateway.Confinement
import MediaServer.Proofs.Gateway.Ownership
import MediaServer.Proofs.Gateway.Routable
import MediaServer.Proofs.Route.Below
import MediaServer.Proofs.Text.Percent

namespace MediaServer

/-- Printable ASCII without spaces. -/
def IsVisible (text : String) : Prop :=
  ∀ c ∈ text.toList, 0x21 ≤ c.toNat ∧ c.toNat ≤ 0x7E

instance (text : String) : Decidable (IsVisible text) :=
  decidable_of_iff (text.toList.all fun c => decide (0x21 ≤ c.toNat ∧ c.toNat ≤ 0x7E)) (by simp [IsVisible])

theorem IsVisible.append {text ending : String} (visible : IsVisible text) (also : IsVisible ending) :
    IsVisible (text ++ ending) := by
  intro c member
  rw [String.toList_append, List.mem_append] at member
  exact member.elim (visible c) (also c)

theorem IsVisible.isText {text : String} (visible : IsVisible text) :
    Headers.isText (Utf8.encode text) = true := by
  rw [Headers.isText_iff]
  intro byte member
  obtain ⟨c, within, inside⟩ := List.mem_flatMap.mp member
  obtain ⟨least, most⟩ := visible c within
  rw [utf8EncodeChar_ascii (by omega), List.mem_singleton] at inside
  rw [inside, toNat_ofNat_of_lt (by omega)]
  omega

theorem Headers.text?_of_visible {headers : Headers} {name text : String}
    (named : headers.first? name = some (Utf8.encode text)) (visible : IsVisible text) :
    headers.text? name = some text := by
  rw [text?, named, Option.bind_some, if_pos visible.isText, Option.some_inj]
  have same := congrArg Utf8.decode? (encode_of_isText visible.isText)
  rwa [Utf8.decode?_encode, Utf8.decode?_encode, Option.some_inj] at same

/-- What of a name counts as the host that is asked: the text before its first colon. -/
def hostPart (name : String) : String :=
  String.ofList (cutAt ':' name.toList).1

theorem hostPart_of_not_mem {name : String} (single : ':' ∉ name.toList) : hostPart name = name := by
  rw [hostPart, cutAt_of_not_mem single, String.ofList_toList]

/-- How a Host header may go on after a name: not at all, or with a colon and a port. -/
def IsHostEnding (ending : String) : Prop :=
  ending = "" ∨ ∃ port, IsVisible port ∧ ending = ":" ++ port

/-- A port makes no difference to the host that is asked, whatever stands in front of it. -/
theorem hostPart_append (name : String) {ending : String} (ends : IsHostEnding ending) :
    hostPart (name ++ ending) = hostPart name := by
  obtain rfl | ⟨port, _, rfl⟩ := ends
  · rw [String.append_empty]
  · have chars : (name ++ (":" ++ port)).toList = name.toList ++ ':' :: port.toList := by simp
    rw [hostPart, chars, cutAt_fst_append_separator, hostPart]

theorem IsHostEnding.isVisible {ending : String} (ends : IsHostEnding ending) : IsVisible ending := by
  obtain rfl | ⟨port, visible, rfl⟩ := ends
  · simp [IsVisible]
  · have colon : IsVisible ":" := by decide
    exact colon.append visible

theorem Request.host_of_header {request : Request} {text : String}
    (named : request.headers.first? "host" = some (Utf8.encode text)) (visible : IsVisible text) :
    request.host = hostPart text := by
  rw [host, hostOf, Headers.text?_of_visible named visible]
  rfl

/-- With these settings, the routes decide on every request with this Host header. -/
def Settings.PassesGate (settings : Settings) (host : String) : Prop :=
  ∀ (gateway : Gateway) (world : World) (request : Request) (requestId : Nat), gateway.settings = settings →
    request.headers.first? "host" = some (Utf8.encode host) →
      gateway.route world request requestId =
        (world, (gateway.routes.lookup request.method request.uri.path).stage requestId)

/-- With these settings, every request with this Host header is refused. -/
def Settings.StopsAtGate (settings : Settings) (host : String) : Prop :=
  ∀ (gateway : Gateway) (world : World) (request : Request), gateway.settings = settings →
    request.headers.first? "host" = some (Utf8.encode host) →
      (gateway.dispatch world request).2 = some (Response.rejected settings.general.serverName)

theorem Settings.passesGate_of_mem {settings : Settings} {host : String} (visible : IsVisible host)
    (served : hostPart host ∈ settings.homeservers) : settings.PassesGate host := by
  rintro gateway world request requestId rfl named
  rw [← Request.host_of_header named visible] at served
  exact Gateway.route_served served

theorem Settings.stopsAtGate_of_not_mem {settings : Settings} {host : String} (visible : IsVisible host)
    (foreign : hostPart host ∉ settings.homeservers) : settings.StopsAtGate host := by
  rintro gateway world request rfl named
  rw [← Request.host_of_header named visible] at foreign
  rw [Gateway.dispatch_foreign gateway world foreign]

/-- The path asks for a download, with these texts where the routes have captures. -/
def Settings.AsksDownload (settings : Settings) (path : String) (taken : Taken) : Prop :=
  ∃ base version route, RoutePattern.parse settings.general.apiPrefix = .ok base ∧
    version ∈ settings.general.versions ∧ route ∈ MediaRoute.all ∧ route.endpoint = .download ∧
    (route.patternBelow base.segments version).Takes path taken

/-- Which captures a download path has decides what is found for it. -/
theorem Settings.AsksDownload.lookup {settings : Settings} (valid : settings.isValid)
    {identicons? : Option IdenticonMaker} {gateway : Gateway}
    (built : Gateway.ofSettings settings identicons? = .ok gateway) {path : String} {taken : Taken}
    (asks : settings.AsksDownload path taken) :
    (taken.map (·.1)).Nodup ∧
      (taken.decode? = none → ∀ method, gateway.routes.lookup method path = .notFound) ∧
      ∀ captures, taken.decode? = some captures →
        gateway.routes.lookup "GET" path = .found Endpoint.download.handler captures := by
  obtain ⟨base, version, route, parsed, known, member, download, takes⟩ := asks
  obtain ⟨some, named, slash⟩ := Settings.general_of_valid valid
  have literal : ∀ version ∈ settings.general.versions, (Segment.literal version).Wellformed :=
    fun version known => Segment.wellformed_of_isVersion (named version known)
  obtain ⟨rfl, accepted⟩ := Gateway.ofSettings_eq_ok built
  obtain ⟨segments, written, proper, isBase⟩ := mediaRoutes_path_isBase literal accepted some
  obtain rfl := Except.ok.inj (parsed.symm.trans ((isPathPrefix_parts_iff slash).mp ⟨written, proper⟩))
  rw [Gateway.BuiltIn, ← written] at accepted
  have missing := @mediaRoutes_missing_below _ _ _ _ literal proper isBase _ accepted _ _ known _ member _ takes
  have found := @mediaRoutes_found_below _ _ _ _ literal proper isBase _ accepted _ _ known _ member _ takes
  have get : ∀ route ∈ MediaRoute.all, route.endpoint = .download → route.method = "GET" := by
    simp [MediaRoute.all]
  rw [download, get route member download] at found
  refine ⟨?_, missing, fun captures decoded => found decoded⟩
  obtain ⟨fits, _⟩ := (Segment.isBase_iff (literal version known)).mpr ⟨proper, isBase⟩ route member
  obtain ⟨_, _, takes⟩ := takes
  rw [takes.names]
  exact fits.distinct

theorem Settings.homeserver_ne_empty {settings : Settings} (valid : settings.isValid) {name : String}
    (configured : name ∈ settings.homeservers) : name ≠ "" := by
  rintro rfl
  have blank : settings.homeservers.any isBlank = true := List.any_eq_true.mpr ⟨"", configured, by decide⟩
  rw [isValid, List.isEmpty_iff] at valid
  simp [faults, faultUnless, blank] at valid

theorem Taken.value?_of_writes {part text : String} (writes : Percent.Writes (Utf8.encode part) (Utf8.encode text))
    (name : String) (kind : CaptureClass) :
    Taken.value? (name, kind, part) = if kind.accepts text then some (name, text) else none := by
  rw [Taken.value?, Percent.decodeText?_of_writes writes]
  rfl

/-- In these settings, the name is the server of a download if its characters are those of domains, and of
none if they are not, however it is written in the path. -/
theorem Settings.AsksDownload.lookup_server {settings : Settings} (valid : settings.isValid)
    {identicons? : Option IdenticonMaker} {gateway : Gateway}
    (built : Gateway.ofSettings settings identicons? = .ok gateway) {path part name : String} {taken : Taken}
    (asks : settings.AsksDownload path taken) (within : ("server", .authority, part) ∈ taken)
    (writes : Percent.Writes (Utf8.encode part) (Utf8.encode name)) :
    (CaptureClass.authority.accepts name = true →
      (∀ entry ∈ taken, entry.1 ≠ "server" → (Taken.value? entry).isSome) →
        ∃ captures, captures.lookup "server" = some name ∧
          gateway.routes.lookup "GET" path = .found Endpoint.download.handler captures) ∧
      (CaptureClass.authority.accepts name = false →
        ∀ method, gateway.routes.lookup method path = .notFound) := by
  obtain ⟨once, missing, found⟩ := asks.lookup valid built
  have own := Taken.value?_of_writes writes "server" .authority
  constructor
  · intro accepted others
    rw [if_pos accepted] at own
    have known : ∀ entry ∈ taken, (Taken.value? entry).isSome := by
      intro entry member
      by_cases server : entry.1 = "server"
      · rw [List.inj_on_of_nodup_map once member within server, own]
        rfl
      · exact others entry member server
    obtain ⟨captures, decoded⟩ := Option.isSome_iff_exists.mp (Taken.decode?_isSome_iff.mpr known)
    rw [← Taken.names_of_decode? decoded] at once
    exact ⟨captures, lookup_of_mem once (Taken.mem_of_value? decoded within own), found captures decoded⟩
  · intro refused
    rw [if_neg (Bool.eq_false_iff.mp refused)] at own
    have none : ¬ taken.decode?.isSome := by
      rw [Taken.decode?_isSome_iff]
      intro known
      have some := known _ within
      rw [own] at some
      cases some
    exact missing (Option.not_isSome_iff_eq_none.mp none)

/-- Where the name of a configured server leads. As a Host header, alone or with a port, it passes the gate if
what stands before its first colon is configured too, and is refused if not; as the server of a download it
needs the characters of domains; and where it is captured, the store is asked for the item. -/
theorem Settings.homeserver_admitted {settings : Settings} (valid : settings.isValid) {name : String}
    (configured : name ∈ settings.homeservers) (visible : IsVisible name) :
    (':' ∉ name.toList → hostPart name = name) ∧
      (∀ ending, IsHostEnding ending →
        (hostPart name ∈ settings.homeservers → settings.PassesGate (name ++ ending)) ∧
          (hostPart name ∉ settings.homeservers → settings.StopsAtGate (name ++ ending))) ∧
      (∀ identicons? gateway, Gateway.ofSettings settings identicons? = .ok gateway →
        ∀ path taken part, settings.AsksDownload path taken → ("server", .authority, part) ∈ taken →
          Percent.Writes (Utf8.encode part) (Utf8.encode name) →
            ((∀ c ∈ name.toList, CaptureClass.authority.admits c = true) →
              (∀ entry ∈ taken, entry.1 ≠ "server" → (Taken.value? entry).isSome) →
                ∃ captures, captures.lookup "server" = some name ∧
                  gateway.routes.lookup "GET" path = .found Endpoint.download.handler captures) ∧
              ((∃ c ∈ name.toList, CaptureClass.authority.admits c = false) →
                ∀ method, gateway.routes.lookup method path = .notFound)) ∧
      ∀ (context : Context) mediaId disk, context.settings = settings →
        context.capture? "server" = some name → context.capture? "media_id" = some mediaId →
          context.findMedia disk = disk.stored name mediaId := by
  refine ⟨hostPart_of_not_mem, ?_, ?_, ?_⟩
  · intro ending ends
    have whole := visible.append ends.isVisible
    rw [← hostPart_append name ends]
    exact ⟨Settings.passesGate_of_mem whole, Settings.stopsAtGate_of_not_mem whole⟩
  · intro identicons? gateway built path taken part asks within writes
    obtain ⟨found, missing⟩ := asks.lookup_server valid built within writes
    have some := Settings.homeserver_ne_empty valid configured
    constructor
    · intro domain
      exact found (by simpa [CaptureClass.accepts, some] using domain)
    · rintro ⟨c, member, refused⟩
      refine missing (Bool.eq_false_iff.mpr fun accepted => ?_)
      exact CaptureClass.not_mem_of_accepts accepted refused member
  · rintro context mediaId disk rfl named id
    exact Context.findMedia_of_served configured named id disk

/-- A server that is named with and without its port, and one that is named by its address. -/
def mixedNames : Settings :=
  { shortSettings with homeservers := ["example.org", "example.org:8448", "[::1]"] }

theorem mixedNames_built : ∃ gateway, Gateway.ofSettings mixedNames none = .ok gateway := by
  have literal : ∀ text ∈ ["m"], (Segment.literal text).Wellformed := by simp [Segment.Wellformed, isBrace]
  have literalVersions : ∀ version ∈ ["r0"], (Segment.literal version).Wellformed := by
    simp [Segment.Wellformed, isBrace]
  obtain ⟨table, accepted, _⟩ := mediaRoutes_accepted Endpoint.handler literal literalVersions (by simp)
  rw [slashed_singleton] at accepted
  exact Gateway.withHandlers_ok_iff.mpr ⟨table, accepted⟩

/-- The texts that the download of an item has below the path of these settings. -/
theorem mixedNames_asks {path host : String}
    (split : pathParts? path = some ["m", "r0", "download", host, "abc"]) :
    mixedNames.AsksDownload path [("server", .authority, host), ("media_id", .mediaId, "abc")] := by
  have parsed : RoutePattern.parse "/m" = .ok ⟨"/m", [.literal "m"]⟩ := by decide +kernel
  have known : "r0" ∈ mixedNames.general.versions := by simp [mixedNames, shortSettings]
  refine ⟨_, "r0", MediaRoute.all[1], parsed, known, List.getElem_mem _, rfl, _, split, ?_⟩
  exact .literal (.literal (.literal (.one (by simp) (by simp) (.one (by simp) (by simp) .done))))

/-- With its port the name is a host that is served without one, and its colon may be written in hexadecimal. -/
theorem mixedNames_admitted :
    mixedNames.PassesGate "example.org:8448" ∧
      ∃ gateway captures, Gateway.ofSettings mixedNames none = .ok gateway ∧
        captures.lookup "server" = some "example.org:8448" ∧
        gateway.routes.lookup "GET" "/m/r0/download/example.org%3A8448/abc" =
          .found Endpoint.download.handler captures := by
  obtain ⟨gateway, built⟩ := mixedNames_built
  obtain ⟨_, gate, download, _⟩ := @Settings.homeserver_admitted mixedNames (by decide +kernel)
    "example.org:8448" (by simp [mixedNames]) (by decide)
  have asks := @mixedNames_asks "/m/r0/download/example.org%3A8448/abc" "example.org%3A8448" (by decide +kernel)
  have host : Percent.Writes (Utf8.encode "example.org") (Utf8.encode "example.org") :=
    Percent.writes_self (by decide +kernel)
  have colon : Percent.Writes [0x25, 0x33, 0x41] [3 * 16 + 10] := .escaped (by decide) (by decide) .nil
  have port : Percent.Writes (Utf8.encode "8448") (Utf8.encode "8448") := Percent.writes_self (by decide +kernel)
  have written : Utf8.encode "example.org" ++ ([0x25, 0x33, 0x41] ++ Utf8.encode "8448") =
      Utf8.encode "example.org%3A8448" := by decide +kernel
  have meant : Utf8.encode "example.org" ++ ([3 * 16 + 10] ++ Utf8.encode "8448") =
      Utf8.encode "example.org:8448" := by decide +kernel
  have writes := host.append (colon.append port)
  rw [written, meant] at writes
  obtain ⟨captures, server, found⟩ := (download none gateway built _ _ _ asks List.mem_cons_self writes).1
    (List.all_eq_true.mp (by decide +kernel)) (by decide +kernel)
  have passes := (gate "" (Or.inl rfl)).1 (by decide +kernel)
  rw [String.append_empty] at passes
  exact ⟨passes, gateway, captures, built, server, found⟩

/-- The server that is named by its address gets no request, and no download has it as its server. -/
theorem mixedNames_refused :
    mixedNames.isValid = true ∧ "[::1]" ∈ mixedNames.homeservers ∧ IsVisible "[::1]" ∧
      ∃ gateway, Gateway.ofSettings mixedNames none = .ok gateway ∧
        (gateway.dispatch ⟨0, .empty, none, .empty, []⟩
            { smallUpload with headers := [("host", Utf8.encode "[::1]:8448")] }).2 =
          some (Response.rejected "media-gateway") ∧
        gateway.routes.lookup "GET" "/m/r0/download/%5B::1%5D/abc" = .notFound := by
  obtain ⟨gateway, built⟩ := mixedNames_built
  obtain ⟨same, _⟩ := Gateway.ofSettings_eq_ok built
  have valid : mixedNames.isValid = true := by decide +kernel
  have foreign : ({ smallUpload with headers := [("host", Utf8.encode "[::1]:8448")] } : Request).host ∉
      gateway.settings.homeservers := by
    rw [same]
    decide +kernel
  have asks := @mixedNames_asks "/m/r0/download/%5B::1%5D/abc" "%5B::1%5D" (by decide +kernel)
  have refused : Taken.value? ("server", .authority, "%5B::1%5D") = none := by decide +kernel
  have missed : Taken.decode? [("server", .authority, "%5B::1%5D"), ("media_id", .mediaId, "abc")] = none := by
    rw [Taken.decode?, List.mapM_cons, refused]
    rfl
  refine ⟨valid, by simp [mixedNames], by decide, gateway, built, ?_, (asks.lookup valid built).2.1 missed "GET"⟩
  rw [Gateway.dispatch_foreign gateway _ foreign, same]
  rfl

end MediaServer
