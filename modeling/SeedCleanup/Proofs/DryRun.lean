import SeedCleanup.Proofs.AddressTheorems
import SeedCleanup.Proofs.DialogTheorems
import SeedCleanup.Proofs.SortedTableTheorems
import SeedCleanup.Startup.Assembly

/-!
# Dry runs

A backend that is put together for a dry run looks up what it would delete and stops there. Whatever
it is told to do and whatever its server answers, a library is only sent requests that get
something, and a client is never told to remove a torrent (`dryRun_never_destroys`).
-/

namespace SeedCleanup

open Session

/-! ## Libraries -/

namespace ArrServer

variable {a : ArrServer}

/-- What a library is told to do, as a session with its server. -/
def session (a : ArrServer) : SourceCall FileDeletion → Session Unit Unit
  | .fetch => do let _ ← a.titles
  | .delete d => a.deleteFiles d.ids d.stopMonitoring

/-- Whether a request only gets something. -/
def OnlyGets (r : Outgoing) : Prop := r.method = .get

theorem asks_send_server {r : Outgoing} (h : OnlyGets r) : Asks OnlyGets (a.send r) := by
  unfold send
  refine asks_bind (asks_send h) fun reply => ?_
  split
  · exact asks_throw _
  · exact asks_pure _

theorem asks_fetch {α : Type} (decode : String → Option α) (endpoint : String)
    (query : List (String × String)) : Asks OnlyGets (a.fetch decode endpoint query) := by
  unfold fetch
  refine asks_bind (asks_send_server rfl) fun reply => ?_
  split
  · exact asks_pure _
  · exact asks_throw _

theorem asks_seriesEntries (series : List Arr.Series) : Asks OnlyGets (a.seriesEntries series) := by
  induction series with
  | nil => exact asks_pure _
  | cons s rest ih =>
    unfold seriesEntries
    split
    · exact ih
    · refine asks_bind (asks_fetch _ _ _) fun files => ?_
      exact asks_bind ih fun entries => asks_pure _

theorem asks_titles : Asks OnlyGets a.titles := by
  unfold titles
  split
  · exact asks_bind (asks_fetch _ _ _) fun movies => asks_pure _
  · exact asks_bind (asks_fetch _ _ _) fun series => asks_seriesEntries series

/-- A dry deletion ends when the owners of the files are looked up. -/
theorem asks_deleteMovieFiles (hdry : a.dryRun = true) (ids : List Int64) (stop : Bool) :
    Asks OnlyGets (a.deleteMovieFiles ids stop) := by
  unfold deleteMovieFiles
  simp only [hdry, if_true]
  refine asks_ite ?_ ?_
  · refine asks_bind (asks_fetch _ _ _) fun files => ?_
    exact asks_bind (asks_pure _) fun owners => asks_pure _
  · exact asks_bind (asks_pure _) fun owners => asks_pure _

/-- A dry deletion ends when the owners of the files are looked up. -/
theorem asks_deleteEpisodeFiles (hdry : a.dryRun = true) (ids : List Int64) (stop : Bool) :
    Asks OnlyGets (a.deleteEpisodeFiles ids stop) := by
  unfold deleteEpisodeFiles
  simp only [hdry, if_true]
  refine asks_ite ?_ ?_
  · refine asks_bind (asks_fetch _ _ _) fun files => ?_
    exact asks_bind (asks_pure _) fun owners => asks_pure _
  · exact asks_bind (asks_pure _) fun owners => asks_pure _

theorem asks_session (hdry : a.dryRun = true) (call : SourceCall FileDeletion) :
    Asks OnlyGets (a.session call) := by
  cases call with
  | fetch => exact asks_bind asks_titles fun _ => asks_pure _
  | delete d =>
    show Asks OnlyGets (a.deleteFiles d.ids d.stopMonitoring)
    unfold deleteFiles
    refine asks_ite (asks_pure _) ?_
    split
    · exact asks_deleteMovieFiles hdry _ _
    · exact asks_deleteEpisodeFiles hdry _ _

end ArrServer

/-! ## qBittorrent -/

namespace QBittorrent

variable {q : QBittorrent}

/-- What a client is told to do, as a session with it. -/
def session (q : QBittorrent) : SourceCall TorrentKey → Session Bool Unit
  | .fetch => do let _ ← q.torrents
  | .delete key => q.delete key.id

/-- Whether a request asks for the path that deletes torrents, of whatever client. -/
def DeletesTorrents (r : Outgoing) : Prop :=
  ∃ u, Wire.address? r = .ok u ∧ "/api/v2/torrents/delete".toList <:+ u.path.toList

/-- The endpoints of a client that delete nothing. -/
def sparingEndpoints : List String :=
  ["/api/v2/auth/login", "/api/v2/torrents/info", "/api/v2/torrents/trackers",
    "/api/v2/torrents/files"]

/-- A request of a client is a login or gets something, and deletes no torrent. -/
structure Spares (q : QBittorrent) (r : Outgoing) : Prop where
  /-- Nothing is sent along, unless to log in. -/
  harmless : (r.method = .get ∧ r.body = .none) ∨
    r = { method := .post
          url := addressBelow q.settings.url "/api/v2/auth/login"
          body := .form
            [("username", q.settings.username), ("password", q.settings.password)] }
  /-- Whatever the address of the client is, what is asked for below it deletes nothing. -/
  endpoint : ∃ e ∈ sparingEndpoints, r.url = addressBelow q.settings.url e
  /-- An address with a query or a fragment of its own would take the endpoint into it. -/
  spared : '?' ∉ q.settings.url.toList → '#' ∉ q.settings.url.toList → ¬ DeletesTorrents r

theorem isEndpoint_of_sparing {e : String} (h : e ∈ sparingEndpoints) :
    ∃ name, Url.IsEndpoint e.toList name ∧ name ≠ "delete".toList := by
  have hendpoint (more name : String) (hmore : more.toList ⊆ '/' :: Url.plainChars)
      (hname : Url.IsName name.toList) :
      Url.IsEndpoint ('/' :: "api".toList ++ ('/' :: more.toList ++ '/' :: name.toList))
        name.toList := .intro ⟨by decide, by decide⟩ hmore hname
  simp only [sparingEndpoints, List.mem_cons, List.not_mem_nil, or_false] at h
  obtain rfl | rfl | rfl | rfl := h
  · exact ⟨_, hendpoint "v2/auth" "login" (by decide) ⟨by decide, by decide⟩, by decide⟩
  · exact ⟨_, hendpoint "v2/torrents" "info" (by decide) ⟨by decide, by decide⟩, by decide⟩
  · exact ⟨_, hendpoint "v2/torrents" "trackers" (by decide) ⟨by decide, by decide⟩, by decide⟩
  · exact ⟨_, hendpoint "v2/torrents" "files" (by decide) ⟨by decide, by decide⟩, by decide⟩

/-- Another endpoint at the end of an address is another name at the end of its path. -/
theorem not_deletesTorrents {r : Outgoing} {address e : String} (he : e ∈ sparingEndpoints)
    (hurl : r.url = addressBelow address e) (hquery : '?' ∉ address.toList)
    (hfragment : '#' ∉ address.toList) : ¬ DeletesTorrents r := by
  obtain ⟨name, hendpoint, hother⟩ := isEndpoint_of_sparing he
  have htext : r.url.toList = address.toList.rdropWhile (· == '/') ++ e.toList := by
    rw [hurl, addressBelow, String.toList_append, String.toList_ofList]
  have hnone {c : Char} (hc : c ∉ address.toList) (hplain : c ∉ '/' :: Url.plainChars) :
      c ∉ r.url.toList := by
    rw [htext, List.mem_append]
    rintro (hmem | hmem)
    · exact hc ((List.rdropWhile_prefix _ _).mem hmem)
    · exact hplain (hendpoint.subset hmem)
  rintro ⟨u, hu, hdeletes⟩
  obtain ⟨before, hbefore⟩ := Wire.suffix_path_of_address? hu (hnone hquery (by decide))
    (hnone hfragment (by decide)) hendpoint ⟨_, htext.symm⟩
  obtain ⟨before', hbefore'⟩ := hdeletes
  have hslash : '/' ∉ name := fun hmem => absurd (hendpoint.plain hmem) (by decide)
  have hlast : Text.lastElement u.path.toList = name := by
    rw [← hbefore, Text.lastElement_append_cons _ hslash]
  have hlast' : Text.lastElement u.path.toList = "delete".toList := by
    rw [← hbefore', show "/api/v2/torrents/delete".toList
      = "/api/v2/torrents".toList ++ '/' :: "delete".toList by decide, ← List.append_assoc,
      Text.lastElement_append_cons _ (by decide)]
  exact hother (hlast.symm.trans hlast')

theorem spares_of_endpoint {r : Outgoing} {e : String} (he : e ∈ sparingEndpoints)
    (hurl : r.url = q.url e) (hharmless : (r.method = .get ∧ r.body = .none) ∨
      r = q.loginRequest) : Spares q r where
  harmless := hharmless
  endpoint := ⟨e, he, hurl⟩
  spared := not_deletesTorrents he hurl

theorem spares_loginRequest : Spares q q.loginRequest :=
  spares_of_endpoint (e := "/api/v2/auth/login") (by decide) rfl (.inr rfl)

theorem asks_login : Asks (Spares q) q.login := by
  unfold login
  refine asks_bind (asks_send spares_loginRequest) fun reply => ?_
  split
  · exact asks_set true
  · exact asks_throw _

theorem asks_textOf (reply : Reply) : Asks (Spares q) (textOf reply) := by
  unfold textOf
  refine asks_ite ?_ (asks_throw _)
  split
  · exact asks_pure _
  · exact asks_throw _

theorem asks_execute {r : Outgoing} (h : Spares q r) : Asks (Spares q) (q.execute r) := by
  have henter : Asks (Spares q) q.enter :=
    asks_bind asks_get fun loggedIn => asks_ite asks_login (asks_pure _)
  have hresend : Asks (Spares q) (q.resend r) :=
    asks_bind (asks_set false) fun _ => asks_bind asks_login fun _ =>
      asks_bind (asks_send h) asks_textOf
  unfold execute
  refine asks_bind henter fun _ => asks_bind (asks_send h) fun first => ?_
  exact asks_ite hresend (asks_textOf first)

/-- What is got from an endpoint is got by requests that spare the torrents. -/
theorem asks_fetch {α : Type} {decode : Json → Option α} {endpoint : String}
    (query : List (String × String)) (he : endpoint ∈ sparingEndpoints) :
    Asks (Spares q) (q.fetch decode endpoint query) := by
  unfold fetch
  refine asks_bind (asks_execute (spares_of_endpoint he rfl (.inl ⟨rfl, rfl⟩))) fun body => ?_
  split
  · exact asks_pure _
  · exact asks_throw _

theorem asks_describe (i : Info) : Asks (Spares q) (q.describe i) := by
  unfold describe
  refine asks_bind (asks_fetch _ (by decide)) fun urls => ?_
  refine asks_bind (asks_fetch _ (by decide)) fun files => ?_
  exact asks_pure _

theorem asks_describeAll (infos : List Info) : Asks (Spares q) (q.describeAll infos) := by
  induction infos with
  | nil => exact asks_pure _
  | cons i rest ih =>
    unfold describeAll
    exact asks_bind (asks_describe i) fun t => asks_bind ih fun ts => asks_pure _

theorem asks_torrents : Asks (Spares q) q.torrents := by
  unfold torrents
  exact asks_bind (asks_fetch _ (by decide)) asks_describeAll

/-- A dry deletion ends with the look-up. -/
theorem asks_delete (hdry : q.dryRun = true) (id : String) : Asks (Spares q) (q.delete id) := by
  unfold delete
  simp only [hdry, if_true]
  refine asks_bind (asks_fetch _ (by decide)) fun existing => ?_
  exact asks_ite (asks_bind (asks_throw _) fun _ => asks_pure _) (asks_pure _)

theorem asks_session (hdry : q.dryRun = true) (call : SourceCall TorrentKey) :
    Asks (Spares q) (q.session call) := by
  cases call with
  | fetch => exact asks_bind asks_torrents fun _ => asks_pure _
  | delete key => exact asks_delete hdry key.id

end QBittorrent

/-! ## Deluge -/

namespace Deluge

variable {d : Deluge}

/-- What a client is told to do, as a session with it. -/
def session (d : Deluge) : SourceCall TorrentKey → Session State Unit
  | .fetch => do let _ ← d.torrents
  | .delete key => d.delete key.id

/-- Whether a request calls a method. -/
def CallsMethod (method : String) (r : Outgoing) : Prop :=
  ∃ j, r.body = .json j ∧ j.member? "method" = some (.str method)

/-- Whether a request calls some method, but not the one that removes torrents. -/
def Spares (r : Outgoing) : Prop :=
  (∃ method, CallsMethod method r) ∧ ¬ CallsMethod "core.remove_torrent" r

theorem callsMethod_request_iff {method other : String} {params : List Json} {id : UInt64} :
    CallsMethod other (d.request method params id) ↔ other = method := by
  have hmember : ∀ j, (d.request method params id).body = .json j →
      j.member? "method" = some (.str method) := by
    intro j hj
    obtain rfl := HttpBody.json.inj hj
    rfl
  constructor
  · rintro ⟨j, hbody, hother⟩
    rw [hmember j hbody] at hother
    exact (Json.str.inj (Option.some.inj hother)).symm
  · rintro rfl
    exact ⟨_, rfl, hmember _ rfl⟩

theorem asks_callOnce {method : String} (params : List Json)
    (h : method ≠ "core.remove_torrent") : Asks Spares (d.callOnce method params) := by
  have hspares : ∀ id, Spares (d.request method params id) := by
    intro id
    refine ⟨⟨method, callsMethod_request_iff.2 rfl⟩, ?_⟩
    rw [callsMethod_request_iff]
    exact h.symm
  unfold callOnce
  refine asks_bind asks_get fun s => ?_
  refine asks_bind (asks_set _) fun _ => ?_
  refine asks_bind (asks_send (hspares _)) fun reply => ?_
  refine asks_ite (asks_bind (asks_throw _) fun _ => ?_) ?_
  all_goals
    split
    · exact asks_pure _
    · exact asks_throw _

theorem asks_value {α : Type} (decode : Json → Option α) (method : String) (r : CallResult) :
    Asks Spares (match r.value method decode with
      | .ok v => pure v
      | .error e => throw e : Session State α) := by
  split
  · exact asks_pure _
  · exact asks_throw _

theorem asks_valueOnce {α : Type} (decode : Json → Option α) {method : String}
    (params : List Json) (h : method ≠ "core.remove_torrent") :
    Asks Spares (d.valueOnce decode method params) := by
  unfold valueOnce
  exact asks_bind (asks_callOnce params h) (asks_value decode method)

theorem asks_connect : Asks Spares d.connect := by
  unfold connect
  refine asks_bind (asks_valueOnce _ _ (by decide)) fun host => ?_
  split
  · exact asks_bind (asks_valueOnce _ _ (by decide)) fun _ => asks_pure _
  · exact asks_throw _

theorem asks_login : Asks Spares d.login := by
  unfold login
  refine asks_bind (asks_valueOnce _ _ (by decide)) fun isIn => ?_
  refine asks_ite (asks_bind (asks_throw _) fun _ => ?_) ?_
  all_goals
    refine asks_bind (asks_valueOnce _ _ (by decide)) fun isConnected => ?_
    exact asks_ite (asks_bind asks_connect fun _ => asks_modify _) (asks_modify _)

theorem asks_call {α : Type} (decode : Json → Option α) {method : String} (params : List Json)
    (h : method ≠ "core.remove_torrent") : Asks Spares (d.call decode method params) := by
  unfold call
  refine asks_bind asks_get fun s => ?_
  refine asks_ite (asks_bind asks_login fun _ => ?_) ?_
  all_goals
    refine asks_bind (asks_callOnce params h) fun first => ?_
    refine asks_ite ?_ (asks_bind (asks_pure first) (asks_value decode method))
    refine asks_bind (asks_modify _) fun _ => ?_
    refine asks_bind asks_login fun _ => ?_
    exact asks_bind (asks_callOnce params h) (asks_value decode method)

theorem asks_torrents : Asks Spares d.torrents := by
  unfold torrents
  exact asks_bind (asks_call _ _ (by decide)) fun statuses => asks_pure _

/-- A dry deletion ends with the look-up. -/
theorem asks_delete (hdry : d.dryRun = true) (id : String) : Asks Spares (d.delete id) := by
  unfold delete
  simp only [hdry, if_true]
  refine asks_bind (asks_call _ _ (by decide)) fun found => ?_
  exact asks_ite (asks_bind (asks_throw _) fun _ => asks_pure _) (asks_pure _)

theorem asks_session (hdry : d.dryRun = true) (call : SourceCall TorrentKey) :
    Asks Spares (d.session call) := by
  cases call with
  | fetch => exact asks_bind asks_torrents fun _ => asks_pure _
  | delete key => exact asks_delete hdry key.id

end Deluge

/-! ## Backends -/

/-- Whether a request reaches a server as this one. -/
def Outgoing.ReachesAs (r : Outgoing) (x : Received) : Prop :=
  ∃ u, Wire.address? r = .ok u ∧ x.method = r.method ∧ x.target = u.target ∧ x.body = r.body

theorem Wire.received_serve {w : Wire} {r : Outgoing} {x : Received}
    (hx : x ∈ (w.serve r).2.received) : x ∈ w.received ∨ r.ReachesAs x := by
  have hkept (w : Wire) (path : String) (text : Option String) :
      (w.keepCookie path text).received = w.received := by
    unfold keepCookie
    split <;> rfl
  unfold serve at hx
  split at hx
  · exact .inl hx
  · rename_i u hu
    split at hx
    · have hlast : x ∈ w.received ++
          [⟨r.method, u.target, r.apiKey, w.cookiesFor u.path, r.body⟩] := by
        unfold deliver at hx
        dsimp only at hx
        split at hx
        · rwa [hkept] at hx
        · exact hx
        · exact hx
      obtain hbefore | hlast := List.mem_append.1 hlast
      · exact .inl hbefore
      · obtain rfl := List.mem_singleton.1 hlast
        exact .inr ⟨u, hu, rfl, rfl, rfl⟩
    · exact .inl hx

/-- What reaches a server in the course of sessions was there before, or it is what the sessions
ask. -/
theorem Session.received_leadEach {σ : Type} {P : Outgoing → Prop}
    {sessions : List (Session σ Unit)} (h : ∀ x ∈ sessions, Asks P x) (s : σ) (w : Wire) :
    ∀ x ∈ (leadEach Wire.serve sessions s w).2.received,
      x ∈ w.received ∨ ∃ r, P r ∧ r.ReachesAs x := by
  have hserve : ∀ (v : Wire) r, P r →
      (∀ x ∈ v.received, x ∈ w.received ∨ ∃ r, P r ∧ r.ReachesAs x) →
        ∀ x ∈ (v.serve r).2.received, x ∈ w.received ∨ ∃ r, P r ∧ r.ReachesAs x := by
    intro v r hr hv x hx
    obtain hbefore | hreaches := Wire.received_serve hx
    · exact hv x hbefore
    · exact .inr ⟨r, hr, hreaches⟩
  exact leadEach_keeps hserve h s fun x hx => .inl hx

/-- The state of a backend after it was called. -/
def Source.after {σ β δ : Type} (source : Source σ β δ) (s : σ) : SourceCall δ → σ
  | .fetch => (source.fetch.run s).2
  | .delete request => ((source.delete request).run s).2

namespace MediaBackend

/-- The requests that reached the server of a library. -/
def received : MediaBackend → List Received
  | memory _ => []
  | server _ w => w.received

/-- Whether a backend is the server of a library that only looks up what it would delete. -/
def IsDry : MediaBackend → Prop
  | memory _ => False
  | server a _ => a.dryRun = true

/-- A library that is called leads the session of the call with its server. -/
theorem after_server (a : ArrServer) (w : Wire) (call : SourceCall FileDeletion) :
    source.after (.server a w) call
      = .server a ((a.session call).lead Wire.serve () w).2.2 := by
  cases call with
  | fetch =>
    rw [ArrServer.session, lead_discarded]
    rfl
  | delete request => rfl

theorem foldl_after_server (a : ArrServer) (calls : List (SourceCall FileDeletion)) (w : Wire) :
    calls.foldl source.after (.server a w)
      = .server a (leadEach Wire.serve (calls.map a.session) () w).2 := by
  induction calls generalizing w with
  | nil => rfl
  | cons call rest ih =>
    rw [List.foldl_cons, after_server, ih]
    rfl

/-- What reaches the server of a dry library only gets something. -/
theorem received_of_isDry {b : MediaBackend} (hdry : b.IsDry)
    (calls : List (SourceCall FileDeletion)) :
    ∀ x ∈ (calls.foldl source.after b).received, x ∈ b.received ∨ x.method = .get := by
  cases b with
  | memory library => exact absurd hdry id
  | server a w =>
    rw [foldl_after_server]
    intro x hx
    obtain hbefore | ⟨r, hr, u, -, hmethod, -⟩ := received_leadEach
      (List.forall_mem_map.2 fun call _ => ArrServer.asks_session hdry call) () w x hx
    · exact .inl hbefore
    · exact .inr (hmethod.trans hr)

end MediaBackend

namespace TorrentBackend

/-- The requests that reached the server of a client. -/
def received : TorrentBackend → List Received
  | memory _ => []
  | qBittorrent _ _ w => w.received
  | deluge _ _ w => w.received

/-- Whether a backend is a client that only looks up what it would delete. -/
def IsDry : TorrentBackend → Prop
  | memory _ => False
  | qBittorrent q _ _ => q.dryRun = true
  | deluge d _ _ => d.dryRun = true

/-- Whether a request to a client removes no torrent. -/
def Spares : TorrentBackend → Outgoing → Prop
  | memory _, _ => False
  | qBittorrent q _ _, r => q.Spares r
  | deluge _ _ _, r => Deluge.Spares r

/-- A client that is called leads the session of the call. -/
theorem after_qBittorrent (q : QBittorrent) (loggedIn : Bool) (w : Wire)
    (call : SourceCall TorrentKey) :
    source.after (.qBittorrent q loggedIn w) call
      = let (loggedIn, w) := ((q.session call).lead Wire.serve loggedIn w).2
        .qBittorrent q loggedIn w := by
  cases call with
  | fetch =>
    rw [QBittorrent.session, lead_discarded]
    rfl
  | delete request => rfl

theorem foldl_after_qBittorrent (q : QBittorrent) (calls : List (SourceCall TorrentKey))
    (loggedIn : Bool) (w : Wire) :
    calls.foldl source.after (.qBittorrent q loggedIn w)
      = let (loggedIn, w) := leadEach Wire.serve (calls.map q.session) loggedIn w
        .qBittorrent q loggedIn w := by
  induction calls generalizing loggedIn w with
  | nil => rfl
  | cons call rest ih =>
    rw [List.foldl_cons, after_qBittorrent, ih]
    rfl

/-- A client that is called leads the session of the call. -/
theorem after_deluge (d : Deluge) (state : Deluge.State) (w : Wire)
    (call : SourceCall TorrentKey) :
    source.after (.deluge d state w) call
      = let (state, w) := ((d.session call).lead Wire.serve state w).2
        .deluge d state w := by
  cases call with
  | fetch =>
    rw [Deluge.session, lead_discarded]
    rfl
  | delete request => rfl

theorem foldl_after_deluge (d : Deluge) (calls : List (SourceCall TorrentKey))
    (state : Deluge.State) (w : Wire) :
    calls.foldl source.after (.deluge d state w)
      = let (state, w) := leadEach Wire.serve (calls.map d.session) state w
        .deluge d state w := by
  induction calls generalizing state w with
  | nil => rfl
  | cons call rest ih =>
    rw [List.foldl_cons, after_deluge, ih]
    rfl

/-- What reaches the server of a dry client removes no torrent. -/
theorem received_of_isDry {b : TorrentBackend} (hdry : b.IsDry)
    (calls : List (SourceCall TorrentKey)) :
    ∀ x ∈ (calls.foldl source.after b).received,
      x ∈ b.received ∨ ∃ r, b.Spares r ∧ r.ReachesAs x := by
  cases b with
  | memory client => exact absurd hdry id
  | qBittorrent q loggedIn w =>
    rw [foldl_after_qBittorrent]
    exact received_leadEach
      (List.forall_mem_map.2 fun call _ => QBittorrent.asks_session hdry call) loggedIn w
  | deluge d state w =>
    rw [foldl_after_deluge]
    exact received_leadEach
      (List.forall_mem_map.2 fun call _ => Deluge.asks_session hdry call) state w

end TorrentBackend

/-! ## What a configuration puts together -/

namespace Config

variable {c : Config}

theorem isDry_of_assembleLibraries (hdry : c.dryRun = true)
    {settings : List (MediaKind × LibrarySettings)} {events : List LogEvent}
    {libraries : List (MediaKind × MediaBackend)}
    (h : c.assembleLibraries settings = (events, .ok libraries)) :
    ∀ l ∈ libraries, l.2.IsDry := by
  induction settings generalizing events libraries with
  | nil =>
    obtain rfl : libraries = [] := (Except.ok.inj (Prod.mk.inj h).2).symm
    exact fun l hl => absurd hl List.not_mem_nil
  | cons s rest ih =>
    rw [assembleLibraries] at h
    split at h
    · exact nomatch (Prod.mk.inj h).2
    · rename_i a ha
      split at h
      · exact nomatch (Prod.mk.inj h).2
      · rename_i others hrest
        obtain rfl := Except.ok.inj (Prod.mk.inj h).2
        have hserver : a.dryRun = true := by
          unfold ArrServer.ofSettings at ha
          split at ha
          · exact nomatch ha
          · rw [← Except.ok.inj ha]
            exact hdry
        exact List.forall_mem_cons.2 ⟨hserver, ih hrest⟩

theorem isDry_of_backendOf {s : ClientSettings} : (s.backendOf true).IsDry := by
  unfold ClientSettings.backendOf
  split <;> rfl

theorem isDry_of_assemble (hdry : c.dryRun = true) {dir : String} {events : List LogEvent}
    {assembly : Assembly} (h : c.assemble dir = (events, .ok assembly)) :
    (∀ b ∈ assembly.libraries.sources.values, b.IsDry) ∧
      ∀ b ∈ assembly.clients.sources.values, b.IsDry := by
  unfold assemble at h
  split at h
  · exact nomatch (Prod.mk.inj h).2
  · rename_i libraries hlibraries
    dsimp only at h
    split at h
    · exact nomatch (Prod.mk.inj h).2
    · obtain rfl := Except.ok.inj (Prod.mk.inj h).2
      constructor
      · intro b hb
        obtain ⟨kind, hmem⟩ := SortedTable.exists_mem_of_mem_values_ofList hb
        exact isDry_of_assembleLibraries hdry hlibraries _ hmem
      · intro b hb
        obtain ⟨name, hmem⟩ := SortedTable.exists_mem_of_mem_values_ofList hb
        obtain ⟨s, -, heq⟩ := List.mem_map.1 hmem
        rw [← (Prod.mk.inj heq).2, hdry]
        exact isDry_of_backendOf

end Config

/-! ## The guarantee -/

/-- Whatever a server answers and whatever the sources are told to do, a dry library only gets
something, a dry qBittorrent is not asked for the endpoint that deletes torrents, and no method that
removes torrents is called of a dry Deluge. A configuration for dry runs puts together dry sources
only, and nothing else reaches the servers of these in the course of any calls. -/
theorem dryRun_never_destroys {ω : Type} (serve : Serving ω) (w : ω) :
    (∀ a : ArrServer, a.dryRun = true → ∀ calls : List (SourceCall FileDeletion),
      ∀ r ∈ sentInTurn serve (calls.map a.session) () w, ArrServer.OnlyGets r) ∧
    (∀ q : QBittorrent, q.dryRun = true → ∀ (calls : List (SourceCall TorrentKey)) loggedIn,
      ∀ r ∈ sentInTurn serve (calls.map q.session) loggedIn w, q.Spares r) ∧
    (∀ d : Deluge, d.dryRun = true → ∀ (calls : List (SourceCall TorrentKey)) state,
      ∀ r ∈ sentInTurn serve (calls.map d.session) state w, Deluge.Spares r) ∧
    (∀ b : MediaBackend, b.IsDry → ∀ calls : List (SourceCall FileDeletion),
      ∀ x ∈ (calls.foldl MediaBackend.source.after b).received,
        x ∈ b.received ∨ x.method = .get) ∧
    (∀ b : TorrentBackend, b.IsDry → ∀ calls : List (SourceCall TorrentKey),
      ∀ x ∈ (calls.foldl TorrentBackend.source.after b).received,
        x ∈ b.received ∨ ∃ r, b.Spares r ∧ r.ReachesAs x) ∧
    ∀ (c : Config) (dir : String) (events : List LogEvent) (assembly : Assembly),
      c.dryRun = true → c.assemble dir = (events, .ok assembly) →
        (∀ b ∈ assembly.libraries.sources.values, b.IsDry) ∧
          ∀ b ∈ assembly.clients.sources.values, b.IsDry := by
  refine ⟨?_, ?_, ?_, fun b => MediaBackend.received_of_isDry,
    fun b => TorrentBackend.received_of_isDry, ?_⟩
  · intro a hdry calls r hr
    refine of_mem_sentInTurn (List.forall_mem_map.2 fun call _ => ?_) hr
    exact ArrServer.asks_session hdry call
  · intro q hdry calls loggedIn r hr
    refine of_mem_sentInTurn (List.forall_mem_map.2 fun call _ => ?_) hr
    exact QBittorrent.asks_session hdry call
  · intro d hdry calls state r hr
    refine of_mem_sentInTurn (List.forall_mem_map.2 fun call _ => ?_) hr
    exact Deluge.asks_session hdry call
  · intro c dir events assembly hdry hassemble
    exact Config.isDry_of_assemble hdry hassemble

namespace Sample

/-- A server that answers with one text after the other. -/
def recital : Serving (List String) := fun texts _ => (.ok ⟨200, "/", texts.headD ""⟩, texts.tail)

/-- A library and two clients, none of which is to delete anything. -/
def dryConfig : Config :=
  { dryRun := true
    media := { radarr := some { url := "http://movies", apiKey := "key" } }
    clients := [
      { name := "one", backend := .qBittorrent, url := "http://one/" },
      { name := "two", backend := .deluge, url := "http://two" }] }

def dryLibrary : ArrServer := ⟨.movie, { url := "http://movies", apiKey := "key" }, true⟩

def dryQBittorrent : QBittorrent :=
  ⟨{ name := "one", backend := .qBittorrent, url := "http://one/" }, true⟩

def dryDeluge : Deluge := ⟨{ name := "two", backend := .deluge, url := "http://two" }, true⟩

/-- What the library answers if it has a file that is to be deleted. -/
def libraryTexts : List String := ["[]", "[\x7b\"id\":7,\"movieId\":1\x7d]"]

/-- What the first client answers if it has the torrent that is to be deleted. -/
def qBittorrentTexts : List String :=
  ["Ok.", "[]", "[\x7b\"hash\":\"aa\",\"name\":\"A\",\"ratio\":1,\"added_on\":0\x7d]"]

/-- What the second client answers if it has the torrent that is to be deleted. -/
def delugeTexts : List String :=
  ["\x7b\"result\":true\x7d", "\x7b\"result\":true\x7d", "\x7b\"result\":\x7b\x7d\x7d",
    "\x7b\"result\":\x7b\"name\":\"A\"\x7d\x7d"]

def libraryCalls : List (SourceCall FileDeletion) := [.fetch, .delete ⟨.movie, [7], true⟩]

def clientCalls (client : String) : List (SourceCall TorrentKey) := [.fetch, .delete ⟨client, "aa"⟩]

/-- What the library is sent. -/
def sentToLibrary : List Outgoing :=
  sentInTurn recital (libraryCalls.map dryLibrary.session) () libraryTexts

/-- What the first client is sent. -/
def sentToQBittorrent : List Outgoing :=
  sentInTurn recital ((clientCalls "one").map dryQBittorrent.session) false qBittorrentTexts

/-- What the second client is sent. -/
def sentToDeluge : List Outgoing :=
  sentInTurn recital ((clientCalls "two").map dryDeluge.session) {} delugeTexts

/-- A wire to a server that answers with one text after the other. -/
def wireTo (server : String) (texts : List String) : Wire :=
  { server := some server, script := texts.map fun text => .answer 200 text none }

def dryMediaBackend : MediaBackend := .server dryLibrary (wireTo "movies" libraryTexts)

def dryTorrentBackend : TorrentBackend :=
  .qBittorrent dryQBittorrent false (wireTo "one" qBittorrentTexts)

/-- What reaches the server of the library. -/
def reachesLibrary : List Received :=
  (libraryCalls.foldl MediaBackend.source.after dryMediaBackend).received

/-- What reaches the first client. -/
def reachesQBittorrent : List Received :=
  ((clientCalls "one").foldl TorrentBackend.source.after dryTorrentBackend).received

end Sample

/-- Each deletion ends with its look-up, which finds what was to be deleted. -/
theorem dry_sources_only_look_up :
    (Sample.sentToLibrary.length = 2 ∧ ∀ r ∈ Sample.sentToLibrary, ArrServer.OnlyGets r) ∧
    (Sample.sentToQBittorrent.length = 3 ∧
      ∀ r ∈ Sample.sentToQBittorrent, Sample.dryQBittorrent.Spares r) ∧
    (Sample.sentToDeluge.length = 4 ∧ ∀ r ∈ Sample.sentToDeluge, Deluge.Spares r) ∧
    (Sample.reachesLibrary.map (·.target)
        = ["/api/v3/movie", "/api/v3/moviefile?movieFileIds=7"] ∧
      ∀ x ∈ Sample.reachesLibrary, x ∈ Sample.dryMediaBackend.received ∨ x.method = .get) ∧
    (Sample.reachesQBittorrent.map (·.target) = ["/api/v2/auth/login",
        "/api/v2/torrents/info?sort=added_on", "/api/v2/torrents/info?hashes=aa"] ∧
      ∀ x ∈ Sample.reachesQBittorrent, x ∈ Sample.dryTorrentBackend.received ∨
        ∃ r, Sample.dryTorrentBackend.Spares r ∧ r.ReachesAs x) ∧
    ∃ events assembly, Sample.dryConfig.assemble "cache" = (events, .ok assembly) ∧
      (∀ b ∈ assembly.libraries.sources.values, b.IsDry) ∧
        ∀ b ∈ assembly.clients.sources.values, b.IsDry := by
  refine ⟨⟨by decide +kernel, ?_⟩, ⟨by decide +kernel, ?_⟩, ⟨by decide +kernel, ?_⟩,
    ⟨by decide +kernel, ?_⟩, ⟨by decide +kernel, ?_⟩, ?_⟩
  · exact (dryRun_never_destroys Sample.recital _).1 Sample.dryLibrary rfl _
  · exact (dryRun_never_destroys Sample.recital _).2.1 Sample.dryQBittorrent rfl _ _
  · exact (dryRun_never_destroys Sample.recital _).2.2.1 Sample.dryDeluge rfl _ _
  · exact (dryRun_never_destroys Sample.recital []).2.2.2.1 Sample.dryMediaBackend rfl _
  · exact (dryRun_never_destroys Sample.recital []).2.2.2.2.1 Sample.dryTorrentBackend rfl _
  · exact ⟨_, _, rfl, (dryRun_never_destroys Sample.recital []).2.2.2.2.2 Sample.dryConfig "cache"
      _ _ rfl rfl⟩

end SeedCleanup
