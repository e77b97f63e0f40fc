import SeedCleanup.Proofs.DaemonSessions
import SeedCleanup.Proofs.LoginProtocol

/-!
# Guarded removals

A client looks a torrent up before it has it removed. Whatever is answered, a removal is sent only
after the look-up found something, and it names the torrent that was looked up; a deletion succeeds
exactly if its last removal was granted (`removal_follows_look_up`). The two clients differ in what
they send and in what answers mean (`RemovalProtocol`). The guard is the same (`Guards`), since the
result of a request within a session is that of the last answer to it (`SettledBy`).
-/

namespace SeedCleanup

open SeedCleanup.Text

/-! ## Results of repeated requests -/

/-- A result is settled by the last of some exchanges, of which no other gives a value. -/
inductive SettledBy {α : Type} (gives : Except TransportError Reply → α → Prop) :
    List Exchange → Except SourceError α → Prop
  | unsent (e : SourceError) : SettledBy gives [] (.error e)
  | last {earlier : List Exchange} {x : Exchange} {result : Except SourceError α}
      (hearlier : ∀ y ∈ earlier, ∀ v, ¬gives y.answer v)
      (hresult : ∀ v, result = .ok v ↔ gives x.answer v) : SettledBy gives (earlier ++ [x]) result

namespace SettledBy

variable {α β : Type} {gives : Except TransportError Reply → α → Prop} {log : List Exchange}
  {result : Except SourceError α}

theorem ok_iff_getLast? (h : SettledBy gives log result) {v : α} :
    result = .ok v ↔ ∃ x, log.getLast? = some x ∧ gives x.answer v := by
  cases h with
  | unsent e => exact iff_of_false nofun fun ⟨x, hx, _⟩ => nomatch hx
  | last _ hresult => simp [hresult]

theorem ok_iff_exists (h : SettledBy gives log result) {v : α} :
    result = .ok v ↔ ∃ x ∈ log, gives x.answer v := by
  cases h with
  | unsent e => exact iff_of_false nofun fun ⟨x, hx, _⟩ => absurd hx List.not_mem_nil
  | last hearlier hresult =>
    rw [hresult]
    refine ⟨fun hx => ⟨_, List.mem_append_right _ List.mem_cons_self, hx⟩, ?_⟩
    rintro ⟨y, hy, hgives⟩
    obtain hy | hy := List.mem_append.1 hy
    · exact absurd hgives (hearlier y hy v)
    · rwa [List.mem_singleton.1 hy] at hgives

/-- A result that is read from another one is settled by the same exchanges. -/
theorem read (h : SettledBy gives log result) {gives' : Except TransportError Reply → β → Prop}
    {result' : Except SourceError β} {R : α → β → Prop}
    (hgives : ∀ answer b, gives' answer b ↔ ∃ v, gives answer v ∧ R v b)
    (hresult' : ∀ b, result' = .ok b ↔ ∃ v, result = .ok v ∧ R v b) :
    SettledBy gives' log result' := by
  cases h with
  | unsent e =>
    cases result' with
    | error e' => exact .unsent e'
    | ok b => exact absurd ((hresult' b).1 rfl) fun ⟨_, h, _⟩ => nomatch h
  | last hearlier hresult =>
    refine .last (fun y hy b hb => ?_) fun b => ?_
    · obtain ⟨v, hv, -⟩ := (hgives _ _).1 hb
      exact hearlier y hy v hv
    · simp only [hresult', hresult, hgives]

end SettledBy

/-! ## Protocols of removals -/

/-- How a client has one torrent removed. -/
structure RemovalProtocol where
  /-- What looks the torrent up. -/
  looksUp : Outgoing → Prop
  /-- What has torrents removed, whatever it names. -/
  removes : Outgoing → Bool
  /-- What has this torrent removed and no other. -/
  removesIt : Outgoing → Prop
  /-- Whether an answer to the look-up is a list, and whether there is something in it. -/
  finds : Except TransportError Reply → Bool → Prop
  /-- Whether an answer to a removal is a success that came whole. -/
  grants : Except TransportError Reply → Prop
  /-- What a deletion fails with if the torrent is not found. -/
  missing : SourceError

namespace RemovalProtocol

/-- The removals of a log. -/
def removals (p : RemovalProtocol) (log : List Exchange) : List Exchange :=
  log.filter fun x => p.removes x.request

/-- Look-ups, removals and what is sent to be in a session are told apart. -/
structure TellsApart (p : RemovalProtocol) (aside : Outgoing → Prop) : Prop where
  aside : ∀ r, aside r → ¬p.looksUp r ∧ p.removes r = false
  looksUp : ∀ r, p.looksUp r → p.removes r = false
  removesIt : ∀ r, p.removesIt r → p.removes r = true

end RemovalProtocol

/-- A deletion keeps to the protocol: it has a torrent removed only after a look-up found it. -/
structure Guards (p : RemovalProtocol) (log : List Exchange) (result : Except SourceError Unit) :
    Prop where
  /-- A removal comes after a look-up that found something. -/
  lookedUp : AtEach (fun before x => p.removes x.request = true →
    ∃ y ∈ before, p.looksUp y.request ∧ p.finds y.answer true) log
  /-- A removal names just the torrent that was looked up. -/
  named : ∀ x ∈ p.removals log, p.removesIt x.request
  /-- When nothing is found, nothing is removed. -/
  missing : (∃ x ∈ log, p.looksUp x.request ∧ p.finds x.answer false) →
    p.removals log = [] ∧ result = .error p.missing
  /-- When the look-up has no answer that can be read, nothing is removed. -/
  failed : (∀ x ∈ log, p.looksUp x.request → ∀ found, ¬p.finds x.answer found) →
    p.removals log = [] ∧ ∃ e, result = .error e
  /-- A deletion succeeds exactly if its last removal was granted. -/
  ok_iff : result = .ok () ↔ ∃ x, (p.removals log).getLast? = some x ∧ p.grants x.answer

/-- What a look-up comes to: the answer that can be read, if there is one. -/
structure LookUp (p : RemovalProtocol) (log : List Exchange) (result : Except SourceError Bool) :
    Prop where
  removals_eq : p.removals log = []
  ok_iff : ∀ found, result = .ok found ↔ ∃ x ∈ log, p.looksUp x.request ∧ p.finds x.answer found

/-- What a removal comes to: what was sent last, if anything was. -/
structure Removal (p : RemovalProtocol) (log : List Exchange) (result : Except SourceError Unit) :
    Prop where
  named : ∀ x ∈ p.removals log, p.removesIt x.request
  noLookUp : ∀ x ∈ log, ¬p.looksUp x.request
  ok_iff : result = .ok () ↔ ∃ x, (p.removals log).getLast? = some x ∧ p.grants x.answer

section

variable {p : RemovalProtocol} {log log' : List Exchange} {result : Except SourceError Unit}

theorem LookUp.lookedUp {found : Except SourceError Bool} (h : LookUp p log found) :
    AtEach (fun before x => p.removes x.request = true →
      ∃ y ∈ before, p.looksUp y.request ∧ p.finds y.answer true) log :=
  atEach_of_forall_mem fun x hx _ hremoves =>
    absurd hremoves (List.filter_eq_nil_iff.1 h.removals_eq x hx)

/-- A deletion that ends with its look-up removes nothing. -/
theorem LookUp.guards {found : Except SourceError Bool} {e : SourceError} (h : LookUp p log found)
    (hfalse : found = .ok false → e = p.missing) : Guards p log (.error e) where
  lookedUp := h.lookedUp
  named x hx := by rw [h.removals_eq] at hx; exact absurd hx List.not_mem_nil
  missing hfalse' := ⟨h.removals_eq, by rw [hfalse ((h.ok_iff false).2 hfalse')]⟩
  failed _ := ⟨h.removals_eq, e, rfl⟩
  ok_iff := by
    rw [h.removals_eq]
    exact iff_of_false nofun fun ⟨x, hx, _⟩ => nomatch hx

/-- A deletion that found something ends with a removal. -/
theorem LookUp.guards_append {found : Except SourceError Bool} (h : LookUp p log found)
    (hfound : found = .ok true) (h' : Removal p log' result) : Guards p (log ++ log') result := by
  subst hfound
  have hremovals : p.removals (log ++ log') = p.removals log' := by
    rw [RemovalProtocol.removals, List.filter_append, ← RemovalProtocol.removals, h.removals_eq]
    rfl
  obtain ⟨y, hy, hlooksUp, hfinds⟩ := (h.ok_iff true).1 rfl
  refine ⟨atEach_append.2 ⟨h.lookedUp, ?_⟩, ?_, ?_, ?_, ?_⟩
  · exact atEach_of_forall_mem fun x _ before _ =>
      ⟨y, List.mem_append_left before hy, hlooksUp, hfinds⟩
  · rw [hremovals]
    exact h'.named
  · rintro ⟨x, hx, hlooksUp', hfalse⟩
    obtain hx | hx := List.mem_append.1 hx
    · exact nomatch (h.ok_iff false).2 ⟨x, hx, hlooksUp', hfalse⟩
    · exact absurd hlooksUp' (h'.noLookUp x hx)
  · intro hnone
    exact absurd hfinds (hnone y (List.mem_append_left _ hy) hlooksUp true)
  · rw [hremovals]
    exact h'.ok_iff

/-- What a client does that is told to delete a torrent keeps to the protocol, whatever it is made
of: a look-up, a failure if nothing is found, and a removal. -/
theorem Guards.of_course {σ φ : Type} {s s' : σ} {lookUp : Session σ (List φ)}
    {removal : Session σ Unit} (hlookUp : ∀ s log found s', lookUp.Course s log found s' →
      LookUp p log (found.map fun items => !items.isEmpty))
    (hremoval : ∀ s log result s', removal.Course s log result s' → Removal p log result)
    (h : (lookUp >>= fun items =>
      if items.isEmpty then throw p.missing >>= fun _ : Unit => removal else removal).Course s log
        result s') : Guards p log result := by
  obtain ⟨e, rfl, hfails⟩ | ⟨items, s₁, before, rest, rfl, hfound, hrest⟩ := h.of_bind
  · exact (hlookUp _ _ _ _ hfails).guards nofun
  · have hlooked := hlookUp _ _ _ _ hfound
    obtain ⟨-, rfl, rfl, rfl⟩ | ⟨hsome, hremoved⟩ := Session.Course.of_throw_if hrest
    · rw [List.append_nil]
      exact hlooked.guards fun _ => rfl
    · have hthere : (!items.isEmpty) = true := by simpa using hsome
      exact hlooked.guards_append (congrArg Except.ok hthere) (hremoval _ _ _ _ hremoved)

variable {aside : Outgoing → Prop} [DecidablePred aside]

/-- A request within a session that looks a torrent up is a look-up. -/
theorem LookUp.of_settledBy (hp : p.TellsApart aside) {found : Except SourceError Bool}
    (hsent : ∀ x ∈ log, aside x.request ∨ p.looksUp x.request)
    (h : SettledBy p.finds (log.filter fun x => ¬aside x.request) found) : LookUp p log found where
  removals_eq := by
    refine List.filter_eq_nil_iff.2 fun x hx => ?_
    rw [Bool.not_eq_true]
    exact (hsent x hx).elim (fun haside => (hp.aside _ haside).2) (hp.looksUp _)
  ok_iff found' := by
    rw [h.ok_iff_exists]
    constructor
    · rintro ⟨x, hx, hfinds⟩
      obtain ⟨hx, hnot⟩ := List.mem_filter.1 hx
      exact ⟨x, hx, (hsent x hx).resolve_left (of_decide_eq_true hnot), hfinds⟩
    · rintro ⟨x, hx, hlooksUp, hfinds⟩
      have hnot : ¬aside x.request := fun haside => (hp.aside _ haside).1 hlooksUp
      exact ⟨x, List.mem_filter.2 ⟨hx, decide_eq_true hnot⟩, hfinds⟩

/-- A request within a session that has the torrent removed is a removal. -/
theorem Removal.of_settledBy (hp : p.TellsApart aside)
    (hsent : ∀ x ∈ log, aside x.request ∨ p.removesIt x.request)
    (h : SettledBy (fun answer _ => p.grants answer) (log.filter fun x => ¬aside x.request)
      result) :
    Removal p log result := by
  have hremovals : p.removals log = log.filter fun x => ¬aside x.request := by
    refine List.filter_congr fun x hx => ?_
    rw [Bool.eq_iff_iff, decide_eq_true_iff]
    obtain haside | hremoves := hsent x hx
    · exact iff_of_false (by simp [(hp.aside _ haside).2]) fun hnot => hnot haside
    · have hremoved := hp.removesIt _ hremoves
      refine iff_of_true hremoved fun haside => ?_
      rw [(hp.aside _ haside).2] at hremoved
      exact nomatch hremoved
  refine ⟨fun x hx => ?_, fun x hx hlooksUp => ?_, ?_⟩
  · rw [hremovals] at hx
    obtain ⟨hx, hnot⟩ := List.mem_filter.1 hx
    exact (hsent x hx).resolve_left (of_decide_eq_true hnot)
  · obtain haside | hremoves := hsent x hx
    · exact (hp.aside _ haside).1 hlooksUp
    · exact nomatch (hp.removesIt _ hremoves).symm.trans (hp.looksUp _ hlooksUp)
  · rw [hremovals]
    exact h.ok_iff_getLast?

end

/-! ## qBittorrent -/

namespace QBittorrent

variable {q : QBittorrent}

/-- Whether an answer is a success that came whole, and lists some items. -/
def Lists {α : Type} (decode : Json → Option α) (answer : Except TransportError Reply)
    (items : List α) : Prop :=
  ReadAs (fun text => (Json.parse text).bind (Json.list? decode)) answer items

/-- The request that looks up a torrent. -/
def lookUp (q : QBittorrent) (hash : String) : Outgoing where
  method := .get
  url := addressBelow q.settings.url "/api/v2/torrents/info"
  query := [("hashes", hash)]
  apiKey := none
  body := .none

/-- The request that has a torrent removed with its files. -/
def removal (q : QBittorrent) (hash : String) : Outgoing where
  method := .post
  url := addressBelow q.settings.url "/api/v2/torrents/delete"
  query := []
  apiKey := none
  body := .form [("hashes", hash), ("deleteFiles", "true")]

/-- How the client has a torrent removed. -/
def removalOf (q : QBittorrent) (id : String) : RemovalProtocol where
  looksUp r := r = q.lookUp (lowercase id)
  removes r :=
    r.method == .post && r.url == addressBelow q.settings.url "/api/v2/torrents/delete"
  removesIt r := r = q.removal (lowercase id)
  finds answer found := ∃ infos, Lists Info.ofJson? answer infos ∧ found = !infos.isEmpty
  grants answer := ∃ text, Comes answer text
  missing := .notFound ("torrent " ++ lowercase id ++ " on client " ++ q.name)

section

variable {r : Outgoing} {s s' : Bool} {log : List Exchange} {id : String}

theorem Expired.not_comes {answer : Except TransportError Reply} (h : Expired answer)
    (text : String) : ¬Comes answer text := by
  obtain ⟨reply, rfl, hstatus⟩ := h
  rintro ⟨reply', hreply, -, hhigh, -⟩
  obtain rfl := Except.ok.inj hreply
  omega

/-- The result of a request within a session is the text of the last answer to it. -/
theorem Execution.settledBy {result : Except SourceError String}
    (h : q.Execution r s log result s') (hr : ¬q.IsLogin r) :
    SettledBy Comes (q.requests log) result := by
  cases h with
  | turnedAway =>
    rw [requests_cons_of_isLogin isLogin_loginRequest]
    exact .unsent _
  | answered hentry _ hresult =>
    rw [requests_append, hentry.requests_eq_nil, requests_cons_of_not hr]
    exact .last (fun y hy => absurd hy List.not_mem_nil) hresult
  | ended hentry hexpired _ =>
    rw [requests_append, hentry.requests_eq_nil, requests_cons_of_not hr,
      requests_cons_of_isLogin isLogin_loginRequest]
    refine .last (fun y hy => absurd hy List.not_mem_nil) fun text => ?_
    exact iff_of_false nofun (hexpired.not_comes text)
  | @again _ answer _ answer' _ hentry hexpired _ hresult =>
    rw [requests_append, hentry.requests_eq_nil, requests_cons_of_not hr,
      requests_cons_of_isLogin isLogin_loginRequest, requests_cons_of_not hr]
    have hlast : SettledBy Comes ([⟨r, answer⟩] ++ [⟨r, answer'⟩]) result :=
      .last (List.forall_mem_singleton.2 hexpired.not_comes) hresult
    exact hlast

/-- What is got from an endpoint is read from the last answer. -/
theorem settledBy_of_fetch {α : Type} {decode : Json → Option α} {endpoint : String}
    {query : List (String × String)} {result : Except SourceError (List α)}
    (hne : endpoint ≠ "/api/v2/auth/login")
    (h : (q.fetch decode endpoint query).Course s log result s') :
    SettledBy (Lists decode) (q.requests log) result ∧
      ∀ x ∈ log, q.IsLogin x.request ∨
        x.request = { method := .get, url := q.url endpoint, query } := by
  have hr : ¬q.IsLogin { method := .get, url := q.url endpoint, query } :=
    not_isLogin_of_url rfl hne
  unfold fetch at h
  obtain ⟨e, rfl, hexecute⟩ | ⟨text, s₁, before, rest, rfl, hexecute, hread⟩ := h.of_bind
  · have hexecution := execution_of_course hexecute
    refine ⟨(hexecution.settledBy hr).read (fun _ _ => Iff.rfl) fun items => ?_,
      hexecution.isLogin_or_eq⟩
    exact iff_of_false nofun fun ⟨_, h, _⟩ => nomatch h
  · have hexecution := execution_of_course hexecute
    have hsettled : rest = [] ∧ ∀ items, result = .ok items ↔
        (Json.parse text).bind (Json.list? decode) = some items := by
      split at hread
      · rename_i items hitems
        obtain ⟨rfl, rfl, -⟩ := hread.of_pure
        exact ⟨rfl, fun items' => by rw [hitems, Except.ok.injEq, Option.some.injEq]⟩
      · rename_i hitems
        obtain ⟨rfl, rfl, -⟩ := hread.of_throw
        exact ⟨rfl, fun items' => by rw [hitems]; exact iff_of_false nofun nofun⟩
    obtain ⟨rfl, hresult⟩ := hsettled
    rw [List.append_nil]
    refine ⟨(hexecution.settledBy hr).read (fun _ _ => Iff.rfl) fun items => ?_,
      hexecution.isLogin_or_eq⟩
    simp [hresult]

theorem tellsApart_removalOf : (q.removalOf id).TellsApart q.IsLogin := by
  have hlookUp : ¬q.IsLogin (q.lookUp (lowercase id)) := not_isLogin_of_url rfl (by decide)
  refine ⟨fun r hlogin => ⟨?_, ?_⟩, ?_, ?_⟩
  · rintro rfl
    exact hlookUp hlogin
  · have hother : r.url ≠ addressBelow q.settings.url "/api/v2/torrents/delete" :=
      fun hurl => not_isLogin_of_url hurl (by decide) hlogin
    simp [removalOf, hother]
  · rintro r rfl
    rfl
  · rintro r rfl
    exact Bool.and_eq_true_iff.2 ⟨rfl, beq_iff_eq.2 rfl⟩

theorem lookUp_of_course {result : Except SourceError (List Info)}
    (h : (q.fetch Info.ofJson? "/api/v2/torrents/info" [("hashes", lowercase id)]).Course s log
      result s') :
    LookUp (q.removalOf id) log (result.map fun infos => !infos.isEmpty) := by
  obtain ⟨hsettled, hsent⟩ := settledBy_of_fetch (by decide) h
  refine .of_settledBy tellsApart_removalOf hsent ?_
  refine hsettled.read (R := fun infos found => found = !infos.isEmpty) (fun _ _ => Iff.rfl)
    fun found => ?_
  cases result <;> simp [Except.map, eq_comm]

theorem removal_of_course {result : Except SourceError Unit}
    (h : (q.execute (q.removal (lowercase id)) >>= fun _ => pure ()).Course s log result s') :
    Removal (q.removalOf id) log result := by
  have hr : ¬q.IsLogin (q.removal (lowercase id)) := not_isLogin_of_url rfl (by decide)
  obtain ⟨result', hexecution, hresult⟩ : ∃ result', q.Execution (q.removal (lowercase id)) s log
      result' s' ∧ ∀ u, result = .ok u ↔ ∃ text, result' = .ok text := by
    obtain ⟨e, rfl, hremove⟩ | ⟨text, s₁, sent, rest, rfl, hremove, hdone⟩ := h.of_bind
    · exact ⟨_, execution_of_course hremove, by simp⟩
    · obtain ⟨rfl, rfl, rfl⟩ := hdone.of_pure
      rw [List.append_nil]
      exact ⟨_, execution_of_course hremove, by simp⟩
  refine .of_settledBy tellsApart_removalOf hexecution.isLogin_or_eq ?_
  refine (hexecution.settledBy hr).read (R := fun _ _ => True) (fun answer u => ?_) fun u => ?_
  · simp [removalOf]
  · simp [hresult]

/-- A deletion that is not dry keeps to the protocol. -/
theorem guards_of_course {result : Except SourceError Unit} (hdry : q.dryRun = false)
    (h : (q.delete id).Course s log result s') : Guards (q.removalOf id) log result := by
  unfold delete at h
  rw [hdry] at h
  exact .of_course (fun _ _ _ _ => lookUp_of_course) (fun _ _ _ _ => removal_of_course) h

end

end QBittorrent

/-! ## Deluge -/

namespace Deluge

variable {d : Deluge}

/-- How the client has a torrent removed. -/
def removalOf (d : Deluge) (id : String) : RemovalProtocol where
  looksUp r := d.Calls r "core.get_torrent_status" [.str (lowercase id), .arr [.str "name"]]
  removes r := CallsMethod "core.remove_torrent" r
  removesIt r := d.Calls r "core.remove_torrent" [.str (lowercase id), .bool true]
  finds answer found := ∃ members, Gives (table? some) answer members ∧ found = !members.isEmpty
  grants answer := Gives Json.bool? answer true
  missing := .notFound ("torrent " ++ lowercase id ++ " on client " ++ d.name)

section

variable {s s' : State} {log : List Exchange} {id : String}

/-- The result of a method within a session is what the last answer to it gives. -/
theorem Execution.settledBy {α : Type} {decode : Json → Option α} {method : String}
    {params : List Json} {s s' : Bool} {result : Except SourceError α}
    (h : Execution d decode method params s log result s') (hcore : IsCore method) :
    SettledBy (Gives decode) (methodCalls log) result := by
  cases h with
  | turnedAway _ hlogin =>
    rw [hlogin.methodCalls_eq_nil]
    exact .unsent _
  | answered hentry hx _ hresult =>
    rw [methodCalls_append, hentry.methodCalls_eq_nil,
      methodCalls_cons_of_not (hx.not_isLoginStep hcore)]
    exact .last (fun y hy => absurd hy List.not_mem_nil) hresult
  | ended hentry hx hended hlogin =>
    rw [methodCalls_append, hentry.methodCalls_eq_nil,
      methodCalls_cons_of_not (hx.not_isLoginStep hcore), hlogin.methodCalls_eq_nil]
    refine .last (fun y hy => absurd hy List.not_mem_nil) ?_
    exact resultOf_error fun _ => not_gives_of_asksForLogin hended
  | @again _ _ x y _ hentry hx hended hlogin hy hresult =>
    rw [methodCalls_append, hentry.methodCalls_eq_nil,
      methodCalls_cons_of_not (hx.not_isLoginStep hcore), methodCalls_append,
      hlogin.methodCalls_eq_nil, methodCalls_cons_of_not (hy.not_isLoginStep hcore)]
    have hlast : SettledBy (Gives decode) ([x] ++ [y]) result :=
      .last (List.forall_mem_singleton.2 fun _ => not_gives_of_asksForLogin hended) hresult
    exact hlast

theorem isCore_lookUp : IsCore "core.get_torrent_status" := ⟨"get_torrent_status", rfl⟩

theorem isCore_remove : IsCore "core.remove_torrent" := ⟨"remove_torrent", rfl⟩

theorem tellsApart_removalOf : (d.removalOf id).TellsApart IsLoginStep := by
  refine ⟨fun r hlogin => ⟨fun hlookUp => ?_, ?_⟩, fun r hlookUp => ?_, fun r hremoves => ?_⟩
  · exact hlookUp.not_isLoginStep isCore_lookUp hlogin
  · refine decide_eq_false fun hremoves => ?_
    obtain ⟨method, hmethod, hcalls⟩ := hlogin
    rw [callsMethod_iff] at hremoves hcalls
    obtain rfl := Option.some.inj (hremoves.symm.trans hcalls)
    exact isCore_remove.notMem_loginMethods hmethod
  · exact decide_eq_false (mt hlookUp.callsMethod_iff.1 (by decide))
  · exact decide_eq_true (hremoves.callsMethod_iff.2 rfl)

theorem lookUp_of_course {result : Except SourceError (List (String × Json))}
    (h : (d.call (table? some) "core.get_torrent_status"
      [.str (lowercase id), .arr [.str "name"]]).Course s log result s') :
    LookUp (d.removalOf id) log (result.map fun members => !members.isEmpty) := by
  have hexecution := execution_of_course h
  refine .of_settledBy tellsApart_removalOf hexecution.isLoginStep_or ?_
  refine (hexecution.settledBy isCore_lookUp).read
    (R := fun members found => found = !members.isEmpty) (fun _ _ => Iff.rfl) fun found => ?_
  cases result <;> simp [Except.map, eq_comm]

theorem removal_of_course {result : Except SourceError Unit} {e : SourceError}
    (h : (d.call Json.bool? "core.remove_torrent" [.str (lowercase id), .bool true] >>=
      fun removed => if removed then pure () else throw e : Session State Unit).Course s log
        result s') :
    Removal (d.removalOf id) log result := by
  obtain ⟨result', s₁, hexecution, hresult⟩ : ∃ result' s₁, Execution d Json.bool?
      "core.remove_torrent" [.str (lowercase id), .bool true] s.authenticated log result' s₁ ∧
        ∀ u, result = .ok u ↔ result' = .ok true := by
    obtain ⟨e', rfl, hremove⟩ | ⟨removed, s₁, sent, rest, rfl, hremove, hdone⟩ := h.of_bind
    · exact ⟨_, _, execution_of_course hremove, by simp⟩
    · cases removed with
      | true =>
        obtain ⟨rfl, rfl, rfl⟩ := hdone.of_pure
        rw [List.append_nil]
        exact ⟨_, _, execution_of_course hremove, by simp⟩
      | false =>
        obtain ⟨rfl, rfl, rfl⟩ := hdone.of_throw
        rw [List.append_nil]
        exact ⟨_, _, execution_of_course hremove, by simp⟩
  refine .of_settledBy tellsApart_removalOf hexecution.isLoginStep_or ?_
  refine (hexecution.settledBy isCore_remove).read (R := fun removed _ => removed = true)
    (fun answer u => ?_) fun u => ?_
  · simp [removalOf]
  · simp [hresult]

/-- A deletion that is not dry keeps to the protocol. -/
theorem guards_of_course {result : Except SourceError Unit} (hdry : d.dryRun = false)
    (h : (d.delete id).Course s log result s') : Guards (d.removalOf id) log result := by
  unfold delete at h
  rw [hdry] at h
  exact .of_course (fun _ _ _ _ => lookUp_of_course) (fun _ _ _ _ => removal_of_course) h

end

end Deluge

/-- Whatever a server answers when a client is to delete a torrent, and whatever the client takes
itself to be in: the torrent is looked up before it is removed, and only what was found is. A
deletion succeeds exactly if the last removal was granted. -/
theorem removal_follows_look_up {ω : Type} (serve : Serving ω) (w : ω) (id : String) :
    (∀ q : QBittorrent, q.dryRun = false → ∀ loggedIn,
      Guards (q.removalOf id) (Dialog.exchanges serve ((q.delete id).run.run loggedIn) w)
        ((q.delete id).lead serve loggedIn w).1) ∧
    (∀ d : Deluge, d.dryRun = false → ∀ state,
      Guards (d.removalOf id) (Dialog.exchanges serve ((d.delete id).run.run state) w)
        ((d.delete id).lead serve state w).1) :=
  ⟨fun q hdry loggedIn =>
      QBittorrent.guards_of_course hdry (Session.course_lead serve (q.delete id) loggedIn w),
    fun d hdry state =>
      Deluge.guards_of_course hdry (Session.course_lead serve (d.delete id) state w)⟩

namespace Sample

/-- Clients that delete what they are told to. -/
def qBittorrent : QBittorrent := { dryQBittorrent with dryRun := false }

def deluge : Deluge := { dryDeluge with dryRun := false }

/-- What the first client is answered that finds the torrent and has it removed. -/
def granted : List String :=
  ["Ok.", "[\x7b\"hash\":\"aa\",\"name\":\"A\",\"ratio\":1,\"added_on\":0\x7d]", "Ok."]

/-- What the second client is answered that finds the torrent and may not have it removed. -/
def refused : List String :=
  ["\x7b\"result\":\x7b\"name\":\"A\"\x7d\x7d", "\x7b\"result\":false\x7d"]

/-- What the first client sends, and what comes of it. -/
def sentForRemoval : List Exchange :=
  Dialog.exchanges recital ((qBittorrent.delete "AA").run.run false) granted

def resultOfRemoval : Except SourceError Unit :=
  ((qBittorrent.delete "AA").lead recital false granted).1

/-- What the second client sends, and what comes of it. -/
def sentInVain : List Exchange :=
  Dialog.exchanges recital ((deluge.delete "AA").run.run { authenticated := true }) refused

def resultInVain : Except SourceError Unit :=
  ((deluge.delete "AA").lead recital { authenticated := true } refused).1

end Sample

/-- The first client removes the torrent that it found, and the second one is refused. Both look up
and name the torrent by its number in small letters. -/
theorem removal_granted_and_refused :
    (Sample.qBittorrent.dryRun = false ∧ Sample.deluge.dryRun = false) ∧
      (Guards (Sample.qBittorrent.removalOf "AA") Sample.sentForRemoval Sample.resultOfRemoval ∧
        Guards (Sample.deluge.removalOf "AA") Sample.sentInVain Sample.resultInVain) ∧
      (((Sample.qBittorrent.removalOf "AA").removals Sample.sentForRemoval).length = 1 ∧
        Sample.resultOfRemoval.isOk = true) ∧
      (((Sample.deluge.removalOf "AA").removals Sample.sentInVain).length = 1 ∧
        Sample.resultInVain.isOk = false) ∧
      Sample.sentForRemoval.map (fun x => (x.request.url, x.request.query, x.request.formPairs))
        = [("http://one/api/v2/auth/login", [], [("username", ""), ("password", "")]),
            ("http://one/api/v2/torrents/info", [("hashes", "aa")], []),
            ("http://one/api/v2/torrents/delete", [],
              [("hashes", "aa"), ("deleteFiles", "true")])] ∧
      Sample.sentInVain.map (fun x => (x.request.url, x.request.documentText))
        = [("http://two/json", some ("\x7b\"method\":\"core.get_torrent_status\","
              ++ "\"params\":[\"aa\",[\"name\"]],\"id\":1\x7d")),
            ("http://two/json", some ("\x7b\"method\":\"core.remove_torrent\","
              ++ "\"params\":[\"aa\",true],\"id\":2\x7d"))] := by
  refine ⟨⟨rfl, rfl⟩, ⟨?_, ?_⟩, ⟨by decide +kernel, by decide +kernel⟩,
    ⟨by decide +kernel, by decide +kernel⟩, by decide +kernel, by decide +kernel⟩
  · exact (removal_follows_look_up Sample.recital Sample.granted "AA").1 Sample.qBittorrent rfl
      false
  · exact (removal_follows_look_up Sample.recital Sample.refused "AA").2 Sample.deluge rfl
      { authenticated := true }

end SeedCleanup
