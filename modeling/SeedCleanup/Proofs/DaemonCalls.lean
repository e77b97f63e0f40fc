import SeedCleanup.Proofs.DialogCourses
import SeedCleanup.Proofs.DryRun

/-!
# Calls of a daemon

A client of Deluge is asked by calls of methods. What an answer gives is said apart from the client
(`Deluge.Tells`, `Deluge.Gives`). Methods of the daemon are called within a session, which a login
sequence of up to four calls begins. Each login sequence is one of a few (`Deluge.LoginRun`), and so
is each call of a method within a session (`Deluge.execution_of_course`).
-/

namespace SeedCleanup

namespace Deluge

variable {d : Deluge}

/-! ## Calls and answers -/

/-- A member of the document that goes with a request. -/
def member? (name : String) (r : Outgoing) : Option Json :=
  match r.body with
  | .json j => j.member? name
  | _ => none

/-- The number of a call. -/
def number? (r : Outgoing) : Option Json := member? "id" r

/-- The method that a request calls. -/
def method? (r : Outgoing) : Option String := (member? "method" r).bind Json.string?

theorem callsMethod_iff {method : String} {r : Outgoing} :
    CallsMethod method r ↔ method? r = some method := by
  unfold CallsMethod method? member?
  cases r.body with
  | none => simp
  | form pairs => simp
  | json j =>
    show _ ↔ (j.member? "method").bind Json.string? = some method
    rw [Option.bind_eq_some_iff]
    constructor
    · rintro ⟨j', hj, hmember⟩
      obtain rfl := HttpBody.json.inj hj
      exact ⟨_, hmember, rfl⟩
    · rintro ⟨m, hmember, hm⟩
      cases m with
      | str s => exact ⟨j, rfl, by rw [hmember, Option.some.inj hm]⟩
      | _ => exact nomatch hm

instance (method : String) (r : Outgoing) : Decidable (CallsMethod method r) :=
  decidable_of_iff _ callsMethod_iff.symm

/-- Whether a request calls a method with some parameters: what is posted to the client is a
document of the method, the parameters and a number. -/
def Calls (d : Deluge) (r : Outgoing) (method : String) (params : List Json) : Prop :=
  ∃ id : UInt64, r =
    { method := .post
      url := addressBelow d.settings.url "/json"
      query := []
      apiKey := none
      body := .json (.obj [("method", .str method), ("params", .arr params),
        ("id", .ofInt id.toNat)]) }

theorem calls_request (method : String) (params : List Json) (id : UInt64) :
    d.Calls (d.request method params id) method params := ⟨id, rfl⟩

theorem Calls.callsMethod_iff {r : Outgoing} {method other : String} {params : List Json}
    (h : d.Calls r method params) : CallsMethod other r ↔ other = method := by
  obtain ⟨id, rfl⟩ := h
  exact callsMethod_request_iff (d := d)

/-- Whether an answer is a success that came whole and tells the result of a call. -/
def Tells (answer : Except TransportError Reply) (r : CallResult) : Prop :=
  ReadAs (fun text => (Json.parse text).bind CallResult.ofJson?) answer r

/-- Whether an answer gives a value: it tells of no error, and the value can be read. -/
def Gives {α : Type} (decode : Json → Option α) (answer : Except TransportError Reply) (v : α) :
    Prop :=
  ∃ r, Tells answer r ∧ r.error = none ∧ decode r.result = some v

/-- Whether an answer tells that there is no session. -/
def AsksForLogin (answer : Except TransportError Reply) : Prop :=
  ∃ r e, Tells answer r ∧ r.error = some e ∧ e.code = 1

section

variable {answer : Except TransportError Reply} {r r' : CallResult}

theorem Tells.unique (h : Tells answer r) (h' : Tells answer r') : r = r' := ReadAs.unique h h'

theorem tells_ok_iff {reply : Reply} (h : 200 ≤ reply.status ∧ reply.status < 300) :
    Tells (.ok reply) r ↔
      (reply.body.text.toOption.bind Json.parse).bind CallResult.ofJson? = some r := by
  rw [Tells, readAs_ok_iff h, Option.bind_assoc]

theorem Tells.gives_iff {α : Type} {decode : Json → Option α} {v : α} (h : Tells answer r) :
    Gives decode answer v ↔ r.error = none ∧ decode r.result = some v := by
  refine ⟨?_, fun ⟨herror, hv⟩ => ⟨r, h, herror, hv⟩⟩
  rintro ⟨r', h', herror, hv⟩
  obtain rfl := h.unique h'
  exact ⟨herror, hv⟩

theorem Tells.asksForLogin_iff (h : Tells answer r) :
    AsksForLogin answer ↔ r.asksForLogin = true := by
  have hasks : r.asksForLogin = true ↔ ∃ e, r.error = some e ∧ e.code = 1 := by
    rw [CallResult.asksForLogin, Option.any_eq_true]
    exact exists_congr fun e => and_congr_right fun _ => beq_iff_eq
  rw [hasks]
  refine ⟨?_, fun ⟨e, he, hcode⟩ => ⟨r, e, h, he, hcode⟩⟩
  rintro ⟨r', e, h', he, hcode⟩
  obtain rfl := h.unique h'
  exact ⟨e, he, hcode⟩

theorem not_gives_of_asksForLogin {α : Type} {decode : Json → Option α} {v : α}
    (h : AsksForLogin answer) : ¬Gives decode answer v := by
  obtain ⟨r, e, hr, he, -⟩ := h
  rw [hr.gives_iff, he]
  exact fun ⟨herror, _⟩ => nomatch herror

theorem Gives.unique {α : Type} {decode : Json → Option α} {v v' : α} (h : Gives decode answer v)
    (h' : Gives decode answer v') : v = v' := by
  obtain ⟨r, hr, -, hv⟩ := h
  exact Option.some.inj (hv.symm.trans (hr.gives_iff.1 h').2)

end

theorem CallResult.value_eq_ok_iff {α : Type} {decode : Json → Option α} (method : String)
    {r : CallResult} {v : α} :
    r.value method decode = .ok v ↔ r.error = none ∧ decode r.result = some v := by
  unfold CallResult.value
  cases r.error with
  | some e => exact iff_of_false nofun fun ⟨herror, _⟩ => nomatch herror
  | none => cases decode r.result <;> simp

/-! ## Single calls -/

section

variable {α : Type} {decode : Json → Option α} {method : String} {params : List Json}
  {s s' : State} {log : List Exchange}

theorem of_callOnce {result : Except SourceError CallResult}
    (h : (d.callOnce method params).Course s log result s') :
    ∃ answer, log = [⟨d.request method params s.nextId, answer⟩] ∧
      (∀ r, result = .ok r ↔ Tells answer r) ∧ s' = { s with nextId := s.nextId + 1 } := by
  unfold callOnce at h
  obtain ⟨e, rfl, rfl, rfl⟩ | ⟨reply, rest, rfl, hrest⟩ := h.of_get_bind.of_set_bind.of_send_bind
  · refine ⟨_, rfl, fun r => iff_of_false nofun ?_, rfl⟩
    rintro ⟨_, ⟨_, hreply, -⟩, -⟩
    exact nomatch hreply
  refine ⟨.ok reply, ?_⟩
  obtain ⟨hstatus, rfl, rfl, rfl⟩ | ⟨hstatus, hread⟩ := Session.Course.of_throw_if hrest
  · refine ⟨rfl, fun r => iff_of_false nofun ?_, rfl⟩
    rintro ⟨_, ⟨reply', hreply, hlow, hhigh, -⟩, -⟩
    obtain rfl := Except.ok.inj hreply
    simp [SeedCleanup.Status.isSuccess, hlow, hhigh] at hstatus
  · have hsuccess : 200 ≤ reply.status ∧ reply.status < 300 := by
      simpa [SeedCleanup.Status.isSuccess] using hstatus
    split at hread
    · rename_i r hr
      obtain ⟨rfl, rfl, rfl⟩ := hread.of_pure
      refine ⟨rfl, fun r' => ?_, rfl⟩
      rw [tells_ok_iff hsuccess, hr, Except.ok.injEq, Option.some.injEq]
    · rename_i hr
      obtain ⟨rfl, rfl, rfl⟩ := hread.of_throw
      refine ⟨rfl, fun r' => ?_, rfl⟩
      rw [tells_ok_iff hsuccess, hr]
      exact iff_of_false nofun nofun

/-- Whether a result is just what an answer gives. -/
def ResultOf (decode : Json → Option α) (answer : Except TransportError Reply)
    (result : Except SourceError α) : Prop :=
  ∀ v, result = .ok v ↔ Gives decode answer v

theorem resultOf_error {answer : Except TransportError Reply} {e : SourceError}
    (h : ∀ v, ¬Gives decode answer v) : ResultOf decode answer (.error e) :=
  fun v => iff_of_false nofun (h v)

/-- A call that fails is one to which no answer tells a result, so that it asks for nothing and
gives nothing. -/
theorem of_callOnce_error (decode : Json → Option α) {e : SourceError}
    (h : (d.callOnce method params).Course s log (.error e) s') :
    ∃ x, log = [x] ∧ d.Calls x.request method params ∧ ¬AsksForLogin x.answer ∧
      ResultOf decode x.answer (.error e) ∧ s'.authenticated = s.authenticated := by
  obtain ⟨answer, rfl, htells, rfl⟩ := of_callOnce h
  refine ⟨_, rfl, calls_request .., ?_, resultOf_error fun v => ?_, rfl⟩
  · rintro ⟨r, -, hr, -⟩
    exact nomatch (htells r).2 hr
  · rintro ⟨r, hr, -⟩
    exact nomatch (htells r).2 hr

theorem of_callOnce_ok {r : CallResult} (h : (d.callOnce method params).Course s log (.ok r) s') :
    ∃ x, log = [x] ∧ d.Calls x.request method params ∧ Tells x.answer r ∧
      s'.authenticated = s.authenticated := by
  obtain ⟨answer, rfl, htells, rfl⟩ := of_callOnce h
  exact ⟨_, rfl, calls_request .., (htells r).1 rfl, rfl⟩

/-- What comes of the value of a call. -/
theorem of_value {answer : Except TransportError Reply} {r : CallResult}
    {result : Except SourceError α} (hr : Tells answer r)
    (h : (match r.value method decode with
      | .ok v => pure v
      | .error e => throw e : Session State α).Course s log result s') :
    log = [] ∧ ResultOf decode answer result ∧ s' = s := by
  unfold ResultOf
  simp only [hr.gives_iff, ← CallResult.value_eq_ok_iff method]
  split at h
  · rename_i v hv
    obtain ⟨rfl, rfl, rfl⟩ := h.of_pure
    exact ⟨rfl, fun v' => by rw [hv], rfl⟩
  · rename_i e he
    obtain ⟨rfl, rfl, rfl⟩ := h.of_throw
    exact ⟨rfl, fun v' => by rw [he], rfl⟩

theorem of_valueOnce {result : Except SourceError α}
    (h : (d.valueOnce decode method params).Course s log result s') :
    ∃ x, log = [x] ∧ d.Calls x.request method params ∧ ResultOf decode x.answer result ∧
      s'.authenticated = s.authenticated := by
  unfold valueOnce at h
  obtain ⟨e, rfl, hcall⟩ | ⟨r, s₁, before, rest, rfl, hcall, hvalue⟩ := h.of_bind
  · obtain ⟨x, rfl, hx, -, hresult, hs⟩ := of_callOnce_error decode hcall
    exact ⟨x, rfl, hx, hresult, hs⟩
  · obtain ⟨x, rfl, hx, hr, hs⟩ := of_callOnce_ok hcall
    obtain ⟨rfl, hresult, rfl⟩ := of_value hr hvalue
    exact ⟨x, rfl, hx, hresult, hs⟩

end

/-! ## Login sequences -/

/-- The calls that bind a session to the first daemon, and whether they did. -/
inductive Binding (d : Deluge) : List Exchange → Bool → Prop
  | noHost {x : Exchange} (hx : d.Calls x.request "web.get_hosts" [])
      (h : ∀ host, ¬Gives firstHost? x.answer (some host)) : Binding d [x] false
  | host {x y : Exchange} {host : String} {bound : Bool}
      (hx : d.Calls x.request "web.get_hosts" []) (h : Gives firstHost? x.answer (some host))
      (hy : d.Calls y.request "web.connect" [.str host])
      (hbound : bound = true ↔ ∃ j, Gives some y.answer j) : Binding d [x, y] bound

/-- The calls of a login sequence, and whether it was completed. Each call follows only if the ones
before it were answered so that it is needed, and the first failure ends the sequence. -/
inductive LoginRun (d : Deluge) : List Exchange → Bool → Prop
  | turnedAway {x : Exchange} (hx : d.Calls x.request "auth.login" [.str d.settings.password])
      (h : ¬Gives Json.bool? x.answer true) : LoginRun d [x] false
  | unknown {x y : Exchange} (hx : d.Calls x.request "auth.login" [.str d.settings.password])
      (hin : Gives Json.bool? x.answer true) (hy : d.Calls y.request "web.connected" [])
      (h : ∀ b, ¬Gives Json.bool? y.answer b) : LoginRun d [x, y] false
  | connected {x y : Exchange} (hx : d.Calls x.request "auth.login" [.str d.settings.password])
      (hin : Gives Json.bool? x.answer true) (hy : d.Calls y.request "web.connected" [])
      (h : Gives Json.bool? y.answer true) : LoginRun d [x, y] true
  | binding {x y : Exchange} {rest : List Exchange} {bound : Bool}
      (hx : d.Calls x.request "auth.login" [.str d.settings.password])
      (hin : Gives Json.bool? x.answer true) (hy : d.Calls y.request "web.connected" [])
      (h : Gives Json.bool? y.answer false) (hrest : Binding d rest bound) :
      LoginRun d (x :: y :: rest) bound

section

variable {s s' : State} {log : List Exchange} {result : Except SourceError Unit}

theorem of_connect (h : d.connect.Course s log result s') :
    ∃ bound, Binding d log bound ∧ (bound = true ↔ result = .ok ()) ∧
      s'.authenticated = s.authenticated := by
  unfold connect at h
  obtain ⟨e, rfl, hhosts⟩ | ⟨host, s₁, before, rest, rfl, hhosts, hnext⟩ := h.of_bind
  · obtain ⟨x, rfl, hx, hresult, hs⟩ := of_valueOnce hhosts
    refine ⟨false, .noHost hx fun host hhost => ?_, iff_of_false Bool.false_ne_true nofun, hs⟩
    exact nomatch (hresult _).2 hhost
  · obtain ⟨x, rfl, hx, hresult, hs⟩ := of_valueOnce hhosts
    have hgives := (hresult host).1 rfl
    cases host with
    | none =>
      obtain ⟨rfl, rfl, rfl⟩ := hnext.of_throw
      refine ⟨false, .noHost hx fun host hhost => ?_, iff_of_false Bool.false_ne_true nofun, hs⟩
      exact nomatch hgives.unique hhost
    | some host =>
      obtain ⟨e, rfl, hbind⟩ | ⟨j, s₂, before, rest, rfl, hbind, hlast⟩ := hnext.of_bind
      · obtain ⟨y, rfl, hy, hresult, hs'⟩ := of_valueOnce hbind
        refine ⟨false, .host hx hgives hy ?_, iff_of_false Bool.false_ne_true nofun, hs'.trans hs⟩
        exact iff_of_false Bool.false_ne_true fun ⟨j, hj⟩ => nomatch (hresult j).2 hj
      · obtain ⟨y, rfl, hy, hresult, hs'⟩ := of_valueOnce hbind
        obtain ⟨rfl, rfl, rfl⟩ := hlast.of_pure
        refine ⟨true, .host hx hgives hy ?_, iff_of_true rfl rfl, hs'.trans hs⟩
        exact iff_of_true rfl ⟨j, (hresult j).1 rfl⟩

/-- A login is a login sequence, and the client takes itself to be in a session if it is completed.
A failure leaves that as it was. -/
theorem of_login (h : d.login.Course s log result s') :
    ∃ completed, LoginRun d log completed ∧ (completed = true ↔ result = .ok ()) ∧
      s'.authenticated = (completed || s.authenticated) := by
  have hfalse {e : SourceError} : false = true ↔ (.error e : Except SourceError Unit) = .ok () :=
    iff_of_false Bool.false_ne_true nofun
  unfold login at h
  obtain ⟨e, rfl, hin⟩ | ⟨isIn, s₁, before, rest, rfl, hin, hnext⟩ := h.of_bind
  · obtain ⟨x, rfl, hx, hresult, hs⟩ := of_valueOnce hin
    exact ⟨false, .turnedAway hx fun hgives => (nomatch (hresult _).2 hgives), hfalse, hs⟩
  obtain ⟨x, rfl, hx, hresult, hs⟩ := of_valueOnce hin
  have hgives := (hresult isIn).1 rfl
  cases isIn with
  | false =>
    obtain ⟨-, rfl, rfl, rfl⟩ | ⟨hin, -⟩ := Session.Course.of_throw_if hnext
    · exact ⟨false, .turnedAway hx fun h' => (nomatch hgives.unique h'), hfalse, hs⟩
    · exact absurd rfl hin
  | true =>
    obtain ⟨e, rfl, hconnected⟩ | ⟨isConnected, s₂, before, rest, rfl, hconnected, hbinding⟩ :=
      hnext.of_bind
    · obtain ⟨y, rfl, hy, hresult, hs'⟩ := of_valueOnce hconnected
      exact ⟨false, .unknown hx hgives hy fun b hb => (nomatch (hresult b).2 hb), hfalse,
        hs'.trans hs⟩
    obtain ⟨y, rfl, hy, hresult, hs'⟩ := of_valueOnce hconnected
    have hstate := (hresult isConnected).1 rfl
    cases isConnected with
    | true =>
      obtain ⟨rfl, rfl, rfl⟩ := Session.Course.of_modify hbinding
      exact ⟨true, .connected hx hgives hy hstate, iff_of_true rfl rfl, rfl⟩
    | false =>
      obtain ⟨e, rfl, hbind⟩ | ⟨⟨⟩, s₃, before, rest, rfl, hbind, hlast⟩ := hbinding.of_bind
      · obtain ⟨bound, hrun, hbound, hs''⟩ := of_connect hbind
        obtain rfl : bound = false := by simpa using hbound
        exact ⟨false, .binding hx hgives hy hstate hrun, hfalse, hs''.trans (hs'.trans hs)⟩
      · obtain ⟨bound, hrun, hbound, -⟩ := of_connect hbind
        obtain rfl : bound = true := hbound.2 rfl
        obtain ⟨rfl, rfl, rfl⟩ := hlast.of_modify
        rw [List.append_nil]
        exact ⟨true, .binding hx hgives hy hstate hrun, iff_of_true rfl rfl, rfl⟩

theorem of_login_error {e : SourceError} (h : d.login.Course s log (.error e) s') :
    LoginRun d log false ∧ s'.authenticated = s.authenticated := by
  obtain ⟨completed, hrun, hcompleted, hs⟩ := of_login h
  obtain rfl : completed = false := by simpa using hcompleted
  exact ⟨hrun, hs⟩

theorem of_login_ok (h : d.login.Course s log (.ok ⟨⟩) s') :
    LoginRun d log true ∧ s'.authenticated = true := by
  obtain ⟨completed, hrun, hcompleted, hs⟩ := of_login h
  obtain rfl : completed = true := hcompleted.2 rfl
  exact ⟨hrun, hs⟩

end

/-! ## Methods within a session -/

/-- What is sent first, so that there is a session: a login sequence if there is none. -/
inductive Entry (d : Deluge) : Bool → List Exchange → Prop
  | inSession : Entry d true []
  | letIn {login : List Exchange} (h : LoginRun d login true) : Entry d false login

/-- The courses of a method that is called within a session. -/
inductive Execution {α : Type} (d : Deluge) (decode : Json → Option α) (method : String)
    (params : List Json) (s : Bool) : List Exchange → Except SourceError α → Bool → Prop
  | turnedAway {login : List Exchange} (hs : s = false) (h : LoginRun d login false)
      (e : SourceError) : Execution d decode method params s login (.error e) false
  | answered {entry : List Exchange} {x : Exchange} {result : Except SourceError α}
      (hentry : Entry d s entry) (hx : d.Calls x.request method params)
      (hlasts : ¬AsksForLogin x.answer) (hresult : ResultOf decode x.answer result) :
      Execution d decode method params s (entry ++ [x]) result true
  | ended {entry login : List Exchange} {x : Exchange} (hentry : Entry d s entry)
      (hx : d.Calls x.request method params) (hended : AsksForLogin x.answer)
      (hlogin : LoginRun d login false) (e : SourceError) :
      Execution d decode method params s (entry ++ x :: login) (.error e) false
  | again {entry login : List Exchange} {x y : Exchange} {result : Except SourceError α}
      (hentry : Entry d s entry) (hx : d.Calls x.request method params)
      (hended : AsksForLogin x.answer) (hlogin : LoginRun d login true)
      (hy : d.Calls y.request method params) (hresult : ResultOf decode y.answer result) :
      Execution d decode method params s (entry ++ x :: (login ++ [y])) result true

section

variable {α : Type} {decode : Json → Option α} {method : String} {params : List Json}
  {s s' : State} {log : List Exchange} {result : Except SourceError α}

/-- A login, or none if there is a session already, leaves the client in a session. -/
theorem entry_of_course {entry : List Exchange}
    (h : ((!s.authenticated) = true ∧ d.login.Course s entry (.ok ⟨⟩) s') ∨
      (¬(!s.authenticated) = true ∧ entry = [] ∧ s' = s)) :
    Entry d s.authenticated entry ∧ s'.authenticated = true := by
  obtain ⟨hout, hlogin⟩ | ⟨hin, rfl, rfl⟩ := h
  · obtain ⟨hrun, hs'⟩ := of_login_ok hlogin
    rw [Bool.not_eq_true'] at hout
    rw [hout]
    exact ⟨.letIn hrun, hs'⟩
  · rw [Bool.not_eq_true', Bool.not_eq_false] at hin
    rw [hin]
    exact ⟨.inSession, rfl⟩

/-- After an answer that asks for a login, the session is renewed and the method called again. -/
theorem execution_of_renewal {b : Bool} {entry : List Exchange} {x : Exchange}
    (hentry : Entry d b entry) (hx : d.Calls x.request method params)
    (hended : AsksForLogin x.answer) (hs : s.authenticated = false)
    (h : (d.login >>= fun _ => d.callOnce method params >>= fun r =>
      match r.value method decode with
      | .ok v => pure v
      | .error e => throw e : Session State α).Course s log result s') :
    Execution d decode method params b (entry ++ x :: log) result s'.authenticated := by
  obtain ⟨e, rfl, hlogin⟩ | ⟨⟨⟩, s₁, login, rest, rfl, hlogin, hcalled⟩ := h.of_bind
  · obtain ⟨hrun, hs'⟩ := of_login_error hlogin
    rw [hs', hs]
    exact .ended hentry hx hended hrun e
  obtain ⟨hrun, hin⟩ := of_login_ok hlogin
  obtain ⟨e, rfl, hcall⟩ | ⟨r, s₂, sent, rest, rfl, hcall, hvalue⟩ := hcalled.of_bind
  · obtain ⟨y, rfl, hy, -, hresult, hs'⟩ := of_callOnce_error decode hcall
    rw [hs', hin]
    exact .again hentry hx hended hrun hy hresult
  · obtain ⟨y, rfl, hy, hr, hs₂⟩ := of_callOnce_ok hcall
    obtain ⟨rfl, hresult, rfl⟩ := of_value hr hvalue
    rw [hs₂, hin]
    exact .again hentry hx hended hrun hy hresult

/-- A method within a session has one of its courses. -/
theorem execution_of_course (h : (d.call decode method params).Course s log result s') :
    Execution d decode method params s.authenticated log result s'.authenticated := by
  unfold call at h
  obtain ⟨e, hout, rfl, hlogin⟩ | ⟨s₁, entry, rest, rfl, hfirst, hsent⟩ :=
    Session.Course.of_first_if h.of_get_bind
  · obtain ⟨hrun, hs'⟩ := of_login_error hlogin
    rw [Bool.not_eq_true'] at hout
    rw [hs', hout]
    exact .turnedAway rfl hrun e
  obtain ⟨hentry, hin⟩ := entry_of_course hfirst
  obtain ⟨e, rfl, hcall⟩ | ⟨first, s₂, sent, rest, rfl, hcall, hanswered⟩ := hsent.of_bind
  · obtain ⟨x, rfl, hx, hlasts, hresult, hs'⟩ := of_callOnce_error decode hcall
    rw [hs', hin]
    exact .answered hentry hx hlasts hresult
  obtain ⟨x, rfl, hx, hfirst, hs₂⟩ := of_callOnce_ok hcall
  split at hanswered
  · rename_i hasks
    exact execution_of_renewal hentry hx (hfirst.asksForLogin_iff.2 hasks) rfl
      hanswered.of_modify_bind
  · rename_i hlasts
    obtain ⟨rfl, hresult, rfl⟩ := of_value hfirst hanswered.of_pure_bind
    rw [hs₂, hin]
    exact .answered hentry hx (mt hfirst.asksForLogin_iff.1 hlasts) hresult

end

end Deluge

end SeedCleanup
