import SeedCleanup.Proofs.DialogCourses
import SeedCleanup.Proofs.DryRun

/-!
# Logins of a client

A client of qBittorrent logs in before it sends anything else, and once more when a session turns
out to have ended. Whatever is answered, a request is sent at most twice, and only while the last
login was let in (`session_kept_over_calls`). Each request that is sent within a session has one of
a few courses (`QBittorrent.Execution`), and the operations of a client are made of such requests.
-/

namespace SeedCleanup

open SeedCleanup.Text

namespace QBittorrent

variable {q : QBittorrent}

/-! ## Logins -/

/-- Whether a request goes to the endpoint of logins. -/
def IsLogin (q : QBittorrent) (r : Outgoing) : Prop :=
  r.url = addressBelow q.settings.url "/api/v2/auth/login"

instance (q : QBittorrent) (r : Outgoing) : Decidable (q.IsLogin r) :=
  inferInstanceAs (Decidable (_ = _))

theorem isLogin_loginRequest : q.IsLogin q.loginRequest := rfl

/-- Endpoints at one address are told apart. -/
theorem not_isLogin_of_url {r : Outgoing} {endpoint : String} (hurl : r.url = q.url endpoint)
    (hne : endpoint ≠ "/api/v2/auth/login") : ¬q.IsLogin r := by
  intro h
  rw [IsLogin, hurl] at h
  exact hne ((String.append_right_inj _).1 h)

/-- Whether an answer lets a client in that wanted to log in. -/
def LetsIn (answer : Except TransportError Reply) : Prop :=
  ∃ reply text, answer = .ok reply ∧ reply.body = .whole text ∧
    occursIn "Ok.".toList text.toList = true

/-- The logins of a log. -/
def logins (q : QBittorrent) (log : List Exchange) : List Exchange :=
  log.filter fun x => q.IsLogin x.request

/-- What a log holds besides logins. -/
def requests (q : QBittorrent) (log : List Exchange) : List Exchange :=
  log.filter fun x => ¬q.IsLogin x.request

section

variable {x : Exchange} {log log' : List Exchange}

@[simp] theorem logins_nil : q.logins [] = [] := rfl

@[simp] theorem requests_nil : q.requests [] = [] := rfl

theorem logins_append : q.logins (log ++ log') = q.logins log ++ q.logins log' :=
  List.filter_append ..

theorem requests_append : q.requests (log ++ log') = q.requests log ++ q.requests log' :=
  List.filter_append ..

theorem logins_cons_of_isLogin (h : q.IsLogin x.request) :
    q.logins (x :: log) = x :: q.logins log :=
  List.filter_cons_of_pos (decide_eq_true h)

theorem logins_cons_of_not (h : ¬q.IsLogin x.request) : q.logins (x :: log) = q.logins log :=
  List.filter_cons_of_neg (by simpa using h)

theorem requests_cons_of_isLogin (h : q.IsLogin x.request) :
    q.requests (x :: log) = q.requests log :=
  List.filter_cons_of_neg (by simpa using h)

theorem requests_cons_of_not (h : ¬q.IsLogin x.request) :
    q.requests (x :: log) = x :: q.requests log :=
  List.filter_cons_of_pos (by simpa using h)

end

/-- There was a login, and the last one was let in. -/
def LoggedIn (q : QBittorrent) (log : List Exchange) : Prop :=
  ∃ x, (q.logins log).getLast? = some x ∧ LetsIn x.answer

theorem loggedIn_append_login {log : List Exchange} {answer : Except TransportError Reply} :
    q.LoggedIn (log ++ [⟨q.loginRequest, answer⟩]) ↔ LetsIn answer := by
  rw [LoggedIn, logins_append, logins_cons_of_isLogin isLogin_loginRequest, logins_nil]
  simp

theorem loggedIn_append_request {log : List Exchange} {x : Exchange} (h : ¬q.IsLogin x.request) :
    q.LoggedIn (log ++ [x]) ↔ q.LoggedIn log := by
  rw [LoggedIn, logins_append, logins_cons_of_not h, logins_nil, List.append_nil, LoggedIn]

theorem loginFailure?_eq_none_iff {reply : Reply} :
    q.loginFailure? reply = none ↔ LetsIn (.ok reply) := by
  have hoccurs : q.loginFailure? reply = none ↔
      occursIn "Ok.".toList reply.body.textOrNothing.toList = true := by
    unfold loginFailure?
    dsimp only
    split
    · rename_i h
      exact iff_of_true rfl h
    · rename_i h
      split <;> exact iff_of_false nofun h
  rw [hoccurs]
  constructor
  · intro h
    cases hbody : reply.body with
    | whole text => exact ⟨reply, text, rfl, hbody, by rwa [hbody] at h⟩
    | broken => rw [hbody] at h; exact absurd h (by decide)
    | timedOut => rw [hbody] at h; exact absurd h (by decide)
  · rintro ⟨_, text, heq, hbody, h⟩
    obtain rfl := Except.ok.inj heq
    rw [hbody]
    exact h

/-- A login that was sent, and whether it lets the client in. -/
inductive LoginRun (q : QBittorrent) (s : Bool) :
    List Exchange → Except SourceError Unit → Bool → Prop
  | letIn {answer : Except TransportError Reply} (h : LetsIn answer) :
      LoginRun q s [⟨q.loginRequest, answer⟩] (.ok ()) true
  | turnedAway {answer : Except TransportError Reply} (h : ¬LetsIn answer) (e : SourceError) :
      LoginRun q s [⟨q.loginRequest, answer⟩] (.error e) s

theorem loginRun_of_course {s s' : Bool} {log : List Exchange} {result : Except SourceError Unit}
    (h : q.login.Course s log result s') : LoginRun q s log result s' := by
  unfold login at h
  obtain ⟨e, rfl, rfl, rfl⟩ | ⟨reply, rest, rfl, hrest⟩ := h.of_send_bind
  · exact .turnedAway (fun ⟨_, _, hreply, _⟩ => nomatch hreply) _
  · split at hrest
    · rename_i hnone
      obtain ⟨rfl, rfl, rfl⟩ := hrest.of_set
      exact .letIn (loginFailure?_eq_none_iff.1 hnone)
    · rename_i e hsome
      obtain ⟨rfl, rfl, rfl⟩ := hrest.of_throw
      refine .turnedAway (fun hin => ?_) e
      rw [loginFailure?_eq_none_iff.2 hin] at hsome
      exact nomatch hsome

/-! ## Requests within a session -/

/-- Whether an answer tells that there is no session. -/
def Expired (answer : Except TransportError Reply) : Prop :=
  ∃ reply, answer = .ok reply ∧ reply.status = 403

/-- A result is a text exactly if it is that of an answer that is whole and a success. -/
def ResultOf (answer : Except TransportError Reply) (result : Except SourceError String) : Prop :=
  ∀ text, result = .ok text ↔
    ∃ reply, answer = .ok reply ∧ 200 ≤ reply.status ∧ reply.status < 300 ∧
      reply.body = .whole text

/-- What is sent first, so that there is a session: a login if there is none. -/
inductive Entry (q : QBittorrent) : Bool → List Exchange → Prop
  | inSession : Entry q true []
  | letIn {answer : Except TransportError Reply} (h : LetsIn answer) :
      Entry q false [⟨q.loginRequest, answer⟩]

/-- The courses of a request that is sent within a session. -/
inductive Execution (q : QBittorrent) (r : Outgoing) (s : Bool) :
    List Exchange → Except SourceError String → Bool → Prop
  | turnedAway {answer : Except TransportError Reply} (hs : s = false) (h : ¬LetsIn answer)
      (e : SourceError) : Execution q r s [⟨q.loginRequest, answer⟩] (.error e) false
  | answered {entry : List Exchange} {answer : Except TransportError Reply}
      {result : Except SourceError String} (hentry : Entry q s entry) (hlasts : ¬Expired answer)
      (hresult : ResultOf answer result) : Execution q r s (entry ++ [⟨r, answer⟩]) result true
  | ended {entry : List Exchange} {answer login : Except TransportError Reply}
      (hentry : Entry q s entry) (hexpired : Expired answer) (hlogin : ¬LetsIn login)
      (e : SourceError) :
      Execution q r s (entry ++ [⟨r, answer⟩, ⟨q.loginRequest, login⟩]) (.error e) false
  | again {entry : List Exchange} {answer login answer' : Except TransportError Reply}
      {result : Except SourceError String} (hentry : Entry q s entry) (hexpired : Expired answer)
      (hlogin : LetsIn login) (hresult : ResultOf answer' result) :
      Execution q r s (entry ++ [⟨r, answer⟩, ⟨q.loginRequest, login⟩, ⟨r, answer'⟩]) result true

variable {r : Outgoing} {s s' : Bool} {log : List Exchange} {result : Except SourceError String}

theorem entry_of_course {result : Except SourceError Unit} (h : q.enter.Course s log result s') :
    (Entry q s log ∧ result = .ok () ∧ s' = true) ∨
      ∃ answer e, s = false ∧ ¬LetsIn answer ∧ log = [⟨q.loginRequest, answer⟩] ∧
        result = .error e ∧ s' = false := by
  unfold enter at h
  have hrest := h.of_get_bind
  cases s with
  | true =>
    obtain ⟨rfl, rfl, rfl⟩ := hrest.of_pure
    exact .inl ⟨.inSession, rfl, rfl⟩
  | false =>
    cases loginRun_of_course hrest with
    | letIn hin => exact .inl ⟨.letIn hin, rfl, rfl⟩
    | turnedAway hout e => exact .inr ⟨_, e, rfl, hout, rfl, rfl, rfl⟩

theorem resultOf_error (e : TransportError) (e' : SourceError) :
    ResultOf (.error e) (.error e') := by
  intro text
  exact iff_of_false nofun fun ⟨_, hreply, _⟩ => nomatch hreply

theorem resultOf_ok_iff {reply : Reply} : ResultOf (.ok reply) result ↔
    ∀ text, result = .ok text ↔
      200 ≤ reply.status ∧ reply.status < 300 ∧ reply.body = .whole text := by
  simp [ResultOf]

theorem expired_ok_iff {reply : Reply} : Expired (.ok reply) ↔ reply.status = 403 := by
  simp [Expired]

theorem resultOf_of_course {reply : Reply} (h : (textOf reply).Course s log result s') :
    log = [] ∧ ResultOf (.ok reply) result ∧ s' = s := by
  rw [resultOf_ok_iff]
  unfold textOf at h
  split at h
  · rename_i hstatus
    obtain ⟨hlow, hhigh⟩ : 200 ≤ reply.status ∧ reply.status < 300 := by
      simpa [Status.isSuccess] using hstatus
    simp only [hlow, hhigh, true_and]
    cases hbody : reply.body with
    | whole text =>
      rw [hbody] at h
      obtain ⟨rfl, rfl, rfl⟩ := h.of_pure
      exact ⟨rfl, fun text' => by simp, rfl⟩
    | broken =>
      rw [hbody] at h
      obtain ⟨rfl, rfl, rfl⟩ := h.of_throw
      exact ⟨rfl, fun text' => by simp, rfl⟩
    | timedOut =>
      rw [hbody] at h
      obtain ⟨rfl, rfl, rfl⟩ := h.of_throw
      exact ⟨rfl, fun text' => by simp, rfl⟩
  · rename_i hstatus
    obtain ⟨rfl, rfl, rfl⟩ := h.of_throw
    refine ⟨rfl, fun text => iff_of_false nofun ?_, rfl⟩
    rintro ⟨hlow, hhigh, -⟩
    exact hstatus (by simp [Status.isSuccess, hlow, hhigh])

theorem execution_of_resend {entry : List Exchange} {answer : Except TransportError Reply}
    (hentry : Entry q s entry) (hexpired : Expired answer)
    (h : (q.resend r).Course true log result s') :
    q.Execution r s (entry ++ ⟨r, answer⟩ :: log) result s' := by
  unfold resend at h
  obtain ⟨e, rfl, hlogin⟩ | ⟨⟨⟩, s₁, login, rest, rfl, hlogin, hsent⟩ := h.of_set_bind.of_bind
  · cases loginRun_of_course hlogin with
    | turnedAway hout => exact .ended hentry hexpired hout e
  · cases loginRun_of_course hlogin with
    | letIn hin =>
      obtain ⟨e, rfl, rfl, rfl⟩ | ⟨reply, rest, rfl, htext⟩ := hsent.of_send_bind
      · exact .again hentry hexpired hin (resultOf_error _ _)
      · obtain ⟨rfl, hresult, rfl⟩ := resultOf_of_course htext
        exact .again hentry hexpired hin hresult

/-- A request within a session has one of its courses. -/
theorem execution_of_course (h : (q.execute r).Course s log result s') :
    q.Execution r s log result s' := by
  unfold execute at h
  obtain ⟨e, rfl, henter⟩ | ⟨⟨⟩, s₁, entry, rest, rfl, henter, hrest⟩ := h.of_bind
  · obtain ⟨-, hok, -⟩ | ⟨answer, e', rfl, hout, rfl, -, rfl⟩ := entry_of_course henter
    · exact nomatch hok
    · exact .turnedAway rfl hout e
  · obtain ⟨hentry, -, rfl⟩ | ⟨_, _, -, -, -, herror, -⟩ := entry_of_course henter
    · obtain ⟨e, rfl, rfl, rfl⟩ | ⟨first, rest, rfl, hanswered⟩ := hrest.of_send_bind
      · exact .answered hentry (fun ⟨_, hreply, _⟩ => nomatch hreply) (resultOf_error _ _)
      · split at hanswered
        · rename_i hstatus
          exact execution_of_resend hentry (expired_ok_iff.2 hstatus) hanswered
        · rename_i hstatus
          obtain ⟨rfl, hresult, rfl⟩ := resultOf_of_course hanswered
          exact .answered hentry (mt expired_ok_iff.1 hstatus) hresult
    · exact nomatch herror

/-! ## What is sent for a request -/

/-- A request that was sent within a session, with all that was sent for it. -/
structure ApiCall where
  request : Outgoing
  /-- Whether there was a session before. -/
  before : Bool
  log : List Exchange
  result : Except SourceError String
  /-- Whether there is a session afterwards. -/
  after : Bool

/-- A log ends with a request that found the session ended, and a login that was let in. -/
def Renewed (q : QBittorrent) (log : List Exchange) : Prop :=
  ∃ earlier y login, log = earlier ++ [y, login] ∧ ¬q.IsLogin y.request ∧ Expired y.answer ∧
    q.IsLogin login.request ∧ LetsIn login.answer

/-- A login, or a request that comes after nothing but logins or after the session was renewed. -/
def InTurn (q : QBittorrent) (before : List Exchange) (x : Exchange) : Prop :=
  q.IsLogin x.request ∨ q.requests before = [] ∨ q.Renewed before

/-- For a request at most two logins and at most two requests are sent, which are the same. The
second is sent after the first was refused and a login was let in. The text of a result is that of
the last answer, which is a success. -/
structure ApiCall.KeepsLimits (q : QBittorrent) (c : ApiCall) : Prop where
  noLogin : ¬q.IsLogin c.request
  course : (q.execute c.request).Course c.before c.log c.result c.after
  logins : (q.logins c.log).length ≤ 2
  requests : (q.requests c.log).length ≤ 2
  same : ∀ x ∈ c.log, q.IsLogin x.request ∨ x.request = c.request
  inTurn : AtEach q.InTurn c.log
  ok : ∀ text, c.result = .ok text → ∃ earlier x reply, c.log = earlier ++ [x] ∧
    ¬q.IsLogin x.request ∧ x.answer = .ok reply ∧ 200 ≤ reply.status ∧ reply.status < 300 ∧
      reply.body = .whole text

section

variable {entry : List Exchange}

theorem Entry.isLogin (h : Entry q s entry) : ∀ x ∈ entry, q.IsLogin x.request := by
  cases h with
  | inSession => exact fun x hx => absurd hx List.not_mem_nil
  | letIn => exact fun x hx => List.mem_singleton.1 hx ▸ isLogin_loginRequest

theorem Entry.requests_eq_nil (h : Entry q s entry) : q.requests entry = [] := by
  rw [requests, List.filter_eq_nil_iff]
  intro x hx
  simp [h.isLogin x hx]

theorem Entry.length_logins_le (h : Entry q s entry) : (q.logins entry).length ≤ 1 := by
  refine Nat.le_trans (List.length_filter_le _ _) ?_
  cases h with
  | inSession => exact Nat.zero_le 1
  | letIn => exact Nat.le_refl 1

theorem Entry.atEach_inTurn (h : Entry q s entry) {x : Exchange} {rest : List Exchange}
    (hrest : AtEach (fun before => q.InTurn (entry ++ x :: before)) rest) :
    AtEach q.InTurn (entry ++ x :: rest) := by
  have hfirst : q.requests (entry ++ []) = [] := by
    rw [List.append_nil]
    exact h.requests_eq_nil
  refine atEach_append.2 ⟨atEach_of_forall_mem fun y hy _ => .inl (h.isLogin y hy), ?_⟩
  exact atEach_cons.2 ⟨.inr (.inl hfirst), hrest⟩

variable (h : q.Execution r s log result s') (hr : ¬q.IsLogin r)
include h

theorem Execution.isLogin_or_eq : ∀ x ∈ log, q.IsLogin x.request ∨ x.request = r := by
  cases h with
  | turnedAway => simp [isLogin_loginRequest]
  | answered hentry | ended hentry | again hentry =>
    refine List.forall_mem_append.2 ⟨fun x hx => .inl (hentry.isLogin x hx), ?_⟩
    simp [isLogin_loginRequest]

include hr

theorem Execution.length_logins_le : (q.logins log).length ≤ 2 := by
  cases h with
  | turnedAway => exact Nat.le_trans (List.length_filter_le _ _) (Nat.le_succ 1)
  | answered hentry | ended hentry | again hentry =>
    have hentered := hentry.length_logins_le
    simp only [logins_append, logins_cons_of_not, logins_cons_of_isLogin, hr, isLogin_loginRequest,
      not_false_eq_true, List.length_append, logins_nil, List.length_cons, List.length_nil]
    omega

theorem Execution.length_requests_le : (q.requests log).length ≤ 2 := by
  cases h with
  | turnedAway => exact Nat.le_trans (List.length_filter_le _ _) (Nat.le_succ 1)
  | answered hentry | ended hentry | again hentry =>
    simp [requests_append, requests_cons_of_not, requests_cons_of_isLogin, hentry.requests_eq_nil,
      hr, isLogin_loginRequest]

theorem Execution.atEach_inTurn : AtEach q.InTurn log := by
  cases h with
  | turnedAway => exact atEach_cons.2 ⟨.inl isLogin_loginRequest, atEach_nil⟩
  | answered hentry => exact hentry.atEach_inTurn atEach_nil
  | ended hentry =>
    exact hentry.atEach_inTurn (atEach_cons.2 ⟨.inl isLogin_loginRequest, atEach_nil⟩)
  | again hentry hexpired hin =>
    refine hentry.atEach_inTurn (atEach_cons.2 ⟨.inl isLogin_loginRequest, ?_⟩)
    refine atEach_cons.2 ⟨.inr (.inr ?_), atEach_nil⟩
    exact ⟨_, _, _, rfl, hr, hexpired, isLogin_loginRequest, hin⟩

/-- A text is that of the last answer, which is a success. -/
theorem Execution.of_ok {text : String} (hok : result = .ok text) :
    ∃ earlier x reply, log = earlier ++ [x] ∧ ¬q.IsLogin x.request ∧ x.answer = .ok reply ∧
      200 ≤ reply.status ∧ reply.status < 300 ∧ reply.body = .whole text := by
  cases h with
  | turnedAway => exact nomatch hok
  | ended => exact nomatch hok
  | answered hentry hlasts hresult =>
    obtain ⟨reply, hreply⟩ := (hresult text).1 hok
    exact ⟨_, _, reply, rfl, hr, hreply⟩
  | @again entry answer login answer' _ hentry hexpired hin hresult =>
    obtain ⟨reply, hreply⟩ := (hresult text).1 hok
    refine ⟨entry ++ [⟨r, answer⟩, ⟨q.loginRequest, login⟩], ⟨r, answer'⟩, reply, ?_, hr, hreply⟩
    rw [List.append_assoc]
    rfl

end

theorem ApiCall.keepsLimits {c : ApiCall} (hc : ¬q.IsLogin c.request)
    (h : (q.execute c.request).Course c.before c.log c.result c.after) : c.KeepsLimits q :=
  have hexecution := execution_of_course h
  { noLogin := hc
    course := h
    logins := hexecution.length_logins_le hc
    requests := hexecution.length_requests_le hc
    same := hexecution.isLogin_or_eq
    inTurn := hexecution.atEach_inTurn hc
    ok := fun _ => hexecution.of_ok hc }

/-! ## Sessions that are kept -/

/-- After a log that began when `past` was sent, requests were sent only to a client that is logged
in, and `s` tells whether there is a session. -/
structure Keeps (q : QBittorrent) (past log : List Exchange) (s : Bool) : Prop where
  guarded : AtEach (fun before x => q.IsLogin x.request ∨ q.LoggedIn (past ++ before)) log
  session : s = true ↔ q.LoggedIn (past ++ log)

namespace Keeps

variable {past log' : List Exchange} {answer : Except TransportError Reply} {entry : List Exchange}

theorem nil (h : s = true ↔ q.LoggedIn past) : q.Keeps past [] s :=
  ⟨atEach_nil, by rwa [List.append_nil]⟩

theorem append {t : Bool} (h : q.Keeps past log s) (h' : q.Keeps (past ++ log) log' t) :
    q.Keeps past (log ++ log') t where
  guarded := atEach_append.2 ⟨h.guarded, by simpa only [List.append_assoc] using h'.guarded⟩
  session := by simpa only [List.append_assoc] using h'.session

theorem letIn (h : LetsIn answer) : q.Keeps past [⟨q.loginRequest, answer⟩] true where
  guarded := atEach_cons.2 ⟨.inl isLogin_loginRequest, atEach_nil⟩
  session := iff_of_true rfl (loggedIn_append_login.2 h)

theorem turnedAway (h : ¬LetsIn answer) : q.Keeps past [⟨q.loginRequest, answer⟩] false where
  guarded := atEach_cons.2 ⟨.inl isLogin_loginRequest, atEach_nil⟩
  session := iff_of_false Bool.false_ne_true (mt loggedIn_append_login.1 h)

theorem request (hr : ¬q.IsLogin r) (h : q.LoggedIn past) : q.Keeps past [⟨r, answer⟩] true where
  guarded := atEach_cons.2 ⟨.inr (by rwa [List.append_nil]), atEach_nil⟩
  session := iff_of_true rfl ((loggedIn_append_request hr).2 h)

theorem of_entry (hentry : Entry q s entry) (h : s = true ↔ q.LoggedIn past) :
    q.Keeps past entry true := by
  cases hentry with
  | inSession => exact nil h
  | letIn hin => exact letIn hin

theorem of_execution (hr : ¬q.IsLogin r) (h : q.Execution r s log result s')
    (hs : s = true ↔ q.LoggedIn past) : q.Keeps past log s' := by
  have hsent {entry : List Exchange} (hentry : Entry q s entry) (answer) :
      q.Keeps past (entry ++ [⟨r, answer⟩]) true := by
    have hentered := of_entry hentry hs
    exact hentered.append (request hr (hentered.session.1 rfl))
  cases h with
  | turnedAway _ hout => exact turnedAway hout
  | answered hentry => exact hsent hentry _
  | @ended entry answer login hentry _ hout =>
    have hkept := (hsent hentry answer).append (turnedAway hout)
    rwa [List.append_assoc] at hkept
  | @again entry answer login answer' _ hentry _ hin =>
    have hrenewed := (hsent hentry answer).append (letIn hin)
    have hlast : q.Keeps (past ++ (entry ++ [⟨r, answer⟩] ++ [⟨q.loginRequest, login⟩]))
        [⟨r, answer'⟩] true := request hr (hrenewed.session.1 rfl)
    have hkept := hrenewed.append hlast
    rwa [List.append_assoc, List.append_assoc] at hkept

end Keeps

/-! ## Operations -/

/-- Requests that are sent one after the other, each in the session that the one before it left. -/
inductive Calls (q : QBittorrent) : Bool → List ApiCall → Bool → Prop
  | nil (s : Bool) : Calls q s [] s
  | cons {c : ApiCall} {rest : List ApiCall} {s : Bool} (hc : ¬q.IsLogin c.request)
      (h : (q.execute c.request).Course c.before c.log c.result c.after)
      (hrest : Calls q c.after rest s) : Calls q c.before (c :: rest) s

/-- All that was sent for some requests. -/
def sentFor (calls : List ApiCall) : List Exchange := calls.flatMap (·.log)

theorem sentFor_append {calls calls' : List ApiCall} :
    sentFor (calls ++ calls') = sentFor calls ++ sentFor calls' := List.flatMap_append

theorem Calls.append {t : Bool} {calls calls' : List ApiCall} (h : q.Calls s calls s')
    (h' : q.Calls s' calls' t) : q.Calls s (calls ++ calls') t := by
  induction h with
  | nil => exact h'
  | cons hc hcourse _ ih => exact .cons hc hcourse (ih h')

theorem Calls.keepsLimits {calls : List ApiCall} (h : q.Calls s calls s') :
    ∀ c ∈ calls, c.KeepsLimits q := by
  induction h with
  | nil => exact fun c hc => absurd hc List.not_mem_nil
  | cons hc hcourse _ ih => exact List.forall_mem_cons.2 ⟨ApiCall.keepsLimits hc hcourse, ih⟩

/-- What holds after each request holds after all of them. -/
theorem Calls.keeps {calls : List ApiCall} {past : List Exchange} (h : q.Calls s calls s')
    (hs : s = true ↔ q.LoggedIn past) : q.Keeps past (sentFor calls) s' := by
  induction h generalizing past with
  | nil => exact .nil hs
  | cons hc hcourse _ ih =>
    have hkept := Keeps.of_execution hc (execution_of_course hcourse) hs
    exact hkept.append (ih hkept.session)

/-- Whatever it is answered, a session sends nothing but requests as they are sent within a
session. -/
def MadeOfCalls {α : Type} (q : QBittorrent) (x : Session Bool α) : Prop :=
  ∀ s log result s', x.Course s log result s' →
    ∃ calls, q.Calls s calls s' ∧ log = sentFor calls

section

variable {α β : Type}

theorem chains_sentFor :
    Session.Chains fun s log s' => ∃ calls, q.Calls s calls s' ∧ log = sentFor calls where
  nil s := ⟨[], .nil s, rfl⟩
  append := by
    rintro s s₁ s' _ _ ⟨calls, hcalls, rfl⟩ ⟨calls', hcalls', rfl⟩
    exact ⟨calls ++ calls', hcalls.append hcalls', sentFor_append.symm⟩

theorem madeOfCalls_pure (a : α) : q.MadeOfCalls (pure a) := Session.relates_pure chains_sentFor a

theorem madeOfCalls_throw (e : SourceError) : q.MadeOfCalls (throw e : Session Bool α) :=
  Session.relates_throw chains_sentFor e

theorem madeOfCalls_bind {x : Session Bool α} {f : α → Session Bool β} (hx : q.MadeOfCalls x)
    (hf : ∀ a, q.MadeOfCalls (f a)) : q.MadeOfCalls (x >>= f) :=
  Session.relates_bind chains_sentFor hx hf

theorem madeOfCalls_execute {r : Outgoing} (hr : ¬q.IsLogin r) : q.MadeOfCalls (q.execute r) := by
  intro s log result s' h
  let c : ApiCall := ⟨r, s, log, result, s'⟩
  have hcalls : q.Calls c.before [c] c.after := .cons hr h (.nil c.after)
  exact ⟨[c], hcalls, by rw [sentFor, List.flatMap_singleton]⟩

theorem madeOfCalls_fetch {decode : Json → Option α} {endpoint : String}
    (query : List (String × String)) (hne : endpoint ≠ "/api/v2/auth/login") :
    q.MadeOfCalls (q.fetch decode endpoint query) := by
  unfold fetch
  refine madeOfCalls_bind (madeOfCalls_execute (not_isLogin_of_url rfl hne)) fun body => ?_
  split
  · exact madeOfCalls_pure _
  · exact madeOfCalls_throw _

theorem madeOfCalls_describe (i : Info) : q.MadeOfCalls (q.describe i) := by
  unfold describe
  refine madeOfCalls_bind (madeOfCalls_fetch _ (by decide)) fun urls => ?_
  exact madeOfCalls_bind (madeOfCalls_fetch _ (by decide)) fun files => madeOfCalls_pure _

theorem madeOfCalls_describeAll (infos : List Info) : q.MadeOfCalls (q.describeAll infos) := by
  induction infos with
  | nil => exact madeOfCalls_pure _
  | cons i rest ih =>
    unfold describeAll
    exact madeOfCalls_bind (madeOfCalls_describe i) fun t =>
      madeOfCalls_bind ih fun ts => madeOfCalls_pure _

theorem madeOfCalls_delete (id : String) : q.MadeOfCalls (q.delete id) := by
  unfold delete
  refine madeOfCalls_bind (madeOfCalls_fetch _ (by decide)) fun existing => ?_
  have hremove : q.MadeOfCalls (do
      let _ ← q.execute
        { method := .post
          url := q.url "/api/v2/torrents/delete"
          body := .form [("hashes", lowercase id), ("deleteFiles", "true")] }
      return ()) :=
    madeOfCalls_bind (madeOfCalls_execute (not_isLogin_of_url rfl (by decide)))
      fun _ => madeOfCalls_pure _
  -- A dry run leaves out the removal, and a torrent that is not found ends either.
  split
  · split
    · exact madeOfCalls_bind (madeOfCalls_throw _) fun _ => madeOfCalls_pure _
    · exact madeOfCalls_pure _
  · split
    · exact madeOfCalls_bind (madeOfCalls_throw _) fun _ => hremove
    · exact hremove

theorem madeOfCalls_session (call : SourceCall TorrentKey) : q.MadeOfCalls (q.session call) := by
  cases call with
  | fetch =>
    refine madeOfCalls_bind ?_ fun _ => madeOfCalls_pure _
    exact madeOfCalls_bind (madeOfCalls_fetch _ (by decide)) madeOfCalls_describeAll
  | delete key => exact madeOfCalls_delete key.id

end

/-- Sessions that are led one after the other send the requests of each in turn. -/
theorem calls_of_leadEach {ω : Type} (serve : Serving ω) {sessions : List (Session Bool Unit)}
    (hmade : ∀ x ∈ sessions, q.MadeOfCalls x) (s : Bool) (w : ω) :
    ∃ calls, q.Calls s calls (Session.leadEach serve sessions s w).1 ∧
      Session.exchangesInTurn serve sessions s w = sentFor calls :=
  Session.relates_leadEach chains_sentFor serve hmade s w

end QBittorrent

/-- Whatever a server answers to the operations of a client, for each request that is sent within a
session at most two logins are sent and the request at most twice. Requests are sent only when the
last login was let in, and after the operations the client takes itself to be in a session exactly
if there was a login and the last one was let in. -/
theorem session_kept_over_calls (q : QBittorrent) {ω : Type} (serve : Serving ω) (w : ω)
    (operations : List (SourceCall TorrentKey)) :
    let log := Session.exchangesInTurn serve (operations.map q.session) false w
    let loggedIn := (Session.leadEach serve (operations.map q.session) false w).1
    (∃ calls, log = QBittorrent.sentFor calls ∧ ∀ c ∈ calls, c.KeepsLimits q) ∧
      AtEach (fun before x => q.IsLogin x.request ∨ q.LoggedIn before) log ∧
      (loggedIn = true ↔ q.LoggedIn log) := by
  obtain ⟨calls, hcalls, hlog⟩ := QBittorrent.calls_of_leadEach serve
    (List.forall_mem_map.2 fun call _ => q.madeOfCalls_session call) false w
  have hnone : false = true ↔ q.LoggedIn [] := iff_of_false Bool.false_ne_true nofun
  obtain ⟨hguarded, hsession⟩ := hcalls.keeps hnone
  rw [hlog]
  exact ⟨⟨calls, rfl, hcalls.keepsLimits⟩, hguarded, hsession⟩

namespace Sample

/-- A server that answers as a script says, and is lost when the script ends. -/
def scripted : Serving (List (Except TransportError Reply)) :=
  fun answers _ => (answers.headD (.error .timedOut), answers.tail)

/-- A session that ended is renewed, and the request that found it ended is sent again. -/
example :
    (Session.exchangesInTurn scripted ([.fetch, .fetch].map dryQBittorrent.session) false
      [.ok ⟨200, "/", "Ok."⟩, .ok ⟨200, "/", "[]"⟩, .ok ⟨403, "/", ""⟩, .ok ⟨200, "/", "Ok."⟩,
        .ok ⟨200, "/", "[]"⟩]).map (·.request.url)
      = ["http://one/api/v2/auth/login", "http://one/api/v2/torrents/info",
          "http://one/api/v2/torrents/info", "http://one/api/v2/auth/login",
          "http://one/api/v2/torrents/info"] := by
  decide +kernel

end Sample

end SeedCleanup
