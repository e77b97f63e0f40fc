import SeedCleanup.Proofs.DaemonCalls

/-!
# Sessions with a daemon

Whatever is answered to a client of Deluge, its calls are numbered without a gap, a method of the
daemon is called only when the last login sequence was completed, and called again only in a renewed
session (`daemon_session_kept_over_calls`). The operations of a client are made of calls of such
methods, so that what they keep carries over (`Deluge.relates_session`).
-/

namespace SeedCleanup

namespace Deluge

variable {d : Deluge}

/-! ## Logs of calls -/

/-- The methods that a login sequence is made of. -/
def loginMethods : List String := ["auth.login", "web.connected", "web.get_hosts", "web.connect"]

/-- Whether a request is part of a login sequence. -/
def IsLoginStep (r : Outgoing) : Prop := ∃ method ∈ loginMethods, CallsMethod method r

instance (r : Outgoing) : Decidable (IsLoginStep r) :=
  inferInstanceAs (Decidable (∃ method ∈ loginMethods, CallsMethod method r))

/-- Whether a method is one of the daemon. -/
def IsCore (method : String) : Prop := ∃ name, method = "core." ++ name

theorem Calls.isLoginStep_iff {r : Outgoing} {method : String} {params : List Json}
    (h : d.Calls r method params) : IsLoginStep r ↔ method ∈ loginMethods := by
  simp only [IsLoginStep, h.callsMethod_iff, exists_eq_right]

theorem IsCore.notMem_loginMethods {method : String} (h : IsCore method) :
    method ∉ loginMethods := by
  obtain ⟨name, rfl⟩ := h
  have hfirst : ("core." ++ name).toList.head? = some 'c' := by rw [String.toList_append]; rfl
  intro hmem
  have hother : ∀ m ∈ loginMethods, m.toList.head? ≠ some 'c' := by decide
  exact hother _ hmem hfirst

theorem Calls.not_isLoginStep {r : Outgoing} {method : String} {params : List Json}
    (h : d.Calls r method params) (hcore : IsCore method) : ¬IsLoginStep r :=
  mt h.isLoginStep_iff.1 hcore.notMem_loginMethods

/-- The beginnings of the login sequences of a log. -/
def logins (log : List Exchange) : List Exchange :=
  log.filter fun x => CallsMethod "auth.login" x.request

/-- What a log holds besides login sequences. -/
def methodCalls (log : List Exchange) : List Exchange :=
  log.filter fun x => ¬IsLoginStep x.request

section

variable {login login' : List Exchange} {completed completed' : Bool}

theorem Binding.isLoginStep (h : Binding d login completed) :
    ∀ x ∈ login, IsLoginStep x.request ∧ ¬CallsMethod "auth.login" x.request := by
  cases h with
  | noHost hx =>
    simp [hx.isLoginStep_iff, hx.callsMethod_iff, loginMethods]
  | host hx _ hy =>
    simp [hx.isLoginStep_iff, hx.callsMethod_iff, hy.isLoginStep_iff, hy.callsMethod_iff,
      loginMethods]

/-- A login sequence begins with the password, which is sent only once. -/
theorem LoginRun.eq_cons (h : LoginRun d login completed) :
    ∃ x rest, login = x :: rest ∧ IsLoginStep x.request ∧ CallsMethod "auth.login" x.request ∧
      ∀ y ∈ rest, IsLoginStep y.request ∧ ¬CallsMethod "auth.login" y.request := by
  cases h with
  | turnedAway hx =>
    exact ⟨_, _, rfl, by simp [hx.isLoginStep_iff, loginMethods], hx.callsMethod_iff.2 rfl, by simp⟩
  | unknown hx _ hy | connected hx _ hy =>
    refine ⟨_, _, rfl, by simp [hx.isLoginStep_iff, loginMethods], hx.callsMethod_iff.2 rfl, ?_⟩
    simp [hy.isLoginStep_iff, hy.callsMethod_iff, loginMethods]
  | binding hx _ hy _ hrest =>
    refine ⟨_, _, rfl, by simp [hx.isLoginStep_iff, loginMethods], hx.callsMethod_iff.2 rfl, ?_⟩
    refine List.forall_mem_cons.2 ⟨?_, hrest.isLoginStep⟩
    simp [hy.isLoginStep_iff, hy.callsMethod_iff, loginMethods]

theorem LoginRun.isLoginStep (h : LoginRun d login completed) :
    ∀ x ∈ login, IsLoginStep x.request := by
  obtain ⟨x, rest, rfl, hx, -, hrest⟩ := h.eq_cons
  exact List.forall_mem_cons.2 ⟨hx, fun y hy => (hrest y hy).1⟩

theorem LoginRun.length_logins (h : LoginRun d login completed) : (logins login).length = 1 := by
  obtain ⟨x, rest, rfl, -, hx, hrest⟩ := h.eq_cons
  have hnone : logins rest = [] :=
    List.filter_eq_nil_iff.2 fun y hy => by simpa using (hrest y hy).2
  rw [logins, List.filter_cons_of_pos (by simpa using hx), ← logins, hnone]
  rfl

theorem LoginRun.methodCalls_eq_nil (h : LoginRun d login completed) : methodCalls login = [] :=
  List.filter_eq_nil_iff.2 fun x hx => by simpa using h.isLoginStep x hx

theorem Binding.unique (h : Binding d login completed) (h' : Binding d login completed') :
    completed = completed' := by
  cases h with
  | noHost => cases h'; rfl
  | host _ _ _ hbound =>
    cases h' with
    | host _ _ _ hbound' => exact Bool.eq_iff_iff.2 (hbound.trans hbound'.symm)

/-- Whether a login sequence was completed is seen from its calls. -/
theorem LoginRun.unique (h : LoginRun d login completed) (h' : LoginRun d login completed') :
    completed = completed' := by
  cases h with
  | turnedAway => cases h'; rfl
  | unknown _ _ _ hnone =>
    cases h' with
    | unknown => rfl
    | connected _ _ _ hgives => exact absurd hgives (hnone _)
    | binding _ _ _ hgives => exact absurd hgives (hnone _)
  | connected _ _ _ hgives =>
    cases h' with
    | unknown _ _ _ hnone => exact absurd hgives (hnone _)
    | connected => rfl
    | binding _ _ _ hgives' => exact nomatch hgives.unique hgives'
  | binding _ _ _ hgives hrest =>
    cases h' with
    | unknown _ _ _ hnone => exact absurd hgives (hnone _)
    | connected _ _ _ hgives' => exact nomatch hgives.unique hgives'
    | binding _ _ _ _ hrest' => exact hrest.unique hrest'

/-- No login sequence ends with another one. -/
theorem LoginRun.eq_of_suffix (h : LoginRun d login completed) (h' : LoginRun d login' completed')
    {earlier : List Exchange} (heq : login = earlier ++ login') : login = login' := by
  obtain ⟨x, rest, rfl, -, -, hrest⟩ := h.eq_cons
  obtain ⟨x', rest', rfl, -, hx', -⟩ := h'.eq_cons
  cases earlier with
  | nil => exact heq
  | cons y earlier =>
    obtain ⟨-, rfl⟩ := List.cons.inj heq
    exact absurd hx' (hrest x' (by simp)).2

end

/-- Logs in which the steps of logins come in whole login sequences. -/
inductive InSequences (d : Deluge) : List Exchange → Prop
  | nil : InSequences d []
  | login {login rest : List Exchange} {completed : Bool} (h : LoginRun d login completed)
      (hrest : InSequences d rest) : InSequences d (login ++ rest)
  | call {x : Exchange} {rest : List Exchange} (hx : ¬IsLoginStep x.request)
      (hrest : InSequences d rest) : InSequences d (x :: rest)

/-- A login sequence was completed, and no step of a login was taken after it. -/
def LoggedIn (d : Deluge) (log : List Exchange) : Prop :=
  ∃ earlier login later, log = earlier ++ login ++ later ∧ LoginRun d login true ∧
    ∀ x ∈ later, ¬IsLoginStep x.request

section

variable {past login : List Exchange} {x : Exchange}

theorem not_loggedIn_nil : ¬d.LoggedIn [] := by
  rintro ⟨earlier, login, later, heq, h, -⟩
  obtain ⟨x, rest, rfl, -⟩ := h.eq_cons
  simp at heq

theorem loggedIn_append_completed (h : LoginRun d login true) : d.LoggedIn (past ++ login) :=
  ⟨past, login, [], (List.append_nil _).symm, h, fun _ hx => absurd hx List.not_mem_nil⟩

theorem not_loggedIn_append_failed (h : LoginRun d login false) : ¬d.LoggedIn (past ++ login) := by
  rintro ⟨earlier, login', later, heq, h', hlater⟩
  obtain rfl | ⟨later, y, rfl⟩ := later.eq_nil_or_concat'
  · rw [List.append_nil] at heq
    have hsame : login = login' := by
      obtain ⟨_, -, hlogin⟩ | ⟨_, -, hlogin⟩ := List.append_eq_append_iff.1 heq
      · exact h.eq_of_suffix h' hlogin
      · exact (h'.eq_of_suffix h hlogin).symm
    obtain rfl := hsame
    exact nomatch h.unique h'
  · obtain ⟨z, rest, rfl, -⟩ := h.eq_cons
    -- The log ends with a step of a login, and not with a call that came after all logins.
    have hlast : (z :: rest).getLast? = some y := by
      have hends := congrArg List.getLast? heq
      simpa [List.getLast?_append, ← List.append_assoc] using hends
    exact hlater y (by simp) (h.isLoginStep y (List.mem_of_getLast? hlast))

theorem loggedIn_append_call (hx : ¬IsLoginStep x.request) :
    d.LoggedIn (past ++ [x]) ↔ d.LoggedIn past := by
  constructor
  · rintro ⟨earlier, login, later, heq, h, hlater⟩
    obtain rfl | ⟨later, y, rfl⟩ := later.eq_nil_or_concat'
    · obtain ⟨z, rest, rfl, -⟩ := h.eq_cons
      have hlast : (z :: rest).getLast? = some x := by
        have hends := congrArg List.getLast? heq
        simpa [List.getLast?_append] using hends.symm
      exact absurd (h.isLoginStep x (List.mem_of_getLast? hlast)) hx
    · rw [← List.append_assoc] at heq
      obtain ⟨rfl, -⟩ := List.append_inj' heq rfl
      exact ⟨earlier, login, later, rfl, h, fun z hz => hlater z (List.mem_append_left _ hz)⟩
  · rintro ⟨earlier, login, later, rfl, h, hlater⟩
    refine ⟨earlier, login, later ++ [x], List.append_assoc .., h, ?_⟩
    exact List.forall_mem_append.2 ⟨hlater, by simpa using hx⟩

end

/-! ## What is sent for a method -/

/-- A method that was called within a session, with all that was sent for it. -/
structure MethodCall where
  method : String
  params : List Json
  before : State
  log : List Exchange
  after : State

/-- Whether a log is that of a method of the daemon which is called within a session. -/
def MethodCall.Runs (d : Deluge) (c : MethodCall) : Prop :=
  IsCore c.method ∧ ∃ (α : Type) (decode : Json → Option α) (result : Except SourceError α),
    (d.call decode c.method c.params).Course c.before c.log result c.after

/-- A log ends with a call that found the session ended, and a login sequence that was completed. -/
def Renewed (d : Deluge) (log : List Exchange) : Prop :=
  ∃ earlier x login, log = earlier ++ x :: login ∧ ¬IsLoginStep x.request ∧
    AsksForLogin x.answer ∧ LoginRun d login true

/-- A step of a login, or a call that comes after nothing but logins or after the session was
renewed. -/
def InTurn (d : Deluge) (before : List Exchange) (x : Exchange) : Prop :=
  IsLoginStep x.request ∨ methodCalls before = [] ∨ d.Renewed before

/-- For a method of the daemon at most two login sequences are gone through, and it is called at
most twice with the same parameters. The second time comes after an answer that asks for a login and
a login sequence that was completed. -/
structure MethodCall.KeepsLimits (d : Deluge) (c : MethodCall) : Prop where
  runs : c.Runs d
  sequences : d.InSequences c.log
  logins : (logins c.log).length ≤ 2
  calls : (methodCalls c.log).length ≤ 2
  same : ∀ x ∈ c.log, IsLoginStep x.request ∨ d.Calls x.request c.method c.params
  inTurn : AtEach d.InTurn c.log

theorem logins_append (log log' : List Exchange) :
    logins (log ++ log') = logins log ++ logins log' := List.filter_append ..

theorem methodCalls_append (log log' : List Exchange) :
    methodCalls (log ++ log') = methodCalls log ++ methodCalls log' := List.filter_append ..

section

variable {x : Exchange} {rest : List Exchange}

theorem logins_cons_of_not (h : ¬IsLoginStep x.request) : logins (x :: rest) = logins rest :=
  List.filter_cons_of_neg (by simpa using fun hx => h ⟨_, by simp [loginMethods], hx⟩)

theorem methodCalls_cons_of_not (h : ¬IsLoginStep x.request) :
    methodCalls (x :: rest) = x :: methodCalls rest :=
  List.filter_cons_of_pos (by simpa using h)

theorem InSequences.append {log log' : List Exchange} (h : d.InSequences log)
    (h' : d.InSequences log') : d.InSequences (log ++ log') := by
  induction h with
  | nil => exact h'
  | login hrun _ ih =>
    rw [List.append_assoc]
    exact .login hrun ih
  | call hx _ ih => exact .call hx ih

theorem LoginRun.inSequences {login : List Exchange} {completed : Bool}
    (h : LoginRun d login completed) : d.InSequences login := by
  have hlast := InSequences.login h .nil
  rwa [List.append_nil] at hlast

end

section

variable {s : Bool} {entry : List Exchange}

/-- What holds of no log and of every login sequence that is completed holds of an entry. -/
theorem Entry.elim (h : Entry d s entry) {P : List Exchange → Prop} (hnil : P [])
    (hlogin : ∀ login, LoginRun d login true → P login) : P entry := by
  cases h with
  | inSession => exact hnil
  | letIn hrun => exact hlogin _ hrun

theorem Entry.isLoginStep (h : Entry d s entry) : ∀ x ∈ entry, IsLoginStep x.request :=
  h.elim (fun _ hx => absurd hx List.not_mem_nil) fun _ => LoginRun.isLoginStep

theorem Entry.inSequences (h : Entry d s entry) : d.InSequences entry :=
  h.elim .nil fun _ => LoginRun.inSequences

theorem Entry.length_logins_le (h : Entry d s entry) : (logins entry).length ≤ 1 :=
  h.elim (Nat.zero_le 1) fun _ hrun => hrun.length_logins.le

theorem Entry.methodCalls_eq_nil (h : Entry d s entry) : methodCalls entry = [] :=
  h.elim (P := fun entry => methodCalls entry = []) rfl fun _ => LoginRun.methodCalls_eq_nil

theorem LoginRun.atEach_inTurn {login : List Exchange} {completed : Bool}
    (h : LoginRun d login completed) {f : List Exchange → List Exchange} :
    AtEach (fun before => d.InTurn (f before)) login :=
  atEach_of_forall_mem fun x hx _ => .inl (h.isLoginStep x hx)

theorem Entry.atEach_inTurn (h : Entry d s entry) {x : Exchange} {rest : List Exchange}
    (hrest : AtEach (fun before => d.InTurn (entry ++ x :: before)) rest) :
    AtEach d.InTurn (entry ++ x :: rest) := by
  refine atEach_append.2 ⟨atEach_of_forall_mem fun y hy _ => .inl (h.isLoginStep y hy), ?_⟩
  refine atEach_cons.2 ⟨.inr (.inl ?_), hrest⟩
  rw [List.append_nil]
  exact h.methodCalls_eq_nil

variable {α : Type} {decode : Json → Option α} {method : String} {params : List Json} {s' : Bool}
  {log : List Exchange} {result : Except SourceError α}
  (h : Execution d decode method params s log result s')
include h

theorem Execution.isLoginStep_or : ∀ x ∈ log, IsLoginStep x.request ∨
    d.Calls x.request method params := by
  cases h with
  | turnedAway _ hlogin => exact fun x hx => .inl (hlogin.isLoginStep x hx)
  | answered hentry hx =>
    refine List.forall_mem_append.2 ⟨fun y hy => .inl (hentry.isLoginStep y hy), ?_⟩
    exact List.forall_mem_singleton.2 (.inr hx)
  | ended hentry hx _ hlogin =>
    refine List.forall_mem_append.2 ⟨fun y hy => .inl (hentry.isLoginStep y hy), ?_⟩
    exact List.forall_mem_cons.2 ⟨.inr hx, fun y hy => .inl (hlogin.isLoginStep y hy)⟩
  | again hentry hx _ hlogin hy =>
    refine List.forall_mem_append.2 ⟨fun y hy => .inl (hentry.isLoginStep y hy), ?_⟩
    refine List.forall_mem_cons.2 ⟨.inr hx, List.forall_mem_append.2 ⟨?_, ?_⟩⟩
    · exact fun y hy => .inl (hlogin.isLoginStep y hy)
    · exact List.forall_mem_singleton.2 (.inr hy)

variable (hcore : IsCore method)
include hcore

theorem Execution.inSequences : d.InSequences log := by
  cases h with
  | turnedAway _ hlogin => exact hlogin.inSequences
  | answered hentry hx => exact hentry.inSequences.append (.call (hx.not_isLoginStep hcore) .nil)
  | ended hentry hx _ hlogin =>
    exact hentry.inSequences.append (.call (hx.not_isLoginStep hcore) hlogin.inSequences)
  | again hentry hx _ hlogin hy =>
    refine hentry.inSequences.append (.call (hx.not_isLoginStep hcore) ?_)
    exact hlogin.inSequences.append (.call (hy.not_isLoginStep hcore) .nil)

theorem Execution.length_logins_le : (logins log).length ≤ 2 := by
  cases h with
  | turnedAway _ hlogin => exact hlogin.length_logins.trans_le (Nat.le_succ 1)
  | answered hentry hx =>
    have hentered := hentry.length_logins_le
    rw [logins_append, logins_cons_of_not (hx.not_isLoginStep hcore), List.length_append]
    exact Nat.le_trans hentered (Nat.le_succ 1)
  | ended hentry hx _ hlogin =>
    have hentered := hentry.length_logins_le
    rw [logins_append, logins_cons_of_not (hx.not_isLoginStep hcore), List.length_append,
      hlogin.length_logins]
    omega
  | again hentry hx _ hlogin hy =>
    have hentered := hentry.length_logins_le
    rw [logins_append, logins_cons_of_not (hx.not_isLoginStep hcore), logins_append,
      logins_cons_of_not (hy.not_isLoginStep hcore), List.length_append, List.length_append,
      hlogin.length_logins]
    exact Nat.add_le_add_right hentered 1

theorem Execution.length_methodCalls_le : (methodCalls log).length ≤ 2 := by
  cases h with
  | turnedAway _ hlogin => rw [hlogin.methodCalls_eq_nil]; exact Nat.zero_le 2
  | answered hentry hx =>
    rw [methodCalls_append, hentry.methodCalls_eq_nil,
      methodCalls_cons_of_not (hx.not_isLoginStep hcore)]
    exact Nat.le_succ 1
  | ended hentry hx _ hlogin =>
    rw [methodCalls_append, hentry.methodCalls_eq_nil,
      methodCalls_cons_of_not (hx.not_isLoginStep hcore), hlogin.methodCalls_eq_nil]
    exact Nat.le_succ 1
  | again hentry hx _ hlogin hy =>
    rw [methodCalls_append, hentry.methodCalls_eq_nil,
      methodCalls_cons_of_not (hx.not_isLoginStep hcore), methodCalls_append,
      hlogin.methodCalls_eq_nil, methodCalls_cons_of_not (hy.not_isLoginStep hcore)]
    exact Nat.le_refl 2

theorem Execution.atEach_inTurn : AtEach d.InTurn log := by
  cases h with
  | turnedAway _ hlogin => exact hlogin.atEach_inTurn
  | answered hentry => exact hentry.atEach_inTurn atEach_nil
  | ended hentry _ _ hlogin => exact hentry.atEach_inTurn hlogin.atEach_inTurn
  | again hentry hx hended hlogin =>
    refine hentry.atEach_inTurn (atEach_append.2 ⟨hlogin.atEach_inTurn, ?_⟩)
    refine atEach_cons.2 ⟨.inr (.inr ?_), atEach_nil⟩
    rw [List.append_nil]
    exact ⟨_, _, _, rfl, hx.not_isLoginStep hcore, hended, hlogin⟩

end

theorem MethodCall.Runs.keepsLimits {c : MethodCall} (h : c.Runs d) : c.KeepsLimits d := by
  obtain ⟨hcore, α, decode, result, hcourse⟩ := h
  have hexecution := execution_of_course hcourse
  exact
    { runs := ⟨hcore, α, decode, result, hcourse⟩
      sequences := hexecution.inSequences hcore
      logins := hexecution.length_logins_le hcore
      calls := hexecution.length_methodCalls_le hcore
      same := hexecution.isLoginStep_or
      inTurn := hexecution.atEach_inTurn hcore }

/-! ## Sessions that are kept -/

/-- After a log that began when `past` was sent, methods of the daemon were called only of a client
that is logged in, and `s` tells whether there is a session. -/
structure Keeps (d : Deluge) (past log : List Exchange) (s : Bool) : Prop where
  guarded : AtEach (fun before x => IsLoginStep x.request ∨ d.LoggedIn (past ++ before)) log
  session : s = true ↔ d.LoggedIn (past ++ log)

namespace Keeps

variable {past log log' login entry : List Exchange} {s s' : Bool} {x : Exchange}

theorem nil (h : s = true ↔ d.LoggedIn past) : d.Keeps past [] s :=
  ⟨atEach_nil, by rwa [List.append_nil]⟩

theorem append (h : d.Keeps past log s) (h' : d.Keeps (past ++ log) log' s') :
    d.Keeps past (log ++ log') s' where
  guarded := atEach_append.2 ⟨h.guarded, by simpa only [List.append_assoc] using h'.guarded⟩
  session := by simpa only [List.append_assoc] using h'.session

theorem completed (h : LoginRun d login true) : d.Keeps past login true where
  guarded := atEach_of_forall_mem fun x hx _ => .inl (h.isLoginStep x hx)
  session := iff_of_true rfl (loggedIn_append_completed h)

theorem failed (h : LoginRun d login false) : d.Keeps past login false where
  guarded := atEach_of_forall_mem fun x hx _ => .inl (h.isLoginStep x hx)
  session := iff_of_false Bool.false_ne_true (not_loggedIn_append_failed h)

theorem call (hx : ¬IsLoginStep x.request) (h : d.LoggedIn past) : d.Keeps past [x] true where
  guarded := atEach_cons.2 ⟨.inr (by rwa [List.append_nil]), atEach_nil⟩
  session := iff_of_true rfl ((loggedIn_append_call hx).2 h)

theorem of_entry (hentry : Entry d s entry) (h : s = true ↔ d.LoggedIn past) :
    d.Keeps past entry true := by
  cases hentry with
  | inSession => exact nil h
  | letIn hrun => exact completed hrun

theorem of_execution {α : Type} {decode : Json → Option α} {method : String} {params : List Json}
    {result : Except SourceError α} (hcore : IsCore method)
    (h : Execution d decode method params s log result s') (hs : s = true ↔ d.LoggedIn past) :
    d.Keeps past log s' := by
  have hcalled {entry : List Exchange} {x : Exchange} (hentry : Entry d s entry)
      (hx : d.Calls x.request method params) : d.Keeps past (entry ++ [x]) true := by
    have hentered := of_entry hentry hs
    exact hentered.append (call (hx.not_isLoginStep hcore) (hentered.session.1 rfl))
  cases h with
  | turnedAway _ hlogin => exact failed hlogin
  | answered hentry hx => exact hcalled hentry hx
  | ended hentry hx _ hlogin =>
    have hkept := (hcalled hentry hx).append (failed hlogin)
    rwa [List.append_assoc] at hkept
  | again hentry hx _ hlogin hy =>
    have hrenewed := (hcalled hentry hx).append (completed hlogin)
    have hkept := hrenewed.append (call (hy.not_isLoginStep hcore) (hrenewed.session.1 rfl))
    simpa only [List.append_assoc, List.cons_append, List.nil_append] using hkept

end Keeps

/-! ## Operations -/

/-- Methods that are called one after the other, each in the state that the one before it left. -/
inductive MethodCalls (d : Deluge) : State → List MethodCall → State → Prop
  | nil (s : State) : MethodCalls d s [] s
  | cons {c : MethodCall} {rest : List MethodCall} {s : State} (h : c.Runs d)
      (hrest : MethodCalls d c.after rest s) : MethodCalls d c.before (c :: rest) s

/-- All that was sent for some methods. -/
def sentFor (calls : List MethodCall) : List Exchange := calls.flatMap (·.log)

/-- A log is that of methods which are called one after the other. -/
def MadeOfCalls (d : Deluge) (s : State) (log : List Exchange) (s' : State) : Prop :=
  ∃ calls, d.MethodCalls s calls s' ∧ log = sentFor calls

section

variable {s s' t : State} {calls calls' : List MethodCall}

theorem MethodCalls.append (h : d.MethodCalls s calls s') (h' : d.MethodCalls s' calls' t) :
    d.MethodCalls s (calls ++ calls') t := by
  induction h with
  | nil => exact h'
  | cons hruns _ ih => exact .cons hruns (ih h')

theorem MethodCalls.keepsLimits (h : d.MethodCalls s calls s') : ∀ c ∈ calls, c.KeepsLimits d := by
  induction h with
  | nil => exact fun c hc => absurd hc List.not_mem_nil
  | cons hruns _ ih => exact List.forall_mem_cons.2 ⟨hruns.keepsLimits, ih⟩

/-- What holds after each method holds after all of them. -/
theorem MethodCalls.keeps {past : List Exchange} (h : d.MethodCalls s calls s')
    (hs : s.authenticated = true ↔ d.LoggedIn past) :
    d.Keeps past (sentFor calls) s'.authenticated := by
  induction h generalizing past with
  | nil => exact .nil hs
  | cons hruns _ ih =>
    obtain ⟨hcore, _, _, _, hcourse⟩ := hruns
    have hkept := Keeps.of_execution hcore (execution_of_course hcourse) hs
    exact hkept.append (ih hkept.session)

theorem chains_madeOfCalls : Session.Chains d.MadeOfCalls where
  nil s := ⟨[], .nil s, rfl⟩
  append := by
    rintro s s₁ s' _ _ ⟨calls, hcalls, rfl⟩ ⟨calls', hcalls', rfl⟩
    exact ⟨calls ++ calls', hcalls.append hcalls', List.flatMap_append.symm⟩

end

section

variable {R : State → List Exchange → State → Prop} (hR : Session.Chains R)
include hR

/-- What the methods of the daemon relate, the operations relate, which call nothing else. -/
theorem relates_session
    (hcall : ∀ {α : Type} (decode : Json → Option α) (method : String) (params : List Json),
      IsCore method → Session.Relates R (d.call decode method params))
    (call : SourceCall TorrentKey) : Session.Relates R (d.session call) := by
  cases call with
  | fetch =>
    refine Session.relates_bind hR ?_ fun _ => Session.relates_pure hR _
    refine Session.relates_bind hR (hcall _ _ _ ⟨"get_torrents_status", rfl⟩) fun statuses => ?_
    exact Session.relates_pure hR _
  | delete key =>
    show Session.Relates R (d.delete key.id)
    unfold delete
    refine Session.relates_bind hR (hcall _ _ _ ⟨"get_torrent_status", rfl⟩) fun found => ?_
    refine Session.relates_ite (Session.relates_bind hR (Session.relates_throw hR _) fun _ => ?_) ?_
    all_goals
      refine Session.relates_ite (Session.relates_pure hR _) ?_
      refine Session.relates_bind hR (hcall _ _ _ ⟨"remove_torrent", rfl⟩) fun removed => ?_
      exact Session.relates_ite (Session.relates_pure hR _) (Session.relates_throw hR _)

theorem relates_value {α : Type} (decode : Json → Option α) (method : String) (r : CallResult) :
    Session.Relates R (match r.value method decode with
      | .ok v => pure v
      | .error e => throw e : Session State α) := by
  split
  · exact Session.relates_pure hR _
  · exact Session.relates_throw hR _

/-- What single calls and changes of the flag relate, the methods of the daemon relate. -/
theorem relates_call
    (honce : ∀ method params, Session.Relates R (d.callOnce method params))
    (hflag : ∀ b, Session.Relates R (modify fun s : State => { s with authenticated := b }))
    {α : Type} (decode : Json → Option α) (method : String) (params : List Json) :
    Session.Relates R (d.call decode method params) := by
  have hvalueOnce {β : Type} (decode : Json → Option β) (method : String) (params : List Json) :
      Session.Relates R (d.valueOnce decode method params) :=
    Session.relates_bind hR (honce method params) (relates_value hR decode method)
  have hconnect : Session.Relates R d.connect := by
    refine Session.relates_bind hR (hvalueOnce _ _ _) fun host => ?_
    split
    · exact Session.relates_bind hR (hvalueOnce _ _ _) fun _ => Session.relates_pure hR _
    · exact Session.relates_throw hR _
  have hlogin : Session.Relates R d.login := by
    refine Session.relates_bind hR (hvalueOnce _ _ _) fun isIn => ?_
    refine Session.relates_ite (Session.relates_bind hR (Session.relates_throw hR _) fun _ => ?_) ?_
    all_goals
      refine Session.relates_bind hR (hvalueOnce _ _ _) fun isConnected => ?_
      exact Session.relates_ite (Session.relates_bind hR hconnect fun _ => hflag _) (hflag _)
  unfold call
  refine Session.relates_bind hR (Session.relates_get hR) fun s => ?_
  refine Session.relates_ite (Session.relates_bind hR hlogin fun _ => ?_) ?_
  all_goals
    refine Session.relates_bind hR (honce method params) fun first => ?_
    refine Session.relates_ite ?_ ?_
    · refine Session.relates_bind hR (hflag false) fun _ => ?_
      refine Session.relates_bind hR hlogin fun _ => ?_
      exact Session.relates_bind hR (honce method params) (relates_value hR decode method)
    · exact Session.relates_bind hR (Session.relates_pure hR first)
        (relates_value hR decode method)

end

theorem madeOfCalls_session (call : SourceCall TorrentKey) :
    Session.Relates d.MadeOfCalls (d.session call) := by
  refine relates_session chains_madeOfCalls ?_ call
  intro α decode method params hcore s log result s' h
  let c : MethodCall := ⟨method, params, s, log, s'⟩
  have hcalls : d.MethodCalls c.before [c] c.after :=
    .cons ⟨hcore, α, decode, result, h⟩ (.nil c.after)
  exact ⟨[c], hcalls, by rw [sentFor, List.flatMap_singleton]⟩

/-! ## The numbers of calls -/

/-- The calls of a log have numbers that follow each other, counted in sixty-four bits. -/
def Numbered (n : Nat) (log : List Exchange) : Prop :=
  log.map (fun x => number? x.request)
    = (List.range' n log.length).map fun k => some (.ofInt (k % UInt64.size : Nat))

/-- The calls of a log are numbered from the number that was next before it to the one that is next
after it. -/
def Counts (s : State) (log : List Exchange) (s' : State) : Prop :=
  ∀ n, s.nextId = UInt64.ofNat n → Numbered n log ∧ s'.nextId = UInt64.ofNat (n + log.length)

theorem chains_counts : Session.Chains Counts where
  nil s n hn := ⟨rfl, hn⟩
  append := by
    intro s s₁ s' log log' h h' n hn
    obtain ⟨hlog, hn₁⟩ := h n hn
    obtain ⟨hlog', hn'⟩ := h' _ hn₁
    constructor
    · rw [Numbered, List.map_append, hlog, hlog', ← List.map_append, List.length_append,
        List.range'_append_1]
    · rw [hn', List.length_append, Nat.add_assoc]

theorem counts_callOnce (method : String) (params : List Json) :
    Session.Relates Counts (d.callOnce method params) := by
  intro s log result s' h n hn
  obtain ⟨answer, rfl, -, rfl⟩ := of_callOnce h
  constructor
  · have hnumber : number? (d.request method params s.nextId) = some (.ofInt s.nextId.toNat) := rfl
    rw [Numbered, List.map_singleton, hnumber, hn, UInt64.toNat_ofNat']
    rfl
  · show s.nextId + 1 = _
    rw [hn, List.length_singleton, UInt64.ofNat_add]
    rfl

theorem counts_session (call : SourceCall TorrentKey) :
    Session.Relates Counts (d.session call) := by
  refine relates_session chains_counts (fun decode method params _ => ?_) call
  refine relates_call chains_counts counts_callOnce (fun b => ?_) decode method params
  intro s log result s' h n hn
  obtain ⟨rfl, -, rfl⟩ := h.of_modify
  exact ⟨rfl, hn⟩

end Deluge

/-- Whatever a server answers to the operations of a client, its calls are numbered 1, 2, 3, … in
the order in which they are sent. For each method of the daemon at most two login sequences are gone
through and the method is called at most twice; methods of the daemon are called only when the last
login sequence was completed. After the operations the client takes itself to be in a session
exactly if there was a login sequence and the last one was completed. -/
theorem daemon_session_kept_over_calls (d : Deluge) {ω : Type} (serve : Serving ω) (w : ω)
    (operations : List (SourceCall TorrentKey)) :
    let log := Session.exchangesInTurn serve (operations.map d.session) {} w
    let state := (Session.leadEach serve (operations.map d.session) {} w).1
    Deluge.Numbered 1 log ∧
      (∃ calls, d.MethodCalls {} calls state ∧ log = Deluge.sentFor calls ∧
        ∀ c ∈ calls, c.KeepsLimits d) ∧
      AtEach (fun before x => Deluge.IsLoginStep x.request ∨ d.LoggedIn before) log ∧
      (state.authenticated = true ↔ d.LoggedIn log) := by
  intro log state
  have hcounts : Deluge.Counts {} log state :=
    Session.relates_leadEach Deluge.chains_counts serve
      (List.forall_mem_map.2 fun call _ => Deluge.counts_session call) {} w
  obtain ⟨calls, hcalls, hlog⟩ : d.MadeOfCalls {} log state :=
    Session.relates_leadEach Deluge.chains_madeOfCalls serve
      (List.forall_mem_map.2 fun call _ => Deluge.madeOfCalls_session call) {} w
  have hnone : false = true ↔ d.LoggedIn [] :=
    iff_of_false Bool.false_ne_true Deluge.not_loggedIn_nil
  obtain ⟨hguarded, hsession⟩ := hcalls.keeps hnone
  refine ⟨(hcounts 1 rfl).1, ⟨calls, hcalls, hlog, hcalls.keepsLimits⟩, ?_, ?_⟩
  · rwa [← hlog] at hguarded
  · rwa [← hlog] at hsession

namespace Sample

/-- A login sequence binds the session to the first daemon, and another one renews it. -/
example :
    (Session.exchangesInTurn recital ([.fetch].map dryDeluge.session) {}
      ["\x7b\"result\":true\x7d", "\x7b\"result\":false\x7d",
        "\x7b\"result\":[[\"a\"],[\"b\"]]\x7d", "\x7b\"result\":null\x7d",
        "\x7b\"error\":\x7b\"code\":1\x7d\x7d",
        "\x7b\"result\":true\x7d", "\x7b\"result\":true\x7d", "\x7b\"result\":\x7b\x7d\x7d"]).map
        (Deluge.method? ·.request)
      = ["auth.login", "web.connected", "web.get_hosts", "web.connect",
          "core.get_torrents_status", "auth.login", "web.connected",
          "core.get_torrents_status"].map some := by
  decide +kernel

end Sample

end SeedCleanup
