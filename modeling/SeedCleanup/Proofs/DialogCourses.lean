import SeedCleanup.Json.Printer
import SeedCleanup.Proofs.DialogTheorems

/-!
# The courses of dialogs

A course of a dialog is a log of its requests with what came of each, and what the dialog comes to
then. The answers are arbitrary, so that what holds in all courses holds for every server
(`Dialog.course_exchanges`). The course of a session is one of its parts after the other, or ends
with the first part that fails (`Session.Course.of_bind`).
-/

namespace SeedCleanup

/-- The names and values of the form that goes with a request. -/
def Outgoing.formPairs (r : Outgoing) : List (String × String) :=
  match r.body with
  | .form pairs => pairs
  | _ => []

/-- The text of the document that goes with a request. -/
def Outgoing.documentText (r : Outgoing) : Option String :=
  match r.body with
  | .json j => some j.text
  | _ => none

/-- A request with what came of it. -/
structure Exchange where
  request : Outgoing
  answer : Except TransportError Reply

/-! ## Answers -/

/-- Whether an answer is a success. -/
def Accepted (answer : Except TransportError Reply) : Prop :=
  ∃ reply, answer = .ok reply ∧ 200 ≤ reply.status ∧ reply.status < 300

/-- Whether an answer is a success that came whole, with some text. -/
def Comes (answer : Except TransportError Reply) (text : String) : Prop :=
  ∃ reply, answer = .ok reply ∧ 200 ≤ reply.status ∧ reply.status < 300 ∧ reply.body = .whole text

/-- Whether an answer is a success that came whole and is read as a value. -/
def ReadAs {α : Type} (decode : String → Option α) (answer : Except TransportError Reply) (v : α) :
    Prop :=
  ∃ text, Comes answer text ∧ decode text = some v

section

variable {answer : Except TransportError Reply} {text text' : String}

theorem Comes.accepted (h : Comes answer text) : Accepted answer := by
  obtain ⟨reply, hanswer, hlow, hhigh, -⟩ := h
  exact ⟨reply, hanswer, hlow, hhigh⟩

theorem Comes.unique (h : Comes answer text) (h' : Comes answer text') : text = text' := by
  obtain ⟨reply, rfl, -, -, hbody⟩ := h
  obtain ⟨reply', hreply, -, -, hbody'⟩ := h'
  obtain rfl := Except.ok.inj hreply
  exact ReplyBody.whole.inj (hbody.symm.trans hbody')

theorem comes_ok_iff {reply : Reply} (h : 200 ≤ reply.status ∧ reply.status < 300) :
    Comes (.ok reply) text ↔ reply.body.text.toOption = some text := by
  have hcomes : Comes (.ok reply) text ↔ reply.body = .whole text := by simp [Comes, h]
  rw [hcomes]
  cases reply.body with
  | whole text => simp [ReplyBody.text, Except.toOption]
  | broken => simp [ReplyBody.text, Except.toOption]
  | timedOut => simp [ReplyBody.text, Except.toOption]

variable {α : Type} {decode : String → Option α} {v v' : α}

theorem ReadAs.accepted (h : ReadAs decode answer v) : Accepted answer := by
  obtain ⟨text, hcomes, -⟩ := h
  exact hcomes.accepted

theorem ReadAs.unique (h : ReadAs decode answer v) (h' : ReadAs decode answer v') : v = v' := by
  obtain ⟨text, hcomes, hv⟩ := h
  obtain ⟨text', hcomes', hv'⟩ := h'
  obtain rfl := hcomes.unique hcomes'
  exact Option.some.inj (hv.symm.trans hv')

theorem readAs_ok_iff {reply : Reply} (h : 200 ≤ reply.status ∧ reply.status < 300) :
    ReadAs decode (.ok reply) v ↔ reply.body.text.toOption.bind decode = some v := by
  rw [Option.bind_eq_some_iff]
  exact exists_congr fun text => and_congr_left fun _ => comes_ok_iff h

end

/-! ## Logs -/

/-- Every exchange of a log has a property, given the exchanges before it. -/
def AtEach (P : List Exchange → Exchange → Prop) (log : List Exchange) : Prop :=
  ∀ before x after, log = before ++ x :: after → P before x

section

variable {P : List Exchange → Exchange → Prop} {log log' : List Exchange}

@[simp] theorem atEach_nil : AtEach P [] := by
  intro before x after h
  exact absurd h.symm (List.append_ne_nil_of_right_ne_nil _ (List.cons_ne_nil x after))

theorem atEach_cons {x : Exchange} :
    AtEach P (x :: log) ↔ P [] x ∧ AtEach (fun before => P (x :: before)) log := by
  refine ⟨fun h => ⟨h [] x log rfl, fun before y after heq => ?_⟩, fun ⟨hx, hlog⟩ => ?_⟩
  · exact h (x :: before) y after (by rw [heq, List.cons_append])
  · intro before y after heq
    obtain ⟨rfl, hrest⟩ | ⟨before', rfl, hrest⟩ := List.cons_eq_append_iff.1 heq
    · obtain ⟨rfl, -⟩ := List.cons.inj hrest
      exact hx
    · exact hlog before' y after hrest

theorem atEach_append :
    AtEach P (log ++ log') ↔ AtEach P log ∧ AtEach (fun before => P (log ++ before)) log' := by
  induction log generalizing P with
  | nil => simp
  | cons x rest ih => rw [List.cons_append, atEach_cons, ih, atEach_cons, and_assoc]; rfl

theorem atEach_of_forall_mem (h : ∀ x ∈ log, ∀ before, P before x) : AtEach P log := by
  rintro before x after rfl
  exact h x (List.mem_append_right before List.mem_cons_self) before

end

/-! ## Dialogs -/

namespace Dialog

variable {α β ω : Type} {d : Dialog α} {f : α → Dialog β} {log : List Exchange}

/-- The log and the outcome of a dialog that gets some answers, whatever they are. -/
inductive Course : Dialog α → List Exchange → α → Prop
  | done (a : α) : Course (done a) [] a
  | ask {request : Outgoing} {next : Except TransportError Reply → Dialog α}
      {log : List Exchange} {a : α} (answer : Except TransportError Reply)
      (h : Course (next answer) log a) : Course (ask request next) (⟨request, answer⟩ :: log) a

theorem Course.of_bind {b : β} (h : (d.bind f).Course log b) :
    ∃ before a after, log = before ++ after ∧ d.Course before a ∧ (f a).Course after b := by
  induction d generalizing log with
  | done a => exact ⟨[], a, log, rfl, .done a, h⟩
  | ask request next ih =>
    cases h with
    | ask answer hnext =>
      obtain ⟨before, a, after, rfl, hbefore, hafter⟩ := ih answer hnext
      exact ⟨⟨request, answer⟩ :: before, a, after, rfl, .ask answer hbefore, hafter⟩

/-- What a server is sent in a dialog, with its answers. -/
def exchanges (serve : Serving ω) : Dialog α → ω → List Exchange
  | done _, _ => []
  | ask request next, w =>
    ⟨request, (serve w request).1⟩ ::
      exchanges serve (next (serve w request).1) (serve w request).2

/-- The first answer is that of the server in the state it began in. -/
theorem answer_of_exchanges_eq_cons {serve : Serving ω} {d : Dialog α} {w : ω} {x : Exchange}
    {rest : List Exchange} (h : d.exchanges serve w = x :: rest) :
    x.answer = (serve w x.request).1 := by
  cases d with
  | done a => exact nomatch h
  | ask request next =>
    obtain ⟨rfl, -⟩ := List.cons.inj h
    rfl

/-- Every server leads a dialog through one of its courses. -/
theorem course_exchanges (serve : Serving ω) (d : Dialog α) (w : ω) :
    d.Course (d.exchanges serve w) (d.lead serve w).1 := by
  induction d generalizing w with
  | done a => exact .done a
  | ask request next ih => exact .ask _ (ih _ _)

end Dialog

/-! ## Sessions -/

namespace Session

variable {σ α β ω : Type} {s s' : σ} {log : List Exchange}

/-- The log of a session that begins in one state and ends in another with some result. -/
def Course (x : Session σ α) (s : σ) (log : List Exchange) (result : Except SourceError α)
    (s' : σ) : Prop :=
  (x.run.run s).Course log (result, s')

/-- A session fails with its first part, or comes to the course of the second. -/
theorem Course.of_bind {x : Session σ α} {f : α → Session σ β} {result : Except SourceError β}
    (h : (x >>= f).Course s log result s') :
    (∃ e, result = .error e ∧ x.Course s log (.error e) s') ∨
      ∃ a s₁ before after, log = before ++ after ∧ x.Course s before (.ok a) s₁ ∧
        (f a).Course s₁ after result s' := by
  obtain ⟨before, ⟨first, s₁⟩, after, rfl, hx, hf⟩ := Dialog.Course.of_bind h
  cases first with
  | error e =>
    cases hf
    exact .inl ⟨e, rfl, by rwa [List.append_nil]⟩
  | ok a => exact .inr ⟨a, s₁, before, after, rfl, hx, hf⟩

/-- A session that succeeds comes through both of its parts. -/
theorem Course.of_bind_ok {x : Session σ α} {f : α → Session σ β} {b : β}
    (h : (x >>= f).Course s log (.ok b) s') :
    ∃ a s₁ before after, log = before ++ after ∧ x.Course s before (.ok a) s₁ ∧
      (f a).Course s₁ after (.ok b) s' := by
  obtain ⟨e, herror, -⟩ | hboth := h.of_bind
  · cases herror
  · exact hboth

section

variable {result : Except SourceError α}

theorem Course.of_pure {a : α} (h : (pure a : Session σ α).Course s log result s') :
    log = [] ∧ result = .ok a ∧ s' = s := by
  cases h
  exact ⟨rfl, rfl, rfl⟩

theorem Course.of_pure_bind {a : α} {f : α → Session σ β} {result : Except SourceError β}
    (h : (pure a >>= f).Course s log result s') : (f a).Course s log result s' := h

theorem Course.of_throw {e : SourceError} (h : (throw e : Session σ α).Course s log result s') :
    log = [] ∧ result = .error e ∧ s' = s := by
  cases h
  exact ⟨rfl, rfl, rfl⟩

theorem Course.of_get {result : Except SourceError σ}
    (h : (get : Session σ σ).Course s log result s') : log = [] ∧ result = .ok s ∧ s' = s := by
  cases h
  exact ⟨rfl, rfl, rfl⟩

theorem Course.of_set {t : σ} {result : Except SourceError PUnit}
    (h : (set t : Session σ PUnit).Course s log result s') :
    log = [] ∧ result = .ok ⟨⟩ ∧ s' = t := by
  cases h
  exact ⟨rfl, rfl, rfl⟩

theorem Course.of_modify {f : σ → σ} {result : Except SourceError PUnit}
    (h : (modify f : Session σ PUnit).Course s log result s') :
    log = [] ∧ result = .ok ⟨⟩ ∧ s' = f s := by
  cases h
  exact ⟨rfl, rfl, rfl⟩

theorem Course.of_get_bind {f : σ → Session σ α} (h : (get >>= f).Course s log result s') :
    (f s).Course s log result s' := h

theorem Course.of_set_bind {t : σ} {f : PUnit → Session σ α}
    (h : (set t >>= f).Course s log result s') : (f ⟨⟩).Course t log result s' := h

theorem Course.of_modify_bind {g : σ → σ} {f : PUnit → Session σ α}
    (h : (modify g >>= f).Course s log result s') : (f ⟨⟩).Course (g s) log result s' := h

/-- A session that throws under a condition ends there, or goes on without it. -/
theorem Course.of_throw_if {c : Prop} [Decidable c] {e : SourceError} {f : β → Session σ α}
    {x : Session σ α}
    (h : (if c then throw e >>= f else x : Session σ α).Course s log result s') :
    (c ∧ log = [] ∧ result = .error e ∧ s' = s) ∨ (¬c ∧ x.Course s log result s') := by
  split at h
  · rename_i hc
    obtain ⟨e', rfl, hthrow⟩ | ⟨_, _, _, _, -, hthrow, -⟩ := h.of_bind
    · obtain ⟨rfl, he, rfl⟩ := hthrow.of_throw
      exact .inl ⟨hc, rfl, congrArg _ (Except.error.inj he), rfl⟩
    · exact nomatch hthrow.of_throw.2.1
  · rename_i hc
    exact .inr ⟨hc, h⟩

/-- A session that begins with another one under a condition fails with it, or goes on after it. -/
theorem Course.of_first_if {c : Prop} [Decidable c] {x : Session σ PUnit}
    {f : PUnit → Session σ α}
    (h : (if c then x >>= f else f ⟨⟩ : Session σ α).Course s log result s') :
    (∃ e, c ∧ result = .error e ∧ x.Course s log (.error e) s') ∨
      ∃ s₁ before after, log = before ++ after ∧
        ((c ∧ x.Course s before (.ok ⟨⟩) s₁) ∨ (¬c ∧ before = [] ∧ s₁ = s)) ∧
          (f ⟨⟩).Course s₁ after result s' := by
  split at h
  · rename_i hc
    obtain ⟨e, rfl, hfails⟩ | ⟨⟨⟩, s₁, before, after, rfl, hx, hafter⟩ := h.of_bind
    · exact .inl ⟨e, hc, rfl, hfails⟩
    · exact .inr ⟨s₁, before, after, rfl, .inl ⟨hc, hx⟩, hafter⟩
  · rename_i hc
    exact .inr ⟨s, [], log, rfl, .inr ⟨hc, rfl, rfl⟩, h⟩

/-- The outcome of a session is taken of one of its courses, and does not fail. -/
theorem Course.of_outcome {x : Session σ α} {result : Except SourceError (Except SourceError α)}
    (h : x.outcome.Course s log result s') : ∃ r, result = .ok r ∧ x.Course s log r s' := by
  obtain ⟨before, ⟨r, s₁⟩, after, rfl, hx, hdone⟩ := Dialog.Course.of_bind h
  cases hdone
  exact ⟨r, rfl, by rwa [List.append_nil]⟩

/-- A request that is not answered ends a session; otherwise the session goes on with the answer. -/
theorem Course.of_send_bind {request : Outgoing} {f : Reply → Session σ α}
    (h : (send request >>= f).Course s log result s') :
    (∃ e, log = [⟨request, .error e⟩] ∧ result = .error e.failure ∧ s' = s) ∨
      ∃ reply rest, log = ⟨request, .ok reply⟩ :: rest ∧ (f reply).Course s rest result s' := by
  cases h with
  | ask answer hrest =>
    cases answer with
    | error e =>
      cases hrest
      exact .inl ⟨e, rfl, rfl, rfl⟩
    | ok reply => exact .inr ⟨reply, _, rfl, hrest⟩

end

/-- What a server is sent in the course of sessions that are led one after the other, with its
answers. -/
def exchangesInTurn (serve : Serving ω) : List (Session σ Unit) → σ → ω → List Exchange
  | [], _, _ => []
  | x :: rest, s, w =>
    Dialog.exchanges serve (x.run.run s) w ++
      exchangesInTurn serve rest (x.lead serve s w).2.1 (x.lead serve s w).2.2

/-- Every server leads a session through one of its courses. -/
theorem course_lead (serve : Serving ω) (x : Session σ α) (s : σ) (w : ω) :
    x.Course s (Dialog.exchanges serve (x.run.run s) w) (x.lead serve s w).1
      (x.lead serve s w).2.1 :=
  Dialog.course_exchanges serve (x.run.run s) w

/-! ## What every part of a session keeps -/

/-- A relation of a log with the states before and after it that carries over to logs which follow
each other. -/
structure Chains (R : σ → List Exchange → σ → Prop) : Prop where
  nil (s : σ) : R s [] s
  append {s s₁ s' : σ} {log log' : List Exchange} (h : R s log s₁) (h' : R s₁ log' s') :
    R s (log ++ log') s'

/-- Whatever it is answered, a session relates its log with the states before and after it. -/
def Relates (R : σ → List Exchange → σ → Prop) (x : Session σ α) : Prop :=
  ∀ s log result s', x.Course s log result s' → R s log s'

section

variable {R : σ → List Exchange → σ → Prop} (hR : Chains R)
include hR

theorem relates_pure (a : α) : Relates R (pure a : Session σ α) := by
  intro s log result s' h
  obtain ⟨rfl, -, rfl⟩ := h.of_pure
  exact hR.nil s'

theorem relates_throw (e : SourceError) : Relates R (throw e : Session σ α) := by
  intro s log result s' h
  obtain ⟨rfl, -, rfl⟩ := h.of_throw
  exact hR.nil s'

theorem relates_get : Relates R (get : Session σ σ) := by
  intro s log result s' h
  obtain ⟨rfl, -, rfl⟩ := h.of_get
  exact hR.nil s'

theorem relates_bind {x : Session σ α} {f : α → Session σ β} (hx : Relates R x)
    (hf : ∀ a, Relates R (f a)) : Relates R (x >>= f) := by
  intro s log result s' h
  obtain ⟨e, -, hfails⟩ | ⟨a, s₁, before, after, rfl, hbefore, hafter⟩ := h.of_bind
  · exact hx _ _ _ _ hfails
  · exact hR.append (hx _ _ _ _ hbefore) (hf a _ _ _ _ hafter)

omit hR in
theorem relates_ite {c : Prop} [Decidable c] {x y : Session σ α} (hx : Relates R x)
    (hy : Relates R y) : Relates R (if c then x else y) := by
  split
  · exact hx
  · exact hy

/-- What every session relates, sessions relate that are led one after the other. -/
theorem relates_leadEach (serve : Serving ω) {sessions : List (Session σ Unit)}
    (h : ∀ x ∈ sessions, Relates R x) (s : σ) (w : ω) :
    R s (exchangesInTurn serve sessions s w) (leadEach serve sessions s w).1 := by
  induction sessions generalizing s w with
  | nil => exact hR.nil s
  | cons x rest ih =>
    obtain ⟨hx, hrest⟩ := List.forall_mem_cons.1 h
    exact hR.append (hx _ _ _ _ (course_lead serve x s w)) (ih hrest _ _)

end

end Session

end SeedCleanup
