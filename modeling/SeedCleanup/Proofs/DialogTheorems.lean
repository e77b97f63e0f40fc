import Mathlib.Data.List.DropRight
import SeedCleanup.Net.Dialog

/-!
# What dialogs send

A dialog sends requests with a property if all its requests have it, whatever the answers are
(`Dialog.Asks`). The requests of a session are those of its parts, so that the property is shown by
going through the session (`Session.asks_bind`). What a server keeps with each such request it keeps
in the course of many sessions (`Session.leadEach_keeps`), and so it is sent nothing else
(`Session.of_mem_sentInTurn`).
-/

namespace SeedCleanup

/-- How a server with some state answers requests. Whatever goes on in one sending, such as
following redirects, is part of how it answers. -/
abbrev Serving (ω : Type) : Type := ω → Outgoing → Except TransportError Reply × ω

/-- The address of what is below an address, whose slashes at the end do not count. -/
def addressBelow (address path : String) : String :=
  String.ofList (address.toList.rdropWhile (· == '/')) ++ path

namespace Dialog

variable {α β ω : Type} {P Q : Outgoing → Prop}

/-- Whatever it is answered, a dialog sends only requests with a property. -/
def Asks (P : Outgoing → Prop) : Dialog α → Prop
  | done _ => True
  | ask request next => P request ∧ ∀ reply, (next reply).Asks P

theorem asks_bind {d : Dialog α} {f : α → Dialog β} (hd : d.Asks P) (hf : ∀ a, (f a).Asks P) :
    (d.bind f).Asks P := by
  induction d with
  | done a => exact hf a
  | ask request next ih =>
    obtain ⟨hrequest, hnext⟩ := hd
    exact ⟨hrequest, fun reply => ih reply (hnext reply)⟩

theorem lead_bind (serve : Serving ω) (d : Dialog α) (f : α → Dialog β) (w : ω) :
    (d.bind f).lead serve w = (f (d.lead serve w).1).lead serve (d.lead serve w).2 := by
  induction d generalizing w with
  | done a => rfl
  | ask request next ih => exact ih _ _

/-- What a server keeps with each request that may be sent, it keeps with the whole dialog. -/
theorem Asks.keeps {serve : Serving ω} {I : ω → Prop}
    (hserve : ∀ w request, P request → I w → I (serve w request).2) {d : Dialog α} (h : d.Asks P)
    {w : ω} (hw : I w) : I (d.lead serve w).2 := by
  induction d generalizing w with
  | done a => exact hw
  | ask request next ih =>
    obtain ⟨hrequest, hnext⟩ := h
    exact ih _ (hnext _) (hserve w request hrequest hw)

/-- A server that writes down what it is sent. -/
def noting (serve : Serving ω) : Serving (ω × List Outgoing) := fun w request =>
  let (answer, state) := serve w.1 request
  (answer, state, w.2 ++ [request])

end Dialog

namespace Session

variable {σ α β ω : Type} {P : Outgoing → Prop}

/-- Whatever it is answered and in whatever state it begins, a session sends only requests with a
property. -/
def Asks (P : Outgoing → Prop) (x : Session σ α) : Prop := ∀ s, (x.run.run s).Asks P

/-! ## The parts of a session -/

theorem asks_pure (a : α) : Asks P (pure a : Session σ α) := fun _ => trivial

theorem asks_throw (e : SourceError) : Asks P (throw e : Session σ α) := fun _ => trivial

theorem asks_get : Asks P (get : Session σ σ) := fun _ => trivial

theorem asks_modify (f : σ → σ) : Asks P (modify f : Session σ Unit) := fun _ => trivial

theorem asks_set (s : σ) : Asks P (set s : Session σ Unit) := fun _ => trivial

theorem asks_send {request : Outgoing} (h : P request) :
    Asks P (send request : Session σ Reply) := fun _ => ⟨h, fun _ => trivial⟩

theorem asks_bind {x : Session σ α} {f : α → Session σ β} (hx : Asks P x)
    (hf : ∀ a, Asks P (f a)) : Asks P (x >>= f) := by
  intro s
  refine Dialog.asks_bind (hx s) ?_
  rintro ⟨result, s'⟩
  cases result with
  | error e => trivial
  | ok a => exact hf a s'

theorem asks_ite {c : Prop} [Decidable c] {x y : Session σ α} (hx : Asks P x) (hy : Asks P y) :
    Asks P (if c then x else y) := by
  split
  · exact hx
  · exact hy

/-! ## Sessions one after the other -/

/-- To pass over the result of a session changes nothing that the session leaves behind. -/
theorem lead_discarded (serve : Serving ω) (x : Session σ α) (s : σ) (w : ω) :
    ((do let _ ← x : Session σ Unit).lead serve s w).2 = (x.lead serve s w).2 := by
  have hbind : Dialog.lead serve ((do let _ ← x : Session σ Unit).run s) w = _ :=
    Dialog.lead_bind serve (x.run s) _ w
  unfold lead
  rw [hbind]
  rcases hx : Dialog.lead serve (x.run s) w with ⟨⟨_ | _, s'⟩, w'⟩ <;> rfl

/-- Lead sessions one after the other, each in the state that the one before it left. -/
def leadEach (serve : Serving ω) : List (Session σ Unit) → σ → ω → σ × ω
  | [], s, w => (s, w)
  | x :: rest, s, w =>
    let (_, s, w) := x.lead serve s w
    leadEach serve rest s w

/-- What a server is sent in the course of sessions that are led one after the other. -/
def sentInTurn (serve : Serving ω) (sessions : List (Session σ Unit)) (s : σ) (w : ω) :
    List Outgoing :=
  (leadEach (Dialog.noting serve) sessions s (w, [])).2.2

/-- What a server keeps with each request that may be sent, it keeps with all the sessions. -/
theorem leadEach_keeps {serve : Serving ω} {I : ω → Prop}
    (hserve : ∀ w request, P request → I w → I (serve w request).2)
    {sessions : List (Session σ Unit)} (h : ∀ x ∈ sessions, Asks P x) (s : σ) {w : ω} (hw : I w) :
    I (leadEach serve sessions s w).2 := by
  induction sessions generalizing s w with
  | nil => exact hw
  | cons x rest ih =>
    obtain ⟨hx, hrest⟩ := List.forall_mem_cons.1 h
    exact ih hrest _ ((hx s).keeps hserve hw)

/-- A server is sent nothing but what the sessions ask. -/
theorem of_mem_sentInTurn {serve : Serving ω} {sessions : List (Session σ Unit)} {s : σ} {w : ω}
    (h : ∀ x ∈ sessions, Asks P x) {request : Outgoing}
    (hmem : request ∈ sentInTurn serve sessions s w) : P request := by
  have hnoted : ∀ (w : ω × List Outgoing) asked, P asked → (∀ r ∈ w.2, P r) →
      ∀ r ∈ (Dialog.noting serve w asked).2.2, P r := by
    intro w asked hasked hw r hr
    obtain hbefore | hlast := List.mem_append.1 hr
    · exact hw r hbefore
    · rwa [List.mem_singleton.1 hlast]
  have hnothing : ∀ r ∈ ([] : List Outgoing), P r := fun r hr => absurd hr List.not_mem_nil
  exact leadEach_keeps (I := fun w => ∀ r ∈ w.2, P r) hnoted h s (w := (w, [])) hnothing
    request hmem

end Session

end SeedCleanup
