import SeedCleanup.Inventory.Refresh

/-!
# Calls under a limit

What is left behind by waiting for a call (`Call.snd_within`), and how waiting for a call goes
together with waiting for a part of it (`Call.within_on`).
-/

namespace SeedCleanup

namespace Call

variable {σ α : Type} {c : Call σ α} {limit : Option Nat} {stage : String} {s s' : σ}

theorem run_of_within_eq_ok {a : α} (h : c.within limit stage s = (.ok a, s')) :
    c.run s = (.ok a, s') := by
  unfold within at h
  split at h
  · exact nomatch (Prod.mk.inj h).1
  · rcases hrun : c.run s with ⟨e | a', t⟩
    · rw [hrun] at h
      exact nomatch (Prod.mk.inj h).1
    · rw [hrun] at h
      obtain ⟨hanswer, rfl⟩ := Prod.mk.inj h
      rw [Except.ok.inj hanswer]

/-- A call that is not answered with success failed or was abandoned. -/
theorem cases_of_within_eq_error {e : InventoryError}
    (h : c.within limit stage s = (.error e, s')) :
    s' = c.abandon s ∨ ∃ e', c.run s = (.error e', s') := by
  unfold within at h
  split at h
  · exact .inl (Prod.mk.inj h).2.symm
  · rcases hrun : c.run s with ⟨e' | a, t⟩
    · rw [hrun] at h
      obtain ⟨-, rfl⟩ := Prod.mk.inj h
      exact .inr ⟨e', rfl⟩
    · rw [hrun] at h
      exact nomatch (Prod.mk.inj h).1

/-- A call leaves behind the state after its answer, or the one after it was abandoned. -/
theorem snd_within (c : Call σ α) (limit : Option Nat) (stage : String) (s : σ) :
    (c.within limit stage s).2 = c.abandon s ∨ (c.within limit stage s).2 = (c.run s).2 := by
  unfold within
  split
  · exact .inl rfl
  · right
    rcases c.run s with ⟨_ | _, _⟩
    · rfl
    · rfl

/-- A call that takes no time is never abandoned. -/
theorem within_of_millis_eq_zero (h : c.millis s = 0) :
    c.within limit stage s = ((c.run s).1.mapError (.source stage), (c.run s).2) := by
  have hintime : ¬limit.any (· < c.millis s) = true := by
    rw [h]
    cases limit with
    | none => exact Bool.false_ne_true
    | some n => simp
  rw [within, if_neg hintime]
  rcases c.run s with ⟨_ | _, _⟩
  · rfl
  · rfl

theorem within_immediate (run : σ → Except SourceError α × σ) :
    (immediate run).within limit stage s = ((run s).1.mapError (.source stage), (run s).2) :=
  within_of_millis_eq_zero rfl

theorem eq_of_within_immediate {run : σ → Except SourceError α × σ}
    {answer : Except InventoryError α}
    (h : (immediate run).within limit stage s = (answer, s')) : s' = (run s).2 := by
  rw [within_immediate] at h
  exact (Prod.mk.inj h).2.symm

/-- If one call does on a part of a state what another one does, then waiting for either gives one
answer, and `put` says what becomes of the whole, which may depend on whether the call succeeded. -/
theorem within_on {S : Type} {c' : Call S α} {t : S} (put : Bool → σ → S)
    (hmillis : c'.millis t = c.millis s)
    (hrun : c'.run t = ((c.run s).1, put (c.run s).1.isOk (c.run s).2))
    (habandon : c'.abandon t = put false (c.abandon s)) (limit : Option Nat) (stage : String) :
    c'.within limit stage t = ((c.within limit stage s).1,
      put (c.within limit stage s).1.isOk (c.within limit stage s).2) := by
  unfold within
  rw [hmillis, hrun]
  split
  · rw [habandon]
    rfl
  · rcases c.run s with ⟨_ | _, _⟩
    · rfl
    · rfl

end Call

end SeedCleanup
