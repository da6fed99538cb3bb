/-!
# Steps that may fail

A row of steps comes through exactly if each of them does, with what the one before has given (`bind_eq_ok_iff`); it
fails with the first step that does (`bind_eq_error_iff`, `foldlM_eq_error_iff`). The steps here are those of `Except`;
the reader of YAML documents counts what it has visited beside them (`run_bind_eq_ok_iff`).
-/

namespace RuleCap

variable {ε ε' σ α β : Type}

theorem bind_eq_ok_iff {x : Except ε α} {f : α → Except ε β} {b : β} :
    (x >>= f) = .ok b ↔ ∃ a, x = .ok a ∧ f a = .ok b := by
  cases x <;> simp [bind, Except.bind]

theorem bind_eq_error_iff {x : Except ε α} {f : α → Except ε β} {e : ε} :
    (x >>= f) = .error e ↔ x = .error e ∨ ∃ a, x = .ok a ∧ f a = .error e := by
  cases x <;> simp [bind, Except.bind]

theorem mapError_eq_ok_iff {x : Except ε α} {f : ε → ε'} {a : α} : x.mapError f = .ok a ↔ x = .ok a := by
  cases x with
  | error e => exact ⟨nofun, nofun⟩
  | ok a' => constructor <;> rintro ⟨⟩ <;> rfl

/-- Steps that count as well. -/
theorem run_bind_eq_ok_iff {x : StateT σ (Except ε) α} {f : α → StateT σ (Except ε) β} {s s' : σ} {b : β} :
    (x >>= f).run s = .ok (b, s') ↔ ∃ a s₁, x.run s = .ok (a, s₁) ∧ (f a).run s₁ = .ok (b, s') := by
  rw [StateT.run_bind, bind_eq_ok_iff]
  exact Prod.exists

/-- **A row of steps that fails** has come through up to the step that fails. -/
theorem foldlM_eq_error_iff {f : β → α → Except ε β} {as : List α} {b : β} {e : ε} :
    as.foldlM f b = .error e ↔
      ∃ before a after b', as = before ++ a :: after ∧ before.foldlM f b = .ok b' ∧ f b' a = .error e := by
  constructor
  · intro h
    induction as generalizing b with
    | nil => cases h
    | cons a as ih =>
      rw [List.foldlM_cons, bind_eq_error_iff] at h
      obtain h | ⟨next, hnext, h⟩ := h
      · exact ⟨[], a, as, b, rfl, rfl, h⟩
      · obtain ⟨before, a', after, b', rfl, hbefore, hfail⟩ := ih h
        refine ⟨a :: before, a', after, b', rfl, ?_, hfail⟩
        rw [List.foldlM_cons, hnext]
        exact hbefore
  · rintro ⟨before, a, after, b', rfl, hbefore, hfail⟩
    rw [List.foldlM_append, hbefore]
    show (a :: after).foldlM f b' = .error e
    rw [List.foldlM_cons, hfail]
    rfl

/-- **A row of steps that comes through** does so with any steps that go at least as far. -/
theorem foldlM_eq_ok_of_imp {f g : β → α → Except ε β} (hstep : ∀ b a b', f b a = .ok b' → g b a = .ok b')
    {as : List α} {b b' : β} (h : as.foldlM f b = .ok b') : as.foldlM g b = .ok b' := by
  induction as generalizing b with
  | nil => exact h
  | cons a as ih =>
    rw [List.foldlM_cons, bind_eq_ok_iff] at h ⊢
    obtain ⟨next, hnext, h⟩ := h
    exact ⟨next, hstep b a next hnext, ih h⟩

end RuleCap
