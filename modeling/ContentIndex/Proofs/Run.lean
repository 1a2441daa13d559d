/-!
# Running computations that may fail

A computation on a state gives a result or an error, and a state either way. Applied to a state, a
sequence of steps goes on in the state that the first one left, unless that one failed.
-/

namespace ContentIndex

set_option autoImplicit false

variable {σ ε α β : Type}

theorem run_bind (a : ExceptT ε (StateM σ) α) (f : α → ExceptT ε (StateM σ) β) (s : σ) :
    (a >>= f) s =
      match a s with
      | (.ok v, t) => f v t
      | (.error e, t) => (.error e, t) := by
  simp only [bind, ExceptT.bind, ExceptT.mk, StateT.bind, ExceptT.bindCont]
  cases a s with
  | mk r t => cases r <;> rfl

theorem run_pure (v : α) (s : σ) : (pure v : ExceptT ε (StateM σ) α) s = (.ok v, s) := rfl

theorem run_throw (e : ε) (s : σ) : (throw e : ExceptT ε (StateM σ) α) s = (.error e, s) := rfl

theorem run_get (s : σ) : (get : ExceptT ε (StateM σ) σ) s = (.ok s, s) := rfl

theorem run_set (s t : σ) : (set t : ExceptT ε (StateM σ) PUnit) s = (.ok ⟨⟩, t) := rfl

theorem run_modify (f : σ → σ) (s : σ) :
    (modify f : ExceptT ε (StateM σ) PUnit) s = (.ok ⟨⟩, f s) := rfl

/-- A sequence of two steps fails in the first one, or ends as the second one does. -/
theorem run_bind_cases {a : ExceptT ε (StateM σ) α} {f : α → ExceptT ε (StateM σ) β} {s u : σ}
    {r : Except ε β} (h : (a >>= f) s = (r, u)) :
    (∃ e, a s = (.error e, u) ∧ r = .error e) ∨ ∃ v t, a s = (.ok v, t) ∧ f v t = (r, u) := by
  rw [run_bind] at h
  cases ha : a s with
  | mk q t =>
    rw [ha] at h
    cases q with
    | error e =>
      cases h
      exact .inl ⟨e, rfl, rfl⟩
    | ok v => exact .inr ⟨v, t, rfl, h⟩

/-- A part of the state is the same afterwards, also after a failure. -/
def Preserves {γ : Type} (part : σ → γ) (a : ExceptT ε (StateM σ) α) : Prop :=
  ∀ s, part (a s).2 = part s

namespace Preserves

variable {γ : Type} {part : σ → γ}

theorem bind {a : ExceptT ε (StateM σ) α} {f : α → ExceptT ε (StateM σ) β}
    (ha : Preserves part a) (hf : ∀ v, Preserves part (f v)) : Preserves part (a >>= f) := by
  intro s
  have hs := ha s
  rw [run_bind]
  cases h : a s with
  | mk r t =>
    rw [h] at hs
    cases r with
    | ok v => exact (hf v t).trans hs
    | error e => exact hs

theorem pure (v : α) : Preserves part (pure v : ExceptT ε (StateM σ) α) :=
  fun _ => rfl

theorem throw (e : ε) : Preserves part (throw e : ExceptT ε (StateM σ) α) :=
  fun _ => rfl

theorem get : Preserves part (get : ExceptT ε (StateM σ) σ) :=
  fun _ => rfl

theorem modify {f : σ → σ} (h : ∀ s, part (f s) = part s) :
    Preserves part (modify f : ExceptT ε (StateM σ) PUnit) :=
  h

end Preserves

end ContentIndex
