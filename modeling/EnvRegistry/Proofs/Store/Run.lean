import EnvRegistry.Store.Basic

/-! # Running operations

    A step that gives a result goes on with it.  An operation on a store takes a
    state to a result and a state; its lemmas say what `pure`, `throw` and `>>=`
    come to when they are run, in both directions: from the runs of the parts to
    the run of the whole, and back.  They hold of operations on anything else, too,
    with errors of any kind.

    `Maintains` is for what is true wherever an operation stops, and `Emulated` for
    an operation that does what another one does whenever that one succeeds. -/

namespace EnvRegistry

/-! ## Section 1: Results -/

theorem ok_bind {ε α β : Type} (a : α) (k : α → Except ε β) : (Except.ok a >>= k) = k a := rfl

theorem ok_mapError {ε ε' α : Type} (f : ε → ε') (a : α) :
    (Except.ok a : Except ε α).mapError f = .ok a := rfl

/-! ## Section 2: Operations on a store -/

namespace StoreM

variable {ε σ α β : Type}

@[simp] theorem pure_apply (a : α) (s : σ) : (pure a : ExceptT ε (StateM σ) α) s = (.ok a, s) := rfl

@[simp] theorem throw_apply (e : ε) (s : σ) :
    (throw e : ExceptT ε (StateM σ) α) s = (.error e, s) := rfl

@[simp] theorem get_apply (s : σ) : (get : ExceptT ε (StateM σ) σ) s = (.ok s, s) := rfl

variable {m : ExceptT ε (StateM σ) α} {k : α → ExceptT ε (StateM σ) β} {s s' : σ}

theorem bind_apply (m : ExceptT ε (StateM σ) α) (k : α → ExceptT ε (StateM σ) β) (s : σ) :
    (m >>= k) s = match m s with
      | (.ok a, s') => k a s'
      | (.error e, s') => (.error e, s') := by
  show ExceptT.bindCont k (m s).1 (m s).2 = _
  rcases m s with ⟨_ | _, _⟩
  · rfl
  · rfl

theorem bind_ok {a : α} (h : m s = (.ok a, s')) : (m >>= k) s = k a s' := by
  rw [bind_apply, h]

theorem bind_error {e : ε} (h : m s = (.error e, s')) : (m >>= k) s = (.error e, s') := by
  rw [bind_apply, h]

theorem bind_eq_ok {b : β} :
    (m >>= k) s = (.ok b, s') ↔ ∃ a s₁, m s = (.ok a, s₁) ∧ k a s₁ = (.ok b, s') := by
  rw [bind_apply]
  constructor
  · intro h
    rcases hm : m s with ⟨_ | a, s₁⟩
    · rw [hm] at h
      cases h
    · rw [hm] at h
      exact ⟨a, s₁, rfl, h⟩
  · rintro ⟨a, s₁, hm, hk⟩
    rw [hm]
    exact hk

end StoreM

/-! ## Section 3: Invariants -/

/-- Begun where `P` holds, the operation ends where `P` holds, whatever it comes to, and its errors
satisfy `Q`. -/
def Maintains {ε σ α : Type} (P : σ → Prop) (Q : ε → Prop) (m : ExceptT ε (StateM σ) α) : Prop :=
  ∀ s, P s → P (m s).2 ∧ ∀ e, (m s).1 = .error e → Q e

namespace Maintains

variable {ε σ α β : Type} {P : σ → Prop} {Q : ε → Prop}

theorem pure (a : α) : Maintains P Q (pure a : ExceptT ε (StateM σ) α) := fun _ hs => ⟨hs, nofun⟩

theorem bind {m : ExceptT ε (StateM σ) α} {k : α → ExceptT ε (StateM σ) β} (hm : Maintains P Q m)
    (hk : ∀ a, Maintains P Q (k a)) : Maintains P Q (m >>= k) := by
  intro s hs
  obtain ⟨hP, hQ⟩ := hm s hs
  rw [StoreM.bind_apply]
  rcases hrun : m s with ⟨e | a, s'⟩
  · rw [hrun] at hP hQ
    refine ⟨hP, fun e' h => ?_⟩
    cases h
    exact hQ e rfl
  · rw [hrun] at hP
    exact hk a s' hP

theorem ite {c : Prop} [Decidable c] {m m' : ExceptT ε (StateM σ) α} (h : Maintains P Q m)
    (h' : Maintains P Q m') : Maintains P Q (if c then m else m') := by
  split
  · exact h
  · exact h'

end Maintains

/-! ## Section 4: Operations that do what others do -/

/-- Begun where `P` holds, whatever `m` succeeds in doing `m'` does too, and it leaves `P` true. -/
def Emulated {ε σ α : Type} (P : σ → Prop) (m m' : ExceptT ε (StateM σ) α) : Prop :=
  ∀ s a s', P s → m s = (.ok a, s') → m' s = (.ok a, s') ∧ P s'

namespace Emulated

variable {ε σ α β : Type} {P : σ → Prop} {Q : ε → Prop} {m m' m'' : ExceptT ε (StateM σ) α}

theorem of_maintains (h : Maintains P Q m) : Emulated P m m := by
  intro s a s' hs hm
  have hP := (h s hs).1
  rw [hm] at hP
  exact ⟨hm, hP⟩

theorem pure (a : α) : Emulated P (pure a : ExceptT ε (StateM σ) α) (pure a) := by
  intro s b s' hs hm
  cases hm
  exact ⟨rfl, hs⟩

theorem trans (h : Emulated P m m') (h' : Emulated P m' m'') : Emulated P m m'' := by
  intro s a s' hs hm
  exact h' s a s' hs (h s a s' hs hm).1

theorem bind {k k' : α → ExceptT ε (StateM σ) β} (h : Emulated P m m')
    (hk : ∀ a, Emulated P (k a) (k' a)) : Emulated P (m >>= k) (m' >>= k') := by
  intro s b s' hs hrun
  obtain ⟨a, s₁, hm, hrest⟩ := StoreM.bind_eq_ok.mp hrun
  obtain ⟨hm', hs₁⟩ := h s a s₁ hs hm
  rw [StoreM.bind_ok hm']
  exact hk a s₁ b s' hs₁ hrest

theorem ite {c : Prop} [Decidable c] {n n' : ExceptT ε (StateM σ) α} (h : Emulated P m m')
    (h' : Emulated P n n') : Emulated P (if c then m else n) (if c then m' else n') := by
  split
  · exact h
  · exact h'

end Emulated

end EnvRegistry
