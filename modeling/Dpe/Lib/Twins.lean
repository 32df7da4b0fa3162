import Dpe.Lib.Prog

/-! # Two runs — a relational judgement on programs

    Two programs are run from two states that are alike.  They are twins
    when both return alike values, or both fail with the same error, and
    end in states that are alike again.  A run counts only if it ends in
    a fair state; as every program must have started fair if it ends
    fair, fairness of the end is all that a pair of runs has to be given.
    Likeness is reflexive, so a program that is its own twin may stand on
    either side. -/

namespace Prog

universe u

variable {ε σ α β : Type u}

/-- The state a run ends in, whether it returned or failed. -/
def final : EStateM.Result ε σ α → σ
  | .ok _ s => s
  | .error _ s => s

/-- What two runs are compared by. -/
structure Likeness (σ : Type u) where
  Alike : σ → σ → Prop
  refl : ∀ s, Alike s s
  Fair : σ → Prop

/-- Both runs returned, or both failed with one error. -/
def Agree (L : Likeness σ) (Q : α → α → Prop) :
    EStateM.Result ε σ α → EStateM.Result ε σ α → Prop
  | .ok a s, .ok a' s' => Q a a' ∧ L.Alike s s'
  | .error e s, .error e' s' => e = e' ∧ L.Alike s s'
  | _, _ => False

theorem Agree.mono {L L' : Likeness σ} {Q : α → α → Prop}
    {r r' : EStateM.Result ε σ α} (h : Agree L' Q r r')
    (hL : ∀ s s', L'.Alike s s' → L.Alike s s') : Agree L Q r r' := by
  cases r with
  | ok a s =>
      cases r' with
      | ok a' s' => exact ⟨h.1, hL s s' h.2⟩
      | error e' s' => exact h.elim
  | error e s =>
      cases r' with
      | ok a' s' => exact h.elim
      | error e' s' => exact ⟨h.1, hL s s' h.2⟩

/-- `m` and `m'` cannot be told apart by their results. -/
structure Twins (L : Likeness σ) (Q : α → α → Prop) (m m' : EStateM ε σ α) :
    Prop where
  /-- a run that ends fair has started fair -/
  back : ∀ s, L.Fair (final (m s)) → L.Fair s
  agree : ∀ s s', L.Alike s s' → L.Fair (final (m s)) → Agree L Q (m s) (m' s')

namespace Twins

variable {L : Likeness σ} {Q : α → α → Prop} {P : β → β → Prop}
  {m m' : EStateM ε σ α} {f f' : α → EStateM ε σ β}

theorem pure {a a' : α} (h : Q a a') :
    Twins L Q (pure a : EStateM ε σ α) (pure a') where
  back _ hfair := hfair
  agree _ _ halike _ := ⟨h, halike⟩

theorem throw (e : ε) : Twins L Q (throw e : EStateM ε σ α) (throw e) where
  back _ hfair := hfair
  agree _ _ halike _ := ⟨rfl, halike⟩

/-- Sequencing: what the first halves return is alike, and so are the
    states they leave behind; the second halves may count on what a fair
    state says about the value. -/
theorem bind_fair {X : α → Prop} (hm : Twins L Q m m')
    (hX : ∀ s a t, m s = .ok a t → L.Fair t → X a)
    (hback : ∀ a s, L.Fair (final (f a s)) → L.Fair s)
    (hf : ∀ a a', X a → Q a a' → Twins L P (f a) (f' a')) :
    Twins L P (m >>= f) (m' >>= f') := by
  have hmid : ∀ s, L.Fair (final (EStateM.bind m f s)) → L.Fair (final (m s)) := by
    intro s hfair
    unfold EStateM.bind at hfair
    cases hr : m s with
    | ok a t =>
        rw [hr] at hfair
        exact hback a t hfair
    | error e t =>
        rw [hr] at hfair
        exact hfair
  show Twins L P (EStateM.bind m f) (EStateM.bind m' f')
  refine ⟨fun s hfair => hm.back s (hmid s hfair), fun s s' halike hfair => ?_⟩
  have hfirst := hm.agree s s' halike (hmid s hfair)
  unfold EStateM.bind at hfair ⊢
  cases hr : m s with
  | ok a t =>
      rw [hr] at hfirst hfair
      cases hr' : m' s' with
      | ok a' t' =>
          rw [hr'] at hfirst
          have hx := hX s a t hr (hback a t hfair)
          exact (hf a a' hx hfirst.1).agree t t' hfirst.2 hfair
      | error e' t' =>
          rw [hr'] at hfirst
          exact hfirst.elim
  | error e t =>
      rw [hr] at hfirst
      cases hr' : m' s' with
      | ok a' t' =>
          rw [hr'] at hfirst
          exact hfirst.elim
      | error e' t' =>
          rw [hr'] at hfirst
          exact hfirst

theorem bind (hrefl : ∀ a, Q a a) (hm : Twins L Q m m')
    (hf : ∀ a a', Q a a' → Twins L P (f a) (f' a')) :
    Twins L P (m >>= f) (m' >>= f') :=
  bind_fair (X := fun _ => True) hm (fun _ _ _ _ _ => trivial)
    (fun a => (hf a a (hrefl a)).back) fun a a' _ => hf a a'

/-- Sequencing when the first halves return the same. -/
theorem seq (hm : Twins L Eq m m') (hf : ∀ a, Twins L P (f a) (f' a)) :
    Twins L P (m >>= f) (m' >>= f') := by
  refine bind (fun _ => rfl) hm ?_
  rintro a _ rfl
  exact hf a

/-- Reading the state in front of two programs. -/
theorem get_bind {f f' : σ → EStateM ε σ β}
    (h : ∀ s s', L.Alike s s' → Twins L P (f s) (f' s')) :
    Twins L P (MonadState.get >>= f) (MonadState.get >>= f') where
  back s hfair := (h s s (L.refl s)).back s hfair
  agree s s' halike hfair := (h s s' halike).agree s s' halike hfair

theorem modify {g g' : σ → σ} {Q : PUnit → PUnit → Prop} (hQ : Q ⟨⟩ ⟨⟩)
    (hback : ∀ s, L.Fair (g s) → L.Fair s)
    (h : ∀ s s', L.Alike s s' → L.Alike (g s) (g' s')) :
    Twins L Q (modify g : EStateM ε σ PUnit) (modify g') where
  back := hback
  agree s s' halike _ := ⟨hQ, h s s' halike⟩

theorem ite {c c' : Prop} [Decidable c] [Decidable c'] {n n' : EStateM ε σ α}
    (hc : c' ↔ c) (ht : Twins L Q m m') (hf : Twins L Q n n') :
    Twins L Q (if c then m else n) (if c' then m' else n') := by
  by_cases h : c
  · rw [if_pos h, if_pos (hc.mpr h)]
    exact ht
  · rw [if_neg h, if_neg (mt hc.mp h)]
    exact hf

theorem rejectIf {c c' : Bool} (hc : c' = c) (e : ε) :
    Twins L Eq (rejectIf c e : EStateM ε σ PUnit) (Prog.rejectIf c' e) := by
  rw [hc]
  cases c with
  | true => exact throw e
  | false => exact pure rfl

end Twins

/-- Two fallible results: both are values, and alike, or both are one
    error. -/
def Matched (Q : α → α → Prop) : Except ε α → Except ε α → Prop
  | .ok a, .ok a' => Q a a'
  | .error e, .error e' => e = e'
  | _, _ => False

theorem Matched.of_eq {Q : α → α → Prop} (hrefl : ∀ a, Q a a) {r r' : Except ε α}
    (h : r' = r) : Matched Q r r' := by
  rw [h]
  cases r with
  | ok a => exact hrefl a
  | error e => rfl

theorem Twins.orThrow {L : Likeness σ} {Q : α → α → Prop} {r r' : Except ε α}
    (h : Matched Q r r') :
    Twins L Q (Prog.orThrow r : EStateM ε σ α) (Prog.orThrow r') := by
  cases r with
  | ok a =>
      cases r' with
      | ok a' => exact .pure h
      | error e' => exact h.elim
  | error e =>
      cases r' with
      | ok a' => exact h.elim
      | error e' =>
          have heq : e = e' := h
          rw [heq]
          exact .throw e'

end Prog
