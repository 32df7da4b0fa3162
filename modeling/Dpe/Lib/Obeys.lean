import Dpe.Lib.Prog
import Mathlib.Order.Defs.Unbundled
import Mathlib.Tactic.Common

/-! # Programs that obey — what a run may do, whatever it starts from

    A program obeys a preorder on its states and a set of errors if every
    run moves its state along the preorder and every error that it raises
    is in the set.  There is a rule for each way of building a program, so
    that both are followed through a program by `simp`. -/

namespace Prog

universe u

variable {ε σ α β : Type u}

/-- Every run moves the state along `R` and fails only with errors of
    `P`. -/
structure Obeys (R : σ → σ → Prop) (P : ε → Prop) (m : EStateM ε σ α) : Prop where
  ok : ∀ s a s', m s = .ok a s' → R s s'
  error : ∀ s e s', m s = .error e s' → R s s' ∧ P e

/-- Every error that the computation ends in satisfies `P`. -/
structure Rejects (P : ε → Prop) (r : Except ε α) : Prop where
  holds : ∀ e, r = .error e → P e

variable {R : σ → σ → Prop} {P Q : ε → Prop} {m m' : EStateM ε σ α}
  {f : α → EStateM ε σ β}

/-! ## Programs -/

/-- The errors may be described in another way. -/
theorem Obeys.mono (h : Obeys R P m)
    (hPQ : ∀ s e s', m s = .error e s' → P e → Q e) : Obeys R Q m := by
  refine ⟨h.ok, fun s e s' herr => ?_⟩
  obtain ⟨hmove, he⟩ := h.error s e s' herr
  exact ⟨hmove, hPQ s e s' herr he⟩

/-- What is said of all runs is said of one. -/
theorem Obeys.post (h : Obeys R P m) (s : σ) :
    Post m s (fun _ s' => R s s') (fun e s' => R s s' ∧ P e) :=
  Post.intro (fun a s' hrun => h.ok s a s' hrun) fun e s' hrun => h.error s e s' hrun

section Preorder

variable [IsPreorder σ R]

@[simp] theorem obeys_pure (a : α) : Obeys R P (pure a : EStateM ε σ α) := by
  refine ⟨fun s a' s' h => ?_, fun s e s' h => nomatch h⟩
  cases h
  exact refl_of R s

@[simp] theorem obeys_get : Obeys R P (get : EStateM ε σ σ) := by
  refine ⟨fun s a' s' h => ?_, fun s e s' h => nomatch h⟩
  cases h
  exact refl_of R s

@[simp] theorem obeys_throw {e : ε} (h : P e) :
    Obeys R P (throw e : EStateM ε σ α) := by
  refine ⟨fun s a s' h => (nomatch h), fun s e' s' herr => ?_⟩
  cases herr
  exact ⟨refl_of R s, h⟩

/-- **ONE AFTER THE OTHER.**  The moves compose, and an error is raised by
    one of the two. -/
@[simp] theorem obeys_bind (hm : Obeys R P m) (hf : ∀ a, Obeys R P (f a)) :
    Obeys R P (m >>= f) := by
  constructor
  · intro s a s' h
    have hbind : EStateM.bind m f s = .ok a s' := h
    unfold EStateM.bind at hbind
    split at hbind
    · rename_i a1 s1 hrun
      exact trans_of R (hm.ok s a1 s1 hrun) ((hf a1).ok s1 a s' hbind)
    · cases hbind
  · intro s e s' h
    have hbind : EStateM.bind m f s = .error e s' := h
    unfold EStateM.bind at hbind
    split at hbind
    · rename_i a1 s1 hrun
      obtain ⟨hmove, he⟩ := (hf a1).error s1 e s' hbind
      exact ⟨trans_of R (hm.ok s a1 s1 hrun) hmove, he⟩
    · rename_i e1 s1 hrun
      cases hbind
      exact hm.error s e s' hrun

end Preorder

@[simp] theorem obeys_modify {g : σ → σ} (h : ∀ s, R s (g s)) :
    Obeys R P (modify g : EStateM ε σ PUnit) := by
  refine ⟨fun s a s' hrun => ?_, fun s e s' hrun => nomatch hrun⟩
  cases hrun
  exact h s

@[simp] theorem obeys_map {g : α → β} (hm : Obeys R P m) :
    Obeys R P (g <$> m) := by
  constructor
  · intro s a s' h
    have hmap : EStateM.map g m s = .ok a s' := h
    unfold EStateM.map at hmap
    split at hmap
    · rename_i a1 s1 hrun
      cases hmap
      exact hm.ok s a1 s' hrun
    · cases hmap
  · intro s e s' h
    have hmap : EStateM.map g m s = .error e s' := h
    unfold EStateM.map at hmap
    split at hmap
    · cases hmap
    · rename_i e1 s1 hrun
      cases hmap
      exact hm.error s e s' hrun

@[simp] theorem obeys_ite {c : Prop} [Decidable c] (ht : Obeys R P m)
    (hf : Obeys R P m') : Obeys R P (if c then m else m') := by
  split
  · exact ht
  · exact hf

@[simp] theorem obeys_dite {c : Prop} [Decidable c] {m : c → EStateM ε σ α}
    {m' : ¬c → EStateM ε σ α} (ht : ∀ h, Obeys R P (m h))
    (hf : ∀ h, Obeys R P (m' h)) :
    Obeys R P (if h : c then m h else m' h) := by
  split
  · exact ht _
  · exact hf _

/-! ## Pure computations -/

@[simp] theorem rejects_ok (a : α) : Rejects P (.ok a : Except ε α) :=
  ⟨fun _ h => nomatch h⟩

@[simp] theorem rejects_pure (a : α) : Rejects P (pure a : Except ε α) :=
  ⟨fun _ h => nomatch h⟩

@[simp] theorem rejects_error {e : ε} (h : P e) : Rejects P (.error e : Except ε α) :=
  ⟨fun _ he => by cases he; exact h⟩

@[simp] theorem rejects_bind {r : Except ε α} {g : α → Except ε β}
    (hr : Rejects P r) (hg : ∀ a, Rejects P (g a)) : Rejects P (r >>= g) := by
  cases r with
  | ok a => exact hg a
  | error e => exact ⟨fun e' h => by cases h; exact hr.holds e rfl⟩

@[simp] theorem rejects_ite {c : Prop} [Decidable c] {r r' : Except ε α}
    (ht : Rejects P r) (hf : Rejects P r') : Rejects P (if c then r else r') := by
  split
  · exact ht
  · exact hf

@[simp] theorem rejects_mapError {ε' : Type u} {Q : ε' → Prop} {r : Except ε' α}
    {g : ε' → ε} (h : Rejects Q r) (hg : ∀ e, Q e → P (g e)) :
    Rejects P (r.mapError g) := by
  cases r with
  | ok a => exact rejects_ok a
  | error e => exact rejects_error (hg e (h.holds e rfl))

end Prog
