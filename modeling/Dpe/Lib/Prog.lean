import Mathlib.Logic.Basic

/-! # Programs that fail with their state — pre- and postconditions

    `EStateM ε σ` runs a program on a state and hands the state back in
    BOTH outcomes: an error does not undo what was written before it.
    `Post m s ok err` says what holds when `m`, started in `s`, returns
    and when it fails.  One rule for each way of building a program, a
    consequence rule and a frame rule are enough to walk through any
    straight-line program with its early exits. -/

namespace Prog

universe u

variable {ε σ α β : Type u} {φ : Type u}

/-- Started in `s`, the program `m` ends in a state described by `ok`
    when it returns and by `err` when it fails.  It is a structure, so
    that no tactic runs the program by unfolding it. -/
structure Post (m : EStateM ε σ α) (s : σ) (ok : α → σ → Prop)
    (err : ε → σ → Prop) : Prop where
  holds : match m s with
    | .ok a s' => ok a s'
    | .error e s' => err e s'

variable {m : EStateM ε σ α} {f : α → EStateM ε σ β} {s s' : σ}
  {ok ok' : α → σ → Prop} {err err' : ε → σ → Prop}

/-! ## Elimination -/

/-- A run that returned satisfies the first postcondition. -/
theorem Post.of_ok {a : α} (h : Post m s ok err) (hr : m s = .ok a s') :
    ok a s' := by
  have hh := h.holds
  rw [hr] at hh
  exact hh

/-- A run that failed satisfies the second postcondition. -/
theorem Post.of_error {e : ε} (h : Post m s ok err)
    (hr : m s = .error e s') : err e s' := by
  have hh := h.holds
  rw [hr] at hh
  exact hh

/-- A postcondition may be proved by looking at the run. -/
theorem Post.intro (hok : ∀ a s', m s = .ok a s' → ok a s')
    (herr : ∀ e s', m s = .error e s' → err e s') : Post m s ok err := by
  refine ⟨?_⟩
  cases hr : m s with
  | ok a s' => exact hok a s' hr
  | error e s' => exact herr e s' hr

/-! ## One rule for each construct -/

/-- Consequence: postconditions may be weakened. -/
theorem Post.mono (h : Post m s ok err) (hok : ∀ a s', ok a s' → ok' a s')
    (herr : ∀ e s', err e s' → err' e s') : Post m s ok' err' :=
  Post.intro (fun a s' hr => hok a s' (h.of_ok hr))
    (fun e s' hr => herr e s' (h.of_error hr))

/-- Two postconditions of one run hold together. -/
theorem Post.and (h : Post m s ok err) (h' : Post m s ok' err') :
    Post m s (fun a s' => ok a s' ∧ ok' a s')
      (fun e s' => err e s' ∧ err' e s') :=
  Post.intro (fun _ _ hr => ⟨h.of_ok hr, h'.of_ok hr⟩)
    (fun _ _ hr => ⟨h.of_error hr, h'.of_error hr⟩)

theorem Post.pure {a : α} (h : ok a s) :
    Post (pure a : EStateM ε σ α) s ok err := ⟨h⟩

theorem Post.throw {e : ε} (h : err e s) :
    Post (throw e : EStateM ε σ α) s ok err := ⟨h⟩

/-- Sequencing: what the first half leaves behind is what the second
    half starts from, and an error of the first half is final. -/
theorem Post.bind {ok : β → σ → Prop} {mid : α → σ → Prop}
    (hm : Post m s mid err)
    (hf : ∀ a s', mid a s' → Post (f a) s' ok err) :
    Post (m >>= f) s ok err := by
  show Post (EStateM.bind m f) s ok err
  refine ⟨?_⟩
  unfold EStateM.bind
  cases hr : m s with
  | ok a s' => exact (hf a s' (hm.of_ok hr)).holds
  | error e s' => exact hm.of_error hr

/-- Sequencing with the run of the first half at hand. -/
theorem Post.bind_run {ok : β → σ → Prop}
    (hf : ∀ a s', m s = .ok a s' → Post (f a) s' ok err)
    (he : ∀ e s', m s = .error e s' → err e s') :
    Post (m >>= f) s ok err := by
  have hm : Post m s (fun a s' => m s = .ok a s') err :=
    Post.intro (fun _ _ hr => hr) he
  exact Post.bind hm hf

/-- The two halves of a run that returned. -/
theorem run_bind {b : β} (h : (m >>= f) s = .ok b s') :
    ∃ a s1, m s = .ok a s1 ∧ f a s1 = .ok b s' := by
  have hbind : EStateM.bind m f s = .ok b s' := h
  unfold EStateM.bind at hbind
  cases hm : m s with
  | ok a s1 =>
      rw [hm] at hbind
      exact ⟨a, s1, rfl, hbind⟩
  | error e s1 =>
      rw [hm] at hbind
      cases hbind

/-- A first half that returns. -/
theorem bind_of_ok {a : α} (h : m s = .ok a s') : (m >>= f) s = f a s' := by
  show EStateM.bind m f s = _
  unfold EStateM.bind
  rw [h]

/-- A first half that fails. -/
theorem bind_of_error {e : ε} (h : m s = .error e s') :
    (m >>= f) s = .error e s' := by
  show EStateM.bind m f s = _
  unfold EStateM.bind
  rw [h]

theorem Post.map {g : α → β} {ok : β → σ → Prop}
    (h : Post m s (fun a s' => ok (g a) s') err) :
    Post (g <$> m) s ok err := by
  show Post (EStateM.map g m) s ok err
  refine ⟨?_⟩
  unfold EStateM.map
  cases hr : m s with
  | ok a s' => exact h.of_ok hr
  | error e s' => exact h.of_error hr

theorem Post.ite {c : Prop} [Decidable c] {m' : EStateM ε σ α}
    (ht : c → Post m s ok err) (hf : ¬ c → Post m' s ok err) :
    Post (if c then m else m') s ok err := by
  by_cases h : c
  · rw [if_pos h]
    exact ht h
  · rw [if_neg h]
    exact hf h

theorem Post.get {ok : σ → σ → Prop} {err : ε → σ → Prop}
    (h : ok s s) : Post (get : EStateM ε σ σ) s ok err := ⟨h⟩

theorem Post.set {t : σ} {ok : PUnit → σ → Prop}
    (h : ok ⟨⟩ t) : Post (set t : EStateM ε σ PUnit) s ok err := ⟨h⟩

theorem Post.modify {g : σ → σ} {ok : PUnit → σ → Prop}
    (h : ok ⟨⟩ (g s)) : Post (modify g : EStateM ε σ PUnit) s ok err := ⟨h⟩

/-- Reading the state in front of a program. -/
theorem Post.get_bind {f : σ → EStateM ε σ β} {ok : β → σ → Prop}
    (h : Post (f s) s ok err) : Post (MonadState.get >>= f) s ok err :=
  ⟨h.holds⟩

/-- Changing the state in front of a program. -/
theorem Post.modify_bind {g : σ → σ} {f : PUnit → EStateM ε σ β}
    {ok : β → σ → Prop} (h : Post (f ⟨⟩) (g s) ok err) :
    Post (modifyGet (fun s => (⟨⟩, g s)) >>= f) s ok err :=
  ⟨h.holds⟩

/-! ## Pure results inside a program -/

/-- Run a fallible pure computation. -/
def orThrow : Except ε α → EStateM ε σ α
  | .ok a => pure a
  | .error e => throw e

/-- Fail with `e` when the guard is up, go on otherwise. -/
def rejectIf (c : Bool) (e : ε) : EStateM ε σ PUnit :=
  if c then throw e else pure ⟨⟩

theorem Post.orThrow {r : Except ε α} (hok : ∀ a, r = .ok a → ok a s)
    (herr : ∀ e, r = .error e → err e s) :
    Post (Prog.orThrow r) s ok err := by
  cases r with
  | ok a => exact Post.pure (hok a rfl)
  | error e => exact Post.throw (herr e rfl)

theorem Post.rejectIf {c : Bool} {e : ε} {ok : PUnit → σ → Prop}
    (herr : c = true → err e s) (hok : c = false → ok ⟨⟩ s) :
    Post (Prog.rejectIf c e) s ok err := by
  cases c with
  | true => exact Post.throw (herr rfl)
  | false => exact Post.pure (hok rfl)

/-- A guard in front of a program. -/
theorem Post.rejectIf_bind {c : Bool} {e : ε} {f : PUnit → EStateM ε σ β}
    {ok : β → σ → Prop} (herr : c = true → err e s)
    (hok : c = false → Post (f ⟨⟩) s ok err) :
    Post (Prog.rejectIf c e >>= f) s ok err := by
  cases c with
  | true => exact ⟨herr rfl⟩
  | false => exact ⟨(hok rfl).holds⟩

/-! ## Frames -/

/-- `m` leaves the projection `π` of the state as it found it, whether
    it returns or fails. -/
def Keeps (π : σ → φ) (m : EStateM ε σ α) : Prop :=
  ∀ s, Post m s (fun _ s' => π s' = π s) (fun _ s' => π s' = π s)

variable {π : σ → φ}

theorem Keeps.pure (a : α) : Keeps π (pure a : EStateM ε σ α) :=
  fun _ => Post.pure rfl

theorem Keeps.throw (e : ε) : Keeps π (throw e : EStateM ε σ α) :=
  fun _ => Post.throw rfl

theorem Keeps.get : Keeps π (get : EStateM ε σ σ) :=
  fun _ => Post.get rfl

theorem Keeps.modify {g : σ → σ} (h : ∀ s, π (g s) = π s) :
    Keeps π (modify g : EStateM ε σ PUnit) :=
  fun s => Post.modify (h s)

theorem Keeps.orThrow (r : Except ε α) :
    Keeps π (Prog.orThrow r : EStateM ε σ α) :=
  fun _ => Post.orThrow (fun _ _ => rfl) (fun _ _ => rfl)

theorem Keeps.rejectIf (c : Bool) (e : ε) :
    Keeps π (Prog.rejectIf c e : EStateM ε σ PUnit) :=
  fun _ => Post.rejectIf (fun _ => rfl) (fun _ => rfl)

theorem Keeps.bind (hm : Keeps π m) (hf : ∀ a, Keeps π (f a)) :
    Keeps π (m >>= f) := by
  intro s
  refine Post.bind (hm s) ?_
  intro a s' hs'
  refine (hf a s').mono ?_ ?_
  · intro b t ht
    exact ht.trans hs'
  · intro e t ht
    exact ht.trans hs'

theorem Keeps.map {g : α → β} (hm : Keeps π m) : Keeps π (g <$> m) :=
  fun s => Post.map (hm s)

theorem Keeps.ite {c : Prop} [Decidable c] {m' : EStateM ε σ α}
    (ht : Keeps π m) (hf : Keeps π m') :
    Keeps π (if c then m else m') :=
  fun s => Post.ite (fun _ => ht s) (fun _ => hf s)

/-- The frame of a projection is the frame of everything computed from
    it. -/
theorem Keeps.comp {ψ : Type u} (g : φ → ψ) (hm : Keeps π m) :
    Keeps (fun s => g (π s)) m := by
  intro s
  refine (hm s).mono ?_ ?_
  · intro a s' h
    exact congrArg g h
  · intro e s' h
    exact congrArg g h

end Prog
