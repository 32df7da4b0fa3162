import Dpe.Lib.Forest
import Dpe.Model.State
import Dpe.Proofs.Children

/-! # Well-formed states

    The links of a state are kept twice, as parent indices and as child
    bitmaps.  A state is well formed when the two agree, every live
    context is rooted, a tree has one type, and the inactive slots are
    blank.  `State.up` is the view of a state as a forest of parent
    pointers; it is all that the forest library needs to know. -/

namespace Dpe

open Forest

variable {b : Build}

/-- The slot a parent index names, if it names one. -/
def parentSlot (b : Build) (parentIdx : UInt8) : Option (Fin b.maxHandles) :=
  if h : parentIdx.toNat < b.maxHandles then some ⟨parentIdx.toNat, h⟩ else none

theorem parentSlot_root (b : Build) :
    parentSlot b Context.ROOT_INDEX = none := by
  have h64 := b.maxHandles_le
  have h255 : Context.ROOT_INDEX.toNat = 255 := rfl
  exact dif_neg (by omega)

theorem toNat_ofNat_slot (i : Fin b.maxHandles) :
    (UInt8.ofNat i.val).toNat = i.val := by
  have h64 : i.val < 64 := Nat.lt_of_lt_of_le i.isLt b.maxHandles_le
  rw [UInt8.toNat_ofNat']
  exact Nat.mod_eq_of_lt (by omega)

theorem parentSlot_ofNat (i : Fin b.maxHandles) :
    parentSlot b (UInt8.ofNat i.val) = some i := by
  have h := toNat_ofNat_slot i
  unfold parentSlot
  rw [dif_pos (by rw [h]; exact i.isLt)]
  exact congrArg some (Fin.ext h)

namespace State

/-- The parent of a slot. -/
def up (s : State b) (i : Fin b.maxHandles) : Option (Fin b.maxHandles) :=
  parentSlot b (s.contexts i).parentIdx

/-- The slot holds a context, active or retired. -/
def Live (s : State b) (i : Fin b.maxHandles) : Prop :=
  (s.contexts i).state ≠ .inactive

instance (s : State b) (i : Fin b.maxHandles) : Decidable (s.Live i) :=
  inferInstanceAs (Decidable ((s.contexts i).state ≠ .inactive))

/-- The links, types and blank slots of a state are as they should be. -/
structure WellFormed (s : State b) : Prop where
  child_iff : ∀ p c,
    (s.contexts p).children.hasChild b c.val = true ↔ s.up c = some p
  root : ∀ i, s.up i = none → (s.contexts i).parentIdx = Context.ROOT_INDEX
  rooted : ∀ i, s.Live i → Rooted s.up i
  type_eq : ∀ p c, s.up c = some p →
    (s.contexts c).contextType = (s.contexts p).contextType
  one_normal : ∀ i j, s.Live i → s.Live j →
    (s.contexts i).contextType = .normal →
    (s.contexts j).contextType = .normal →
    s.up i = none → s.up j = none → i = j
  normal_init : ∀ i, s.Live i → (s.contexts i).contextType = .normal →
    s.hasInitialized = true
  retired : ∀ i, (s.contexts i).state = .retired → ∃ c, s.up c = some i
  inactive : ∀ i, (s.contexts i).state = .inactive →
    (s.contexts i).parentIdx = Context.ROOT_INDEX ∧
      (s.contexts i).children = .empty ∧ (s.contexts i).tci = .new b
  inRange : ∀ i, (s.contexts i).children.InRange b

/-- The links alone: the contexts are a forest, only parents are retired,
    and the inactive slots have no links. -/
structure WellLinked (s : State b) : Prop where
  child_iff : ∀ p c,
    (s.contexts p).children.hasChild b c.val = true ↔ s.up c = some p
  root : ∀ i, s.up i = none → (s.contexts i).parentIdx = Context.ROOT_INDEX
  rooted : ∀ i, s.Live i → Rooted s.up i
  retired : ∀ i, (s.contexts i).state = .retired → ∃ c, s.up c = some i
  inactive : ∀ i, (s.contexts i).state = .inactive →
    (s.contexts i).parentIdx = Context.ROOT_INDEX ∧ (s.contexts i).children = .empty
  inRange : ∀ i, (s.contexts i).children.InRange b

theorem WellFormed.wellLinked {s : State b} (h : s.WellFormed) : s.WellLinked where
  child_iff := h.child_iff
  root := h.root
  rooted := h.rooted
  retired := h.retired
  inactive i hi := ⟨(h.inactive i hi).1, (h.inactive i hi).2.1⟩
  inRange := h.inRange

theorem up_of_root {s : State b} {i : Fin b.maxHandles}
    (h : (s.contexts i).parentIdx = Context.ROOT_INDEX) : s.up i = none := by
  unfold up
  rw [h, parentSlot_root]

theorem up_congr {s s' : State b} {i : Fin b.maxHandles}
    (h : (s'.contexts i).parentIdx = (s.contexts i).parentIdx) :
    s'.up i = s.up i := by
  unfold up
  rw [h]

/-- The parent index of a slot with a parent names that parent. -/
theorem parentIdx_of_up {s : State b} {i p : Fin b.maxHandles}
    (h : s.up i = some p) : (s.contexts i).parentIdx.toNat = p.val := by
  unfold up parentSlot at h
  split at h
  · cases h
    rfl
  · cases h

theorem up_eq_some {s : State b} {p c : Fin b.maxHandles} :
    s.up c = some p ↔ (s.contexts c).parentIdx.toNat = p.val := by
  constructor
  · exact parentIdx_of_up
  · intro h
    unfold up parentSlot
    rw [dif_pos (by rw [h]; exact p.isLt)]
    exact congrArg some (Fin.ext h)

namespace WellLinked

variable {s : State b} {i p c : Fin b.maxHandles}

theorem up_inactive (h : s.WellLinked) (hi : (s.contexts i).state = .inactive) :
    s.up i = none := up_of_root (h.inactive i hi).1

/-- A blank slot is nobody's parent. -/
theorem up_ne_inactive (h : s.WellLinked)
    (hi : (s.contexts i).state = .inactive) (c : Fin b.maxHandles) :
    s.up c ≠ some i := by
  intro hc
  have hbit := (h.child_iff i c).mpr hc
  rw [(h.inactive i hi).2, Children.hasChild_empty] at hbit
  cases hbit

theorem live_child (h : s.WellLinked) (hc : s.up c = some p) : s.Live c := by
  intro hi
  rw [h.up_inactive hi] at hc
  cases hc

theorem live_parent (h : s.WellLinked) (hc : s.up c = some p) : s.Live p :=
  fun hi => h.up_ne_inactive hi c hc

/-- The subtree of a live slot is live. -/
theorem live_subtree (h : s.WellLinked) (hp : s.Live p)
    (hsub : Subtree s.up p c) : s.Live c := by
  induction hsub with
  | refl => exact hp
  | tail _ hc _ => exact h.live_child hc

/-- What is above a live slot is live. -/
theorem live_above (h : s.WellLinked) (hc : s.Live c)
    (hsub : Subtree s.up p c) : s.Live p := by
  induction hsub with
  | refl => exact hc
  | tail _ hup ih => exact ih (h.live_parent hup)

end WellLinked

namespace WellFormed

variable {s : State b} {i p c : Fin b.maxHandles}

theorem up_inactive (h : s.WellFormed) (hi : (s.contexts i).state = .inactive) :
    s.up i = none := h.wellLinked.up_inactive hi

theorem up_ne_inactive (h : s.WellFormed) (hi : (s.contexts i).state = .inactive)
    (c : Fin b.maxHandles) : s.up c ≠ some i := h.wellLinked.up_ne_inactive hi c

theorem live_child (h : s.WellFormed) (hc : s.up c = some p) : s.Live c :=
  h.wellLinked.live_child hc

theorem live_parent (h : s.WellFormed) (hc : s.up c = some p) : s.Live p :=
  h.wellLinked.live_parent hc

theorem live_subtree (h : s.WellFormed) (hp : s.Live p)
    (hsub : Subtree s.up p c) : s.Live c := h.wellLinked.live_subtree hp hsub

theorem live_above (h : s.WellFormed) (hc : s.Live c)
    (hsub : Subtree s.up p c) : s.Live p := h.wellLinked.live_above hc hsub

/-- No live slot is above itself. -/
theorem not_below_self (h : s.WellFormed) (hi : s.Live i) : ¬ Below s.up i i :=
  (h.rooted i hi).not_below_self

/-- A tree has one type. -/
theorem type_subtree (h : s.WellFormed) (hsub : Subtree s.up p c) :
    (s.contexts c).contextType = (s.contexts p).contextType := by
  induction hsub with
  | refl => rfl
  | tail _ hc ih => exact (h.type_eq _ _ hc).trans ih

theorem parentIdx_lt (h : s.WellFormed)
    (hne : (s.contexts i).parentIdx ≠ Context.ROOT_INDEX) :
    ∃ p, s.up i = some p ∧ (s.contexts i).parentIdx.toNat = p.val := by
  cases hup : s.up i with
  | none => exact absurd (h.root i hup) hne
  | some p => exact ⟨p, rfl, parentIdx_of_up hup⟩

end WellFormed

/-! ## New states -/

/-- A new state is well formed: all slots are blank. -/
theorem wellFormed_new (support : Support) (flags : DpeFlags) :
    (State.new b support flags).WellFormed where
  child_iff p c := by
    have hup : (State.new b support flags).up c = none := up_of_root rfl
    rw [hup]
    simp [State.new, Context.new]
  root _ _ := rfl
  rooted _ hi := absurd rfl hi
  type_eq _ _ _ := rfl
  one_normal _ _ hi := absurd rfl hi
  normal_init _ hi := absurd rfl hi
  retired _ hi := by cases hi
  inactive _ _ := ⟨rfl, rfl, rfl⟩
  inRange _ := .empty

/-! ## Changes that keep the links -/

/-- **RESHAPE**: a state with the same links, types and live slots is well
    formed too, if only parents are retired and blank slots stay
    blank. -/
theorem WellFormed.reshape {s s' : State b} (h : s.WellFormed)
    (hinit : s'.hasInitialized = s.hasInitialized)
    (hchildren : ∀ i, (s'.contexts i).children = (s.contexts i).children)
    (hparent : ∀ i, (s'.contexts i).parentIdx = (s.contexts i).parentIdx)
    (htype : ∀ i, (s'.contexts i).contextType = (s.contexts i).contextType)
    (hlive : ∀ i, s'.Live i ↔ s.Live i)
    (htci : ∀ i, (s.contexts i).state = .inactive →
      (s'.contexts i).tci = (s.contexts i).tci)
    (hret : ∀ i, (s'.contexts i).state = .retired →
      (s.contexts i).state = .retired ∨ ∃ c, s.up c = some i) :
    s'.WellFormed := by
  have hup : s'.up = s.up := funext fun i => up_congr (hparent i)
  have hdead : ∀ i, (s'.contexts i).state = .inactive →
      (s.contexts i).state = .inactive := by
    intro i hi
    by_contra hne
    exact (hlive i).mpr hne hi
  refine ⟨?_, ?_, ?_, ?_, ?_, ?_, ?_, ?_, ?_⟩
  · intro p c
    rw [hchildren, hup]
    exact h.child_iff p c
  · intro i hi
    rw [hparent]
    exact h.root i (by rw [← hup]; exact hi)
  · intro i hi
    rw [hup]
    exact h.rooted i ((hlive i).mp hi)
  · intro p c hc
    rw [htype, htype]
    exact h.type_eq p c (by rw [← hup]; exact hc)
  · intro i j hi hj hti htj hui huj
    rw [htype] at hti htj
    rw [hup] at hui huj
    exact h.one_normal i j ((hlive i).mp hi) ((hlive j).mp hj) hti htj hui huj
  · intro i hi hti
    rw [hinit]
    rw [htype] at hti
    exact h.normal_init i ((hlive i).mp hi) hti
  · intro i hi
    rw [hup]
    rcases hret i hi with hr | hc
    · exact h.retired i hr
    · exact hc
  · intro i hi
    have hs := hdead i hi
    rw [hparent, hchildren, htci i hs]
    exact h.inactive i hs
  · intro i
    rw [hchildren]
    exact h.inRange i

/-- A retired context has an active context below it. -/
theorem WellFormed.active_below {s : State b} (h : s.WellFormed) {i : Fin b.maxHandles}
    (hi : (s.contexts i).state = .retired) :
    ∃ j, Below s.up i j ∧ (s.contexts j).state = .active := by
  have hchild : ∀ k, s.Live k → (s.contexts k).state = .active
      ∨ ∃ c, s.Live c ∧ s.up c = some k := by
    intro k hk
    cases hs : (s.contexts k).state with
    | active => exact .inl rfl
    | inactive => exact absurd hs hk
    | retired =>
        obtain ⟨c, hc⟩ := h.retired k hs
        exact .inr ⟨c, h.live_child hc, hc⟩
  have hlive : s.Live i := by
    intro hdead
    rw [hi] at hdead
    cases hdead
  obtain ⟨j, hsub, -, hactive⟩ := exists_stop h.rooted hchild i hlive
  refine ⟨j, ?_, hactive⟩
  rcases Relation.reflTransGen_iff_eq_or_transGen.mp hsub with he | hb
  · rw [he, hi] at hactive
    cases hactive
  · exact hb

end State

end Dpe
