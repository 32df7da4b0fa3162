import Dpe.Proofs.Sample

/-! # The forest — what holds of every reachable state

    The structure of the forest, read off the stored fields: links,
    roots, types, retired and blank slots. -/

namespace Dpe

open Forest

variable {b : Build}

/-- The contexts of a state form a forest. -/
structure State.IsForest (s : State b) : Prop where
  /-- among live contexts the two kinds of links agree -/
  linked : ∀ p c, s.Live p → s.Live c →
    ((s.contexts p).children.hasChild b c.val = true
      ↔ (s.contexts c).parentIdx.toNat = p.val)
  /-- no context has a child bit for an inactive slot -/
  liveChild : ∀ p (c : Fin b.maxHandles), (s.contexts p).children.hasChild b c.val = true → s.Live c
  /-- no context has a child bit that is not a slot -/
  inRange : ∀ p, (s.contexts p).children.InRange b
  /-- a context is a child of at most one context -/
  oneParent : ∀ p q (c : Fin b.maxHandles), (s.contexts p).children.hasChild b c.val = true →
    (s.contexts q).children.hasChild b c.val = true → p = q
  /-- following the parents of a live context ends at a root -/
  rooted : ∀ i, s.Live i → ∃ l r, Path s.up i l ∧ (∀ j ∈ l, s.Live j) ∧
    l.getLast? = some r ∧ (s.contexts r).parentIdx = Context.ROOT_INDEX
  /-- a tree has one type -/
  oneType : ∀ r i j, Subtree s.up r i → Subtree s.up r j →
    (s.contexts i).contextType = (s.contexts j).contextType
  /-- there is at most one normal root -/
  oneNormal : ∀ i j, s.Live i → s.Live j →
    (s.contexts i).parentIdx = Context.ROOT_INDEX →
    (s.contexts j).parentIdx = Context.ROOT_INDEX →
    (s.contexts i).contextType = .normal →
    (s.contexts j).contextType = .normal → i = j
  /-- a retired context has a child, and an active descendant -/
  retired : ∀ i, (s.contexts i).state = .retired →
    (∃ c : Fin b.maxHandles, (s.contexts i).children.hasChild b c.val = true) ∧
      ∃ j, Below s.up i j ∧ (s.contexts j).state = .active
  /-- an inactive slot is blank -/
  inactive : ∀ i, (s.contexts i).state = .inactive →
    (s.contexts i).parentIdx = Context.ROOT_INDEX ∧
      (s.contexts i).children = .empty ∧ (s.contexts i).tci = .new b

namespace State

variable {s : State b}

/-- A well-formed state is a forest. -/
theorem WellFormed.isForest (h : s.WellFormed) : s.IsForest where
  linked p c _ _ := (h.child_iff p c).trans up_eq_some
  liveChild p c hc := h.live_child ((h.child_iff p c).mp hc)
  inRange := h.inRange
  oneParent p q c hp hq := by
    have hp' := (h.child_iff p c).mp hp
    rw [(h.child_iff q c).mp hq] at hp'
    exact (Option.some.inj hp').symm
  rooted i hi := by
    obtain ⟨l, hl⟩ := h.rooted i hi
    obtain ⟨r, hlast, hr⟩ := hl.getLast
    exact ⟨l, r, hl, fun j hj => h.live_above hi (hl.mem_iff.mp hj), hlast,
      h.root r hr⟩
  oneType r i j hi hj := (h.type_subtree hi).trans (h.type_subtree hj).symm
  oneNormal i j hi hj hri hrj hti htj :=
    h.one_normal i j hi hj hti htj (up_of_root hri) (up_of_root hrj)
  retired i hi := by
    obtain ⟨c, hc⟩ := h.retired i hi
    exact ⟨⟨c, (h.child_iff i c).mpr hc⟩, h.active_below hi⟩
  inactive := h.inactive

end State

/-- **FOREST**: in every reachable state the contexts form a forest. -/
theorem reachable_isForest {s : State b} (h : Reachable s) : s.IsForest :=
  h.wellFormed.isForest

/-- A root that is retired over two children, in two localities. -/
theorem isForest_played : (played [sampleInit 0,
    sampleDerive 0 0 (DeriveContextFlags.RETAIN_PARENT_CONTEXT
      ||| DeriveContextFlags.CHANGE_LOCALITY) 5 1 [8] 44,
    sampleDerive 0 0 DeriveContextFlags.MAKE_DEFAULT 6 0 [] 44]).IsForest :=
  reachable_isForest (reachable_played (by decide +kernel))

end Dpe
