import Mathlib.Logic.Relation
import Mathlib.Data.Fintype.Card
import Mathlib.Data.List.Nodup

/-! # Forests of parent pointers

    A partial map `up : ι → Option ι` gives every node its parent, `none`
    at a root.  A node is rooted when following `up` ends, and the nodes
    met on the way are its path, listed from the node to its root.  On a
    finite index type a path never repeats, so it is never longer than
    the type; that bound is what every walk over such a forest rests on.

    The edits of a forest are local: a path reads `up` on its own nodes
    only, and a set that contains the children of its members can be
    taken out without touching any other path. -/

namespace Forest

universe u

variable {ι : Type u} {up up' : ι → Option ι} {i j p c r : ι} {l l' : List ι}

/-- `c` is a child of `p`. -/
def Child (up : ι → Option ι) (p c : ι) : Prop := up c = some p

/-- `c` lies strictly below `p`. -/
def Below (up : ι → Option ι) : ι → ι → Prop := Relation.TransGen (Child up)

/-- `c` is `p` or lies below it: the subtree of `p`. -/
def Subtree (up : ι → Option ι) : ι → ι → Prop :=
  Relation.ReflTransGen (Child up)

/-- The nodes met from `i` up to its root, `i` first. -/
inductive Path (up : ι → Option ι) : ι → List ι → Prop where
  | root {i : ι} (h : up i = none) : Path up i [i]
  | step {i p : ι} {l : List ι} (h : up i = some p) (hp : Path up p l) :
      Path up i (i :: l)

/-- Following the parents of `i` ends at a root. -/
def Rooted (up : ι → Option ι) (i : ι) : Prop := ∃ l, Path up i l

/-! ## Paths -/

theorem Path.unique (h : Path up i l) (h' : Path up i l') : l = l' := by
  induction h generalizing l' with
  | root hr =>
      cases h' with
      | root => rfl
      | step hs => rw [hr] at hs; cases hs
  | step hs hp ih =>
      cases h' with
      | root hr => rw [hs] at hr; cases hr
      | step hs' hp' =>
          rw [hs] at hs'
          cases hs'
          rw [ih hp']

theorem Path.mem_self (h : Path up i l) : i ∈ l := by
  cases h with
  | root => exact List.mem_cons_self ..
  | step => exact List.mem_cons_self ..

/-- The path of a node on a path is the rest of that path. -/
theorem Path.suffix (h : Path up i l) (hj : j ∈ l) :
    ∃ k, Path up j k ∧ k <:+ l := by
  induction h with
  | root hr =>
      rw [List.mem_singleton.mp hj]
      exact ⟨_, .root hr, List.suffix_refl _⟩
  | step hs hp ih =>
      rcases List.mem_cons.mp hj with hji | hjl
      · rw [hji]
        exact ⟨_, .step hs hp, List.suffix_refl _⟩
      · obtain ⟨k, hk, hsuf⟩ := ih hjl
        exact ⟨k, hk, hsuf.trans (List.suffix_cons ..)⟩

/-- **NO REPETITION**: a path visits a node once, so there is no cycle
    below a root. -/
theorem Path.nodup (h : Path up i l) : l.Nodup := by
  induction h with
  | root => exact List.nodup_singleton _
  | @step i p l hs hp ih =>
      refine List.nodup_cons.mpr ⟨?_, ih⟩
      intro hmem
      obtain ⟨k, hk, hsuf⟩ := hp.suffix hmem
      have hki : k = i :: l := hk.unique (.step hs hp)
      have hlen := hsuf.length_le
      rw [hki, List.length_cons] at hlen
      omega

/-- A path is no longer than the index type. -/
theorem Path.length_le [Fintype ι] (h : Path up i l) :
    l.length ≤ Fintype.card ι :=
  h.nodup.length_le_card

/-- Everything on the path of `i` has `i` in its subtree. -/
theorem Path.mem_iff (h : Path up i l) : j ∈ l ↔ Subtree up j i := by
  induction h with
  | @root i hr =>
      constructor
      · intro hj
        rw [List.mem_singleton.mp hj]
        exact .refl
      · intro hj
        cases hj with
        | refl => exact List.mem_cons_self ..
        | tail _ hc => rw [Child, hr] at hc; cases hc
  | @step i p l hs hp ih =>
      constructor
      · intro hj
        rcases List.mem_cons.mp hj with hji | hjl
        · rw [hji]
          exact .refl
        · exact (ih.mp hjl).tail hs
      · intro hj
        cases hj with
        | refl => exact List.mem_cons_self ..
        | tail hb hc =>
            rw [Child, hs] at hc
            cases hc
            exact List.mem_cons_of_mem _ (ih.mpr hb)

/-- A path ends at a root. -/
theorem Path.getLast (h : Path up i l) :
    ∃ r, l.getLast? = some r ∧ up r = none := by
  induction h with
  | @root i hr => exact ⟨i, rfl, hr⟩
  | step _ hp ih =>
      obtain ⟨r, hlast, hr⟩ := ih
      refine ⟨r, ?_, hr⟩
      rw [List.getLast?_cons_of_ne_nil (List.ne_nil_of_mem hp.mem_self)]
      exact hlast

/-- A path reads the parents of its own nodes only. -/
theorem Path.congr (h : Path up i l) (he : ∀ j ∈ l, up' j = up j) :
    Path up' i l := by
  induction h with
  | root hr => exact .root ((he _ (List.mem_cons_self ..)).trans hr)
  | step hs _ ih =>
      exact .step ((he _ (List.mem_cons_self ..)).trans hs)
        (ih fun j hj => he j (List.mem_cons_of_mem _ hj))

/-! ## Rooted nodes -/

theorem Rooted.of_parent (h : up i = some p) (hp : Rooted up p) :
    Rooted up i := by
  obtain ⟨l, hl⟩ := hp
  exact ⟨i :: l, .step h hl⟩

theorem Rooted.parent (h : Rooted up i) (hs : up i = some p) :
    Rooted up p := by
  obtain ⟨l, hl⟩ := h
  cases hl with
  | root hr => rw [hs] at hr; cases hr
  | step hs' hp =>
      rw [hs] at hs'
      cases hs'
      exact ⟨_, hp⟩

/-- A rooted node lies in the subtree of a root. -/
theorem Rooted.exists_root (h : Rooted up i) :
    ∃ r, up r = none ∧ Subtree up r i := by
  obtain ⟨l, hl⟩ := h
  induction hl with
  | @root i hr => exact ⟨i, hr, .refl⟩
  | step hs _ ih =>
      obtain ⟨r, hr, hsub⟩ := ih
      exact ⟨r, hr, hsub.tail hs⟩

/-- **ACYCLIC**: a rooted node is not below itself. -/
theorem Rooted.not_below_self (h : Rooted up i) : ¬ Below up i i := by
  intro hb
  obtain ⟨l, hl⟩ := h
  obtain ⟨p, hsub, hs⟩ := Relation.TransGen.tail'_iff.mp hb
  cases hl with
  | root hr => rw [Child, hr] at hs; cases hs
  | step hs' hp =>
      rw [Child, hs'] at hs
      cases hs
      exact (List.nodup_cons.mp (Path.step hs' hp).nodup).1 (hp.mem_iff.mpr hsub)

theorem Rooted.not_child_self (h : Rooted up i) : up i ≠ some i :=
  fun hs => h.not_below_self (.single hs)

/-! ## Subtrees -/

theorem Subtree.refl (i : ι) : Subtree up i i := Relation.ReflTransGen.refl

theorem Subtree.child (h : Subtree up r p) (hc : up c = some p) :
    Subtree up r c := Relation.ReflTransGen.tail h hc

theorem Subtree.trans (h : Subtree up r p) (h' : Subtree up p c) :
    Subtree up r c := Relation.ReflTransGen.trans h h'

/-- A subtree is its root and the subtrees of the root's children. -/
theorem subtree_iff_head :
    Subtree up r i ↔ i = r ∨ ∃ c, up c = some r ∧ Subtree up c i := by
  constructor
  · intro h
    rcases Relation.ReflTransGen.cases_head h with hr | ⟨c, hc, hi⟩
    · exact .inl hr.symm
    · exact .inr ⟨c, hc, hi⟩
  · rintro (rfl | ⟨c, hc, hi⟩)
    · exact Subtree.refl _
    · exact Relation.ReflTransGen.head hc hi

/-- A node of a subtree other than its root has its parent there too. -/
theorem Subtree.parent_mem (h : Subtree up r i) (hi : i ≠ r) :
    ∃ p, up i = some p ∧ Subtree up r p := by
  rcases Relation.ReflTransGen.cases_tail h with hr | ⟨p, hp, hs⟩
  · exact absurd hr hi
  · exact ⟨p, hs, hp⟩

/-- Above a node its ancestors form a chain. -/
theorem Subtree.comparable (h : Subtree up j i) (h' : Subtree up r i) :
    Subtree up j r ∨ Subtree up r j := by
  induction h' with
  | refl => exact .inl h
  | @tail p i hp hs ih =>
      rcases Relation.ReflTransGen.cases_tail h with hj | ⟨q, hq, hs'⟩
      · rw [← hj]
        exact .inr (Relation.ReflTransGen.tail hp hs)
      · rw [Child, hs] at hs'
        cases hs'
        exact ih hq

/-- Nothing but a root is above a root. -/
theorem Subtree.root_eq (h : Subtree up r i) (hi : up i = none) : r = i := by
  rcases Relation.ReflTransGen.cases_tail h with hr | ⟨p, -, hp⟩
  · exact hr.symm
  · rw [Child, hi] at hp
    cases hp

/-- A node has one root. -/
theorem Subtree.root_unique (h : Subtree up r i) (h' : Subtree up j i)
    (hr : up r = none) (hj : up j = none) : r = j := by
  rcases h.comparable h' with hsub | hsub
  · exact hsub.root_eq hj
  · exact (hsub.root_eq hr).symm

/-- What hangs below a rooted node is rooted. -/
theorem Subtree.rooted (h : Subtree up r i) (hr : Rooted up r) : Rooted up i := by
  induction h with
  | refl => exact hr
  | tail _ hc ih => exact .of_parent hc ih

/-- A subtree seen under a map that agrees on it and adds nothing to
    it. -/
theorem Subtree.congr (h : Subtree up r i)
    (he : ∀ j, Subtree up r j → j ≠ r → up' j = up j) :
    Subtree up' r i := by
  induction h with
  | refl => exact Subtree.refl _
  | @tail p c hp hs ih =>
      by_cases hc : c = r
      · rw [hc]
        exact Subtree.refl _
      · exact ih.child ((he c (Subtree.child hp hs) hc).trans hs)

/-! ## Taking out a set that contains its members' children -/

/-- `R` contains the children of its members. -/
def Closed (up : ι → Option ι) (R : ι → Prop) : Prop :=
  ∀ p c, R p → up c = some p → R c

/-- The path of a node outside a closed set stays outside. -/
theorem Path.avoids {R : ι → Prop} (hR : Closed up R) (h : Path up i l)
    (hi : ¬ R i) : ∀ j ∈ l, ¬ R j := by
  intro j hj hRj
  have hsub := h.mem_iff.mp hj
  refine hi ?_
  clear hi h hj
  induction hsub with
  | refl => exact hRj
  | tail _ hs ih => exact hR _ _ ih hs

/-- **SURVIVORS**: a rooted node outside a closed set stays rooted, on
    the same path, when the parents inside the set are changed. -/
theorem Path.survive {R : ι → Prop} (hR : Closed up R) (h : Path up i l)
    (hi : ¬ R i) (he : ∀ j, ¬ R j → up' j = up j) : Path up' i l :=
  h.congr fun j hj => he j (h.avoids hR hi j hj)

/-! ## Descent -/

/-- **DESCENT ENDS**: in a finite forest where every node that is not
    `stop` has a child, every node has a `stop` node in its subtree. -/
theorem exists_stop [Fintype ι] {live stop : ι → Prop}
    (hroot : ∀ i, live i → Rooted up i)
    (hchild : ∀ i, live i → stop i ∨ ∃ c, live c ∧ up c = some i)
    (i : ι) (hi : live i) : ∃ j, Subtree up i j ∧ live j ∧ stop j := by
  obtain ⟨l, hl⟩ := hroot i hi
  -- the longer the path of `i`, the fewer nodes are left below it
  induction hn : Fintype.card ι - l.length using Nat.strong_induction_on
    generalizing i l with
  | _ n ih =>
      rcases hchild i hi with hs | ⟨c, hc, hup⟩
      · exact ⟨i, Subtree.refl _, hi, hs⟩
      · have hcl : Path up c (c :: l) := .step hup hl
        have hlen := hcl.length_le
        rw [List.length_cons] at hlen
        obtain ⟨j, hj, hlive, hstop⟩ :=
          ih (Fintype.card ι - (c :: l).length)
            (by rw [List.length_cons]; omega) c hc (c :: l) hcl rfl
        exact ⟨j, Subtree.trans (Subtree.child (Subtree.refl _) hup) hj,
          hlive, hstop⟩

/-! ## Walks that do not end at a root -/

/-- Following the parents of `i` meets a bad node, or one that has been
    seen. -/
inductive Astray (up : ι → Option ι) (bad : ι → Prop) : List ι → ι → Prop where
  | bad {seen : List ι} {i : ι} (h : bad i) : Astray up bad seen i
  | again {seen : List ι} {i : ι} (h : i ∈ seen) : Astray up bad seen i
  | step {seen : List ι} {i p : ι} (h : up i = some p)
      (hp : Astray up bad (i :: seen) p) : Astray up bad seen i

/-- A path of good nodes does not go astray. -/
theorem Path.not_astray {bad : ι → Prop} {seen : List ι} (h : Path up i l)
    (hgood : ∀ j ∈ l, ¬ bad j) (hfresh : ∀ j ∈ l, j ∉ seen) :
    ¬ Astray up bad seen i := by
  induction h generalizing seen with
  | @root i hr =>
      intro hastray
      cases hastray with
      | bad hb => exact hgood i (List.mem_cons_self ..) hb
      | again hs => exact hfresh i (List.mem_cons_self ..) hs
      | step hu => rw [hr] at hu; cases hu
  | @step i p l hs hp ih =>
      have hnodup : (i :: l).Nodup := (Path.step hs hp).nodup
      intro hastray
      cases hastray with
      | bad hb => exact hgood i (List.mem_cons_self ..) hb
      | again hm => exact hfresh i (List.mem_cons_self ..) hm
      | step hu hrest =>
          rw [hs] at hu
          cases hu
          refine ih (fun j hj => hgood j (List.mem_cons_of_mem _ hj)) ?_ hrest
          intro j hj hseen
          rcases List.mem_cons.mp hseen with rfl | hseen
          · exact (List.nodup_cons.mp hnodup).1 hj
          · exact hfresh j (List.mem_cons_of_mem _ hj) hseen

/-- **PIGEONHOLE**: when as many numbers below `n` have been seen as there
    are, every one has. -/
theorem mem_of_full {n i : Nat} {seen : List Nat} (hnodup : seen.Nodup)
    (hlt : ∀ j ∈ seen, j < n) (hfull : n ≤ seen.length) (hi : i < n) : i ∈ seen := by
  have hsub : seen.toFinset ⊆ Finset.range n := by
    intro j hj
    exact Finset.mem_range.mpr (hlt j (List.mem_toFinset.mp hj))
  have hcard : (Finset.range n).card ≤ seen.toFinset.card := by
    rw [Finset.card_range, List.toFinset_card_of_nodup hnodup]
    exact hfull
  have heq := Finset.eq_of_subset_of_card_le hsub hcard
  exact List.mem_toFinset.mp (heq ▸ Finset.mem_range.mpr hi)

end Forest
