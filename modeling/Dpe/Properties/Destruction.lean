import Dpe.Proofs.Destroy
import Dpe.Proofs.Sample

/-! # Destruction — exactly the right set

    The walk up and the walk down of `destroy_context` together reach a
    subtree, that of the highest retired context with a single child in
    an unbroken chain.  What is said here of a destruction is said of
    every forest, reachable or not. -/

namespace Dpe

open Forest

variable {b : Build}

namespace State

variable {s : State b} {i top : Fin b.maxHandles}

/-- The retired contexts with a single child that follow one another
    above `i`. -/
def RetiredChain (s : State b) : Fin b.maxHandles → Fin b.maxHandles → Prop :=
  Relation.TransGen fun c p => Edit.OnlyChild s p c

/-- What goes with `i`: itself, all that is below it, and the chain above
    it. -/
def Doomed (s : State b) (i j : Fin b.maxHandles) : Prop :=
  Subtree s.up i j ∨ s.RetiredChain i j

/-- The chain above an only child starts at its parent. -/
theorem retiredChain_iff {p : Fin b.maxHandles} (h : Edit.OnlyChild s p i)
    (j : Fin b.maxHandles) : s.RetiredChain i j ↔ j = p ∨ s.RetiredChain p j := by
  constructor
  · intro hj
    obtain ⟨q, hq, hsub⟩ := Relation.TransGen.head'_iff.mp hj
    obtain rfl : q = p := Option.some.inj (hq.1.symm.trans h.1)
    exact (Relation.reflTransGen_iff_eq_or_transGen.mp hsub)
  · rintro (rfl | hj)
    · exact .single h
    · exact .head h hj

/-- **THE DOOMED** are the subtree of the summit. -/
theorem Summit.doomed_iff (h : Summit s i top) (j : Fin b.maxHandles) :
    Subtree s.up top j ↔ s.Doomed i j := by
  induction h with
  | @stop i hstop =>
      refine ⟨.inl, ?_⟩
      rintro (hsub | hchain)
      · exact hsub
      · obtain ⟨p, hp, -⟩ := Relation.TransGen.head'_iff.mp hchain
        exact absurd hp (hstop p)
  | @climb i p top h _ ih =>
      rw [ih, Doomed, Doomed, subtree_onlyChild h, retiredChain_iff h]
      constructor
      · rintro ((hj | hsub) | hchain)
        · exact .inr (.inl hj)
        · exact .inl hsub
        · exact .inr (.inr hchain)
      · rintro (hsub | hj | hchain)
        · exact .inl (.inr hsub)
        · exact .inl (.inl hj)
        · exact .inr hchain

/-- A context is gone. -/
structure Gone (s : State b) (j : Fin b.maxHandles) : Prop where
  inactive : (s.contexts j).state = .inactive
  tci : (s.contexts j).tci = .new b
  parentIdx : (s.contexts j).parentIdx = Context.ROOT_INDEX
  children : (s.contexts j).children = .empty
  handle : (s.contexts j).handle = .newInvalid

end State

namespace Edit

variable {s : State b} {marked : Children} {top j : Fin b.maxHandles}

theorem prune_gone (h : marked.hasChild b j = true) :
    ((prune marked).apply s).Gone j := by
  refine ⟨?_, ?_, ?_, ?_, ?_⟩ <;> rw [prune_marked h] <;> rfl

/-- What stays loses the top if it is its parent, and nothing else. -/
theorem prune_stays (h : s.WellLinked) (hcut : Cut s marked top)
    (hj : ¬ marked.hasChild b j = true) :
    ((prune marked).apply s).contexts j
      = if s.up top = some j then (s.contexts j).without ⟨1#64 <<< top.val⟩
        else s.contexts j := by
  have htop : marked.hasChild b top = true := (hcut.2.1 top).mpr (Subtree.refl top)
  have hbits : ∀ c : Fin b.maxHandles, (s.contexts j).children.hasChild b c = true →
      (marked.hasChild b c = true ↔ c = top) := by
    intro c hc
    have hup := (h.child_iff j c).mp hc
    exact ⟨fun hm => cut_inner hcut hup hm hj, fun he => he ▸ htop⟩
  rw [prune_other hj]
  split
  · refine congrArg (fun children => { s.contexts j with children := children })
      ((h.inRange j).removeChildren_congr fun c hc => ?_)
    rw [hbits c hc, Children.hasChild_bit]
  · rename_i hup
    have hnone : (s.contexts j).children.removeChildren marked
        = (s.contexts j).children.removeChildren .empty := by
      refine (h.inRange j).removeChildren_congr fun c hc => ?_
      rw [hbits c hc, Children.hasChild_empty]
      refine ⟨fun he => ?_, fun hf => by cases hf⟩
      exact absurd (he ▸ (h.child_iff j c).mp hc) hup
    show { s.contexts j with children := (s.contexts j).children.removeChildren marked } = _
    rw [hnone, Children.removeChildren_empty]

end Edit

/-- **DESTRUCTION IS EXACT**: in every forest, destroying what a handle
    resolves to succeeds; the doomed are gone, the parent of the highest
    of them loses that one child, all else is as it was, and what is left
    is a forest. -/
theorem destroy_exact {s : State b} (h : s.WellLinked) {handle : ContextHandle}
    {locality : UInt32} {i : Fin b.maxHandles}
    (hpos : s.getActiveContextPos handle locality = .ok i) :
    ∃ (t : State b) (top : Fin b.maxHandles),
      destroyContext s handle locality = .ok t ∧
      s.Doomed i top ∧ (∀ j, s.Doomed i j → Subtree s.up top j) ∧
      (∀ j, s.Doomed i j → s.Live j ∧ t.Gone j) ∧
      (∀ j, ¬ s.Doomed i j → t.contexts j
        = if s.up top = some j then (s.contexts j).without ⟨1#64 <<< top.val⟩
          else s.contexts j) ∧
      t = { s with contexts := t.contexts } ∧ t.WellLinked := by
  obtain ⟨marked, top, hrun, hsummit, hcut⟩ := State.destroyContext_spec h hpos
  have hmarked : ∀ j : Fin b.maxHandles, marked.hasChild b j = true ↔ s.Doomed i j :=
    fun j => (hcut.2.1 j).trans (hsummit.doomed_iff j)
  refine ⟨_, top, hrun, (hsummit.doomed_iff top).mp (Subtree.refl top),
    fun j hj => (hsummit.doomed_iff j).mpr hj, fun j hj => ⟨?_, ?_⟩, fun j hj => ?_,
    rfl, Edit.wellLinked_prune h hcut⟩
  · exact h.live_subtree hcut.1 ((hsummit.doomed_iff j).mpr hj)
  · exact Edit.prune_gone ((hmarked j).mpr hj)
  · exact Edit.prune_stays h hcut fun hm => hj ((hmarked j).mp hm)

/-! ## A destruction to look at -/

/-- The default context, retired, and its child under the handle of
    bytes 9. -/
def retiredCalls : List SampleCall :=
  [sampleInit 1,
    ⟨.command 1 (.deriveContext
      { handle := .default
        data := .replicate _ 1
        flags := ⟨0⟩
        tciType := 1
        targetLocality := 0
        svn := 0 }), [9], 44⟩]

/-- Destroying the child takes the retired parent with it. -/
theorem destroy_exact_retired : ∃ t,
    destroyContext (played retiredCalls) (sampleHandle 9) 1 = .ok t ∧
      t.Gone (sampleSlot 0) ∧ t.Gone (sampleSlot 1) ∧ t.WellLinked := by
  have hreach : Reachable (played retiredCalls) := reachable_played (by decide +kernel)
  have hpos : (played retiredCalls).getActiveContextPos (sampleHandle 9) 1
      = .ok (sampleSlot 1) := by
    decide +kernel
  have honly : Edit.OnlyChild (played retiredCalls) (sampleSlot 0) (sampleSlot 1) :=
    ⟨by decide +kernel, by decide +kernel, by decide +kernel⟩
  obtain ⟨t, top, hrun, -, -, hgone, -, -, hlinked⟩ :=
    destroy_exact hreach.wellFormed.wellLinked hpos
  exact ⟨t, hrun, (hgone _ (.inr (.single honly))).2,
    (hgone _ (.inl (Subtree.refl _))).2, hlinked⟩

end Dpe
