import Dpe.Abstract.Shape
import Dpe.Proofs.Sample

/-! # Isolation — what is out of a command's reach

    A command reaches the context that its handle names in the caller's
    locality, what lies below it, the retired contexts that go with it
    and the slot it fills.  One more context may lose a child.  All else
    stays as it is, in whatever locality it is. -/

namespace Dpe

open Forest Prog Runs

variable {b : Build} {s s' : State b} {i j : Fin b.maxHandles}

/-- The handle that a command names. -/
def Command.handle? : Command b → Option ContextHandle
  | getProfile _ => none
  | initCtx _ => none
  | deriveContext cmd => some cmd.handle
  | certifyKey cmd => some cmd.handle
  | sign cmd => some cmd.handle
  | rotateCtx cmd => some cmd.handle
  | destroyCtx cmd => some cmd.handle
  | getCertificateChain _ => none
  | updateContextMeasurement cmd => some cmd.parentHandle

/-- DestroyContext and the exporting DeriveContext. -/
def Command.destroys : Command b → Bool
  | destroyCtx _ => true
  | deriveContext cmd => cmd.flags.createsCertificate && cmd.flags.exportsCdi
  | getProfile _ | initCtx _ | certifyKey _ | sign _ | rotateCtx _
  | getCertificateChain _ | updateContextMeasurement _ => false

/-! ## Within reach -/

/-- Slot `j` is within reach of a command that names slot `i`. -/
inductive InReach (s s' : State b) (cmd : Command b)
    (i j : Fin b.maxHandles) : Prop where
  /-- the context itself and what lies below it -/
  | below (h : Subtree s.up i j)
  /-- a retired context above it, with nothing else in between -/
  | retired (destroys : cmd.destroys = true) (above : Below s.up j i)
      (chain : ∀ k, Subtree s.up j k → Below s.up k i →
        (s.contexts k).state = .retired)
      (gone : ¬ s'.Live j)
  /-- the slot that a derivation fills -/
  | slot (derive : ∃ dcmd, cmd = .deriveContext dcmd)
      (free : s.getNextInactiveContextPos = some j) (filled : s'.Live j)

/-- Slot `j` is the nearest context above slot `i` that is left, and all
    that it has lost is one child. -/
structure Bereft (s s' : State b) (cmd : Command b)
    (i j : Fin b.maxHandles) : Prop where
  destroys : cmd.destroys = true
  above : Below s.up j i
  left : s'.Live j
  nearest : ∀ k, Below s.up j k → Subtree s.up k i → ¬ s'.Live k
  lost : ∃ c : Fin b.maxHandles, s.up c = some j ∧ Subtree s.up c i ∧
    s'.contexts j = (s.contexts j).without ⟨1#64 <<< c.val⟩

/-- Nothing out of reach has changed. -/
structure Confined (s s' : State b) (cmd : Command b)
    (i : Fin b.maxHandles) : Prop where
  rest : { s' with contexts := s.contexts } = s
  others : ∀ j, ¬ InReach s s' cmd i j →
    s'.contexts j = s.contexts j ∨ Bereft s s' cmd i j

theorem Confined.refl (s : State b) (cmd : Command b) (i : Fin b.maxHandles) :
    Confined s s cmd i := ⟨rfl, fun _ _ => .inl rfl⟩

/-! ## Replacing contexts -/

/-- The contexts of `P` apart, the two states are the same. -/
structure Apart (P : Fin b.maxHandles → Prop) (s s' : State b) : Prop where
  rest : { s' with contexts := s.contexts } = s
  others : ∀ j, ¬ P j → s'.contexts j = s.contexts j

namespace Apart

variable {P : Fin b.maxHandles → Prop}

theorem refl (P : Fin b.maxHandles → Prop) (s : State b) : Apart P s s :=
  ⟨rfl, fun _ _ => rfl⟩

theorem set (h : Apart P s s') (hj : P j) (c : Context b) :
    Apart P s (s'.set j c) where
  rest := h.rest
  others k hk := by
    have hne : k ≠ j := by
      rintro rfl
      exact hk hj
    rw [State.set_of_ne hne]
    exact h.others k hk

theorem confined {cmd : Command b}
    (h : Apart (InReach s s' cmd i) s s') : Confined s s' cmd i :=
  ⟨h.rest, fun j hj => .inl (h.others j hj)⟩

end Apart

/-! ## Taking out a subtree -/

section Prune

variable {cmd : Command b} {marked : Children} {top : Fin b.maxHandles}

/-- What is left out of the subtree keeps its children, the parent of the
    subtree apart. -/
theorem without_eq (h : s.WellFormed) (hcut : Edit.Cut s marked top)
    (hj : ¬ Subtree s.up top j) (htop : s.up top ≠ some j) :
    (s.contexts j).without marked = s.contexts j := by
  have hbits : (s.contexts j).children.removeChildren marked
      = (s.contexts j).children.removeChildren .empty := by
    refine (h.inRange j).removeChildren_congr fun c hc => ?_
    have hup := (h.child_iff j c).mp hc
    rw [hcut.2.1 c, Children.hasChild_empty]
    constructor
    · intro hsub
      by_cases hct : c = top
      · rw [hct] at hup
        exact absurd hup htop
      · obtain ⟨p, hp, hpsub⟩ := hsub.parent_mem hct
        rw [hup] at hp
        cases hp
        exact absurd hpsub hj
    · intro hno
      cases hno
  unfold Context.without
  rw [hbits, Children.removeChildren_empty]

/-- The parent of the subtree loses one child. -/
theorem without_top (h : s.WellFormed) (hcut : Edit.Cut s marked top)
    (hj : ¬ Subtree s.up top j) (htop : s.up top = some j) :
    (s.contexts j).without marked
      = (s.contexts j).without ⟨1#64 <<< top.val⟩ := by
  have hbits : (s.contexts j).children.removeChildren marked
      = (s.contexts j).children.removeChildren ⟨1#64 <<< top.val⟩ := by
    refine (h.inRange j).removeChildren_congr fun c hc => ?_
    have hup := (h.child_iff j c).mp hc
    rw [hcut.2.1 c, Children.hasChild_bit]
    constructor
    · intro hsub
      by_contra hct
      obtain ⟨p, hp, hpsub⟩ := hsub.parent_mem hct
      rw [hup] at hp
      cases hp
      exact hj hpsub
    · rintro rfl
      exact Subtree.refl _
  unfold Context.without
  rw [hbits]

/-- **PRUNING IS CONFINED** to the named context, what is below it and the
    retired contexts above it. -/
theorem confined_prune (h : s.WellFormed) (hd : cmd.destroys = true)
    (hsummit : State.Summit s i top) (hcut : Edit.Cut s marked top) :
    Confined s ((Edit.prune marked).apply s) cmd i := by
  have hgone : ∀ k, Subtree s.up top k →
      ¬ ((Edit.prune marked).apply s).Live k := by
    intro k hk hlive
    unfold State.Live at hlive
    rw [Edit.prune_marked ((hcut.2.1 k).mpr hk)] at hlive
    exact hlive rfl
  refine ⟨rfl, fun j hout => ?_⟩
  have hj : ¬ Subtree s.up top j := by
    intro hsub
    by_cases hi : Subtree s.up i j
    · exact hout (.below hi)
    · refine hout (.retired hd (hsummit.retired j hsub hi).2 ?_ (hgone j hsub))
      intro k hjk hki
      refine (hsummit.retired k (hsub.trans hjk) fun hik => ?_).1
      exact h.not_below_self (h.live_subtree hcut.1 (hsub.trans hjk))
        (Relation.TransGen.trans_left hki hik)
  have hm : ¬ marked.hasChild b j = true := fun hm => hj ((hcut.2.1 j).mp hm)
  rw [Edit.prune_other hm]
  by_cases htop : s.up top = some j
  · have habove : Below s.up j i :=
      Relation.TransGen.head' htop hsummit.above
    refine .inr ⟨hd, habove, ?_, ?_, top, htop, hsummit.above,
      (Edit.prune_other hm).trans (without_top h hcut hj htop)⟩
    · unfold State.Live
      rw [Edit.prune_other hm]
      exact h.live_parent htop
    · intro k hjk hki
      refine hgone k ?_
      rcases hki.comparable hsummit.above with hk | hk
      · rcases Relation.reflTransGen_iff_eq_or_transGen.mp hk with rfl | hb
        · exact Subtree.refl _
        · obtain ⟨p, hkp, hp⟩ := Relation.TransGen.tail'_iff.mp hb
          rw [Child, htop] at hp
          cases hp
          exact absurd (Relation.TransGen.trans_left hjk hkp)
            (h.not_below_self (h.live_parent htop))
      · exact hk
  · exact .inl (without_eq h hcut hj htop)

end Prune

/-! ## Effects -/

section Effects

variable {W : Type} {d : Deps b W} {locality : UInt32} {cmd : Command b}
  {draws : List (Vector UInt8 16)} {es : List (Edit b)} {handle : ContextHandle}

/-- **EFFECTS ARE CONFINED** to what is within reach of the context that
    the handle names. -/
theorem confined_effect (h : s.WellFormed) (he : Effect d s locality cmd draws es)
    (hnames : cmd.handle? = some handle)
    (hres : s.getActiveContextPos handle locality = .ok i) :
    Confined s (Edit.applyAll s es) cmd i := by
  cases he with
  | getProfile | getCertificateChain | initCtx => cases hnames
  | rotateCtx _ resolves | sign resolves | certifyKey resolves =>
      cases hnames
      rw [resolves] at hres
      cases hres
      exact ((Apart.refl _ s).set (.below (Subtree.refl _)) _).confined
  | destroyCtx resolves summit cut =>
      cases hnames
      rw [resolves] at hres
      cases hres
      exact confined_prune h rfl summit cut
  | @updateContextMeasurement _ _ child _ _ _ _ _ _ resolves found =>
      cases hnames
      rw [resolves] at hres
      cases hres
      have hup := (h.child_iff i child).mp
        (UpdateContextMeasurementCmd.findChild_some found).1
      have hchild := (Subtree.refl i).child hup
      exact ((((Apart.refl _ s).set (.below (Subtree.refl _)) _).set
        (.below hchild) _).set (.below hchild) _).confined
  | recursive accepted =>
      cases hnames
      rw [accepted.resolves] at hres
      cases hres
      exact (((Apart.refl _ s).set (.below (Subtree.refl _)) _).set
        (.below (Subtree.refl _)) _).confined
  | @child _ _ child _ _ _ _ _ accepted _ _ slot =>
      cases hnames
      rw [accepted.resolves] at hres
      cases hres
      have hidle := State.getNextInactiveContextPos_some slot
      have hne : child ≠ i := by
        intro heq
        rw [heq] at hidle
        exact State.live_of_resolves accepted.resolves hidle
      refine (((Apart.refl _ s).set (.slot ⟨_, rfl⟩ slot ?_) _).set
        (.below (Subtree.refl _)) _).confined
      show (((Edit.adopt ..).apply s).contexts child).state ≠ _
      rw [Edit.adopt_child hne]
      exact fun hno => by cases hno
  | exportDestroyed accepted exported _ _ summit cut =>
      cases hnames
      rw [accepted.resolves] at hres
      cases hres
      exact confined_prune h exported summit cut
  | exportRetired accepted | exportRetained accepted =>
      cases hnames
      rw [accepted.resolves] at hres
      cases hres
      exact ((Apart.refl _ s).set (.below (Subtree.refl _)) _).confined

/-- A command whose handle does not resolve makes no edit. -/
theorem resolves_of_effect (he : Effect d s locality cmd draws es)
    (hnames : cmd.handle? = some handle) :
    ∃ i, s.getActiveContextPos handle locality = .ok i := by
  cases he with
  | getProfile | getCertificateChain | initCtx => cases hnames
  | rotateCtx _ resolves | sign resolves | certifyKey resolves
  | destroyCtx resolves | updateContextMeasurement _ resolves =>
      cases hnames
      exact ⟨_, resolves⟩
  | recursive accepted =>
      cases hnames
      exact ⟨_, accepted.resolves⟩
  | child accepted | exportDestroyed accepted | exportRetired accepted
  | exportRetained accepted =>
      cases hnames
      exact ⟨_, accepted.resolves⟩

/-- A root is planted in a blank slot. -/
theorem apart_initCtx {icmd : InitCtxCmd}
    (he : Effect d s locality (.initCtx icmd) draws es) :
    { Edit.applyAll s es with
        contexts := s.contexts
        hasInitialized := s.hasInitialized } = s ∧
      ∀ j, (Edit.applyAll s es).contexts j = s.contexts j ∨
        (s.getNextInactiveContextPos = some j ∧
          (Edit.applyAll s es).Live j) := by
  cases he with
  | @initCtx _ idx _ _ _ slot =>
      refine ⟨rfl, fun j => ?_⟩
      by_cases hj : j = idx
      · rw [hj]
        refine .inr ⟨slot, ?_⟩
        simp only [Edit.applyAll_cons, Edit.applyAll_nil]
        unfold State.Live
        rw [Edit.plant_self]
        exact fun hno => by cases hno
      · refine .inl ?_
        simp only [Edit.applyAll_cons, Edit.applyAll_nil]
        rw [Edit.plant_other hj]

end Effects

/-! ## Steps -/

/-- **ISOLATION**: a command whose handle names nothing in the caller's
    locality changes nothing; one whose handle names a context changes
    nothing out of its reach; and `InitCtx` changes the slot that it
    fills. -/
theorem isolated (h : Reachable s) {x : Exec b} {locality : UInt32}
    {cmd : Command b} (hcall : x.call = .command locality cmd)
    (hstep : Exec.Step s x s') :
    (∀ handle, cmd.handle? = some handle →
      ((∀ i, (s.contexts i).state = .active → (s.contexts i).handle = handle →
          (s.contexts i).locality ≠ locality) → s' = s) ∧
      ∀ i, s.getActiveContextPos handle locality = .ok i →
        Confined s s' cmd i) ∧
    ∀ icmd, cmd = .initCtx icmd →
      { s' with
          contexts := s.contexts
          hasInitialized := s.hasInitialized } = s ∧
        ∀ j, s'.contexts j = s.contexts j ∨
          (s.getNextInactiveContextPos = some j ∧ s'.Live j) := by
  obtain ⟨draws, es, heffect, rfl⟩ := hstep.effect h.wellFormed
  rw [hcall] at heffect
  refine ⟨fun handle hnames => ⟨fun hno => ?_, fun i hres => ?_⟩, ?_⟩
  · have hnone : ∀ i, s.getActiveContextPos handle locality ≠ .ok i := by
      intro i hi
      obtain ⟨hactive, hhandle, hlocality⟩ := State.getActiveContextPos_ok hi
      exact hno i hactive hhandle hlocality
    cases heffect with
    | command effect =>
        obtain ⟨i, hi⟩ := resolves_of_effect effect hnames
        exact absurd hi (hnone i)
    | parentRolled _ resolves =>
        cases hnames
        exact absurd resolves (hnone _)
    | failed => rfl
  · cases heffect with
    | command effect => exact confined_effect h.wellFormed effect hnames hres
    | parentRolled _ resolves =>
        cases hnames
        rw [resolves] at hres
        cases hres
        exact ((Apart.refl _ s).set (.below (Subtree.refl _)) _).confined
    | failed => exact Confined.refl s cmd i
  · rintro icmd rfl
    cases heffect with
    | command effect => exact apart_initCtx effect
    | failed => exact ⟨rfl, fun _ => .inl rfl⟩

/-- Locality 1 destroys its own context; that of locality 0 stays. -/
theorem isolated_played :
    Confined (played [sampleInit 0, sampleSimulation 1 5])
      (played ([sampleInit 0, sampleSimulation 1 5]
        ++ [⟨.command 1 (.destroyCtx ⟨sampleHandle 5⟩), [], 12⟩]))
      (.destroyCtx ⟨sampleHandle 5⟩) (sampleSlot 1) := by
  have hreach : Reachable (played [sampleInit 0, sampleSimulation 1 5]) :=
    reachable_played (by decide +kernel)
  have hplays : (play sampleNew ([sampleInit 0, sampleSimulation 1 5]
      ++ [⟨.command 1 (.destroyCtx ⟨sampleHandle 5⟩), [], 12⟩])).isSome = true := by
    decide +kernel
  have hstep := step_played hplays
  exact ((isolated hreach rfl hstep).1 (sampleHandle 5) rfl).2 (sampleSlot 1)
    (by decide +kernel)

end Dpe
