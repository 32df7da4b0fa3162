import Dpe.Abstract.Shape
import Dpe.Proofs.Sample

/-! # Privileges — what a context may do, its parent may do

    A permission is given to a child only by a parent that has it, and it
    is never given to a context later on. -/

namespace Dpe

open Forest

variable {b : Build}

/-- What `c` is allowed, `p` is allowed. -/
structure Context.Grants (p c : Context b) : Prop where
  allowX509 : c.allowX509 = true → p.allowX509 = true
  allowExportCdi : c.allowExportCdi = true → p.allowExportCdi = true
  allowRecursive : c.allowRecursive = true → p.allowRecursive = true

namespace Context.Grants

variable {p c c' p' : Context b}

theorem refl (c : Context b) : c.Grants c := ⟨id, id, id⟩

theorem trans (h : p.Grants c) (h' : c.Grants c') : p.Grants c' where
  allowX509 hc := h.allowX509 (h'.allowX509 hc)
  allowExportCdi hc := h.allowExportCdi (h'.allowExportCdi hc)
  allowRecursive hc := h.allowRecursive (h'.allowRecursive hc)

/-- A context that is alike is allowed the same. -/
theorem of_alike (h : c.Alike c') : c.Grants c' where
  allowX509 hc := h.allowX509 ▸ hc
  allowExportCdi hc := h.allowExportCdi ▸ hc
  allowRecursive hc := h.allowRecursive ▸ hc

theorem of_alike' (h : c.Alike c') : c'.Grants c where
  allowX509 hc := h.allowX509.trans hc
  allowExportCdi hc := h.allowExportCdi.trans hc
  allowRecursive hc := h.allowRecursive.trans hc

theorem alike (h : p.Grants c) (hp : p.Alike p') (hc : c.Alike c') :
    p'.Grants c' := ((of_alike' hp).trans h).trans (of_alike hc)

/-- Destruction takes permissions away. -/
theorem destroy (c : Context b) : c.Grants c.destroy where
  allowX509 hc := by cases hc
  allowExportCdi := id
  allowRecursive hc := by cases hc

/-- A parent that adopts a child keeps its permissions. -/
theorem adopt (kept : Option ContextHandle) (idx : Fin b.maxHandles) :
    c.Grants ((c.keep kept).withChild idx)
      ∧ ((c.keep kept).withChild idx).Grants c := by
  cases kept <;> exact ⟨⟨id, id, id⟩, id, id, id⟩

end Context.Grants

/-- Permissions come from the parent, and a simulation has no recursive
    one. -/
structure State.Privileged (s : State b) : Prop where
  parent : ∀ p c, s.up c = some p → (s.contexts p).Grants (s.contexts c)
  simulation : ∀ i, s.Live i → (s.contexts i).contextType = .simulation →
    (s.contexts i).allowRecursive = false

namespace State.Privileged

variable {s s' : State b}

theorem ofNew (support : Support) (flags : DpeFlags) :
    (State.new b support flags).Privileged where
  parent p c hc := by
    rw [State.up_of_root rfl] at hc
    cases hc
  simulation i hi := absurd rfl hi

theorem alike (h : s.Privileged) (ha : s.Alike s') : s'.Privileged where
  parent p c hc := by
    rw [ha.up] at hc
    exact (h.parent p c hc).alike (ha.contexts p) (ha.contexts c)
  simulation i hi ht := by
    rw [(ha.contexts i).contextType] at ht
    rw [(ha.contexts i).allowRecursive]
    exact h.simulation i ((ha.live i).mp hi) ht

/-- A permission holds all the way up. -/
theorem subtree (h : s.Privileged) {a c : Fin b.maxHandles}
    (hsub : Subtree s.up a c) : (s.contexts a).Grants (s.contexts c) := by
  induction hsub with
  | refl => exact .refl _
  | tail _ hc ih => exact ih.trans (h.parent _ _ hc)

end State.Privileged

/-! ## The three shapes that change the tree -/

section Steps

variable {s : State b}

open Edit

theorem privileged_plant (h : s.WellFormed) (hp : s.Privileged)
    {cmd : InitCtxCmd} {idx : Fin b.maxHandles} {handle : ContextHandle}
    {locality : UInt32} (hidle : (s.contexts idx).state = .inactive) :
    ((plant idx (cmd.activeContextArgs cmd.contextType handle locality)).apply
      s).Privileged where
  parent p c hc := by
    rw [plant_up h hidle rfl] at hc
    have hcne : c ≠ idx := by
      intro he
      rw [he, h.up_inactive hidle] at hc
      cases hc
    have hpne : p ≠ idx := by
      intro he
      rw [he] at hc
      exact h.up_ne_inactive hidle c hc
    rw [plant_other hcne, plant_other hpne]
    exact hp.parent p c hc
  simulation i hi ht := by
    by_cases he : i = idx
    · rw [he, plant_self] at ht ⊢
      have htype : cmd.contextType = .simulation := ht
      show cmd.flagIsDefault = false
      by_contra hno
      rw [InitCtxCmd.contextType, if_pos (by simpa using hno)] at htype
      cases htype
    · unfold State.Live at hi
      rw [plant_other he] at hi ht ⊢
      exact hp.simulation i hi ht

theorem privileged_adopt (h : s.WellFormed) (hp : s.Privileged)
    {cmd : DeriveContextCmd b} {locality : UInt32}
    {parent child : Fin b.maxHandles} {kept : Option ContextHandle}
    {handle : ContextHandle} {cumulative : TciMeasurement b}
    (hacc : cmd.FromParent s locality parent)
    (hidle : (s.contexts child).state = .inactive) :
    ((adopt parent child kept (cmd.activeContextArgs
      (s.contexts parent).contextType (s.contexts parent) parent handle
      (cmd.childLocality locality)) cmd.data cumulative).apply s).Privileged := by
  have hlive := State.live_of_resolves hacc.resolves
  have hlegal : (adopt parent child kept (cmd.activeContextArgs
      (s.contexts parent).contextType (s.contexts parent) parent handle
      (cmd.childLocality locality)) cmd.data cumulative).Legal s :=
    ⟨hlive, hidle, rfl, rfl⟩
  have hne := adopt_ne hlegal
  have hsame : ∀ i, i ≠ child →
      (s.contexts i).Grants (((adopt parent child kept (cmd.activeContextArgs
        (s.contexts parent).contextType (s.contexts parent) parent handle
        (cmd.childLocality locality)) cmd.data cumulative).apply s).contexts i)
      ∧ (((adopt parent child kept (cmd.activeContextArgs
        (s.contexts parent).contextType (s.contexts parent) parent handle
        (cmd.childLocality locality)) cmd.data cumulative).apply s).contexts
          i).Grants (s.contexts i) := by
    intro i hi
    by_cases hip : i = parent
    · rw [hip, adopt_parent]
      exact Context.Grants.adopt kept child
    · rw [adopt_other hi hip]
      exact ⟨.refl _, .refl _⟩
  have hvalid := hacc.valid
  simp only [DeriveContextCmd.invalid, Bool.or_eq_false_iff] at hvalid
  have hx509 := hvalid.1.1.1.1.1.1.1.1
  refine ⟨?_, ?_⟩
  · intro p c hc
    by_cases hcc : c = child
    · rw [hcc, adopt_up_child hlegal] at hc
      cases hc
      refine (hsame parent hne.symm).2.trans ?_
      rw [hcc, adopt_child hne]
      refine ⟨?_, ?_, ?_⟩
      · intro hallow
        have hflag : cmd.flags.allowsX509 = true := hallow
        rw [hflag, Bool.and_true] at hx509
        simpa using hx509
      · intro hallow
        exact (Bool.and_eq_true_iff.mp hallow).2
      · intro hallow
        exact (Bool.and_eq_true_iff.mp hallow).2
    · rw [adopt_up_other hcc] at hc
      have hpc : p ≠ child := by
        intro he
        rw [he] at hc
        exact h.up_ne_inactive hidle c hc
      exact (hsame p hpc).2.trans ((hp.parent p c hc).trans (hsame c hcc).1)
  · intro i hi ht
    by_contra hno
    rw [Bool.not_eq_false] at hno
    by_cases hic : i = child
    · rw [hic, adopt_child hne] at hno ht
      have hparent : (s.contexts parent).allowRecursive = true :=
        (Bool.and_eq_true_iff.mp hno).2
      rw [hp.simulation parent hlive ht] at hparent
      cases hparent
    · have hallow := (hsame i hic).1.allowRecursive hno
      have hlive' : s.Live i := by
        by_cases hip : i = parent
        · rw [hip]
          exact hlive
        · unfold State.Live at hi
          rw [adopt_other hic hip] at hi
          exact hi
      have htype : (s.contexts i).contextType = .simulation := by
        by_cases hip : i = parent
        · rw [hip, adopt_parent] at ht
          rw [hip]
          exact (Context.keep_contextType ..).symm.trans ht
        · rw [adopt_other hic hip] at ht
          exact ht
      rw [hp.simulation i hlive' htype] at hallow
      cases hallow

theorem privileged_prune (hp : s.Privileged) {marked : Children}
    {top : Fin b.maxHandles} (hcut : Cut s marked top) :
    ((prune marked).apply s).Privileged where
  parent p c hc := by
    obtain ⟨hmc, hmp, hup⟩ := prune_up_some hcut hc
    rw [prune_other hmc, prune_other hmp]
    have hgrants := hp.parent p c hup
    exact ⟨hgrants.allowX509, hgrants.allowExportCdi, hgrants.allowRecursive⟩
  simulation i hi ht := by
    by_cases hm : marked.hasChild b i = true
    · rw [prune_marked hm]
      rfl
    · unfold State.Live at hi
      rw [prune_other hm] at hi ht ⊢
      exact hp.simulation i hi ht

/-- What is live is never given a permission. -/
theorem grants_effect (h : s.WellFormed) {W : Type} {d : Deps b W} {call : Call b}
    {draws : List (Vector UInt8 16)} {es : List (Edit b)}
    (he : CallEffect d s call draws es) {i : Fin b.maxHandles} (hi : s.Live i) :
    (s.contexts i).Grants ((applyAll s es).contexts i) := by
  have hrun := he.run h
  cases he.shape with
  | tame htame => exact .of_alike ((alike_of_run htame hrun).contexts i)
  | @plant cmd idx handle locality es _ hidle htame =>
      cases hrun with
      | cons hstep hrun =>
          obtain ⟨-, rfl⟩ := hstep
          have halike := alike_of_run htame hrun
          have hne : i ≠ idx := by
            intro he
            rw [he] at hi
            exact hi hidle
          have hsame := halike.contexts i
          rw [plant_other hne] at hsame
          exact .of_alike hsame
  | @adopt cmd locality parent child kept handle cumulative hacc hidle =>
      have hic : i ≠ child := by
        intro he
        rw [he] at hi
        exact hi hidle
      show (s.contexts i).Grants (((Edit.adopt ..).apply s).contexts i)
      by_cases hip : i = parent
      · rw [hip, adopt_parent]
        exact (Context.Grants.adopt kept child).1
      · rw [adopt_other hic hip]
        exact .refl _
  | @prune marked idx top _ hcut =>
      show (s.contexts i).Grants (((Edit.prune marked).apply s).contexts i)
      by_cases hm : marked.hasChild b i = true
      · rw [prune_marked hm]
        have hgrants := Context.Grants.destroy ((s.contexts i).without marked)
        exact ⟨hgrants.allowX509, hgrants.allowExportCdi, hgrants.allowRecursive⟩
      · rw [prune_other hm]
        exact ⟨id, id, id⟩

theorem privileged_effect (h : s.WellFormed) (hp : s.Privileged) {W : Type}
    {d : Deps b W} {call : Call b} {draws : List (Vector UInt8 16)}
    {es : List (Edit b)} (he : CallEffect d s call draws es) :
    (applyAll s es).Privileged := by
  have hrun := he.run h
  cases he.shape with
  | tame htame => exact hp.alike (alike_of_run htame hrun)
  | plant _ hidle htame =>
      cases hrun with
      | cons hstep hrun =>
          obtain ⟨-, rfl⟩ := hstep
          exact (privileged_plant h hp hidle).alike (alike_of_run htame hrun)
  | adopt hacc hidle => exact privileged_adopt h hp hacc hidle
  | prune _ hcut => exact privileged_prune hp hcut

end Steps

/-- **PRIVILEGES SHRINK** down the tree, and no call gives one to a
    context that is live already. -/
theorem reachable_privileged {s : State b} (h : Reachable s) :
    (∀ p c, s.Live c → s.up c = some p → (s.contexts p).Grants (s.contexts c)) ∧
    (∀ a c, s.Live c → Subtree s.up a c → (s.contexts a).Grants (s.contexts c)) ∧
    (∀ i, s.Live i → (s.contexts i).contextType = .simulation →
      (s.contexts i).allowRecursive = false) ∧
    ∀ x s', Exec.Step s x s' → ∀ i, s.Live i →
      (s.contexts i).Grants (s'.contexts i) := by
  obtain ⟨hwell, hp⟩ := h.invariant State.Privileged.ofNew
    fun hwell hp he => privileged_effect hwell hp he
  refine ⟨fun p c _ hc => hp.parent p c hc, fun a c _ hsub => hp.subtree hsub,
    hp.simulation, ?_⟩
  intro x s' hstep i hi
  obtain ⟨draws, es, heffect, rfl⟩ := hstep.effect hwell
  exact grants_effect hwell heffect hi

/-- The child of a default context has got two of the three. -/
theorem privileged_played :
    ((played [sampleInit 0, sampleDerive 0 0 (DeriveContextFlags.MAKE_DEFAULT
      ||| DeriveContextFlags.INPUT_ALLOW_X509
      ||| DeriveContextFlags.ALLOW_RECURSIVE) 5 0 [] 44]).contexts (sampleSlot 0)).Grants
    ((played [sampleInit 0, sampleDerive 0 0 (DeriveContextFlags.MAKE_DEFAULT
      ||| DeriveContextFlags.INPUT_ALLOW_X509
      ||| DeriveContextFlags.ALLOW_RECURSIVE) 5 0 [] 44]).contexts (sampleSlot 1)) :=
  (reachable_privileged (reachable_played (by decide +kernel))).1 (sampleSlot 0)
    (sampleSlot 1) (by decide +kernel) (by decide +kernel)

end Dpe
