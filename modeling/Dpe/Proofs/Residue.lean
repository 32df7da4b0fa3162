import Dpe.Commands.Derive
import Dpe.Commands.Keys
import Dpe.Lib.Twins

/-! # Residue — states that differ in what destruction leaves behind

    Destroying a context blanks most of its fields; the handle becomes
    invalid, and the type and a permission stay as they were.  Two states
    are alike when they differ only in such stale fields of inactive
    slots.  Every search, count and walk of the table gives the same on
    both, and destroying a context leaves them alike. -/

namespace Dpe

open Prog

variable {b : Build} {stale : ContextHandle → Prop} {pinned : Fin b.maxHandles → Prop}

/-! ## Contexts -/

/-- The context with the stale fields of another. -/
def Context.staleAs (c other : Context b) : Context b :=
  { c with
    handle := other.handle
    contextType := other.contextType
    allowX509 := other.allowX509
    allowExportCdi := other.allowExportCdi
    allowRecursive := other.allowRecursive }

/-- The same context, or two inactive ones that differ in stale fields
    only; if the handles differ they are among the `stale` ones. -/
def Context.Residual (stale : ContextHandle → Prop) (c c' : Context b) : Prop :=
  c' = c ∨ (c.state = .inactive ∧ c' = c.staleAs c' ∧
    (c'.handle = c.handle ∨ stale c.handle ∧ stale c'.handle))

namespace Context.Residual

variable {c c' : Context b}

theorem refl (c : Context b) : Context.Residual stale c c := .inl rfl

theorem state_eq (h : Context.Residual stale c c') : c'.state = c.state := by
  rcases h with rfl | ⟨-, heq, -⟩
  · rfl
  · rw [heq, staleAs]

theorem tci_eq (h : Context.Residual stale c c') : c'.tci = c.tci := by
  rcases h with rfl | ⟨-, heq, -⟩
  · rfl
  · rw [heq, staleAs]

theorem children_eq (h : Context.Residual stale c c') : c'.children = c.children := by
  rcases h with rfl | ⟨-, heq, -⟩
  · rfl
  · rw [heq, staleAs]

theorem parentIdx_eq (h : Context.Residual stale c c') : c'.parentIdx = c.parentIdx := by
  rcases h with rfl | ⟨-, heq, -⟩
  · rfl
  · rw [heq, staleAs]

/-- A live context is the same. -/
theorem eq_of_live (h : Context.Residual stale c c') (hlive : c.state ≠ .inactive) :
    c' = c := by
  rcases h with heq | ⟨hidle, -⟩
  · exact heq
  · exact absurd hidle hlive

/-- A test that only an active context passes. -/
theorem test (h : Context.Residual stale c c') {f : Context b → Bool}
    (hf : ∀ c, c.state = .inactive → f c = false) : f c' = f c := by
  rcases h with rfl | ⟨hidle, heq, -⟩
  · rfl
  · have hidle' : c'.state = .inactive := by
      rw [heq]
      exact hidle
    rw [hf c hidle, hf c' hidle']

/-- A handle that is not stale belongs to both or to none. -/
theorem handle_beq (h : Context.Residual stale c c') {handle : ContextHandle}
    (hfresh : ¬ stale handle) : (c'.handle == handle) = (c.handle == handle) := by
  rcases h with rfl | ⟨-, -, heq | ⟨hold, hold'⟩⟩
  · rfl
  · rw [heq]
  · have hne : c.handle ≠ handle := fun heq => hfresh (heq ▸ hold)
    have hne' : c'.handle ≠ handle := fun heq => hfresh (heq ▸ hold')
    rw [beq_eq_false_iff_ne.mpr hne, beq_eq_false_iff_ne.mpr hne']

theorem removeChildren (h : Context.Residual stale c c') (marked : Children) :
    Context.Residual stale { c with children := c.children.removeChildren marked }
      { c' with children := c'.children.removeChildren marked } := by
  rcases h with rfl | ⟨hidle, heq, hhandle⟩
  · exact .inl rfl
  · refine .inr ⟨hidle, ?_, hhandle⟩
    have hchildren : c'.children = c.children := by
      rw [heq, staleAs]
    rw [hchildren, heq]
    rfl

/-- Destruction leaves one handle, whatever there was before. -/
theorem destroy (h : Context.Residual stale c c') :
    Context.Residual stale c.destroy c'.destroy := by
  rcases h with rfl | ⟨hidle, heq, -⟩
  · exact .inl rfl
  · refine .inr ⟨rfl, ?_, .inl rfl⟩
    rw [heq]
    rfl

end Context.Residual

/-! ## States -/

/-- The states have the same inactive slots, and differ in stale fields
    of these only. -/
structure State.SameButStale (s s' : State b) : Prop where
  rest : { s' with contexts := s.contexts } = s
  slots : ∀ i, s'.contexts i = s.contexts i ∨ ((s.contexts i).state = .inactive ∧
    s'.contexts i = (s.contexts i).staleAs (s'.contexts i))

/-- The states differ in stale fields of inactive slots only, where they
    do the handles are among the `stale` ones, and they do not differ in
    the `pinned` slots. -/
structure State.Residual (stale : ContextHandle → Prop)
    (pinned : Fin b.maxHandles → Prop) (s s' : State b) : Prop where
  rest : { s' with contexts := s.contexts } = s
  slots : ∀ i, Context.Residual stale (s.contexts i) (s'.contexts i)
  pins : ∀ i, pinned i → s'.contexts i = s.contexts i

namespace State.Residual

variable {s s' : State b}

theorem refl (s : State b) : State.Residual stale pinned s s :=
  ⟨rfl, fun _ => .refl _, fun _ _ => rfl⟩

/-- All slots that are the same may be pinned. -/
theorem pin (h : State.Residual stale pinned s s') :
    State.Residual stale (fun i => s'.contexts i = s.contexts i) s s' :=
  ⟨h.rest, h.slots, fun _ hi => hi⟩

theorem sameButStale (h : State.Residual stale pinned s s') : s.SameButStale s' := by
  refine ⟨h.rest, fun i => ?_⟩
  rcases h.slots i with heq | ⟨hidle, heq, -⟩
  · exact .inl heq
  · exact .inr ⟨hidle, heq⟩

theorem support_eq (h : State.Residual stale pinned s s') : s'.support = s.support := by
  have hrest := congrArg State.support h.rest
  exact hrest

theorem flags_eq (h : State.Residual stale pinned s s') : s'.flags = s.flags := by
  have hrest := congrArg State.flags h.rest
  exact hrest

theorem hasInitialized_eq (h : State.Residual stale pinned s s') :
    s'.hasInitialized = s.hasInitialized := by
  have hrest := congrArg State.hasInitialized h.rest
  exact hrest

/-- Alike states stay alike when the same is done to both outside the
    contexts, and something alike to the contexts. -/
theorem set (h : State.Residual stale pinned s s') (i : Fin b.maxHandles) (c : Context b) :
    State.Residual stale pinned (s.set i c) (s'.set i c) := by
  refine ⟨?_, fun j => ?_, fun j hj => ?_⟩
  · show { s' with contexts := Function.update s.contexts i c } = s.set i c
    exact congrArg (fun t : State b => t.set i c) h.rest
  · rw [set_apply, set_apply]
    split
    · exact .refl c
    · exact h.slots j
  · rw [set_apply, set_apply, h.pins j hj]

theorem setHasInitialized (h : State.Residual stale pinned s s') (v : Bool) :
    State.Residual stale pinned { s with hasInitialized := v } { s' with hasInitialized := v } :=
  ⟨congrArg (fun t : State b => { t with hasInitialized := v }) h.rest, h.slots, h.pins⟩

/-! ## Searches and counts -/

theorem getActiveContextPos_eq (h : State.Residual stale pinned s s') (handle : ContextHandle)
    (locality : UInt32) :
    s'.getActiveContextPos handle locality = s.getActiveContextPos handle locality := by
  have hvalid : ((List.finRange b.maxHandles).filter fun i =>
        (s'.contexts i).state == .active && (s'.contexts i).locality == locality)
      = (List.finRange b.maxHandles).filter fun i =>
        (s.contexts i).state == .active && (s.contexts i).locality == locality := by
    refine List.filter_congr fun i _ => ?_
    exact (h.slots i).test (f := fun c => c.state == .active && c.locality == locality)
      fun c hc => by simp [hc]
  -- what is left after the first filter is active, so the same
  have hhandles : (((List.finRange b.maxHandles).filter fun i =>
        (s.contexts i).state == .active
          && (s.contexts i).locality == locality).filter fun i =>
        (s'.contexts i).handle == handle)
      = ((List.finRange b.maxHandles).filter fun i =>
        (s.contexts i).state == .active
          && (s.contexts i).locality == locality).filter fun i =>
        (s.contexts i).handle == handle := by
    refine List.filter_congr fun i hi => ?_
    have hactive := (List.mem_filter.mp hi).2
    rw [Bool.and_eq_true, beq_iff_eq] at hactive
    rw [(h.slots i).eq_of_live fun hidle => by rw [hidle] at hactive; cases hactive.1]
  have hfind : (fun i => (s'.contexts i).state == .active
        && (s'.contexts i).handle == handle && (s'.contexts i).locality == locality)
      = fun i => (s.contexts i).state == .active
        && (s.contexts i).handle == handle && (s.contexts i).locality == locality := by
    funext i
    exact (h.slots i).test (f := fun c => c.state == .active && c.handle == handle
      && c.locality == locality) fun c hc => by simp [hc]
  unfold getActiveContextPos
  dsimp only
  rw [hvalid, hhandles, hfind]

theorem getNextInactiveContextPos_eq (h : State.Residual stale pinned s s') :
    s'.getNextInactiveContextPos = s.getNextInactiveContextPos := by
  unfold getNextInactiveContextPos
  congr 1
  funext i
  rw [(h.slots i).state_eq]

/-- The context a handle names is the same. -/
theorem resolved (h : State.Residual stale pinned s s') {handle : ContextHandle}
    {locality : UInt32} {i : Fin b.maxHandles}
    (hi : s.getActiveContextPos handle locality = .ok i) :
    s'.contexts i = s.contexts i := by
  refine (h.slots i).eq_of_live fun hidle => ?_
  rw [(getActiveContextPos_ok hi).1] at hidle
  cases hidle

/-- A count of active contexts. -/
theorem countContexts_eq (h : State.Residual stale pinned s s') {f : Context b → Bool}
    (hf : ∀ c, c.state = .inactive → f c = false) :
    s'.countContexts f = s.countContexts f := by
  unfold countContexts
  congr 2
  funext i
  exact (h.slots i).test hf

theorem targetIsTaken_eq (h : State.Residual stale pinned s s') (locality : UInt32)
    (idx : Fin b.maxHandles) :
    RotateCtxCmd.targetIsTaken s' locality idx
      = RotateCtxCmd.targetIsTaken s locality idx := by
  unfold RotateCtxCmd.targetIsTaken RotateCtxCmd.nonDefaultValidHandlesExist
  rw [h.getActiveContextPos_eq]
  congr 2
  funext i
  exact (h.slots i).test (f := fun c => c.state == .active && c.locality == locality
    && !c.handle.isDefault && i != idx) fun c hc => by simp [hc]

theorem findChild_eq (h : State.Residual stale pinned s s') (cmd : UpdateContextMeasurementCmd b)
    (parentIdx : Fin b.maxHandles) :
    cmd.findChild s' parentIdx = cmd.findChild s parentIdx := by
  unfold UpdateContextMeasurementCmd.findChild
  rw [(h.slots parentIdx).children_eq]
  congr 1
  funext i
  rw [(h.slots i).state_eq, (h.slots i).tci_eq]

theorem tciTypeIsUniqueAmongChildren_eq (h : State.Residual stale pinned s s')
    (parentCtx : Context b) (tciType : UInt32) :
    DeriveContextCmd.tciTypeIsUniqueAmongChildren s' parentCtx tciType
      = DeriveContextCmd.tciTypeIsUniqueAmongChildren s parentCtx tciType := by
  unfold DeriveContextCmd.tciTypeIsUniqueAmongChildren
  congr 1
  funext i
  rw [(h.slots i).tci_eq]

theorem safeToMakeChild_eq (h : State.Residual stale pinned s s') (cmd : DeriveContextCmd b)
    (parentIdx : Fin b.maxHandles) (locality : UInt32) :
    cmd.safeToMakeChild s' parentIdx locality
      = cmd.safeToMakeChild s parentIdx locality := by
  have hcount := h.countContexts_eq (f := fun c =>
    c.state == .active && c.locality == locality) fun c hc => by simp [hc]
  unfold DeriveContextCmd.safeToMakeChild
  rw [hcount, h.getActiveContextPos_eq]

/-- A fresh handle collides in both states or in none. -/
theorem collides_eq (h : State.Residual stale pinned s s') {handle : ContextHandle}
    (hfresh : ¬ stale handle) :
    s'.slice.any (fun c => c.handle == handle)
      = s.slice.any fun c => c.handle == handle := by
  have hslice : s'.slice.map (fun c => c.handle == handle)
      = s.slice.map fun c => c.handle == handle := by
    unfold slice
    rw [List.map_ofFn, List.map_ofFn]
    congr 1
    funext i
    exact (h.slots i).handle_beq hfresh
  have hany : ∀ l : List (Context b), l.any (fun c => c.handle == handle)
      = (l.map fun c => c.handle == handle).any id := by
    intro l
    rw [List.any_map]
    rfl
  rw [hany, hany, hslice]

/-! ## Walks -/

/-- A walk meets live contexts only, and these are the same. -/
theorem getContext_eq (h : State.Residual stale pinned s s') :
    RootToChildIter.getContext s'.slice = RootToChildIter.getContext s.slice := by
  funext idx
  unfold RootToChildIter.getContext slice
  rw [List.getElem?_ofFn, List.getElem?_ofFn]
  by_cases hidx : idx < b.maxHandles
  · rw [dif_pos hidx, dif_pos hidx]
    rcases h.slots ⟨idx, hidx⟩ with heq | ⟨hidle, heq, -⟩
    · rw [heq]
    · have hidle' : (s'.contexts ⟨idx, hidx⟩).state = .inactive := by
        rw [heq]
        exact hidle
      simp [hidle, hidle']
  · rw [dif_neg hidx, dif_neg hidx]

theorem walk_eq (h : State.Residual stale pinned s s') (room idx : Nat) :
    RootToChildIter.walk s'.slice room idx = RootToChildIter.walk s.slice room idx := by
  induction room generalizing idx with
  | zero =>
      unfold RootToChildIter.walk
      rw [h.getContext_eq]
  | succ room ih =>
      unfold RootToChildIter.walk
      rw [h.getContext_eq]
      simp only [ih]

theorem yields_eq (h : State.Residual stale pinned s s') (is : List Nat) :
    RootToChildIter.yields s'.slice is = RootToChildIter.yields s.slice is := by
  induction is with
  | nil => rfl
  | cons i is ih =>
      unfold RootToChildIter.yields
      rw [h.getContext_eq, ih]

/-! ## Destruction -/

theorem retiredParents_eq (h : State.Residual stale pinned s s') (fuel parentIdx : Nat)
    (retired : Children) :
    retiredParents s' fuel parentIdx retired = retiredParents s fuel parentIdx retired := by
  induction fuel generalizing parentIdx retired with
  | zero => rfl
  | succ fuel ih =>
      unfold retiredParents get?
      by_cases hidx : parentIdx < b.maxHandles
      · have hslot := h.slots ⟨parentIdx, hidx⟩
        simp only [dif_pos hidx, hslot.state_eq, hslot.children_eq, hslot.parentIdx_eq, ih]
      · simp only [dif_neg hidx]

theorem getDescendants_eq (h : State.Residual stale pinned s s') (fuel : Nat) {c c' : Context b}
    (hc : Context.Residual stale c c') :
    s'.getDescendants fuel c' = s.getDescendants fuel c := by
  induction fuel generalizing c c' with
  | zero => rfl
  | succ fuel ih =>
      have hbelow : ∀ idx, s'.getDescendants fuel (s'.contexts idx)
          = s.getDescendants fuel (s.contexts idx) := fun idx => ih (h.slots idx)
      unfold getDescendants
      simp only [hc.state_eq, hc.children_eq, hbelow]

theorem toDestroy_eq (h : State.Residual stale pinned s s') (idx : Fin b.maxHandles) :
    toDestroy s' idx = toDestroy s idx := by
  unfold toDestroy
  dsimp only
  rw [h.retiredParents_eq, h.getDescendants_eq _ (h.slots idx),
    (h.slots idx).parentIdx_eq]

/-- A slot that is destroyed in one state is destroyed in the other, and
    what is left there is alike. -/
theorem destroyAll (h : State.Residual stale pinned s s') (marked : Children) :
    State.Residual stale pinned (s.destroyAll marked) (s'.destroyAll marked) := by
  refine ⟨congrArg (fun t : State b => t.destroyAll marked) h.rest, fun i => ?_,
    fun i hi => ?_⟩
  · have hslot := (h.slots i).removeChildren marked
    show Context.Residual stale
      (if marked.hasChild b i then Context.destroy _ else _)
      (if marked.hasChild b i then Context.destroy _ else _)
    split
    · exact hslot.destroy
    · exact hslot
  · unfold State.destroyAll
    dsimp only
    rw [h.pins i hi]

/-- Destruction fails in both states, with one error, or in none. -/
theorem destroyContext (h : State.Residual stale pinned s s') (handle : ContextHandle)
    (locality : UInt32) :
    Matched (State.Residual stale pinned) (Dpe.destroyContext s handle locality)
      (Dpe.destroyContext s' handle locality) := by
  unfold Dpe.destroyContext
  rw [h.getActiveContextPos_eq]
  cases hi : s.getActiveContextPos handle locality with
  | error e => rfl
  | ok idx =>
      dsimp only
      rw [h.resolved hi, h.toDestroy_eq]
      split
      · rfl
      · cases toDestroy s idx with
        | error e => rfl
        | ok marked => exact h.destroyAll marked

end State.Residual

end Dpe
