import Dpe.Proofs.WellFormed

/-! # Edits — what a call may do to the forest

    The abstract machine of the development.  Its states are those of the
    code; its steps are seven edits of the forest of contexts, each a
    function of the state with a condition under which it may be made.
    An edit says what happens to the forest and nothing of how: a child
    is adopted, a subtree is pruned, in one step, whatever copies and
    loops the code needs for it.

    This module proves that a legal edit keeps a state well formed. -/

namespace Dpe

open Forest

variable {b : Build}

/-! ## Edits of one context -/

namespace Context

def rename (c : Context b) (handle : ContextHandle) : Context b :=
  { c with handle := handle }

/-- The current TCI becomes `measurement`, the cumulative one
    `cumulative`. -/
def measure (c : Context b) (measurement cumulative : TciMeasurement b) :
    Context b :=
  { c with tci := { c.tci with
      tciCumulative := cumulative, tciCurrent := measurement } }

def retype (c : Context b) (tciType : UInt32) : Context b :=
  { c with tci := { c.tci with tciType := tciType } }

/-- Kept for its TCI data only. -/
def retire (c : Context b) : Context b :=
  { c with state := .retired, handle := .newInvalid }

/-- A parent after a derivation: kept under a handle, or retired. -/
def keep (c : Context b) : Option ContextHandle → Context b
  | some handle => c.rename handle
  | none => c.retire

def withChild (c : Context b) (idx : Fin b.maxHandles) : Context b :=
  { c with children := ⟨c.children.bits ||| 1#64 <<< idx.val⟩ }

/-- The context without its children in `marked`. -/
def without (c : Context b) (marked : Children) : Context b :=
  { c with children := c.children.removeChildren marked }

variable (c : Context b)

@[simp] theorem keep_children (kept : Option ContextHandle) :
    (c.keep kept).children = c.children := by
  cases kept <;> rfl

@[simp] theorem keep_parentIdx (kept : Option ContextHandle) :
    (c.keep kept).parentIdx = c.parentIdx := by
  cases kept <;> rfl

@[simp] theorem keep_contextType (kept : Option ContextHandle) :
    (c.keep kept).contextType = c.contextType := by
  cases kept <;> rfl

@[simp] theorem keep_tci (kept : Option ContextHandle) :
    (c.keep kept).tci = c.tci := by
  cases kept <;> rfl

/-- A context that was live stays live when it is kept or retired. -/
theorem keep_live {kept : Option ContextHandle} (h : c.state ≠ .inactive) :
    (c.keep kept).state ≠ .inactive := by
  cases kept with
  | some handle => exact h
  | none => intro hr; cases hr

theorem hasChild_withChild (idx i : Fin b.maxHandles) :
    (c.withChild idx).children.hasChild b i = true
      ↔ c.children.hasChild b i = true ∨ i = idx :=
  Children.hasChild_addChild (c.children.addChild_ok idx) i

end Context

/-! ## The edits -/

inductive Edit (b : Build) where
  /-- a new root in an inactive slot -/
  | plant (idx : Fin b.maxHandles) (args : ActiveContextArgs)
  | rename (idx : Fin b.maxHandles) (handle : ContextHandle)
  | measure (idx : Fin b.maxHandles) (measurement cumulative : TciMeasurement b)
  | retype (idx : Fin b.maxHandles) (tciType : UInt32)
  | retire (idx : Fin b.maxHandles)
  /-- a new child in an inactive slot, with its first measurement; the
      parent is kept under a handle or retired -/
  | adopt (parent child : Fin b.maxHandles) (kept : Option ContextHandle)
      (args : ActiveContextArgs) (measurement cumulative : TciMeasurement b)
  /-- the contexts marked are gone -/
  | prune (marked : Children)

namespace Edit

def apply (s : State b) : Edit b → State b
  | plant idx args =>
      { s.set idx ((s.contexts idx).activate args) with
        hasInitialized := s.hasInitialized || args.contextType == .normal }
  | rename idx handle => s.set idx ((s.contexts idx).rename handle)
  | measure idx measurement cumulative =>
      s.set idx ((s.contexts idx).measure measurement cumulative)
  | retype idx tciType => s.set idx ((s.contexts idx).retype tciType)
  | retire idx => s.set idx (s.contexts idx).retire
  | adopt parent child kept args measurement cumulative =>
      (s.set child
        (((Context.new b).activate args).measure measurement cumulative)).set
        parent (((s.contexts parent).keep kept).withChild child)
  | prune marked =>
      { s with
        contexts := fun i =>
          if marked.hasChild b i then ((s.contexts i).without marked).destroy
          else (s.contexts i).without marked }

/-- `p` is retired and `c` is its only child. -/
def OnlyChild (s : State b) (p c : Fin b.maxHandles) : Prop :=
  s.up c = some p ∧ (s.contexts p).state = .retired ∧
    ∀ c', s.up c' = some p → c' = c

/-- What is marked is a subtree, and taking it out leaves no retired
    context without children behind. -/
def Cut (s : State b) (marked : Children) (top : Fin b.maxHandles) : Prop :=
  s.Live top ∧ (∀ i : Fin b.maxHandles,
    marked.hasChild b i = true ↔ Subtree s.up top i) ∧
  ∀ p, ¬ OnlyChild s p top

def Legal (s : State b) : Edit b → Prop
  | plant idx args =>
      (s.contexts idx).state = .inactive ∧ args.parentIdx = Context.ROOT_INDEX ∧
        (args.contextType = .normal → s.hasInitialized = false)
  | rename idx _ => s.Live idx
  | measure idx _ _ => s.Live idx
  | retype idx _ => s.Live idx
  | retire idx => s.Live idx ∧ ∃ c, s.up c = some idx
  | adopt parent child _ args _ _ =>
      s.Live parent ∧ (s.contexts child).state = .inactive ∧
        args.parentIdx = UInt8.ofNat parent.val ∧
        args.contextType = (s.contexts parent).contextType
  | prune marked => ∃ top, Cut s marked top

/-- One legal edit. -/
def Step (s : State b) (e : Edit b) (t : State b) : Prop :=
  e.Legal s ∧ t = e.apply s

end Edit

/-! ## Edits of one live context -/

namespace Edit

variable {s : State b}

/-- A context whose links, type and liveness stay may be replaced. -/
theorem wellFormed_set {idx : Fin b.maxHandles} {c : Context b}
    (h : s.WellFormed) (hlive : s.Live idx) (hc : c.state ≠ .inactive)
    (hchildren : c.children = (s.contexts idx).children)
    (hparent : c.parentIdx = (s.contexts idx).parentIdx)
    (htype : c.contextType = (s.contexts idx).contextType)
    (hret : c.state = .retired →
      (s.contexts idx).state = .retired ∨ ∃ c, s.up c = some idx) :
    (s.set idx c).WellFormed := by
  have hother : ∀ i, i ≠ idx → (s.set idx c).contexts i = s.contexts i :=
    fun i hi => State.set_of_ne hi
  refine h.reshape rfl ?_ ?_ ?_ ?_ ?_ ?_
  · intro i
    by_cases hi : i = idx
    · rw [hi, State.set_self, hchildren]
    · rw [hother i hi]
  · intro i
    by_cases hi : i = idx
    · rw [hi, State.set_self, hparent]
    · rw [hother i hi]
  · intro i
    by_cases hi : i = idx
    · rw [hi, State.set_self, htype]
    · rw [hother i hi]
  · intro i
    unfold State.Live
    by_cases hi : i = idx
    · rw [hi, State.set_self]
      exact ⟨fun _ => hlive, fun _ => hc⟩
    · rw [hother i hi]
  · intro i hi
    by_cases hidx : i = idx
    · rw [hidx] at hi
      exact absurd hi hlive
    · rw [hother i hidx]
  · intro i hi
    by_cases hidx : i = idx
    · rw [hidx, State.set_self] at hi
      rw [hidx]
      exact hret hi
    · rw [hother i hidx] at hi
      exact .inl hi

/-! ## A new root -/

/-- A live context is not in an inactive slot. -/
theorem ne_of_live {i idx : Fin b.maxHandles} (hi : s.Live i)
    (hidle : (s.contexts idx).state = .inactive) : i ≠ idx := by
  rintro rfl
  exact hi hidle

theorem plant_other {idx i : Fin b.maxHandles} {args : ActiveContextArgs}
    (hi : i ≠ idx) :
    ((plant idx args).apply s).contexts i = s.contexts i := State.set_of_ne hi

theorem plant_self {idx : Fin b.maxHandles} {args : ActiveContextArgs} :
    ((plant idx args).apply s).contexts idx
      = (s.contexts idx).activate args := State.set_self ..

/-- A new root hangs below nothing, as its slot did before. -/
theorem plant_up (h : s.WellFormed) {idx : Fin b.maxHandles}
    {args : ActiveContextArgs} (hidle : (s.contexts idx).state = .inactive)
    (hroot : args.parentIdx = Context.ROOT_INDEX) (i : Fin b.maxHandles) :
    ((plant idx args).apply s).up i = s.up i := by
  by_cases hi : i = idx
  · rw [hi, h.up_inactive hidle]
    exact State.up_of_root (by rw [plant_self]; exact hroot)
  · exact State.up_congr (by rw [plant_other hi])

/-- **PLANTING** a root in an inactive slot keeps the forest. -/
theorem wellFormed_plant {idx : Fin b.maxHandles} {args : ActiveContextArgs}
    (h : s.WellFormed) (hl : (plant idx args).Legal s) :
    ((plant idx args).apply s).WellFormed := by
  obtain ⟨hidx, hroot, hinit⟩ := hl
  have hself : ((plant idx args).apply s).contexts idx
      = (s.contexts idx).activate args := State.set_self ..
  have hother : ∀ i, i ≠ idx →
      ((plant idx args).apply s).contexts i = s.contexts i :=
    fun i hi => State.set_of_ne hi
  have hup : ∀ i, ((plant idx args).apply s).up i = s.up i := by
    intro i
    by_cases hi : i = idx
    · rw [hi, h.up_inactive hidx]
      exact State.up_of_root (by rw [hself]; exact hroot)
    · exact State.up_congr (by rw [hother i hi])
  have hupf : ((plant idx args).apply s).up = s.up := funext hup
  -- a normal root can only be planted before there is any normal context
  have hnone : args.contextType = .normal → ∀ i, s.Live i →
      (s.contexts i).contextType ≠ .normal := by
    intro hn i hi hti
    have htrue := h.normal_init i hi hti
    rw [hinit hn] at htrue
    cases htrue
  refine ⟨?_, ?_, ?_, ?_, ?_, ?_, ?_, ?_, ?_⟩
  · intro p c
    rw [hup]
    by_cases hp : p = idx
    · rw [hp, hself]
      show Children.empty.hasChild b c.val = true ↔ _
      rw [Children.hasChild_empty]
      refine ⟨fun hf => (by cases hf), fun hc => ?_⟩
      exact absurd hc (h.up_ne_inactive hidx c)
    · rw [hother p hp]
      exact h.child_iff p c
  · intro i hi
    by_cases hidx' : i = idx
    · rw [hidx', hself]
      exact hroot
    · rw [hother i hidx']
      exact h.root i (by rw [← hup]; exact hi)
  · intro i hi
    rw [hupf]
    by_cases hidx' : i = idx
    · rw [hidx']
      exact ⟨[idx], .root (h.up_inactive hidx)⟩
    · unfold State.Live at hi
      rw [hother i hidx'] at hi
      exact h.rooted i hi
  · intro p c hc
    rw [hup] at hc
    have hcne : c ≠ idx := by
      intro he
      rw [he, h.up_inactive hidx] at hc
      cases hc
    have hpne : p ≠ idx := by
      intro he
      rw [he] at hc
      exact h.up_ne_inactive hidx c hc
    rw [hother c hcne, hother p hpne]
    exact h.type_eq p c hc
  · intro i j hi hj hti htj hui huj
    rw [hup] at hui huj
    unfold State.Live at hi hj
    by_cases hi' : i = idx
    · by_cases hj' : j = idx
      · rw [hi', hj']
      · rw [hi', hself] at hti
        rw [hother j hj'] at hj htj
        exact absurd htj (hnone hti j hj)
    · by_cases hj' : j = idx
      · rw [hj', hself] at htj
        rw [hother i hi'] at hi hti
        exact absurd hti (hnone htj i hi)
      · rw [hother i hi'] at hi hti
        rw [hother j hj'] at hj htj
        exact h.one_normal i j hi hj hti htj hui huj
  · intro i hi hti
    show (s.hasInitialized || args.contextType == .normal) = true
    by_cases hi' : i = idx
    · rw [hi', hself] at hti
      have hn : args.contextType = .normal := hti
      rw [hn]
      simp
    · unfold State.Live at hi
      rw [hother i hi'] at hi hti
      rw [h.normal_init i hi hti]
      rfl
  · intro i hi
    rw [hupf]
    by_cases hi' : i = idx
    · rw [hi', hself] at hi
      cases hi
    · rw [hother i hi'] at hi
      exact h.retired i hi
  · intro i hi
    by_cases hi' : i = idx
    · rw [hi', hself] at hi
      cases hi
    · rw [hother i hi'] at hi ⊢
      exact h.inactive i hi
  · intro i
    by_cases hi' : i = idx
    · rw [hi', hself]
      exact .empty
    · rw [hother i hi']
      exact h.inRange i

/-! ## A new child -/

section Adopt

variable {parent child : Fin b.maxHandles} {kept : Option ContextHandle}
  {args : ActiveContextArgs} {measurement cumulative : TciMeasurement b}

theorem adopt_ne (hl : (adopt parent child kept args measurement
    cumulative).Legal s) : child ≠ parent := by
  intro he
  exact hl.1 (by rw [← he]; exact hl.2.1)

theorem adopt_parent : ((adopt parent child kept args measurement
    cumulative).apply s).contexts parent
      = ((s.contexts parent).keep kept).withChild child :=
  State.set_self ..

theorem adopt_child (hne : child ≠ parent) : ((adopt parent child kept args
    measurement cumulative).apply s).contexts child
      = ((Context.new b).activate args).measure measurement cumulative := by
  show (State.set _ _ _).contexts child = _
  rw [State.set_of_ne hne, State.set_self]

theorem adopt_other {i : Fin b.maxHandles} (hc : i ≠ child) (hp : i ≠ parent) :
    ((adopt parent child kept args measurement cumulative).apply s).contexts i
      = s.contexts i := by
  show (State.set _ _ _).contexts i = _
  rw [State.set_of_ne hp, State.set_of_ne hc]

/-- The new child hangs below its parent. -/
theorem adopt_up_child (hl : (adopt parent child kept args measurement
    cumulative).Legal s) :
    ((adopt parent child kept args measurement cumulative).apply s).up child
      = some parent := by
  unfold State.up
  rw [adopt_child (adopt_ne hl)]
  show parentSlot b args.parentIdx = _
  rw [hl.2.2.1]
  exact parentSlot_ofNat parent

/-- All other links stay. -/
theorem adopt_up_other {i : Fin b.maxHandles} (hc : i ≠ child) :
    ((adopt parent child kept args measurement cumulative).apply s).up i
      = s.up i := by
  apply State.up_congr
  by_cases hp : i = parent
  · rw [hp, adopt_parent]
    exact Context.keep_parentIdx ..
  · rw [adopt_other hc hp]

/-- **ADOPTING** a child in an inactive slot keeps the forest. -/
theorem wellFormed_adopt (h : s.WellFormed)
    (hl : (adopt parent child kept args measurement cumulative).Legal s) :
    ((adopt parent child kept args measurement cumulative).apply s).WellFormed := by
  have hne := adopt_ne hl
  have hupc := adopt_up_child hl
  obtain ⟨hlive, hidle, -, htype⟩ := hl
  -- a slot other than the child is as live, as retired and of the same type
  have hchild := @adopt_child b s parent child kept args measurement cumulative hne
  have hstate : ∀ i, i ≠ child → i ≠ parent →
      ((adopt parent child kept args measurement cumulative).apply s).contexts i
        = s.contexts i := fun i hc hp => adopt_other hc hp
  have htypes : ∀ i, i ≠ child →
      (((adopt parent child kept args measurement cumulative).apply s).contexts
        i).contextType = (s.contexts i).contextType := by
    intro i hc
    by_cases hp : i = parent
    · rw [hp, adopt_parent]
      exact Context.keep_contextType ..
    · rw [hstate i hc hp]
  have hlives : ∀ i, i ≠ child →
      ((adopt parent child kept args measurement cumulative).apply s).Live i →
      s.Live i := by
    intro i hc hi
    by_cases hp : i = parent
    · rw [hp]
      exact hlive
    · unfold State.Live at hi
      rw [hstate i hc hp] at hi
      exact hi
  have hrooted : ∀ i, i ≠ child → s.Live i → Rooted
      ((adopt parent child kept args measurement cumulative).apply s).up i := by
    intro i hc hi
    obtain ⟨l, hpath⟩ := h.rooted i hi
    refine ⟨l, hpath.congr ?_⟩
    intro j hj
    refine adopt_up_other ?_
    intro he
    have hjl : s.Live j := h.live_above hi (hpath.mem_iff.mp hj)
    rw [he] at hjl
    exact hjl hidle
  refine ⟨?_, ?_, ?_, ?_, ?_, ?_, ?_, ?_, ?_⟩
  · intro p c
    by_cases hp : p = parent
    · rw [hp, adopt_parent, Context.hasChild_withChild, Context.keep_children]
      by_cases hc : c = child
      · rw [hc, hupc]
        exact ⟨fun _ => rfl, fun _ => .inr rfl⟩
      · rw [adopt_up_other hc, h.child_iff]
        exact ⟨fun h' => h'.resolve_right hc, .inl⟩
    · by_cases hpc : p = child
      · rw [hpc, hchild]
        show Children.empty.hasChild b c.val = true ↔ _
        rw [Children.hasChild_empty]
        refine ⟨fun hf => (by cases hf), fun hc' => ?_⟩
        by_cases hc : c = child
        · rw [hc, hupc] at hc'
          exact absurd (Option.some.inj hc').symm hne
        · rw [adopt_up_other hc] at hc'
          exact absurd hc' (h.up_ne_inactive hidle c)
      · rw [hstate p hpc hp, h.child_iff]
        by_cases hc : c = child
        · rw [hc, hupc, h.up_inactive hidle]
          refine ⟨fun hf => (by cases hf), fun he => ?_⟩
          exact absurd (Option.some.inj he).symm hp
        · rw [adopt_up_other hc]
  · intro i hi
    by_cases hc : i = child
    · rw [hc, hupc] at hi
      cases hi
    · rw [adopt_up_other hc] at hi
      by_cases hp : i = parent
      · rw [hp, adopt_parent]
        show ((s.contexts parent).keep kept).parentIdx = _
        rw [Context.keep_parentIdx, ← hp]
        exact h.root i hi
      · rw [hstate i hc hp]
        exact h.root i hi
  · intro i hi
    by_cases hc : i = child
    · rw [hc]
      exact Rooted.of_parent hupc (hrooted parent hne.symm hlive)
    · exact hrooted i hc (hlives i hc hi)
  · intro p c hc'
    by_cases hc : c = child
    · rw [hc, hupc] at hc'
      cases hc'
      rw [hc, hchild, htypes parent hne.symm]
      exact htype
    · rw [adopt_up_other hc] at hc'
      have hpne : p ≠ child := by
        intro he
        rw [he] at hc'
        exact h.up_ne_inactive hidle c hc'
      rw [htypes c hc, htypes p hpne]
      exact h.type_eq p c hc'
  · intro i j hi hj hti htj hui huj
    have hic : i ≠ child := by
      intro he
      rw [he, hupc] at hui
      cases hui
    have hjc : j ≠ child := by
      intro he
      rw [he, hupc] at huj
      cases huj
    rw [htypes i hic] at hti
    rw [htypes j hjc] at htj
    rw [adopt_up_other hic] at hui
    rw [adopt_up_other hjc] at huj
    exact h.one_normal i j (hlives i hic hi) (hlives j hjc hj) hti htj hui huj
  · intro i hi hti
    show s.hasInitialized = true
    by_cases hc : i = child
    · rw [hc, hchild] at hti
      have hn : (s.contexts parent).contextType = .normal := htype.symm.trans hti
      exact h.normal_init parent hlive hn
    · rw [htypes i hc] at hti
      exact h.normal_init i (hlives i hc hi) hti
  · intro i hi
    by_cases hp : i = parent
    · rw [hp]
      exact ⟨child, hupc⟩
    · by_cases hc : i = child
      · rw [hc, hchild] at hi
        cases hi
      · rw [hstate i hc hp] at hi
        obtain ⟨c, hc'⟩ := h.retired i hi
        have hcne : c ≠ child := by
          intro he
          rw [he, h.up_inactive hidle] at hc'
          cases hc'
        exact ⟨c, by rw [adopt_up_other hcne]; exact hc'⟩
  · intro i hi
    by_cases hp : i = parent
    · rw [hp, adopt_parent] at hi
      exact absurd hi (Context.keep_live _ hlive)
    · by_cases hc : i = child
      · rw [hc, hchild] at hi
        cases hi
      · rw [hstate i hc hp] at hi ⊢
        exact h.inactive i hi
  · intro i
    by_cases hp : i = parent
    · rw [hp, adopt_parent]
      have hbit := (s.contexts parent).children.addChild_ok child
      have hin := (h.inRange parent).addChild hbit
      show (Context.withChild _ _).children.InRange b
      unfold Context.withChild
      rw [Context.keep_children]
      exact hin
    · by_cases hc : i = child
      · rw [hc, hchild]
        exact .empty
      · rw [hstate i hc hp]
        exact h.inRange i

end Adopt

/-! ## Taking out a subtree -/

section Prune

variable {marked : Children} {top : Fin b.maxHandles}

theorem prune_marked {i : Fin b.maxHandles}
    (hi : marked.hasChild b i = true) :
    ((prune marked).apply s).contexts i
      = ((s.contexts i).without marked).destroy := if_pos hi

theorem prune_other {i : Fin b.maxHandles}
    (hi : ¬ marked.hasChild b i = true) :
    ((prune marked).apply s).contexts i = (s.contexts i).without marked :=
  if_neg hi

theorem prune_up_marked {i : Fin b.maxHandles}
    (hi : marked.hasChild b i = true) : ((prune marked).apply s).up i = none :=
  State.up_of_root (by rw [prune_marked hi]; rfl)

theorem prune_up_other {i : Fin b.maxHandles}
    (hi : ¬ marked.hasChild b i = true) :
    ((prune marked).apply s).up i = s.up i :=
  State.up_congr (by rw [prune_other hi]; rfl)

/-- The links that are left. -/
theorem prune_up_some (hcut : Cut s marked top) {c p : Fin b.maxHandles}
    (hc : ((prune marked).apply s).up c = some p) :
    ¬ marked.hasChild b c = true ∧ ¬ marked.hasChild b p = true ∧
      s.up c = some p := by
  by_cases hm : marked.hasChild b c = true
  · rw [prune_up_marked hm] at hc
    cases hc
  · rw [prune_up_other hm] at hc
    refine ⟨hm, fun hp => hm ?_, hc⟩
    exact (hcut.2.1 c).mpr (((hcut.2.1 p).mp hp).child hc)

/-- What is live behind the cut was live, and is not marked. -/
theorem prune_spared {i : Fin b.maxHandles} (hi : ((prune marked).apply s).Live i) :
    ¬ marked.hasChild b i = true ∧ s.Live i := by
  by_cases hm : marked.hasChild b i = true
  · refine absurd ?_ hi
    rw [prune_marked hm]
    rfl
  · unfold State.Live at hi
    rw [prune_other hm] at hi
    exact ⟨hm, hi⟩

/-- Only the top has a parent outside of what is marked. -/
theorem cut_inner (hcut : Cut s marked top) {p c : Fin b.maxHandles}
    (hc : s.up c = some p) (hm : marked.hasChild b c = true)
    (hp : ¬ marked.hasChild b p = true) : c = top := by
  by_contra hne
  obtain ⟨q, hq, hsub⟩ := ((hcut.2.1 c).mp hm).parent_mem hne
  rw [hc] at hq
  cases hq
  exact hp ((hcut.2.1 p).mpr hsub)

/-- **PRUNING** a subtree keeps the links. -/
theorem wellLinked_prune (h : s.WellLinked) (hcut : Cut s marked top) :
    ((prune marked).apply s).WellLinked := by
  have hchildless := fun c p => @prune_up_some b s marked top hcut c p
  have hclosed : Closed s.up fun i => marked.hasChild b i.val = true := by
    intro p c hp hc
    exact (hcut.2.1 c).mpr (((hcut.2.1 p).mp hp).child hc)
  refine ⟨?_, ?_, ?_, ?_, ?_, ?_⟩
  · intro p c
    by_cases hp : marked.hasChild b p = true
    · rw [prune_marked hp]
      show Children.empty.hasChild b c.val = true ↔ _
      rw [Children.hasChild_empty]
      refine ⟨fun hf => (by cases hf), fun hc => ?_⟩
      exact absurd hp (hchildless c p hc).2.1
    · rw [prune_other hp]
      show ((s.contexts p).children.removeChildren marked).hasChild b c.val = true ↔ _
      rw [Children.hasChild_removeChildren, h.child_iff]
      constructor
      · rintro ⟨hc, hm⟩
        rw [prune_up_other hm]
        exact hc
      · intro hc
        exact ⟨(hchildless c p hc).2.2, (hchildless c p hc).1⟩
  · intro i hi
    by_cases hm : marked.hasChild b i = true
    · rw [prune_marked hm]
      rfl
    · rw [prune_up_other hm] at hi
      rw [prune_other hm]
      exact h.root i hi
  · intro i hi
    obtain ⟨hm, hlive⟩ := prune_spared hi
    obtain ⟨l, hpath⟩ := h.rooted i hlive
    exact ⟨l, hpath.survive hclosed hm fun j hj => prune_up_other hj⟩
  · intro i hi
    have hlive : ((prune marked).apply s).Live i := by
      intro hdead
      rw [hi] at hdead
      cases hdead
    obtain ⟨hm, -⟩ := prune_spared hlive
    rw [prune_other hm] at hi
    obtain ⟨c, hc⟩ := h.retired i hi
    by_cases hmc : marked.hasChild b c = true
    · -- the child taken out is `top`; a retired parent has another one
      have htop := cut_inner hcut hc hmc hm
      by_contra hno
      refine hcut.2.2 i ⟨by rw [← htop]; exact hc, hi, ?_⟩
      intro c' hc'
      by_contra hne
      have hmc' : ¬ marked.hasChild b c' = true :=
        fun hm' => hne (cut_inner hcut hc' hm' hm)
      exact hno ⟨c', by rw [prune_up_other hmc']; exact hc'⟩
    · exact ⟨c, by rw [prune_up_other hmc]; exact hc⟩
  · intro i hi
    by_cases hm : marked.hasChild b i = true
    · rw [prune_marked hm]
      exact ⟨rfl, rfl⟩
    · rw [prune_other hm] at hi ⊢
      obtain ⟨hp, hc⟩ := h.inactive i hi
      refine ⟨hp, ?_⟩
      show (s.contexts i).children.removeChildren marked = .empty
      rw [hc]
      simp [Children.removeChildren, Children.empty]
  · intro i
    by_cases hm : marked.hasChild b i = true
    · rw [prune_marked hm]
      exact .empty
    · rw [prune_other hm]
      exact (h.inRange i).removeChildren marked

/-- **PRUNING** a subtree keeps the forest. -/
theorem wellFormed_prune (h : s.WellFormed) (hl : (prune marked).Legal s) :
    ((prune marked).apply s).WellFormed := by
  obtain ⟨top, hcut⟩ := hl
  have hlinked := wellLinked_prune h.wellLinked hcut
  refine ⟨hlinked.child_iff, hlinked.root, hlinked.rooted, ?_, ?_, ?_, hlinked.retired,
    ?_, hlinked.inRange⟩
  · intro p c hc
    obtain ⟨hm, hp, hc'⟩ := prune_up_some hcut hc
    rw [prune_other hm, prune_other hp]
    exact h.type_eq p c hc'
  · intro i j hi hj hti htj hui huj
    obtain ⟨hmi, hli⟩ := prune_spared hi
    obtain ⟨hmj, hlj⟩ := prune_spared hj
    rw [prune_other hmi] at hti
    rw [prune_other hmj] at htj
    rw [prune_up_other hmi] at hui
    rw [prune_up_other hmj] at huj
    exact h.one_normal i j hli hlj hti htj hui huj
  · intro i hi hti
    obtain ⟨hm, hlive⟩ := prune_spared hi
    rw [prune_other hm] at hti
    exact h.normal_init i hlive hti
  · intro i hi
    obtain ⟨hparent, hchildren⟩ := hlinked.inactive i hi
    refine ⟨hparent, hchildren, ?_⟩
    by_cases hm : marked.hasChild b i = true
    · rw [prune_marked hm]
      rfl
    · rw [prune_other hm] at hi ⊢
      exact (h.inactive i hi).2.2

end Prune

/-! ## All edits -/

/-- **EVERY LEGAL EDIT** keeps a state well formed. -/
theorem Step.wellFormed {e : Edit b} {t : State b} (h : s.WellFormed)
    (hstep : Step s e t) : t.WellFormed := by
  obtain ⟨hl, rfl⟩ := hstep
  cases e with
  | plant idx args => exact wellFormed_plant h hl
  | rename idx handle =>
      exact wellFormed_set h hl hl rfl rfl rfl fun hr => .inl hr
  | measure idx measurement cumulative =>
      exact wellFormed_set h hl hl rfl rfl rfl fun hr => .inl hr
  | retype idx tciType =>
      exact wellFormed_set h hl hl rfl rfl rfl fun hr => .inl hr
  | retire idx =>
      have hne : (s.contexts idx).retire.state ≠ .inactive := by
        intro hr
        cases hr
      exact wellFormed_set h hl.1 hne rfl rfl rfl fun _ => .inr hl.2
  | adopt parent child kept args measurement cumulative =>
      exact wellFormed_adopt h hl
  | prune marked => exact wellFormed_prune h hl

end Edit

end Dpe
