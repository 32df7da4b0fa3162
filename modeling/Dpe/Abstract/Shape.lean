import Dpe.Abstract.Effect

/-! # Shapes of effects

    Most edits leave the tree alone: they rename, measure or retire a
    context.  A call makes a list of such tame edits, or plants a root
    and goes on with tame edits, or adopts one child, or prunes one
    subtree. -/

namespace Dpe

open Forest

variable {b : Build}

/-! ## Tame edits -/

/-- The second context has the place, the type and the permissions of
    the first. -/
structure Context.Alike (c c' : Context b) : Prop where
  parentIdx : c'.parentIdx = c.parentIdx
  children : c'.children = c.children
  contextType : c'.contextType = c.contextType
  locality : c'.locality = c.locality
  allowX509 : c'.allowX509 = c.allowX509
  allowExportCdi : c'.allowExportCdi = c.allowExportCdi
  allowRecursive : c'.allowRecursive = c.allowRecursive
  usesInternalInputInfo : c'.usesInternalInputInfo = c.usesInternalInputInfo
  usesInternalInputDice : c'.usesInternalInputDice = c.usesInternalInputDice
  live : c'.state = .inactive ↔ c.state = .inactive

namespace Context.Alike

variable {c c' c'' : Context b}

theorem refl (c : Context b) : c.Alike c :=
  ⟨rfl, rfl, rfl, rfl, rfl, rfl, rfl, rfl, rfl, Iff.rfl⟩

theorem trans (h : c.Alike c') (h' : c'.Alike c'') : c.Alike c'' where
  parentIdx := h'.parentIdx.trans h.parentIdx
  children := h'.children.trans h.children
  contextType := h'.contextType.trans h.contextType
  locality := h'.locality.trans h.locality
  allowX509 := h'.allowX509.trans h.allowX509
  allowExportCdi := h'.allowExportCdi.trans h.allowExportCdi
  allowRecursive := h'.allowRecursive.trans h.allowRecursive
  usesInternalInputInfo := h'.usesInternalInputInfo.trans h.usesInternalInputInfo
  usesInternalInputDice := h'.usesInternalInputDice.trans h.usesInternalInputDice
  live := h'.live.trans h.live

theorem rename (c : Context b) (handle : ContextHandle) :
    c.Alike (c.rename handle) :=
  ⟨rfl, rfl, rfl, rfl, rfl, rfl, rfl, rfl, rfl, Iff.rfl⟩

theorem measure (c : Context b) (measurement cumulative : TciMeasurement b) :
    c.Alike (c.measure measurement cumulative) :=
  ⟨rfl, rfl, rfl, rfl, rfl, rfl, rfl, rfl, rfl, Iff.rfl⟩

theorem retype (c : Context b) (tciType : UInt32) :
    c.Alike (c.retype tciType) :=
  ⟨rfl, rfl, rfl, rfl, rfl, rfl, rfl, rfl, rfl, Iff.rfl⟩

theorem retire (h : c.state ≠ .inactive) : c.Alike c.retire where
  parentIdx := rfl
  children := rfl
  contextType := rfl
  locality := rfl
  allowX509 := rfl
  allowExportCdi := rfl
  allowRecursive := rfl
  usesInternalInputInfo := rfl
  usesInternalInputDice := rfl
  live := by
    constructor
    · intro hr
      cases hr
    · intro hr
      exact absurd hr h

/-- A kept or retired parent, apart from its children. -/
theorem keep (h : c.state ≠ .inactive) (kept : Option ContextHandle) :
    c.Alike (c.keep kept) := by
  cases kept with
  | some handle => exact rename c handle
  | none => exact retire h

end Context.Alike

/-- The contexts of two states are alike, slot by slot. -/
structure State.Alike (s s' : State b) : Prop where
  contexts : ∀ i, (s.contexts i).Alike (s'.contexts i)
  hasInitialized : s'.hasInitialized = s.hasInitialized
  support : s'.support = s.support

namespace State.Alike

variable {s s' s'' : State b}

theorem refl (s : State b) : s.Alike s :=
  ⟨fun _ => Context.Alike.refl _, rfl, rfl⟩

theorem trans (h : s.Alike s') (h' : s'.Alike s'') : s.Alike s'' where
  contexts i := (h.contexts i).trans (h'.contexts i)
  hasInitialized := h'.hasInitialized.trans h.hasInitialized
  support := h'.support.trans h.support

theorem set {idx : Fin b.maxHandles} {c : Context b}
    (h : (s.contexts idx).Alike c) : s.Alike (s.set idx c) := by
  refine ⟨?_, rfl, rfl⟩
  intro i
  by_cases hi : i = idx
  · rw [hi, State.set_self]
    exact h
  · rw [State.set_of_ne hi]
    exact Context.Alike.refl _

theorem up (h : s.Alike s') (i : Fin b.maxHandles) : s'.up i = s.up i :=
  State.up_congr (h.contexts i).parentIdx

theorem live (h : s.Alike s') (i : Fin b.maxHandles) : s'.Live i ↔ s.Live i :=
  not_congr (h.contexts i).live

end State.Alike

/-- The edits that change neither links nor permissions. -/
def Edit.Tame : Edit b → Prop
  | rename .. => True
  | measure .. => True
  | retype .. => True
  | retire .. => True
  | plant .. => False
  | adopt .. => False
  | prune .. => False

namespace Edit

variable {s t : State b}

theorem Tame.alike {e : Edit b} (h : e.Tame) (hstep : Step s e t) : s.Alike t := by
  obtain ⟨hlegal, rfl⟩ := hstep
  cases e with
  | rename idx handle => exact .set (.rename _ handle)
  | measure idx measurement cumulative => exact .set (.measure _ _ _)
  | retype idx tciType => exact .set (.retype _ _)
  | retire idx => exact .set (.retire hlegal.1)
  | plant | adopt | prune => cases h

/-- A run of tame edits. -/
theorem alike_of_run {es : List (Edit b)} (h : ∀ e ∈ es, e.Tame)
    (hrun : Runs.Run Step s es t) : s.Alike t :=
  hrun.invariant (I := s.Alike)
    (fun _ _ _ hs htame hstep => hs.trans (htame.alike hstep)) h (.refl s)

end Edit

/-! ## Shapes -/

/-- **THE SHAPES OF EFFECTS**. -/
inductive Shape (s : State b) : List (Edit b) → Prop where
  | tame {es : List (Edit b)} (tame : ∀ e ∈ es, e.Tame) : Shape s es
  | plant {cmd : InitCtxCmd} {idx : Fin b.maxHandles} {handle : ContextHandle}
      {locality : UInt32} {es : List (Edit b)}
      (accepted : cmd.accepted s = true)
      (idle : (s.contexts idx).state = .inactive) (tame : ∀ e ∈ es, e.Tame) :
      Shape s (.plant idx (cmd.activeContextArgs cmd.contextType handle
        locality) :: es)
  | adopt {cmd : DeriveContextCmd b} {locality : UInt32}
      {parent child : Fin b.maxHandles} {kept : Option ContextHandle}
      {handle : ContextHandle} {cumulative : TciMeasurement b}
      (accepted : cmd.FromParent s locality parent)
      (idle : (s.contexts child).state = .inactive) :
      Shape s [.adopt parent child kept (cmd.activeContextArgs
        (s.contexts parent).contextType (s.contexts parent) parent handle
        (cmd.childLocality locality)) cmd.data cumulative]
  | prune {marked : Children} {idx top : Fin b.maxHandles}
      (summit : State.Summit s idx top) (cut : Edit.Cut s marked top) :
      Shape s [.prune marked]

namespace Shape

variable {s : State b}

theorem nothing (s : State b) : Shape s [] := .tame fun _ he => by cases he

theorem one {e : Edit b} (h : e.Tame) : Shape s [e] :=
  .tame fun e' he => by
    rw [List.mem_singleton.mp he]
    exact h

end Shape

variable {W : Type} {d : Deps b W} {s : State b}

/-- Every effect of a command has one of the shapes. -/
theorem Effect.shape {locality : UInt32} {cmd : Command b}
    {draws : List (Vector UInt8 16)} {es : List (Edit b)}
    (he : Effect d s locality cmd draws es) : Shape s es := by
  cases he with
  | getProfile | getCertificateChain => exact .nothing s
  | initCtx accepted slot =>
      exact .plant accepted (State.getNextInactiveContextPos_some slot)
        fun _ he => by cases he
  | rotateCtx | sign | certifyKey | exportRetired | exportRetained =>
      exact .one trivial
  | destroyCtx _ summit cut => exact .prune summit cut
  | exportDestroyed _ _ _ _ summit cut => exact .prune summit cut
  | updateContextMeasurement | recursive =>
      refine .tame fun e he => ?_
      simp only [List.mem_cons, List.not_mem_nil, or_false] at he
      rcases he with rfl | rfl | rfl <;> trivial
  | child accepted _ _ slot =>
      exact .adopt accepted (State.getNextInactiveContextPos_some slot)

/-- **EVERY EFFECT** of a call has one of the shapes. -/
theorem CallEffect.shape {call : Call b} {draws : List (Vector UInt8 16)}
    {es : List (Edit b)} (he : CallEffect d s call draws es) : Shape s es := by
  have hnew : ∀ {es : List (Edit b)} {draws : List (Vector UInt8 16)},
      CallEffect d s .new draws es →
      es = [] ∨ ∃ cmd idx handle locality, InitCtxCmd.accepted cmd s = true ∧
        (s.contexts idx).state = .inactive ∧
        es = [.plant idx (cmd.activeContextArgs cmd.contextType handle
          locality)] := by
    intro es draws h
    cases h with
    | newIdle | failed => exact .inl rfl
    | new _ planted =>
        obtain ⟨_, -, effect⟩ := planted
        cases effect with
        | initCtx accepted slot =>
            exact .inr ⟨_, _, _, _, accepted,
              State.getNextInactiveContextPos_some slot, rfl⟩
  cases he with
  | newIdle | failed => exact .nothing s
  | new _ planted =>
      obtain ⟨_, -, effect⟩ := planted
      exact effect.shape
  | command effect => exact effect.shape
  | newAutoInit autoInit planted =>
      rcases hnew (.new autoInit planted) with rfl | ⟨cmd, idx, handle, locality, hacc, hidle, rfl⟩
      · refine .tame fun e he => ?_
        simp only [List.nil_append, List.mem_cons, List.not_mem_nil, or_false] at he
        rcases he with rfl | rfl <;> trivial
      · refine .plant hacc hidle fun e he => ?_
        rcases List.mem_cons.mp he with rfl | he
        · trivial
        · rw [List.mem_singleton.mp he]
          trivial
  | newUnmeasured effect =>
      rcases hnew effect with rfl | ⟨cmd, idx, handle, locality, hacc, hidle, rfl⟩
      · exact .nothing s
      · exact .plant hacc hidle fun _ he => by cases he
  | parentRolled => exact .one trivial

/-! ## What lives on -/

/-- The second context has what no call takes from a context that lives
    on: its place, its type and its permissions. -/
structure Context.Lasts (c c' : Context b) : Prop where
  parentIdx : c'.parentIdx = c.parentIdx
  contextType : c'.contextType = c.contextType
  allowX509 : c'.allowX509 = c.allowX509
  allowExportCdi : c'.allowExportCdi = c.allowExportCdi
  allowRecursive : c'.allowRecursive = c.allowRecursive
  usesInternalInputInfo : c'.usesInternalInputInfo = c.usesInternalInputInfo
  usesInternalInputDice : c'.usesInternalInputDice = c.usesInternalInputDice

theorem Context.Alike.lasts {c c' : Context b} (h : c.Alike c') : c.Lasts c' :=
  ⟨h.parentIdx, h.contextType, h.allowX509, h.allowExportCdi, h.allowRecursive,
    h.usesInternalInputInfo, h.usesInternalInputDice⟩

theorem Context.Lasts.refl (c : Context b) : c.Lasts c := (Context.Alike.refl c).lasts

/-- A context that lives on lasts. -/
theorem CallEffect.lasts (h : s.WellFormed) {call : Call b}
    {draws : List (Vector UInt8 16)} {es : List (Edit b)}
    (he : CallEffect d s call draws es) {i : Fin b.maxHandles} (hi : s.Live i)
    (hi' : (Edit.applyAll s es).Live i) :
    (s.contexts i).Lasts ((Edit.applyAll s es).contexts i) := by
  have hrun := he.run h
  have hnew : ∀ {idx}, (s.contexts idx).state = .inactive → i ≠ idx := by
    rintro idx hidle rfl
    exact hi hidle
  cases he.shape with
  | tame htame => exact ((Edit.alike_of_run htame hrun).contexts i).lasts
  | @plant cmd idx handle locality es _ hidle htame =>
      cases hrun with
      | cons hstep hrun =>
          obtain ⟨-, rfl⟩ := hstep
          have halike := (Edit.alike_of_run htame hrun).contexts i
          rw [Edit.plant_other (hnew hidle)] at halike
          exact halike.lasts
  | @adopt cmd locality parent child kept handle cumulative _ hidle =>
      show (s.contexts i).Lasts (((Edit.adopt ..).apply s).contexts i)
      by_cases hp : i = parent
      · rw [hp, Edit.adopt_parent]
        have halike := Context.Alike.keep (hp ▸ hi) kept
        exact ⟨halike.parentIdx, halike.contextType, halike.allowX509,
          halike.allowExportCdi, halike.allowRecursive, halike.usesInternalInputInfo,
          halike.usesInternalInputDice⟩
      · rw [Edit.adopt_other (hnew hidle) hp]
        exact .refl _
  | @prune marked idx top _ hcut =>
      show (s.contexts i).Lasts (((Edit.prune marked).apply s).contexts i)
      rw [Edit.prune_other (Edit.prune_spared hi').1]
      exact ⟨rfl, rfl, rfl, rfl, rfl, rfl, rfl⟩

/-- No call changes what is supported. -/
theorem CallEffect.support {call : Call b} {draws : List (Vector UInt8 16)}
    {es : List (Edit b)} (h : s.WellFormed) (he : CallEffect d s call draws es) :
    (Edit.applyAll s es).support = s.support := by
  refine (he.run h).invariant_all (I := fun t => t.support = s.support) ?_ rfl
  rintro t e t' ht ⟨-, rfl⟩
  cases e <;> exact ht

end Dpe
