import Dpe.Abstract.Shape
import Dpe.Proofs.Sample

/-! # Siblings — the type of a child names it

    The children of a context differ in their types.  A child is made
    under a type that no sibling has; no command gives a new type to a
    context that exists.  So UpdateContextMeasurement, which looks for a
    child by its type, cannot find the wrong one. -/

namespace Dpe

open Runs

variable {b : Build} {W : Type}

/-- The children of a context differ in their types. -/
def State.TypedApart (s : State b) : Prop :=
  ∀ p c c', s.up c = some p → s.up c' = some p →
    (s.contexts c).tci.tciType = (s.contexts c').tci.tciType → c = c'

/-- The children of a context of one of the types `N` differ in their
    types. -/
def State.ApartBelow (N : ContextType → Prop) (s : State b) : Prop :=
  ∀ p c c', N (s.contexts p).contextType → s.up c = some p → s.up c' = some p →
    (s.contexts c).tci.tciType = (s.contexts c').tci.tciType → c = c'

theorem State.typedApart_iff {s : State b} :
    s.TypedApart ↔ s.ApartBelow fun _ => True :=
  ⟨fun h p c c' _ => h p c c', fun h p c c' => h p c c' trivial⟩

/-! ## Edits -/

/-- The edit gives its type to a context that exists, or makes a child of
    a type that is not taken. -/
def Edit.TypeSafe (s : State b) : Edit b → Prop
  | retype _ _ => False
  | adopt parent _ _ args _ _ => ∀ c, s.up c = some parent →
      (s.contexts c).tci.tciType ≠ args.tciType
  | plant _ _ => True
  | rename _ _ => True
  | measure _ _ _ => True
  | retire _ => True
  | prune _ => True

namespace State.ApartBelow

variable {N : ContextType → Prop} {s t : State b}

/-- Fewer links and the same types. -/
theorem restrict (h : s.ApartBelow N)
    (hparent : ∀ p c, t.up c = some p →
      (t.contexts p).contextType = (s.contexts p).contextType)
    (hup : ∀ p c, t.up c = some p → s.up c = some p ∧
      (t.contexts c).tci.tciType = (s.contexts c).tci.tciType) :
    t.ApartBelow N := by
  intro p c c' hp hc hc' htype
  obtain ⟨hs, hstype⟩ := hup p c hc
  obtain ⟨hs', hstype'⟩ := hup p c' hc'
  rw [hparent p c hc] at hp
  refine h p c c' hp hs hs' ?_
  rw [← hstype, ← hstype']
  exact htype

/-- A context replaced by one of the same types with the same parent. -/
theorem set {i : Fin b.maxHandles} {c : Context b} (h : s.ApartBelow N)
    (hcontextType : c.contextType = (s.contexts i).contextType)
    (hparent : c.parentIdx = (s.contexts i).parentIdx)
    (htype : c.tci.tciType = (s.contexts i).tci.tciType) :
    (s.set i c).ApartBelow N := by
  refine h.restrict (fun p _ _ => ?_) fun p j hj => ?_
  · by_cases hip : p = i
    · rw [hip, State.set_self]
      exact hcontextType
    · rw [State.set_of_ne hip]
  by_cases hij : j = i
  · subst hij
    have hsame : (s.set j c).up j = s.up j :=
      State.up_congr (by rw [State.set_self]; exact hparent)
    rw [hsame] at hj
    rw [State.set_self]
    exact ⟨hj, htype⟩
  · have hsame : (s.set i c).up j = s.up j :=
      State.up_congr (by rw [State.set_of_ne hij])
    rw [hsame] at hj
    rw [State.set_of_ne hij]
    exact ⟨hj, rfl⟩

/-- **ONE EDIT** that is type safe keeps the types apart. -/
theorem step {e : Edit b} (h : s.ApartBelow N) (hwell : s.WellFormed)
    (hstep : Edit.Step s e t) (hsafe : e.TypeSafe s) : t.ApartBelow N := by
  have hwell' := hstep.wellFormed hwell
  obtain ⟨hlegal, rfl⟩ := hstep
  cases e with
  | retype => exact hsafe.elim
  | rename | measure | retire => exact h.set rfl rfl rfl
  | plant idx args =>
      have hup := Edit.plant_up hwell hlegal.1 hlegal.2.1
      refine h.restrict (fun p c hc => ?_) fun p c hc => ?_
      · rw [hup] at hc
        rw [Edit.plant_other (Edit.ne_of_live (hwell.live_parent hc) hlegal.1)]
      · rw [hup] at hc
        rw [Edit.plant_other (Edit.ne_of_live (hwell.live_child hc) hlegal.1)]
        exact ⟨hc, rfl⟩
  | prune marked =>
      refine h.restrict (fun p c hc => ?_) fun p c hc => ?_
      · rw [Edit.prune_other (Edit.prune_spared (hwell'.live_parent hc)).1]
        rfl
      by_cases hm : marked.hasChild b c = true
      · rw [Edit.prune_up_marked hm] at hc
        cases hc
      · rw [Edit.prune_up_other hm] at hc
        rw [Edit.prune_other hm]
        exact ⟨hc, rfl⟩
  | adopt parent child kept args measurement cumulative =>
      have hne := Edit.adopt_ne hlegal
      have hnew : ((Edit.adopt parent child kept args measurement
          cumulative).apply s).up child = some parent := Edit.adopt_up_child hlegal
      have htype : (((Edit.adopt parent child kept args measurement
          cumulative).apply s).contexts child).tci.tciType = args.tciType := by
        rw [Edit.adopt_child hne]
        rfl
      -- every other context is where it was, with the types it had
      have hother : ∀ i, i ≠ child →
          ((Edit.adopt parent child kept args measurement cumulative).apply s).up i
            = s.up i ∧
          (((Edit.adopt parent child kept args measurement cumulative).apply
            s).contexts i).tci.tciType = (s.contexts i).tci.tciType ∧
          (((Edit.adopt parent child kept args measurement cumulative).apply
            s).contexts i).contextType = (s.contexts i).contextType := by
        intro i hi
        refine ⟨Edit.adopt_up_other hi, ?_⟩
        by_cases hp : i = parent
        · rw [hp, Edit.adopt_parent]
          cases kept with
          | none => exact ⟨rfl, rfl⟩
          | some handle => exact ⟨rfl, rfl⟩
        · rw [Edit.adopt_other hi hp]
          exact ⟨rfl, rfl⟩
      intro p c c' hp hc hc' hsame
      by_cases hcc : c = child
      · by_cases hcc' : c' = child
        · rw [hcc, hcc']
        · rw [hcc, hnew] at hc
          cases hc
          rw [(hother c' hcc').1] at hc'
          rw [hcc, htype, (hother c' hcc').2.1] at hsame
          exact absurd hsame.symm (hsafe c' hc')
      · by_cases hcc' : c' = child
        · rw [hcc', hnew] at hc'
          cases hc'
          rw [(hother c hcc).1] at hc
          rw [hcc', htype, (hother c hcc).2.1] at hsame
          exact absurd hsame (hsafe c hc)
        · rw [(hother c hcc).1] at hc
          rw [(hother c' hcc').1] at hc'
          rw [(hother c hcc).2.1, (hother c' hcc').2.1] at hsame
          have hpc : p ≠ child :=
            Edit.ne_of_live (hwell.live_parent hc) hlegal.2.1
          rw [(hother p hpc).2.2] at hp
          exact h p c c' hp hc hc' hsame

/-- Edits that are type safe wherever they are made. -/
theorem run {es : List (Edit b)} (h : s.ApartBelow N) (hwell : s.WellFormed)
    (hrun : Run Edit.Step s es t) (hsafe : ∀ e ∈ es, ∀ s, e.TypeSafe s) :
    t.ApartBelow N := by
  have hboth : t.WellFormed ∧ t.ApartBelow N := by
    refine hrun.invariant (I := fun s => s.WellFormed ∧ s.ApartBelow N) ?_ hsafe
      ⟨hwell, h⟩
    rintro s e t ⟨hwell, h⟩ hsafe hstep
    exact ⟨hstep.wellFormed hwell, h.step hwell hstep (hsafe s)⟩
  exact hboth.2

end State.ApartBelow

/-! ## Commands -/

section Commands

variable {N : ContextType → Prop} {s : State b} {d : Deps b W} {locality : UInt32}
  {cmd : Command b}
  {draws : List (Vector UInt8 16)} {es : List (Edit b)}

/-- A type that the scan of the children has not met is the type of no
    child. -/
theorem unique_among (h : s.WellFormed) {p : Fin b.maxHandles} {tciType : UInt32}
    (hunique : DeriveContextCmd.tciTypeIsUniqueAmongChildren s (s.contexts p)
      tciType = true) :
    ∀ c, s.up c = some p → (s.contexts c).tci.tciType ≠ tciType := by
  intro c hc
  have hmem : c ∈ (s.contexts p).children.iter b :=
    (Children.mem_iter _ _).mpr ((h.child_iff p c).mpr hc)
  have hne := List.all_eq_true.mp hunique c hmem
  simpa using hne

/-- **A COMMAND** keeps the types of siblings apart. -/
theorem Effect.apartBelow (he : Effect d s locality cmd draws es)
    (hwell : s.WellFormed) (h : s.ApartBelow N) :
    (Edit.applyAll s es).ApartBelow N := by
  have hrun := he.run hwell
  cases he with
  | child accepted =>
      cases hrun with
      | cons hstep hrest =>
          cases hrest
          exact h.step hwell hstep (unique_among hwell accepted.unique)
  | getProfile | getCertificateChain => exact h
  | initCtx | rotateCtx | destroyCtx | sign | certifyKey | exportDestroyed
  | exportRetired | exportRetained | updateContextMeasurement | recursive =>
      exact h.run hwell hrun (by simp [Edit.TypeSafe])

/-- The call of a command, whatever has become of it. -/
theorem CallEffect.apartBelow
    (he : CallEffect d s (.command locality cmd) draws es)
    (hwell : s.WellFormed) (h : s.ApartBelow N) :
    (Edit.applyAll s es).ApartBelow N := by
  have hrun := he.run hwell
  cases he with
  | command effect => exact effect.apartBelow hwell h
  | parentRolled => exact h.run hwell hrun (by simp [Edit.TypeSafe])
  | failed => exact h

end Commands

/-! ## Instances -/

section Instances

variable {s : State b} {d : Deps b W} {draws : List (Vector UInt8 16)}
  {es : List (Edit b)}

/-- The default context hangs below nothing. -/
theorem Planted.up (he : Planted d s draws es) (hwell : s.WellFormed)
    (i : Fin b.maxHandles) : (Edit.applyAll s es).up i = s.up i := by
  have hrun := he.run hwell
  obtain ⟨_, -, effect⟩ := he
  cases effect with
  | initCtx =>
      cases hrun with
      | cons hstep hrest =>
          cases hrest
          exact Edit.plant_up hwell hstep.1.1 hstep.1.2.1 i

/-- Where a default context can be made, no normal context has a child,
    nor has the new one. -/
theorem Planted.childless (he : Planted d s draws es) (hwell : s.WellFormed)
    {p c : Fin b.maxHandles} (hc : (Edit.applyAll s es).up c = some p) :
    ((Edit.applyAll s es).contexts p).contextType ≠ .normal := by
  rw [he.up hwell] at hc
  have hlive := hwell.live_parent hc
  obtain ⟨_, -, effect⟩ := he
  cases effect with
  | @initCtx _ idx _ _ accepted slot =>
      rw [Edit.applyAll_cons, Edit.applyAll_nil, Edit.plant_other
        (Edit.ne_of_live hlive (State.getNextInactiveContextPos_some slot))]
      intro hnormal
      have hinit := hwell.normal_init p hlive hnormal
      have hdefault : InitCtxCmd.newUseDefault.flagIsDefault = true := by decide
      simp [InitCtxCmd.accepted, hinit, hdefault] at accepted

/-- **MAKING AN INSTANCE** keeps the types of the children of normal
    contexts apart, whatever context is given a type. -/
theorem CallEffect.apartBelow_normal {call : Call b}
    (he : CallEffect d s call draws es) (hwell : s.WellFormed)
    (h : s.ApartBelow (· = .normal)) :
    (Edit.applyAll s es).ApartBelow (· = .normal) := by
  have hplanted : ∀ {draws : List (Vector UInt8 16)} {es : List (Edit b)},
      Planted d s draws es → (Edit.applyAll s es).ApartBelow (· = .normal) :=
    fun he _ _ _ hp hc => absurd hp (he.childless hwell hc)
  have hnew : ∀ {draws : List (Vector UInt8 16)} {es : List (Edit b)},
      CallEffect d s .new draws es → (Edit.applyAll s es).ApartBelow (· = .normal) := by
    intro draws es he
    cases he with
    | newIdle | failed => exact h
    | new _ planted => exact hplanted planted
  cases call with
  | command => exact he.apartBelow hwell h
  | new => exact hnew he
  | newAutoInit tciType measurement =>
      cases he with
      | failed => exact h
      | newUnmeasured effect => exact hnew effect
      | @newAutoInit _ _ cumulative _ _ es idx _ planted =>
          have halike : (Edit.applyAll s es).Alike
              (Edit.applyAll (Edit.applyAll s es)
                [.measure idx measurement cumulative, .retype idx tciType]) :=
            (State.Alike.set (.measure _ _ _)).trans (.set (.retype _ _))
          rw [Edit.applyAll_append]
          intro p c c' hp hc
          rw [halike.up] at hc
          rw [(halike.contexts p).contextType] at hp
          exact absurd hp (planted.childless hwell hc)

end Instances

/-- **THE TYPES OF THE CHILDREN OF NORMAL CONTEXTS DIFFER** in every
    reachable state. -/
theorem Reachable.apartBelow {s : State b} (h : Reachable s) :
    s.ApartBelow (· = .normal) := by
  refine (h.invariant (I := State.ApartBelow (· = .normal)) ?_ ?_).2
  · intro support flags p c c' _ hc
    rw [(State.wellFormed_new (b := b) support flags).up_inactive rfl] at hc
    cases hc
  · exact fun hwell h he => he.apartBelow_normal hwell h

/-- No context has a parent. -/
def State.Flat (s : State b) : Prop := ∀ i, s.up i = none

theorem State.Flat.typedApart {s : State b} (h : s.Flat) : s.TypedApart := by
  intro p c c' hc
  rw [h c] at hc
  cases hc

/-- The calls that make an instance. -/
def Call.Boots : Call b → Prop
  | new => True
  | newAutoInit _ _ => True
  | command _ _ => False

def Call.IsCommand : Call b → Prop
  | new => False
  | newAutoInit _ _ => False
  | command _ _ => True

/-- Making an instance makes no child. -/
theorem CallEffect.flat {s : State b} {d : Deps b W} {call : Call b}
    {draws : List (Vector UInt8 16)} {es : List (Edit b)}
    (he : CallEffect d s call draws es) (hboots : call.Boots) (hwell : s.WellFormed)
    (h : s.Flat) : (Edit.applyAll s es).Flat := by
  induction he with
  | newIdle | failed => exact h
  | new _ planted => exact fun i => (planted.up hwell i).trans (h i)
  | newAutoInit _ planted =>
      intro i
      rw [Edit.applyAll_append]
      refine Eq.trans ?_ ((planted.up hwell i).trans (h i))
      exact ((State.Alike.set (.measure _ _ _)).trans (.set (.retype _ _))).up i
  | newUnmeasured _ ih => exact ih trivial
  | command | parentRolled => exact hboots.elim

/-- Reached from a new state by making one instance and then executing
    commands, in any order and from any localities. -/
def Booted (s : State b) : Prop :=
  ∃ support flags x s0 xs, x.call.Boots ∧
    Exec.Step (State.new b support flags) x s0 ∧
    (∀ y : Exec b, y ∈ xs → y.call.IsCommand) ∧ Run Exec.Step s0 xs s

theorem Booted.reachable {s : State b} (h : Booted s) : Reachable s := by
  obtain ⟨support, flags, x, s0, xs, -, hstep, -, hrun⟩ := h
  exact ⟨support, flags, x :: xs, .cons hstep hrun⟩

/-- **THE TYPES OF SIBLINGS DIFFER** in whatever follows the making of an
    instance. -/
theorem Booted.typedApart {s : State b} (h : Booted s) : s.TypedApart := by
  obtain ⟨support, flags, x, s0, xs, hboots, hstep, hcommands, hrun⟩ := h
  have hwell := State.wellFormed_new (b := b) support flags
  have hflat : (State.new b support flags).Flat :=
    fun i => hwell.up_inactive rfl
  have hfirst : s0.WellFormed ∧ s0.TypedApart := by
    obtain ⟨draws, es, he, rfl⟩ := hstep.effect hwell
    exact ⟨he.wellFormed hwell, (he.flat hboots hwell hflat).typedApart⟩
  refine (hrun.invariant (I := fun s => s.WellFormed ∧ s.TypedApart) ?_ hcommands
    hfirst).2
  rintro s y t ⟨hwell, h⟩ hcommand hstep
  obtain ⟨draws, es, he, rfl⟩ := hstep.effect hwell
  refine ⟨he.wellFormed hwell, ?_⟩
  cases hcall : y.call with
  | new | newAutoInit =>
      rw [hcall] at hcommand
      exact hcommand.elim
  | command locality cmd =>
      rw [hcall] at he
      exact State.typedApart_iff.mpr
        (he.apartBelow hwell (State.typedApart_iff.mp h))

/-! ## Updates -/

/-- The TCI of every context but one is as it was. -/
theorem update_tci {s : State b} {parent child : Fin b.maxHandles}
    {handle handle' : ContextHandle} {data cumulative : TciMeasurement b}
    (i : Fin b.maxHandles) :
    ((Edit.applyAll s [.rename parent handle, .measure child data cumulative,
      .rename child handle']).contexts i).tci
      = if i = child then ((s.contexts child).measure data cumulative).tci
        else (s.contexts i).tci := by
  have hrename : ∀ (s : State b) (j : Fin b.maxHandles) (handle : ContextHandle)
      (i : Fin b.maxHandles), (((Edit.rename j handle).apply s).contexts i).tci
        = (s.contexts i).tci := by
    intro s j handle i
    show ((s.set j _).contexts i).tci = _
    by_cases hij : i = j
    · rw [hij, State.set_self]
      rfl
    · rw [State.set_of_ne hij]
  have hold : ∀ s : State b, (s.contexts child).tci
      = (((Edit.rename parent handle).apply s).contexts child).tci :=
    fun s => (hrename s parent handle child).symm
  rw [Edit.applyAll_cons, Edit.applyAll_cons, Edit.applyAll_cons, Edit.applyAll_nil,
    hrename]
  show ((State.set _ child _).contexts i).tci = _
  by_cases hi : i = child
  · rw [if_pos hi, hi, State.set_self]
    unfold Context.measure
    rw [← hold]
  · rw [if_neg hi, State.set_of_ne hi, hrename]

/-- The update has measured the one child of `parent` that has the type of
    the command, active or not, and nothing else. -/
structure UpdateContextMeasurementCmd.Hits (d : Deps b W)
    (cmd : UpdateContextMeasurementCmd b) (locality : UInt32) (s s' : State b)
    (parent child : Fin b.maxHandles) : Prop where
  resolves : s.getActiveContextPos cmd.parentHandle locality = .ok parent
  active : (s.contexts child).state = .active
  only : ∀ c, s.up c = some parent ∧ (s.contexts c).tci.tciType = cmd.tciType ↔
    c = child
  measured : ∃ cumulative,
    Extends d (s.contexts child).tci.tciCumulative cmd.data cumulative ∧
    (s'.contexts child).tci = ((s.contexts child).measure cmd.data cumulative).tci
  others : ∀ i, i ≠ child → (s'.contexts i).tci = (s.contexts i).tci

/-- **SIBLING TYPES ARE UNIQUE** in every state that follows the making of
    an instance, and an update that returns has measured the right
    child. -/
theorem sibling_types {s : State b} (h : Booted s) :
    s.TypedApart ∧
    ∀ (W : Type) (d : Deps b W) (dpe : DpeInstance b) (locality : UInt32)
      (cmd : UpdateContextMeasurementCmd b) (env env' : Env b W) (n : Nat),
      env.state = s → cmd.executeSerialized d dpe locality env = .ok n env' →
      ∃ parent child, cmd.Hits d locality s env'.state parent child := by
  have hapart := h.typedApart
  have hwell := h.reachable.wellFormed
  refine ⟨hapart, ?_⟩
  rintro W d dpe locality cmd env env' n rfl hrun
  obtain ⟨draws, es, bytes, heffect, hdid, -⟩ :=
    (updateContextMeasurement_spec d dpe locality cmd env).of_ok hrun
  cases heffect with
  | @updateContextMeasurement _ parent child _ _ _ _ cumulative named resolves found
      extended =>
      obtain ⟨hbit, hactive, htype⟩ :=
        UpdateContextMeasurementCmd.findChild_some found
      have hup := (hwell.child_iff parent child).mp hbit
      refine ⟨parent, child, resolves, hactive, ?_, ⟨cumulative, extended, ?_⟩, ?_⟩
      · intro c
        constructor
        · rintro ⟨hc, hctype⟩
          exact hapart parent c child hc hup (hctype.trans htype.symm)
        · rintro rfl
          exact ⟨hup, htype⟩
      · rw [hdid.state, update_tci, if_pos rfl]
      · intro i hi
        rw [hdid.state, update_tci, if_neg hi]

/-! ## An update to look at -/

/-- What is played from the making of an instance on is booted. -/
theorem booted_played {c : SampleCall} {cs : List SampleCall}
    (hboots : c.call.Boots) (hcommands : ∀ c ∈ cs, c.call.IsCommand)
    (h : (play sampleNew (c :: cs)).isSome = true) : Booted (played (c :: cs)) := by
  obtain ⟨xs, hrun, hcalls⟩ := run_played h
  cases xs with
  | nil => cases hcalls
  | cons x xs =>
      obtain ⟨hx, hxs⟩ := List.cons.inj hcalls
      cases hrun with
      | cons hstep hrest =>
          refine ⟨_, _, x, _, xs, ?_, hstep, fun y hy => ?_, hrest⟩
          · rw [hx]
            exact hboots
          · obtain ⟨c', hc', hy'⟩ := List.mem_map.mp
              (hxs ▸ List.mem_map_of_mem hy : y.call ∈ cs.map SampleCall.call)
            rw [← hy']
            exact hcommands c' hc'

/-- A default context that is made first, its child under the handle of
    bytes 10, and a grandchild of type 5. -/
def siblingCalls : List SampleCall :=
  [⟨.command 1 (.deriveContext
      { handle := .default
        data := .replicate _ 1
        flags := ⟨0⟩
        tciType := 1
        targetLocality := 0
        svn := 0 }), [9], 44⟩,
    sampleDerive 1 9 DeriveContextFlags.RETAIN_PARENT_CONTEXT 5 0 [10, 11] 44]

def siblingUpdate : UpdateContextMeasurementCmd sampleBuild :=
  ⟨sampleHandle 10, .replicate _ 2, 0, 5, 0⟩

/-- The state that the update is made in. -/
def siblingState : State sampleBuild := played (⟨.new, [], 0⟩ :: siblingCalls)

theorem sibling_types_update :
    ∃ env', siblingUpdate.executeSerialized sampleDeps sampleDpe 1
        (sampleEnv siblingState [12, 13] 44) = .ok 44 env' ∧
      ∃ parent child,
        siblingUpdate.Hits sampleDeps 1 siblingState env'.state parent child := by
  have hplays : (play sampleNew (⟨.new, [], 0⟩ :: siblingCalls)).isSome = true := by
    decide +kernel
  have hbooted : Booted siblingState :=
    booted_played trivial (by simp [siblingCalls, sampleDerive, Call.IsCommand])
      hplays
  have hrun : ∃ env', siblingUpdate.executeSerialized sampleDeps sampleDpe 1
      (sampleEnv siblingState [12, 13] 44) = .ok 44 env' := by
    refine ⟨_, ending_of_returns ?_⟩
    decide +kernel
  obtain ⟨env', hrun⟩ := hrun
  obtain ⟨-, hhits⟩ := sibling_types hbooted
  exact ⟨env', hrun, hhits (List UInt8) sampleDeps sampleDpe 1 siblingUpdate
    (sampleEnv siblingState [12, 13] 44) env' 44
    (sampleEnv_state _ _ _) hrun⟩

end Dpe
