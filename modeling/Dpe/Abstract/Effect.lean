import Dpe.Commands.Execute
import Dpe.Proofs.Destroy

/-! # Effects — what a call does when it does all it sets out to do

    An effect is the list of edits that a call makes, with every guard
    of the code under which it makes them and the random values it draws
    on the way.  The relation is the inversion of the commands: whatever
    holds of all effects holds of all commands, and no later proof looks
    at a program again.

    This module proves that the edits of an effect are legal, one after
    the other, in a well-formed state. -/

namespace Dpe

open Runs

variable {b : Build} {W : Type}

/-! ## Handles -/

/-- A handle that `generate_new_handle` refuses. -/
def Taken (s : State b) (handle : ContextHandle) : Prop :=
  handle = .default ∨ ∃ i, (s.contexts i).handle = handle

/-- The handle is the last value drawn, and the ones before it were
    refused. -/
structure Fresh (s : State b) (draws : List (Vector UInt8 16))
    (handle : ContextHandle) : Prop where
  free : ¬ Taken s handle
  drawn : ∃ refused, draws = refused ++ [handle.bytes] ∧
    ∀ v ∈ refused, Taken s ⟨v⟩

/-- The default handle if it is wanted, else a fresh one. -/
inductive Chosen (s : State b) :
    Bool → List (Vector UInt8 16) → ContextHandle → Prop where
  | default : Chosen s true [] .default
  | fresh {draws : List (Vector UInt8 16)} {handle : ContextHandle}
      (h : Fresh s draws handle) : Chosen s false draws handle

/-- What is left of a parent: its handle is rolled, or it is retired. -/
inductive Kept (s : State b) (old : ContextHandle) :
    Bool → List (Vector UInt8 16) → Option ContextHandle → Prop where
  | retained {draws : List (Vector UInt8 16)} {handle : ContextHandle}
      (h : Chosen s old.isDefault draws handle) :
      Kept s old true draws (some handle)
  | retired : Kept s old false [] none

/-- A method of a trait returned `a`, in some world. -/
def Returned {ε α : Type} (f : W → Except ε α × W) (a : α) : Prop :=
  ∃ w w', f w = (.ok a, w')

/-- `cumulative` is the hash of `old` and `measurement`. -/
def Extends (d : Deps b W) (old measurement cumulative : TciMeasurement b) :
    Prop :=
  ∃ digest, Returned
    (d.crypto.hasherFinish (old.toList ++ measurement.toList)) digest ∧
    measurementOfDigest b digest = .ok cumulative

/-! ## The guards of InitializeContext -/

/-- The flags of the command are accepted in the state. -/
def InitCtxCmd.accepted (cmd : InitCtxCmd) (s : State b) : Bool :=
  !((cmd.flagIsDefault && s.hasInitialized)
    || (cmd.flagIsSimulation && !s.support.simulation))
  && (cmd.flagIsDefault ^^ cmd.flagIsSimulation)

/-- The type of the context that the command makes. -/
def InitCtxCmd.contextType (cmd : InitCtxCmd) : ContextType :=
  if cmd.flagIsDefault then .normal else .simulation

/-! ## Effects of commands -/

/-- A sequence of edits. -/
def Edit.applyAll (s : State b) (es : List (Edit b)) : State b :=
  es.foldl Edit.apply s

@[simp] theorem Edit.applyAll_nil (s : State b) : applyAll s [] = s := rfl

@[simp] theorem Edit.applyAll_cons (s : State b) (e : Edit b)
    (es : List (Edit b)) : applyAll s (e :: es) = applyAll (e.apply s) es := rfl

theorem Edit.applyAll_append (s : State b) (es es' : List (Edit b)) :
    applyAll s (es ++ es') = applyAll (applyAll s es) es' :=
  List.foldl_append ..

/-- The guards that all outcomes of DeriveContext share. -/
structure DeriveContextCmd.Accepted (cmd : DeriveContextCmd b) (s : State b)
    (locality : UInt32) (parent : Fin b.maxHandles) : Prop where
  supported : cmd.unsupported s.support = false
  resolves : s.getActiveContextPos cmd.handle locality = .ok parent
  valid : cmd.invalid (s.contexts parent) = false

/-- The guards that export and child share. -/
structure DeriveContextCmd.FromParent (cmd : DeriveContextCmd b) (s : State b)
    (locality : UInt32) (parent : Fin b.maxHandles) : Prop
    extends cmd.Accepted s locality parent where
  notRecursive : cmd.flags.isRecursive = false
  unique : tciTypeIsUniqueAmongChildren s (s.contexts parent) cmd.tciType = true

/-- **THE EFFECTS OF COMMANDS**: the values drawn and the edits made by a
    command from a locality. -/
inductive Effect (d : Deps b W) (s : State b) (locality : UInt32) :
    Command b → List (Vector UInt8 16) → List (Edit b) → Prop where
  | getProfile (cmd : GetProfileCmd) : Effect d s locality (.getProfile cmd) [] []
  | getCertificateChain (cmd : GetCertificateChainCmd) :
      Effect d s locality (.getCertificateChain cmd) [] []
  | initCtx {cmd : InitCtxCmd} {idx : Fin b.maxHandles}
      {draws : List (Vector UInt8 16)} {handle : ContextHandle}
      (accepted : cmd.accepted s = true)
      (slot : s.getNextInactiveContextPos = some idx)
      (chosen : Chosen s cmd.flagIsDefault draws handle) :
      Effect d s locality (.initCtx cmd) draws
        [.plant idx (cmd.activeContextArgs cmd.contextType handle locality)]
  | rotateCtx {cmd : RotateCtxCmd} {idx : Fin b.maxHandles}
      {draws : List (Vector UInt8 16)} {handle : ContextHandle}
      (supported : s.support.rotateContext = true)
      (resolves : s.getActiveContextPos cmd.handle locality = .ok idx)
      (allowed : (cmd.usesTargetIsDefault
        && RotateCtxCmd.targetIsTaken s locality idx) = false)
      (chosen : Chosen s cmd.usesTargetIsDefault draws handle) :
      Effect d s locality (.rotateCtx cmd) draws [.rename idx handle]
  | destroyCtx {cmd : DestroyCtxCmd} {idx top : Fin b.maxHandles}
      {marked : Children}
      (resolves : s.getActiveContextPos cmd.handle locality = .ok idx)
      (summit : State.Summit s idx top) (cut : Edit.Cut s marked top) :
      Effect d s locality (.destroyCtx cmd) [] [.prune marked]
  | sign {cmd : SignCommand} {idx : Fin b.maxHandles}
      {draws : List (Vector UInt8 16)} {handle : ContextHandle}
      (resolves : s.getActiveContextPos cmd.handle locality = .ok idx)
      (normal : (s.contexts idx).contextType ≠ .simulation)
      (chosen : Chosen s cmd.handle.isDefault draws handle) :
      Effect d s locality (.sign cmd) draws [.rename idx handle]
  | certifyKey {cmd : CertifyKeyCommand} {idx : Fin b.maxHandles}
      {draws : List (Vector UInt8 16)} {handle : ContextHandle}
      (resolves : s.getActiveContextPos cmd.handle locality = .ok idx)
      (supported : CertifyKeyCommand.formatUnsupported cmd.format s.support
        = false)
      (allowed : (cmd.format == CertifyKeyCommand.FORMAT_X509
        && !(s.contexts idx).allowX509) = false)
      (chosen : Chosen s cmd.handle.isDefault draws handle) :
      Effect d s locality (.certifyKey cmd) draws [.rename idx handle]
  | updateContextMeasurement {cmd : UpdateContextMeasurementCmd b}
      {parent child : Fin b.maxHandles} {draws draws' : List (Vector UInt8 16)}
      {handle handle' : ContextHandle} {cumulative : TciMeasurement b}
      (named : cmd.parentHandle ≠ .default)
      (resolves : s.getActiveContextPos cmd.parentHandle locality = .ok parent)
      (found : cmd.findChild s parent = some child)
      (extended : Extends d (s.contexts child).tci.tciCumulative cmd.data
        cumulative)
      (parentChosen : Chosen s false draws handle)
      (childChosen : Chosen ((Edit.rename parent handle).apply s)
        (s.contexts child).handle.isDefault draws' handle') :
      Effect d s locality (.updateContextMeasurement cmd) (draws ++ draws')
        [.rename parent handle, .measure child cmd.data cumulative,
          .rename child handle']
  | recursive {cmd : DeriveContextCmd b} {idx : Fin b.maxHandles}
      {draws : List (Vector UInt8 16)} {handle : ContextHandle}
      {cumulative : TciMeasurement b}
      (accepted : cmd.Accepted s locality idx)
      (isRecursive : cmd.flags.isRecursive = true)
      (sameType : (s.contexts idx).tci.tciType = cmd.tciType)
      (sameLocality : cmd.childLocality locality = locality)
      (extended : Extends d (s.contexts idx).tci.tciCumulative cmd.data
        cumulative)
      (chosen : Chosen s cmd.handle.isDefault draws handle) :
      Effect d s locality (.deriveContext cmd) draws
        [.measure idx cmd.data cumulative, .rename idx handle]
  | child {cmd : DeriveContextCmd b} {parent child : Fin b.maxHandles}
      {draws draws' : List (Vector UInt8 16)} {kept : Option ContextHandle}
      {handle : ContextHandle} {cumulative : TciMeasurement b}
      (accepted : cmd.FromParent s locality parent)
      (notExported : (cmd.flags.createsCertificate && cmd.flags.exportsCdi)
        = false)
      (isKept : Kept s cmd.handle cmd.flags.retainsParent draws kept)
      (slot : s.getNextInactiveContextPos = some child)
      (safe : cmd.safeToMakeChild s parent (cmd.childLocality locality) = true)
      (chosen : Chosen s cmd.flags.makesDefault draws' handle)
      (extended : Extends d (.zero b) cmd.data cumulative) :
      Effect d s locality (.deriveContext cmd) (draws ++ draws')
        [.adopt parent child kept (cmd.activeContextArgs
          (s.contexts parent).contextType (s.contexts parent) parent handle
          (cmd.childLocality locality)) cmd.data cumulative]
  | exportDestroyed {cmd : DeriveContextCmd b} {parent top : Fin b.maxHandles}
      {marked : Children}
      (accepted : cmd.FromParent s locality parent)
      (exported : (cmd.flags.createsCertificate && cmd.flags.exportsCdi) = true)
      (gone : cmd.flags.retainsParent = false)
      (childless : (s.contexts parent).hasChildren = false)
      (summit : State.Summit s parent top) (cut : Edit.Cut s marked top) :
      Effect d s locality (.deriveContext cmd) [] [.prune marked]
  | exportRetired {cmd : DeriveContextCmd b} {parent : Fin b.maxHandles}
      (accepted : cmd.FromParent s locality parent)
      (exported : (cmd.flags.createsCertificate && cmd.flags.exportsCdi) = true)
      (gone : cmd.flags.retainsParent = false)
      (hasChildren : (s.contexts parent).hasChildren = true) :
      Effect d s locality (.deriveContext cmd) [] [.retire parent]
  | exportRetained {cmd : DeriveContextCmd b} {parent : Fin b.maxHandles}
      {draws : List (Vector UInt8 16)} {handle : ContextHandle}
      (accepted : cmd.FromParent s locality parent)
      (exported : (cmd.flags.createsCertificate && cmd.flags.exportsCdi) = true)
      (retained : cmd.flags.retainsParent = true)
      (chosen : Chosen s cmd.handle.isDefault draws handle) :
      Effect d s locality (.deriveContext cmd) draws [.rename parent handle]

/-! ## Effects of calls -/

/-- The default context is made, for the locality that the platform
    names. -/
def Planted (d : Deps b W) (s : State b) (draws : List (Vector UInt8 16))
    (es : List (Edit b)) : Prop :=
  ∃ locality, Returned d.platform.getAutoInitLocality locality ∧
    Effect d s locality (.initCtx .newUseDefault) draws es

/-- **THE EFFECTS OF CALLS**, complete or, where the call failed halfway,
    in part. -/
inductive CallEffect (d : Deps b W) (s : State b) :
    Call b → List (Vector UInt8 16) → List (Edit b) → Prop where
  | newIdle (idle : s.support.autoInit = false) : CallEffect d s .new [] []
  | new {draws : List (Vector UInt8 16)} {es : List (Edit b)}
      (autoInit : s.support.autoInit = true) (planted : Planted d s draws es) :
      CallEffect d s .new draws es
  | newAutoInit {tciType : UInt32} {measurement cumulative : TciMeasurement b}
      {locality : UInt32} {draws : List (Vector UInt8 16)}
      {es : List (Edit b)} {idx : Fin b.maxHandles}
      (autoInit : s.support.autoInit = true) (planted : Planted d s draws es)
      (resolves : (Edit.applyAll s es).getActiveContextPos .default locality
        = .ok idx)
      (extended : Extends d
        ((Edit.applyAll s es).contexts idx).tci.tciCumulative measurement
        cumulative) :
      CallEffect d s (.newAutoInit tciType measurement) draws
        (es ++ [.measure idx measurement cumulative, .retype idx tciType])
  | command {locality : UInt32} {cmd : Command b}
      {draws : List (Vector UInt8 16)} {es : List (Edit b)}
      (effect : Effect d s locality cmd draws es) :
      CallEffect d s (.command locality cmd) draws es
  /-- `new_auto_init` failed behind `new` -/
  | newUnmeasured {tciType : UInt32} {measurement : TciMeasurement b}
      {draws : List (Vector UInt8 16)} {es : List (Edit b)}
      (effect : CallEffect d s .new draws es) :
      CallEffect d s (.newAutoInit tciType measurement) draws es
  /-- UpdateContextMeasurement failed between the two handles -/
  | parentRolled {cmd : UpdateContextMeasurementCmd b} {locality : UInt32}
      {parent child : Fin b.maxHandles} {draws draws' : List (Vector UInt8 16)}
      {handle : ContextHandle}
      (named : cmd.parentHandle ≠ .default)
      (resolves : s.getActiveContextPos cmd.parentHandle locality = .ok parent)
      (found : cmd.findChild s parent = some child)
      (chosen : Chosen s false draws handle) :
      CallEffect d s (.command locality (.updateContextMeasurement cmd))
        (draws ++ draws') [.rename parent handle]
  /-- the call failed before it made an edit -/
  | failed (call : Call b) (draws : List (Vector UInt8 16)) :
      CallEffect d s call draws []

/-! ## Effects are legal -/

section Legal

variable {s : State b}

theorem State.live_of_active {i : Fin b.maxHandles}
    (h : (s.contexts i).state = .active) : s.Live i := by
  intro hi
  rw [h] at hi
  cases hi

/-- What a handle resolves to is live. -/
theorem State.live_of_resolves {handle : ContextHandle} {locality : UInt32}
    {i : Fin b.maxHandles} (h : s.getActiveContextPos handle locality = .ok i) :
    s.Live i := State.live_of_active (State.getActiveContextPos_ok h).1

theorem UpdateContextMeasurementCmd.findChild_some
    {cmd : UpdateContextMeasurementCmd b} {parent child : Fin b.maxHandles}
    (h : cmd.findChild s parent = some child) :
    (s.contexts parent).children.hasChild b child = true ∧
      (s.contexts child).state = .active ∧
      (s.contexts child).tci.tciType = cmd.tciType := by
  have hp := List.find?_some h
  have hmem := List.mem_of_find?_eq_some h
  simp only [Bool.and_eq_true, beq_iff_eq] at hp
  exact ⟨(Children.mem_iter _ _).mp hmem, hp⟩

namespace Edit

/-- An edit that replaces one live context by a live one. -/
theorem live_set {i j : Fin b.maxHandles} {c : Context b}
    (hc : c.state = (s.contexts i).state) (hj : s.Live j) :
    (s.set i c).Live j := by
  unfold State.Live
  by_cases hij : j = i
  · rw [hij, State.set_self, hc, ← hij]
    exact hj
  · rw [State.set_of_ne hij]
    exact hj

theorem live_rename (i : Fin b.maxHandles) (handle : ContextHandle)
    {j : Fin b.maxHandles} (hj : s.Live j) : ((rename i handle).apply s).Live j := live_set rfl hj

theorem live_measure (i : Fin b.maxHandles)
    (measurement cumulative : TciMeasurement b) {j : Fin b.maxHandles} (hj : s.Live j) :
    ((measure i measurement cumulative).apply s).Live j := live_set rfl hj

theorem run_single {e : Edit b} (h : e.Legal s) :
    Run Step s [e] (applyAll s [e]) := Run.single ⟨h, rfl⟩

theorem run_cons {e : Edit b} {es : List (Edit b)} (h : e.Legal s)
    (hr : Run Step (e.apply s) es (applyAll (e.apply s) es)) :
    Run Step s (e :: es) (applyAll s (e :: es)) := .cons ⟨h, rfl⟩ hr

end Edit

variable {d : Deps b W} {locality : UInt32}

/-- **THE EDITS OF A COMMAND ARE LEGAL**, one after the other. -/
theorem Effect.run {cmd : Command b} {draws : List (Vector UInt8 16)}
    {es : List (Edit b)} (h : s.WellFormed)
    (he : Effect d s locality cmd draws es) :
    Run Edit.Step s es (Edit.applyAll s es) := by
  cases he with
  | getProfile | getCertificateChain => exact .nil s
  | @initCtx cmd idx _ _ accepted slot _ =>
      refine Edit.run_single ⟨State.getNextInactiveContextPos_some slot, rfl, ?_⟩
      intro hnormal
      have hdefault : cmd.flagIsDefault = true := by
        by_contra hno
        have hsim : cmd.contextType = .simulation := if_neg hno
        rw [show cmd.contextType = .normal from hnormal] at hsim
        cases hsim
      simp only [InitCtxCmd.accepted, hdefault, Bool.true_and, Bool.and_eq_true,
        Bool.not_eq_true', Bool.or_eq_false_iff] at accepted
      exact accepted.1.1
  | rotateCtx _ resolves => exact Edit.run_single (State.live_of_resolves resolves)
  | destroyCtx _ _ cut => exact Edit.run_single ⟨_, cut⟩
  | sign resolves => exact Edit.run_single (State.live_of_resolves resolves)
  | certifyKey resolves => exact Edit.run_single (State.live_of_resolves resolves)
  | @updateContextMeasurement _ parent _ _ _ handle _ _ _ resolves found =>
      have hparent := State.live_of_resolves resolves
      have hchild := State.live_of_active
        (UpdateContextMeasurementCmd.findChild_some found).2.1
      have hchild1 := Edit.live_rename parent handle hchild
      exact Edit.run_cons hparent (Edit.run_cons hchild1
        (Edit.run_single (Edit.live_measure _ _ _ hchild1)))
  | recursive accepted =>
      have hlive := State.live_of_resolves accepted.resolves
      exact Edit.run_cons hlive (Edit.run_single (Edit.live_measure _ _ _ hlive))
  | child accepted _ _ slot =>
      exact Edit.run_single ⟨State.live_of_resolves accepted.resolves,
        State.getNextInactiveContextPos_some slot, rfl, rfl⟩
  | exportDestroyed _ _ _ _ _ cut => exact Edit.run_single ⟨_, cut⟩
  | @exportRetired _ parent accepted _ _ hasChildren =>
      obtain ⟨c, hc⟩ := (h.inRange parent).exists_child hasChildren
      exact Edit.run_single ⟨State.live_of_resolves accepted.resolves, c,
        (h.child_iff parent c).mp hc⟩
  | exportRetained accepted =>
      exact Edit.run_single (State.live_of_resolves accepted.resolves)

theorem Planted.run {draws : List (Vector UInt8 16)} {es : List (Edit b)}
    (h : s.WellFormed) (he : Planted d s draws es) :
    Run Edit.Step s es (Edit.applyAll s es) := by
  obtain ⟨_, -, effect⟩ := he
  exact effect.run h

/-- **THE EDITS OF A CALL ARE LEGAL**. -/
theorem CallEffect.run {call : Call b} {draws : List (Vector UInt8 16)}
    {es : List (Edit b)} (h : s.WellFormed)
    (he : CallEffect d s call draws es) :
    Run Edit.Step s es (Edit.applyAll s es) := by
  induction he with
  | newIdle => exact .nil s
  | new _ planted => exact planted.run h
  | newAutoInit _ planted resolves =>
      have hlive := State.live_of_resolves resolves
      unfold Edit.applyAll
      rw [List.foldl_append]
      exact (planted.run h).append (Edit.run_cons hlive
        (Edit.run_single (Edit.live_measure _ _ _ hlive)))
  | command effect => exact effect.run h
  | newUnmeasured _ ih => exact ih
  | parentRolled _ resolves =>
      exact Edit.run_single (State.live_of_resolves resolves)
  | failed => exact .nil s

/-- **WELL-FORMEDNESS** survives every effect. -/
theorem CallEffect.wellFormed {call : Call b} {draws : List (Vector UInt8 16)}
    {es : List (Edit b)} (h : s.WellFormed)
    (he : CallEffect d s call draws es) : (Edit.applyAll s es).WellFormed :=
  (he.run h).invariant_all (fun _ _ _ hs hstep => hstep.wellFormed hs) h

end Legal

end Dpe
