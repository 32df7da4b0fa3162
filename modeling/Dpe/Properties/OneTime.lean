import Dpe.Properties.Isolation
import Dpe.Properties.Uniqueness

/-! # One-time handles — what a response names

    A handle other than the default one is spent by the command that uses
    it.  The handles in the response name the context that the command
    was about and the parent it has kept, with one exception: the default
    handle of an updated child names the first default context of the
    child's locality, and that may be another one. -/

namespace Dpe

open Prog

variable {b : Build}

/-- The context whose handle a command returns, when its own handle
    resolves to slot `i`. -/
def Command.yields (s : State b) (i : Fin b.maxHandles) :
    Command b → Option (Fin b.maxHandles)
  | certifyKey _ | sign _ | rotateCtx _ => some i
  | deriveContext cmd =>
      if cmd.flags.isRecursive then some i
      else if cmd.flags.createsCertificate && cmd.flags.exportsCdi then none
      else s.getNextInactiveContextPos
  | updateContextMeasurement cmd => cmd.findChild s i
  | getProfile _ | initCtx _ | destroyCtx _ | getCertificateChain _ => none

/-- The command returns a handle of the parent it has kept. -/
def Command.keepsParent : Command b → Bool
  | deriveContext cmd => !cmd.flags.isRecursive && cmd.flags.retainsParent
  | updateContextMeasurement _ => true
  | getProfile _ | initCtx _ | certifyKey _ | sign _ | rotateCtx _
  | destroyCtx _ | getCertificateChain _ => false

/-- The handle at an offset of a response. -/
def handleAt (out : Bytes) (off : Nat) : Bytes := (out.drop off).take 16

/-- The handle is spent, and the response names what it should. -/
structure OneTime (s s' : State b) (out : Bytes) (locality : UInt32)
    (handle : ContextHandle) (cmd : Command b) (i : Fin b.maxHandles) :
    Prop where
  spent : ∀ other j, s'.getActiveContextPos handle other ≠ .ok j
  yielded : ∀ j, cmd.yields s i = some j → ∃ new,
    handleAt out 12 = new.asBytes ∧
      s'.getActiveContextPos new (s'.contexts j).locality = .ok j
  parent : cmd.keepsParent = true → ∃ new,
    handleAt out 28 = new.asBytes ∧ s'.getActiveContextPos new locality = .ok i

/-- The child of an update, if it is a default context, is the first one
    of its locality. -/
def Command.ChildFirst (s : State b) (locality : UInt32) : Command b → Prop
  | updateContextMeasurement cmd => ∀ parent child,
      s.getActiveContextPos cmd.parentHandle locality = .ok parent →
      cmd.findChild s parent = some child →
      (s.contexts child).handle = .default →
      ∀ j < child, s.address j ≠ some ((s.contexts child).locality, .default)
  | _ => True

/-! ## Responses -/

/-- A handle in the middle of an answer. -/
theorem Answered.handleAt {W : Type} {env env' : Env b W} {bytes pre post : Bytes}
    {n : Nat} (h : Answered env bytes n env') (handle : ContextHandle)
    (hbytes : bytes = pre ++ handle.asBytes ++ post) :
    handleAt env'.out.bytes pre.length = handle.asBytes := by
  rw [h.out, Splice.splice_zero, hbytes]
  simp only [List.append_assoc]
  unfold Dpe.handleAt
  rw [List.drop_left, ← handle.asBytes_length, List.take_left]

/-! ## Addresses -/

section Addresses

open Edit

variable {s s' : State b} {i : Fin b.maxHandles} {locality : UInt32}
  {handle new : ContextHandle} {isDefault : Bool}
  {draws : List (Vector UInt8 16)} {a : Fin b.maxHandles → Option Address}

/-- No two active contexts share a handle other than the default one. -/
def State.DistinctHandles (s : State b) : Prop :=
  ∀ i j, (s.contexts i).state = .active → (s.contexts j).state = .active →
    (s.contexts i).handle = (s.contexts j).handle →
    (s.contexts i).handle ≠ .default → i = j

/-- Nobody else has the handle. -/
theorem State.DistinctHandles.others (h : s.DistinctHandles)
    (hi : s.address i = some (locality, handle)) (hne : handle ≠ .default)
    {j : Fin b.maxHandles} (hj : j ≠ i) (other : UInt32) :
    s.address j ≠ some (other, handle) := by
  intro haddr
  obtain ⟨hactive, -, hh⟩ := State.address_some.mp hi
  obtain ⟨hactive', -, hh'⟩ := State.address_some.mp haddr
  exact hj (h i j hactive hactive' (hh.trans hh'.symm) (hh ▸ hne)).symm

/-- A chosen handle is not one that is in use. -/
theorem Chosen.ne_used (h : Chosen s isDefault draws new)
    (hi : s.address i = some (locality, handle)) (hne : handle ≠ .default) :
    new ≠ handle := by
  cases h with
  | default => exact fun he => hne he.symm
  | fresh hfresh =>
      rintro rfl
      exact hfresh.ne_address i locality hi

/-- The handle is spent when its slot gets another address. -/
theorem spent_update {new' : Option Address}
    (haddr : s'.address = Function.update a i new')
    (hothers : ∀ j, j ≠ i → ∀ other, a j ≠ some (other, handle))
    (hnew : ∀ other, new' ≠ some (other, handle)) (other : UInt32)
    (j : Fin b.maxHandles) : s'.getActiveContextPos handle other ≠ .ok j := by
  refine State.not_resolves (fun k => ?_) j
  rw [haddr]
  by_cases hk : k = i
  · rw [hk, Function.update_self]
    exact hnew other
  · rw [Function.update_of_ne hk]
    exact hothers k hk other

/-- A new address names its slot. -/
theorem names_update
    (haddr : s'.address = Function.update a i (some (locality, new)))
    (hothers : ∀ j, j ≠ i → a j ≠ some (locality, new)) :
    s'.getActiveContextPos new locality = .ok i ∧
      (s'.contexts i).locality = locality := by
  have hi : s'.address i = some (locality, new) := by
    rw [haddr, Function.update_self]
  refine ⟨State.resolves_iff.mpr ⟨hi, fun j hj => ?_⟩,
    (State.address_some.mp hi).2.1⟩
  have hne : j ≠ i := fun he => by
    rw [he] at hj
    exact lt_irrefl i hj
  rw [haddr, Function.update_of_ne hne]
  exact hothers j hne

/-- A command that renames the context it is about. -/
theorem oneTime_rename {cmd : Command b} {out : Bytes}
    (hdistinct : s.DistinctHandles)
    (hi : s.address i = some (locality, handle)) (hne : handle ≠ .default)
    (haddr : s'.address = Function.update s.address i (some (locality, new)))
    (hothers : ∀ j, j ≠ i → s.address j ≠ some (locality, new))
    (hnew : new ≠ handle)
    (hyields : ∀ j, cmd.yields s i = some j →
      j = i ∧ handleAt out 12 = new.asBytes)
    (hparent : cmd.keepsParent = true → handleAt out 28 = new.asBytes) :
    OneTime s s' out locality handle cmd i := by
  obtain ⟨hresolves, hl⟩ := names_update haddr hothers
  refine ⟨spent_update haddr (fun j hj => hdistinct.others hi hne hj) ?_,
    fun j hj => ?_, fun hkeeps => ⟨new, hparent hkeeps, hresolves⟩⟩
  · intro other he
    cases he
    exact hnew rfl
  · obtain ⟨rfl, hat⟩ := hyields j hj
    exact ⟨new, hat, by rw [hl]; exact hresolves⟩

/-- A command that leaves the context without an address. -/
theorem oneTime_gone {cmd : Command b} {out : Bytes}
    (hdistinct : s.DistinctHandles)
    (hi : s.address i = some (locality, handle)) (hne : handle ≠ .default)
    (hgone : s'.address i = none)
    (hothers : ∀ j, s'.address j = none ∨ s'.address j = s.address j)
    (hyields : cmd.yields s i = none) (hparent : cmd.keepsParent = false) :
    OneTime s s' out locality handle cmd i := by
  refine ⟨fun other j => State.not_resolves (fun k hk => ?_) j, fun j hj => ?_,
    fun hkeeps => ?_⟩
  · by_cases hki : k = i
    · rw [hki, hgone] at hk
      cases hk
    · rcases hothers k with hn | hs
      · rw [hn] at hk
        cases hk
      · exact hdistinct.others hi hne hki other (hs.symm.trans hk)
  · rw [hyields] at hj
    cases hj
  · rw [hparent] at hkeeps
    cases hkeeps

/-- Draws that are new: no value twice, and none that is stored. -/
structure NewDraws (s : State b) (draws : List (Vector UInt8 16)) : Prop where
  nodup : draws.Nodup
  free : ∀ v ∈ draws, ¬ Taken s ⟨v⟩

theorem NewDraws.once (h : NewDraws s draws) : Once s draws :=
  fun v _ => List.nodup_iff_count_le_one.mp h.nodup v

/-- A child and its parent after a derivation. -/
theorem oneTime_child {cmd : DeriveContextCmd b} {out : Bytes}
    {child : Fin b.maxHandles} {draws' : List (Vector UInt8 16)}
    {kept : Option ContextHandle} {args : ActiveContextArgs}
    {measurement cumulative : TciMeasurement b}
    (hdistinct : s.DistinctHandles)
    (hi : s.address i = some (locality, cmd.handle))
    (hne : cmd.handle ≠ .default)
    (hrecursive : cmd.flags.isRecursive = false)
    (hexported : (cmd.flags.createsCertificate && cmd.flags.exportsCdi) = false)
    (hslot : s.getNextInactiveContextPos = some child)
    (hkept : Kept s cmd.handle cmd.flags.retainsParent draws kept)
    (hsafe : cmd.safeToMakeChild s i args.locality = true)
    (hchosen : Chosen s cmd.flags.makesDefault draws' args.handle)
    (hnew : NewDraws s (draws ++ draws'))
    (hchild : handleAt out 12 = args.handle.asBytes)
    (hparent : handleAt out 28 = (kept.getD .newInvalid).asBytes) :
    OneTime s ((adopt i child kept args measurement cumulative).apply s) out
      locality cmd.handle (.deriveContext cmd) i := by
  have hidle := State.getNextInactiveContextPos_some hslot
  have hci : child ≠ i := by
    rintro rfl
    obtain ⟨hactive, -⟩ := State.address_some.mp hi
    rw [hidle] at hactive
    cases hactive
  have hbool : cmd.handle.isDefault = false := by
    simpa [ContextHandle.isDefault] using hne
  have haddr : ((adopt i child kept args measurement cumulative).apply s).address
      = Function.update (Function.update s.address i
          (kept.map fun handle => (locality, handle))) child
          (some (args.locality, args.handle)) := address_adopt hi hci
  -- a handle that the parent keeps is drawn, and drawn before the child's
  have hfresh : ∀ new, kept = some new → Fresh s draws new ∧ new ≠ args.handle ∧
      cmd.flags.retainsParent = true := by
    rintro new rfl
    generalize cmd.flags.retainsParent = retains at hkept
    cases hkept with
    | retained hkept =>
        rw [hbool] at hkept
        cases hkept with
        | fresh hfresh =>
            refine ⟨hfresh, ?_, rfl⟩
            generalize args.handle = handle at hchosen
            generalize cmd.flags.makesDefault = makes at hchosen
            cases hchosen with
            | default => exact hfresh.ne_default
            | fresh hfresh' => exact hfresh.ne_fresh hfresh' hnew.once
  have hbeside : ∀ j, j ≠ child → Function.update s.address i
      (kept.map fun handle => (locality, handle)) j
        ≠ some (args.locality, args.handle) := by
    intro j hj
    by_cases hji : j = i
    · rw [hji, Function.update_self]
      cases hk : kept with
      | none => exact fun h => by cases h
      | some new =>
          intro h
          exact (hfresh new hk).2.1 (Prod.mk.inj (Option.some.inj h)).2
    · rw [Function.update_of_ne hji]
      cases hd : cmd.flags.makesDefault with
      | true =>
          rcases safe_cases hd hsafe with hnone | ⟨hr, -⟩
          · exact hnone j args.handle
          · have hi' := State.address_of_resolves hr
            rw [hi] at hi'
            exact absurd (Prod.mk.inj (Option.some.inj hi')).2 hne
      | false =>
          rw [hd] at hchosen
          generalize args.handle = handle at hchosen
          cases hchosen with
          | fresh hfresh => exact hfresh.ne_address j _
  refine ⟨spent_update haddr (fun j hj other => ?_) ?_, fun j hj => ?_,
    fun hkeeps => ?_⟩
  · by_cases hji : j = i
    · rw [hji, Function.update_self]
      cases hk : kept with
      | none => exact fun h => by cases h
      | some new =>
          intro h
          have heq := (Prod.mk.inj (Option.some.inj h)).2
          have hno := (hfresh new hk).1.ne_address i locality
          rw [heq] at hno
          exact hno hi
    · rw [Function.update_of_ne hji]
      exact hdistinct.others hi hne hji other
  · intro other h
    exact hchosen.ne_used hi hne (Prod.mk.inj (Option.some.inj h)).2
  · have hj' : child = j := by
      unfold Command.yields at hj
      dsimp only at hj
      rw [hrecursive, hexported, hslot] at hj
      cases hj
      rfl
    obtain ⟨hresolves, hl⟩ := names_update haddr hbeside
    rw [← hj', hl]
    exact ⟨args.handle, hchild, hresolves⟩
  · cases hk : kept with
    | none =>
        rw [hk] at hkept
        unfold Command.keepsParent at hkeeps
        rw [Bool.and_eq_true] at hkeeps
        rw [hkeeps.2] at hkept
        cases hkept
    | some new =>
        obtain ⟨hfresh, hdiffer, -⟩ := hfresh new hk
        rw [hk] at hparent haddr
        refine ⟨new, hparent, State.resolves_iff.mpr ⟨?_, fun j hj => ?_⟩⟩
        · rw [haddr, Function.update_of_ne hci.symm, Function.update_self]
          rfl
        · rw [haddr]
          by_cases hjc : j = child
          · rw [hjc, Function.update_self]
            intro h
            exact hdiffer (Prod.mk.inj (Option.some.inj h)).2.symm
          · have hji : j ≠ i := fun he => by
              rw [he] at hj
              exact lt_irrefl i hj
            rw [Function.update_of_ne hjc, Function.update_of_ne hji]
            exact hfresh.ne_address j locality

/-- The two handles of an update: that of the parent names the parent;
    that of the child names the child, unless it is the default handle
    and another context has it in the child's locality. -/
theorem oneTime_update (hwell : s.WellFormed) {cmd : UpdateContextMeasurementCmd b}
    {out : Bytes} {child : Fin b.maxHandles} {draws' : List (Vector UInt8 16)}
    {new' : ContextHandle} {cumulative : TciMeasurement b}
    (hdistinct : s.DistinctHandles)
    (hresolves : s.getActiveContextPos cmd.parentHandle locality = .ok i)
    (hne : cmd.parentHandle ≠ .default)
    (hfound : cmd.findChild s i = some child)
    (hchosen : Chosen s false draws new)
    (hchosen' : Chosen ((rename i new).apply s)
      (s.contexts child).handle.isDefault draws' new')
    (hnew : NewDraws s (draws ++ draws'))
    (hchild : handleAt out 12 = new'.asBytes)
    (hparent : handleAt out 28 = new.asBytes) :
    OneTime s (applyAll s [.rename i new, .measure child cmd.data cumulative,
        .rename child new']) out locality cmd.parentHandle
        (.updateContextMeasurement cmd) i
      ↔ Command.ChildFirst s locality (.updateContextMeasurement cmd) := by
  have hi := State.address_of_resolves hresolves
  obtain ⟨hci, hchildAddr⟩ := updated_child hwell hresolves hfound new
  have haddr : (applyAll s [.rename i new, .measure child cmd.data cumulative,
      .rename child new']).address
      = Function.update (Function.update s.address i (some (locality, new)))
          child (some ((s.contexts child).locality, new')) := by
    simp only [applyAll_cons, applyAll_nil]
    rw [address_measure_rename hchildAddr, address_rename hi]
  have hfresh : Fresh s draws new := by
    cases hchosen with
    | fresh h => exact h
  have hat1 : ((rename i new).apply s).address i = some (locality, new) := by
    rw [address_rename hi, Function.update_self]
  have hdiffer : new' ≠ new := hchosen'.ne_used hat1 hfresh.ne_default
  have hunused : new' ≠ cmd.parentHandle := by
    generalize (s.contexts child).handle.isDefault = isDefault at hchosen'
    cases hchosen' with
    | default => exact fun h => hne h.symm
    | fresh hfresh' =>
        rintro rfl
        obtain ⟨refused, rfl, -⟩ := hfresh'.drawn
        exact hnew.free cmd.parentHandle.bytes (by simp)
          (.inr ⟨i, (State.address_some.mp hi).2.2⟩)
  have hsame : ∀ j, j ≠ i → j ≠ child → (applyAll s [.rename i new,
      .measure child cmd.data cumulative, .rename child new']).address j
        = s.address j := by
    intro j hji hjc
    rw [haddr, Function.update_of_ne hjc, Function.update_of_ne hji]
  have hati : (applyAll s [.rename i new, .measure child cmd.data cumulative,
      .rename child new']).address i = some (locality, new) := by
    rw [haddr, Function.update_of_ne hci.symm, Function.update_self]
  have hatc : (applyAll s [.rename i new, .measure child cmd.data cumulative,
      .rename child new']).address child
        = some ((s.contexts child).locality, new') := by
    rw [haddr, Function.update_self]
  have hloc := (State.address_some.mp hatc).2.1
  have hspent : ∀ other j, (applyAll s [.rename i new,
      .measure child cmd.data cumulative, .rename child new']).getActiveContextPos
        cmd.parentHandle other ≠ .ok j := by
    refine spent_update haddr (fun j hj other => ?_) ?_
    · by_cases hji : j = i
      · rw [hji, Function.update_self]
        intro h
        exact hchosen.ne_used hi hne (Prod.mk.inj (Option.some.inj h)).2
      · rw [Function.update_of_ne hji]
        exact hdistinct.others hi hne hji other
    · intro other h
      exact hunused (Prod.mk.inj (Option.some.inj h)).2
  have hnames : (applyAll s [.rename i new, .measure child cmd.data cumulative,
      .rename child new']).getActiveContextPos new locality = .ok i := by
    refine State.resolves_iff.mpr ⟨hati, fun j hj => ?_⟩
    have hji : j ≠ i := fun he => by
      rw [he] at hj
      exact lt_irrefl i hj
    by_cases hjc : j = child
    · rw [hjc, hatc]
      intro h
      exact hdiffer (Prod.mk.inj (Option.some.inj h)).2
    · rw [hsame j hji hjc]
      exact hfresh.ne_address j locality
  constructor
  · intro h parent' child' hresolves' hfound' hdefault j hj
    rw [hresolves] at hresolves'
    cases hresolves'
    rw [hfound] at hfound'
    cases hfound'
    rw [hdefault, (ContextHandle.isDefault_iff _).mpr rfl] at hchosen'
    obtain ⟨back, hback, hpos⟩ := h.yielded child hfound
    have heq : back = new' := ContextHandle.asBytes_inj (hback.symm.trans hchild)
    cases hchosen' with
    | default =>
        rw [heq, hloc] at hpos
        have hfirst := (State.resolves_iff.mp hpos).2 j hj
        have hjc : j ≠ child := fun he => by
          rw [he] at hj
          exact lt_irrefl child hj
        by_cases hji : j = i
        · rw [hji, hi]
          intro hno
          exact hne (Prod.mk.inj (Option.some.inj hno)).2
        · rwa [hsame j hji hjc] at hfirst
  · intro hfirst
    refine ⟨hspent, fun j hj => ?_, fun _ => ⟨new, hparent, hnames⟩⟩
    have hjc : child = j := Option.some.inj (hfound.symm.trans hj)
    rw [← hjc, hloc]
    refine ⟨new', hchild, State.resolves_iff.mpr ⟨hatc, fun k hk => ?_⟩⟩
    have hkc : k ≠ child := fun he => by
      rw [he] at hk
      exact lt_irrefl child hk
    by_cases hki : k = i
    · rw [hki, hati]
      intro h
      exact hdiffer (Prod.mk.inj (Option.some.inj h)).2.symm
    · rw [hsame k hki hkc]
      have hbefore := hfirst i child hresolves hfound
      generalize hd : (s.contexts child).handle.isDefault = isDefault at hchosen'
      cases hchosen' with
      | default => exact hbefore ((ContextHandle.isDefault_iff _).mp hd) k hk
      | fresh hfresh' =>
          have hno := hfresh'.ne_address k (s.contexts child).locality
          rwa [address_rename hi, Function.update_of_ne hki] at hno

/-! ## Effects -/

variable {W : Type} {d : Deps b W} {dpe : DpeInstance b}

/-- A handle that is chosen for a context is nobody else's address. -/
theorem Chosen.free (h : Chosen s false draws new) (j : Fin b.maxHandles)
    (other : UInt32) : s.address j ≠ some (other, new) := by
  cases h with
  | fresh hfresh => exact hfresh.ne_address j other

/-- A handle that a locality may have as its default is free there. -/
theorem free_of_rotate {cmd : RotateCtxCmd}
    (hallowed : (cmd.usesTargetIsDefault
      && RotateCtxCmd.targetIsTaken s locality i) = false)
    (hchosen : Chosen s cmd.usesTargetIsDefault draws new)
    (j : Fin b.maxHandles) : s.address j ≠ some (locality, new) := by
  generalize cmd.usesTargetIsDefault = isDefault at hallowed hchosen
  cases hchosen with
  | fresh hfresh => exact hfresh.ne_address j locality
  | default =>
      intro hj
      obtain ⟨hactive, hl, hh⟩ := State.address_some.mp hj
      rw [Bool.true_and, RotateCtxCmd.targetIsTaken, Bool.or_eq_false_iff]
        at hallowed
      cases hr : s.getActiveContextPos .default locality with
      | error e => exact State.getActiveContextPos_error hr j hactive hl hh
      | ok k =>
          rw [hr] at hallowed
          cases hallowed.1

/-- The second handle of a response, behind the header and the first. -/
theorem second {out bytes : Bytes} (hdr : ResponseHdr) (first : ContextHandle)
    (post : Bytes)
    (hout : ∀ pre new post, bytes = pre ++ ContextHandle.asBytes new ++ post →
      handleAt out pre.length = new.asBytes)
    (hbytes : bytes = hdr.asBytes ++ first.asBytes ++ new.asBytes ++ post) :
    handleAt out 28 = new.asBytes := by
  have hat := hout (hdr.asBytes ++ first.asBytes) new post hbytes
  rwa [List.length_append, ResponseHdr.asBytes_length,
    ContextHandle.asBytes_length] at hat

/-- An export that gives up its parent returns no handle. -/
theorem DeriveContextCmd.yields_exported (cmd : DeriveContextCmd b)
    (hrecursive : cmd.flags.isRecursive = false)
    (hexported : (cmd.flags.createsCertificate && cmd.flags.exportsCdi) = true)
    (hgone : cmd.flags.retainsParent = false) :
    Command.yields s i (.deriveContext cmd) = none ∧
      Command.keepsParent (.deriveContext cmd) = false := by
  unfold Command.yields Command.keepsParent
  dsimp only
  rw [hrecursive, hexported, hgone]
  exact ⟨rfl, rfl⟩

/-- **EFFECTS SPEND THE HANDLE**, and what they answer names what it
    should, exactly if the child of an update comes first. -/
theorem oneTime_effect (hwell : s.WellFormed) {cmd : Command b} {out bytes : Bytes}
    {es : List (Edit b)} (hdistinct : s.DistinctHandles)
    (hresolves : s.getActiveContextPos handle locality = .ok i)
    (hne : handle ≠ .default) (hnames : cmd.handle? = some handle)
    (he : Effect d s locality cmd draws es) (hnew : NewDraws s draws)
    (hreply : Reply dpe s cmd es bytes)
    (hout : ∀ pre new post, bytes = pre ++ ContextHandle.asBytes new ++ post →
      handleAt out pre.length = new.asBytes) :
    OneTime s (applyAll s es) out locality handle cmd i
      ↔ cmd.ChildFirst s locality := by
  have hi := State.address_of_resolves hresolves
  have hbool : handle.isDefault = false := by
    simpa [ContextHandle.isDefault] using hne
  cases he with
  | getProfile | getCertificateChain | initCtx => cases hnames
  | rotateCtx _ resolves allowed chosen =>
      cases hnames
      rw [resolves] at hresolves
      cases hresolves
      refine iff_of_true ?_ trivial
      cases hreply
      exact oneTime_rename hdistinct hi hne (address_rename hi _)
        (fun j _ => free_of_rotate allowed chosen j) (chosen.ne_used hi hne)
        (fun j hj => ⟨(Option.some.inj hj).symm,
          hout _ _ [] (List.append_nil _).symm⟩) (fun hno => by cases hno)
  | destroyCtx resolves summit cut =>
      cases hnames
      rw [resolves] at hresolves
      cases hresolves
      refine iff_of_true (oneTime_gone hdistinct hi hne ?_ (fun j => ?_) rfl rfl)
        trivial
      · simp only [applyAll_cons, applyAll_nil, address_prune]
        rw [if_pos ((cut.2.1 i).mpr summit.above)]
      · simp only [applyAll_cons, applyAll_nil, address_prune]
        split
        · exact .inl rfl
        · exact .inr rfl
  | sign resolves _ chosen =>
      cases hnames
      rw [resolves] at hresolves
      cases hresolves
      rw [hbool] at chosen
      refine iff_of_true ?_ trivial
      cases hreply
      exact oneTime_rename hdistinct hi hne (address_rename hi _)
        (fun j _ => chosen.free j _) (chosen.ne_used hi hne)
        (fun j hj => ⟨(Option.some.inj hj).symm, hout _ _ _ rfl⟩)
        (fun hno => by cases hno)
  | certifyKey resolves _ _ chosen =>
      cases hnames
      rw [resolves] at hresolves
      cases hresolves
      rw [hbool] at chosen
      refine iff_of_true ?_ trivial
      cases hreply
      refine oneTime_rename hdistinct hi hne (address_rename hi _)
        (fun j _ => chosen.free j _) (chosen.ne_used hi hne)
        (fun j hj => ⟨(Option.some.inj hj).symm, ?_⟩) (fun hno => by cases hno)
      exact hout _ _ _ (by
        simp only [CertifyKeyRespHdr.asBytes, List.append_assoc]
        rfl)
  | updateContextMeasurement named resolves found _ parentChosen childChosen =>
      cases hnames
      rw [resolves] at hresolves
      cases hresolves
      cases hreply
      exact oneTime_update hwell hdistinct resolves hne found parentChosen
        childChosen hnew (hout _ _ _ rfl) (second _ _ [] hout
          (List.append_nil _).symm)
  | @recursive cmd _ _ _ _ accepted isRecursive _ _ _ chosen =>
      cases hnames
      rw [accepted.resolves] at hresolves
      cases hresolves
      rw [hbool] at chosen
      have hplain : (cmd.flags.createsCertificate && cmd.flags.exportsCdi) = false :=
        DeriveContextCmd.notExport_of_recursive accepted.valid isRecursive
      refine iff_of_true ?_ trivial
      cases hreply with
      | exported _ isExport =>
          rw [hplain] at isExport
          cases isExport
      | recursive =>
          refine oneTime_rename hdistinct hi hne (address_measure_rename hi _ _ _)
            (fun j _ => chosen.free j _) (chosen.ne_used hi hne) (fun j hj => ⟨?_, hout _ _ _ rfl⟩)
            (fun hno => ?_)
          · unfold Command.yields at hj
            dsimp only at hj
            rw [if_pos isRecursive] at hj
            exact (Option.some.inj hj).symm
          · unfold Command.keepsParent at hno
            dsimp only at hno
            rw [isRecursive] at hno
            cases hno
  | child accepted notExported isKept slot safe chosen =>
      cases hnames
      rw [accepted.resolves] at hresolves
      cases hresolves
      refine iff_of_true ?_ trivial
      cases hreply with
      | exported _ isExport =>
          rw [notExported] at isExport
          cases isExport
      | child =>
          exact oneTime_child hdistinct hi hne accepted.notRecursive notExported
            slot isKept safe chosen hnew (hout _ _ _ rfl) (second _ _ [] hout
              (List.append_nil _).symm)
  | @exportDestroyed cmd _ _ _ accepted exported gone _ summit cut =>
      cases hnames
      rw [accepted.resolves] at hresolves
      cases hresolves
      obtain ⟨hyields, hkeeps⟩ := cmd.yields_exported (s := s) (i := i)
        accepted.notRecursive exported gone
      refine iff_of_true (oneTime_gone hdistinct hi hne ?_ (fun j => ?_) hyields
        hkeeps) trivial
      · simp only [applyAll_cons, applyAll_nil, address_prune]
        rw [if_pos ((cut.2.1 i).mpr summit.above)]
      · simp only [applyAll_cons, applyAll_nil, address_prune]
        split
        · exact .inl rfl
        · exact .inr rfl
  | @exportRetired cmd _ accepted exported gone =>
      cases hnames
      rw [accepted.resolves] at hresolves
      cases hresolves
      obtain ⟨hyields, hkeeps⟩ := cmd.yields_exported (s := s) (i := i)
        accepted.notRecursive exported gone
      refine iff_of_true (oneTime_gone hdistinct hi hne ?_ (fun j => ?_) hyields
        hkeeps) trivial
      · simp only [applyAll_cons, applyAll_nil, address_retire]
        exact Function.update_self ..
      · simp only [applyAll_cons, applyAll_nil, address_retire]
        by_cases hji : j = i
        · rw [hji, Function.update_self]
          exact .inl rfl
        · exact .inr (Function.update_of_ne hji ..)
  | @exportRetained cmd _ _ kept accepted exported retained chosen =>
      cases hnames
      rw [accepted.resolves] at hresolves
      cases hresolves
      rw [hbool] at chosen
      refine iff_of_true ?_ trivial
      have hyields : Command.yields s i (.deriveContext cmd) = none := by
        unfold Command.yields
        dsimp only
        rw [accepted.notRecursive, exported]
        rfl
      have hrenamed : ((applyAll s [.rename i kept]).contexts i).handle = kept := by
        simp only [applyAll_cons, applyAll_nil, apply, State.set_self]
        rfl
      refine oneTime_rename hdistinct hi hne (address_rename hi _)
        (fun j _ => chosen.free j _) (chosen.ne_used hi hne)
        (fun j hj => by rw [hyields] at hj; cases hj) (fun _ => ?_)
      cases hreply with
      | @exported _ parent' _ cdi cert size _ _ other resolves' =>
          -- the handle is in use once, so the parent that is named is the
          -- one that resolved
          have hpi : parent' = i := by
            by_contra hpi
            exact hdistinct.others hi hne hpi _ (State.address_of_resolves resolves')
          rw [hpi, hrenamed] at hout
          refine second (dpe.responseHdr .noError) .newInvalid
            (cdi.toList ++ (toLeBytes size ++ cert)) hout ?_
          simp only [DeriveContextExportedCdiRespHdr.asBytes, List.append_assoc]

end Addresses

/-- **ONE-TIME HANDLES**: when the handles are distinct and the draws new,
    a command that succeeds under a handle other than the default one
    spends it, and its response names the contexts it should, exactly if
    the child of an update comes first in its locality. -/
theorem one_time_iff {W : Type} {d : Deps b W} {dpe : DpeInstance b}
    {locality : UInt32} {cmd : Command b} {env env' : Env b W} {n : Nat}
    {draws : List (Vector UInt8 16)} {handle : ContextHandle}
    (hrun : cmd.executeSerialized d dpe locality env = .ok n env')
    (hreach : Reachable env.state) (hdistinct : env.state.DistinctHandles)
    (hdrawn : env'.drawn = env.drawn ++ draws) (hnew : NewDraws env.state draws)
    (hnames : cmd.handle? = some handle) (hne : handle ≠ .default) :
    (∃ i, env.state.getActiveContextPos handle locality = .ok i ∧
      OneTime env.state env'.state env'.out.bytes locality handle cmd i)
      ↔ cmd.ChildFirst env.state locality := by
  have hwell := hreach.wellFormed
  obtain ⟨draws', es, bytes, heffect, hdid, hreply, hanswered⟩ :=
    (cmd.executeSerialized_spec d dpe locality env hwell).of_ok hrun
  have hdraws : draws' = draws :=
    List.append_cancel_left (hdid.drawn.symm.trans hdrawn)
  rw [hdraws] at heffect
  obtain ⟨i, hi⟩ := resolves_of_effect heffect hnames
  have hout : ∀ pre new post, bytes = pre ++ ContextHandle.asBytes new ++ post →
      handleAt env'.out.bytes pre.length = new.asBytes :=
    fun pre new post hbytes => hanswered.handleAt new hbytes
  have hiff := oneTime_effect hwell hdistinct hi hne hnames heffect hnew hreply
    hout
  rw [← hdid.state] at hiff
  rw [← hiff]
  constructor
  · rintro ⟨j, hj, h⟩
    rw [hi] at hj
    cases hj
    exact h
  · intro h
    exact ⟨i, hi, h⟩

/-- Rotating a handle of locality 1 spends it. -/
theorem one_time_played :
    ∃ env', Command.executeSerialized sampleDeps sampleDpe 1
        (.rotateCtx ⟨sampleHandle 5, 0⟩)
        (sampleEnv (played [sampleSimulation 1 5]) [9] 28) = .ok 28 env' ∧
      ∃ i, (played [sampleSimulation 1 5]).getActiveContextPos (sampleHandle 5) 1
          = .ok i ∧
        OneTime (played [sampleSimulation 1 5]) env'.state env'.out.bytes 1
          (sampleHandle 5) (.rotateCtx ⟨sampleHandle 5, 0⟩) i := by
  have hrun : ∃ env', Command.executeSerialized sampleDeps sampleDpe 1
      (.rotateCtx ⟨sampleHandle 5, 0⟩)
      (sampleEnv (played [sampleSimulation 1 5]) [9] 28) = .ok 28 env' ∧
      env'.drawn = [] ++ [(sampleHandle 9).bytes] :=
    ⟨_, rfl, by decide +kernel⟩
  have hreach : Reachable (played [sampleSimulation 1 5]) :=
    reachable_played (by decide +kernel)
  have hdistinct : (played [sampleSimulation 1 5]).DistinctHandles := by
    unfold State.DistinctHandles
    decide +kernel
  have hnew : NewDraws (played [sampleSimulation 1 5]) [(sampleHandle 9).bytes] := by
    refine ⟨List.nodup_singleton _, fun v hv => ?_⟩
    rw [List.mem_singleton.mp hv]
    unfold Taken
    decide +kernel
  obtain ⟨env', hrun, hdrawn⟩ := hrun
  have hiff := one_time_iff hrun hreach hdistinct hdrawn hnew rfl (by decide)
  exact ⟨env', hrun, hiff.mpr trivial⟩

/-- The calls that lead to a default context of locality 1 in slot 2, with
    a second one in slot 0. -/
def twoDefaults : List SampleCall :=
  [sampleSimulation 3 4, sampleSimulation 0 5,
    sampleDerive 0 5 (DeriveContextFlags.RETAIN_PARENT_CONTEXT
      ||| DeriveContextFlags.CHANGE_LOCALITY
      ||| DeriveContextFlags.MAKE_DEFAULT) 6 1 [8] 44,
    ⟨.command 3 (.destroyCtx ⟨sampleHandle 4⟩), [], 12⟩, sampleInit 1]

/-- An update of the child in slot 2 answers with the default handle,
    which names the context in slot 0. -/
theorem not_one_time_played :
    Reachable (played twoDefaults) ∧ (played twoDefaults).DistinctHandles ∧
    NewDraws (played twoDefaults) [(sampleHandle 9).bytes] ∧
    ∃ env', Command.executeSerialized sampleDeps sampleDpe 0
        (.updateContextMeasurement ⟨sampleHandle 8, .replicate _ 1, 0, 6, 0⟩)
        (sampleEnv (played twoDefaults) [9] 44) = .ok 44 env' ∧
      env'.drawn = [(sampleHandle 9).bytes] ∧
      ¬ ∃ i, (played twoDefaults).getActiveContextPos (sampleHandle 8) 0 = .ok i ∧
        OneTime (played twoDefaults) env'.state env'.out.bytes 0 (sampleHandle 8)
          (.updateContextMeasurement ⟨sampleHandle 8, .replicate _ 1, 0, 6, 0⟩)
          i := by
  have hdistinct : (played twoDefaults).DistinctHandles := by
    unfold State.DistinctHandles
    decide +kernel
  have hnew : NewDraws (played twoDefaults) [(sampleHandle 9).bytes] := by
    refine ⟨List.nodup_singleton _, fun v hv => ?_⟩
    rw [List.mem_singleton.mp hv]
    unfold Taken
    decide +kernel
  have hrun : ∃ env', Command.executeSerialized sampleDeps sampleDpe 0
      (.updateContextMeasurement ⟨sampleHandle 8, .replicate _ 1, 0, 6, 0⟩)
      (sampleEnv (played twoDefaults) [9] 44) = .ok 44 env' ∧
      env'.drawn = [(sampleHandle 9).bytes] ∧
      handleAt env'.out.bytes 12 = ContextHandle.default.asBytes ∧
      (env'.state.contexts (sampleSlot 2)).locality = 1 ∧
      env'.state.getActiveContextPos .default 1 = .ok (sampleSlot 0) :=
    ⟨_, ending_of_returns (by decide +kernel), by decide +kernel,
      by decide +kernel, by decide +kernel, by decide +kernel⟩
  obtain ⟨env', hrun, hdrawn, hat, hlocality, hpos⟩ := hrun
  refine ⟨reachable_played (by decide +kernel), hdistinct, hnew, env', hrun, hdrawn,
    ?_⟩
  rintro ⟨i, hi, h⟩
  have hslot : (played twoDefaults).getActiveContextPos (sampleHandle 8) 0
      = .ok (sampleSlot 1) := by
    decide +kernel
  rw [hslot] at hi
  cases hi
  obtain ⟨new, hnew, hnames⟩ := h.yielded (sampleSlot 2) (by decide +kernel)
  rw [← ContextHandle.asBytes_inj (hat.symm.trans hnew), hlocality, hpos] at hnames
  exact absurd hnames (by decide)

end Dpe
