import Dpe.Properties.OneTime

/-! # Short responses — what is stored before it is answered

    Most commands store their effect and write the response then.  If
    the response does not fit, the client learns nothing of an effect
    that has been made.  Signing, certifying and exporting come to the
    state last. -/

namespace Dpe

open Prog

variable {b : Build} {W : Type} {d : Deps b W} {dpe : DpeInstance b}
  {locality : UInt32} {env env' : Env b W}

/-! ## Recursive derivation -/

/-- The crypto suite hashes the old cumulative TCI and the measurement to
    the new cumulative TCI. -/
def HashesTo (d : Deps b W) (env : Env b W)
    (old measurement cumulative : TciMeasurement b) : Prop :=
  ∃ digest env1, hashAll d [old.toList, measurement.toList] env = .ok digest env1 ∧
    measurementOfDigest b digest = .ok cumulative

/-- A hash has one value. -/
theorem HashesTo.unique {old measurement cumulative cumulative' : TciMeasurement b}
    (h : HashesTo d env old measurement cumulative)
    (h' : HashesTo d env old measurement cumulative') :
    cumulative = cumulative' := by
  obtain ⟨digest, env1, hrun, hc⟩ := h
  obtain ⟨digest', env1', hrun', hc'⟩ := h'
  rw [hrun] at hrun'
  cases hrun'
  rw [hc] at hc'
  exact Except.ok.inj hc'

/-- Measuring a context adds the hash of its TCI. -/
theorem addTciMeasurement_hashes (context : Context b)
    (measurement : TciMeasurement b) (locality : UInt32) (env : Env b W) :
    Post (addTciMeasurement d context measurement locality) env
      (fun c _ => ∃ cumulative,
        HashesTo d env context.tci.tciCumulative measurement cumulative ∧
          c = context.measure measurement cumulative)
      (fun _ _ => True) := by
  refine Post.rejectIf_bind (fun _ => trivial) fun _ => ?_
  refine Post.rejectIf_bind (fun _ => trivial) fun _ => ?_
  refine Post.bind_run (fun digest env1 hrun => ?_) (fun _ _ _ => trivial)
  refine orFail_bind (fun cumulative hc => ?_) (fun _ _ => trivial)
  exact Post.pure ⟨cumulative, ⟨digest, env1, hrun, hc⟩, rfl⟩

/-- A recursive derivation that fails over its response has measured, and
    does not export. -/
theorem recursive_unwritten (cmd : DeriveContextCmd b)
    (hrecursive : cmd.flags.isRecursive = true) (env : Env b W) :
    Post (cmd.executeSerialized d dpe locality) env (fun _ _ => True)
      (fun e env' => Unwritable e → ∃ idx cumulative draws handle,
        env.state.getActiveContextPos cmd.handle locality = .ok idx ∧
        HashesTo d env (env.state.contexts idx).tci.tciCumulative cmd.data
          cumulative ∧
        Chosen env.state cmd.handle.isDefault draws handle ∧
        cmd.isExport = false ∧
        env'.state = env.state.set idx
          (((env.state.contexts idx).measure cmd.data cumulative).rename handle)) := by
  refine Post.get_bind ?_
  refine Post.rejectIf_bind (fun _ h => absurd h (by simp [Unwritable])) fun _ => ?_
  refine resolve_bind locality (fun idx hpos => ?_) (fun _ he h => absurd h he)
  refine Post.rejectIf_bind (fun _ h => absurd h (by simp [Unwritable]))
    fun hvalid => ?_
  refine Post.ite (fun _ => ?_) (fun hno => absurd hrecursive hno)
  refine Post.rejectIf_bind (fun _ h => absurd h (by simp [Unwritable])) fun _ => ?_
  refine Post.get_bind ?_
  refine Post.rejectIf_bind (fun _ h => absurd h (by simp [Unwritable])) fun _ => ?_
  refine Post.bind (((addTciMeasurement_spec d _ _ _ env).and
    (addTciMeasurement_hashes _ _ _ env)).mono (fun _ _ h => h)
    (fun _ _ h hcause => absurd hcause h.1.early)) ?_
  rintro ctx env1 ⟨⟨_, h1, -⟩, cumulative, hhash, rfl⟩
  refine Post.bind ((rollOnetimeUseHandle_spec d _ env1).mono (fun _ _ h => h)
    (fun _ _ h hcause => absurd hcause h.early)) ?_
  rintro ctx env2 ⟨draws, h2, handle, rfl, hchosen⟩
  have hold : ((env.state.contexts idx).measure cmd.data cumulative).handle
      = cmd.handle := (State.getActiveContextPos_ok hpos).2.1
  rw [hold, h1.state] at hchosen
  -- the context is stored, and only then is the response written
  refine Post.modify_bind (Post.bind ((writeAt_spec 0 _ _ _).mono
    (fun _ _ _ => trivial) ?_) fun _ _ _ => Post.pure trivial)
  rintro e env3 ⟨-, rfl, -⟩ -
  refine ⟨idx, cumulative, draws, handle, hpos, hhash, hchosen,
    DeriveContextCmd.notExport_of_recursive hvalid hrecursive, ?_⟩
  rw [← (h1.trans h2).state]

/-- A context is measured for nothing exactly if it holds the measurement
    already, current and cumulative. -/
theorem Context.measure_eq_iff {c : Context b}
    {measurement cumulative : TciMeasurement b} :
    c.measure measurement cumulative = c ↔
      c.tci.tciCurrent = measurement ∧ c.tci.tciCumulative = cumulative := by
  constructor
  · intro h
    have htci := congrArg Context.tci h
    exact ⟨(congrArg TciNodeData.tciCurrent htci).symm,
      (congrArg TciNodeData.tciCumulative htci).symm⟩
  · rintro ⟨rfl, rfl⟩
    rfl

theorem State.set_eq_iff {s : State b} {i : Fin b.maxHandles} {c : Context b} :
    s.set i c = s ↔ c = s.contexts i := by
  constructor
  · intro h
    have hi := congrFun (congrArg State.contexts h) i
    rwa [State.set_self] at hi
  · rintro rfl
    exact State.set_contexts_self s i

/-- Measuring the context again leaves it as it is: it is a default
    context, it holds the measurement, and the hash of its cumulative TCI
    and the measurement is the cumulative TCI. -/
def DeriveContextCmd.Idle (cmd : DeriveContextCmd b) (d : Deps b W)
    (locality : UInt32) (env : Env b W) : Prop :=
  cmd.flags.isRecursive = true ∧ cmd.handle = .default ∧
    ∃ idx, env.state.getActiveContextPos cmd.handle locality = .ok idx ∧
      (env.state.contexts idx).tci.tciCurrent = cmd.data ∧
      HashesTo d env (env.state.contexts idx).tci.tciCumulative cmd.data
        (env.state.contexts idx).tci.tciCumulative

/-- The measurement of a recursive derivation shows, unless it is idle. -/
theorem recursive_unchanged_iff {cmd : DeriveContextCmd b} {idx : Fin b.maxHandles}
    {cumulative : TciMeasurement b} {draws : List (Vector UInt8 16)}
    {handle : ContextHandle} (hrecursive : cmd.flags.isRecursive = true)
    (hpos : env.state.getActiveContextPos cmd.handle locality = .ok idx)
    (hhash : HashesTo d env (env.state.contexts idx).tci.tciCumulative cmd.data
      cumulative)
    (hchosen : Chosen env.state cmd.handle.isDefault draws handle) :
    env.state.set idx
        (((env.state.contexts idx).measure cmd.data cumulative).rename handle)
      = env.state ↔ cmd.Idle d locality env := by
  rw [State.set_eq_iff]
  by_cases hdefault : cmd.handle = .default
  · have hold : (env.state.contexts idx).handle = .default :=
      (State.getActiveContextPos_ok hpos).2.1.trans hdefault
    rw [(ContextHandle.isDefault_iff _).mpr hdefault] at hchosen
    cases hchosen with
    | default =>
        have hkept : ((env.state.contexts idx).measure cmd.data cumulative).rename
            .default = (env.state.contexts idx).measure cmd.data cumulative := by
          rw [← hold]
          rfl
        rw [hkept, Context.measure_eq_iff]
        constructor
        · rintro ⟨hcurrent, hcumulative⟩
          exact ⟨hrecursive, hdefault, idx, hpos, hcurrent, hcumulative ▸ hhash⟩
        · rintro ⟨-, -, i, hi, hcurrent, hagain⟩
          rw [hpos] at hi
          cases hi
          exact ⟨hcurrent, hagain.unique hhash⟩
  · refine iff_of_false (fun h => ?_) (fun h => hdefault h.2.1)
    have hhandle : handle = (env.state.contexts idx).handle :=
      congrArg Context.handle h
    rw [(State.getActiveContextPos_ok hpos).2.1] at hhandle
    exact hchosen.ne_used (State.address_of_resolves hpos) hdefault hhandle

/-! ## What an effect shows -/

section Changes

open Edit

variable {s : State b} {cmd : Command b} {draws : List (Vector UInt8 16)}
  {es : List (Edit b)} {i : Fin b.maxHandles} {handle new : ContextHandle}

/-- A renamed context is not what it was. -/
theorem rename_changes (hi : s.address i = some (locality, handle))
    (hnew : new ≠ handle) : ∃ j, ((rename i new).apply s).address j ≠ s.address j := by
  refine ⟨i, ?_⟩
  rw [address_rename hi, Function.update_self, hi]
  intro he
  exact hnew (Prod.mk.inj (Option.some.inj he)).2

/-- Nor is the head of a pruned subtree. -/
theorem prune_changes {marked : Children} {top : Fin b.maxHandles}
    (hi : s.address i = some (locality, handle)) (hsummit : State.Summit s i top)
    (hcut : Edit.Cut s marked top) :
    ∃ j, ((prune marked).apply s).address j ≠ s.address j := by
  refine ⟨i, ?_⟩
  rw [address_prune, if_pos ((hcut.2.1 i).mpr hsummit.above), hi]
  exact fun he => by cases he

/-- A slot that gets an address has changed. -/
theorem fills_changes {s' : State b} {address : Address}
    {a : Fin b.maxHandles → Option Address}
    (hidle : (s.contexts i).state = .inactive)
    (haddr : s'.address = Function.update a i (some address)) :
    ∃ j, s'.address j ≠ s.address j := by
  have hnone : s.address i = none := Context.address_none fun hactive => by
    rw [hidle] at hactive
    cases hactive
  refine ⟨i, ?_⟩
  rw [haddr, Function.update_self, hnone]
  exact fun he => by cases he

/-- **EFFECTS SHOW**: a command that stores its effect first gives, moves
    or takes an address, unless it is a recursive derivation. -/
theorem changes (hwell : s.WellFormed) (he : Effect d s locality cmd draws es)
    (hfirst : cmd.commitsFirst = true)
    (hplain : ∀ derive, cmd = .deriveContext derive →
      derive.flags.isRecursive = false) :
    ∃ j, (applyAll s es).address j ≠ s.address j := by
  cases he with
  | getProfile | getCertificateChain | sign | certifyKey => cases hfirst
  | initCtx _ slot _ =>
      exact fills_changes (State.getNextInactiveContextPos_some slot)
        (address_plant _ _)
  | rotateCtx _ resolves allowed chosen =>
      have hi := State.address_of_resolves resolves
      refine rename_changes hi ?_
      rintro rfl
      exact free_of_rotate allowed chosen _ hi
  | destroyCtx resolves summit cut =>
      exact prune_changes (State.address_of_resolves resolves) summit cut
  | @updateContextMeasurement cmd parent child _ _ handle _ _ named resolves found
      _ chosen =>
      have hi := State.address_of_resolves resolves
      obtain ⟨hci, hchild⟩ := updated_child hwell resolves found handle
      refine ⟨parent, ?_⟩
      simp only [applyAll_cons, applyAll_nil]
      rw [address_measure_rename hchild, Function.update_of_ne hci.symm,
        address_rename hi, Function.update_self, hi]
      intro he
      exact chosen.ne_used hi named (Prod.mk.inj (Option.some.inj he)).2
  | recursive _ isRecursive =>
      rw [hplain _ rfl] at isRecursive
      cases isRecursive
  | child accepted _ _ slot =>
      have hidle := State.getNextInactiveContextPos_some slot
      have hi := State.address_of_resolves accepted.resolves
      refine fills_changes hidle (address_adopt hi ?_)
      rintro rfl
      rw [(State.address_some.mp hi).1] at hidle
      cases hidle
  | exportDestroyed _ exported | exportRetired _ exported
  | exportRetained _ exported =>
      simp only [Command.commitsFirst, exported] at hfirst
      cases hfirst

end Changes

/-! ## Every command -/

/-- **A RESPONSE THAT DOES NOT FIT** leaves no trace exactly if the
    command does not store its effect first, or is a recursive derivation
    whose measurement changes nothing. -/
theorem unwritten_unchanged_iff {cmd : Command b} {e : Stop}
    (hfails : cmd.executeSerialized d dpe locality env = .error e env')
    (hreach : Reachable env.state) (hcause : Unwritable e) :
    env'.state = env.state ↔ cmd.commitsFirst = false ∨
      ∃ derive, cmd = .deriveContext derive ∧ derive.Idle d locality env := by
  have hwell := hreach.wellFormed
  have hfell := (cmd.executeSerialized_spec d dpe locality env hwell).of_error hfails
  by_cases hrecursive : ∃ derive, cmd = .deriveContext derive ∧
      derive.flags.isRecursive = true
  · obtain ⟨derive, rfl, hrec⟩ := hrecursive
    obtain ⟨idx, cumulative, draws, handle, hpos, hhash, hchosen, hplain, hstate⟩ :=
      (recursive_unwritten derive hrec env).of_error hfails hcause
    rw [hstate, recursive_unchanged_iff hrec hpos hhash hchosen,
      DeriveContextCmd.commitsFirst_of_not_export hplain]
    constructor
    · intro hidle
      exact .inr ⟨derive, rfl, hidle⟩
    · rintro (hno | ⟨_, heq, hidle⟩)
      · cases hno
      · cases heq
        exact hidle
  · cases hfell with
    | early state _ cause =>
        refine iff_of_true state (.inl ?_)
        by_contra hfirst
        exact cause (by simpa using hfirst) hcause
    | late stored first =>
        obtain ⟨draws, es, heffect, hdid⟩ := stored
        obtain ⟨j, hj⟩ := changes hwell heffect first fun derive hd => by
          by_contra hrec
          exact hrecursive ⟨derive, hd, by simpa using hrec⟩
        refine iff_of_false (fun h => hj ?_) ?_
        · rw [← hdid.state, h]
        · rintro (hno | ⟨derive, hd, hidle⟩)
          · rw [first] at hno
            cases hno
          · exact hrecursive ⟨derive, hd, hidle.1⟩
    | halfway _ _ _ _ _ _ cause => exact absurd hcause cause
    | mistyped _ _ _ _ typed => exact absurd hcause typed

/-- The default context of a locality, under a handle that it was given. -/
def rotatedCalls (locality : UInt32) (h : UInt8) : List SampleCall :=
  [sampleInit locality, ⟨.command locality (.rotateCtx ⟨.default, 0⟩), [h], 28⟩]

/-- Signing into an empty buffer leaves the handle that a signature would
    have taken away. -/
theorem unwritten_unchanged_sign :
    ∃ env', Command.executeSerialized sampleDeps sampleDpe 1
        (.sign (.p384 (sampleHandle 5) (.replicate 48 0) 0 (.replicate 48 0)))
        (sampleEnv (played (rotatedCalls 1 5)) [9] 0)
        = .error (.err .invalidResponseBuf) env' ∧
      env'.state = played (rotatedCalls 1 5) := by
  have hrun : ∃ env', Command.executeSerialized sampleDeps sampleDpe 1
      (.sign (.p384 (sampleHandle 5) (.replicate 48 0) 0 (.replicate 48 0)))
      (sampleEnv (played (rotatedCalls 1 5)) [9] 0)
      = .error (.err .invalidResponseBuf) env' := ⟨_, rfl⟩
  obtain ⟨env', hrun⟩ := hrun
  have hreach : Reachable (played (rotatedCalls 1 5)) :=
    reachable_played (by decide +kernel)
  exact ⟨env', hrun, (unwritten_unchanged_iff hrun hreach (by decide)).mpr
    (.inl rfl)⟩

/-- A rotation whose response is a byte too long has taken the old handle
    away. -/
theorem unwritten_changed_rotate :
    Reachable (played [sampleSimulation 1 5]) ∧
    ∃ env', Command.executeSerialized sampleDeps sampleDpe 1
        (.rotateCtx ⟨sampleHandle 5, 0⟩)
        (sampleEnv (played [sampleSimulation 1 5]) [9] 27)
        = .error (.err .invalidResponseBuf) env' ∧
      (played [sampleSimulation 1 5]).getActiveContextPos (sampleHandle 5) 1
        = .ok (sampleSlot 0) ∧
      env'.state.getActiveContextPos (sampleHandle 5) 1
        = .error .invalidHandle ∧
      env'.state ≠ played [sampleSimulation 1 5] := by
  refine ⟨reachable_played (by decide +kernel), _, rfl, by decide +kernel,
    by decide +kernel, fun h => ?_⟩
  have hgone : (played [sampleSimulation 1 5]).getActiveContextPos (sampleHandle 5) 1
      = .error .invalidHandle := by
    rw [← h]
    decide +kernel
  exact absurd hgone (by decide +kernel)

end Dpe
