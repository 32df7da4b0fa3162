import Dpe.Proofs.Outcome

/-! # Commands on contexts end as they should

    InitializeContext, RotateContextHandle, DestroyContext,
    UpdateContextMeasurement, GetProfile and GetCertificateChain: each
    ends with its effect made or in one of the ways to fail. -/

namespace Dpe

open Prog

variable {b : Build} {W : Type} (d : Deps b W) (dpe : DpeInstance b)
  (locality : UInt32)

/-- The errors of resolving a handle. -/
theorem getActiveContextPos_early {s : State b} {handle : ContextHandle}
    {e : DpeErrorCode} (h : s.getActiveContextPos handle locality = .error e) :
    ¬ Unwritable (.err e) := by
  unfold State.getActiveContextPos at h
  dsimp only at h
  split at h
  · cases h
    simp [Unwritable]
  · split at h
    · cases h
      simp [Unwritable]
    · split at h
      · cases h
      · cases h
        simp [Unwritable]

/-- Resolving a handle in front of a program. -/
theorem resolve_bind {α : Type} {f : Fin b.maxHandles → M b W α} {env : Env b W}
    {handle : ContextHandle} {ok : α → Env b W → Prop}
    {err : Stop → Env b W → Prop}
    (hok : ∀ i, env.state.getActiveContextPos handle locality = .ok i →
      Post (f i) env ok err)
    (herr : ∀ e, ¬ Unwritable (.err e) → err (.err e) env) :
    Post (orFail (env.state.getActiveContextPos handle locality) >>= f) env
      ok err :=
  orFail_bind hok fun e hpos => herr e (getActiveContextPos_early locality hpos)

/-! ## GetProfile, GetCertificateChain -/

theorem getProfile_spec (cmd : GetProfileCmd) (env : Env b W) :
    Post (cmd.executeSerialized d dpe locality) env
      (Done d dpe locality env (.getProfile cmd))
      (Fell d dpe locality env (.getProfile cmd)) := by
  have hprofile : Post (getProfile d dpe env.state.support) env
      (fun resp env' => Drew env [] env' ∧ ∃ vendorId vendorSku,
        resp = .new b dpe.profile env.state.support.bits vendorId vendorSku)
      (Gave env) := by
    refine Post.bind (((Quiet.platform _).draws env).mono (fun _ _ h => h)
      (fun _ _ h => h)) ?_
    rintro vendorId env1 ⟨_, h1, rfl⟩
    refine Post.bind (((Quiet.platform _).draws env1).mono (fun _ _ h => h)
      (fun _ _ h => .after h1 h)) ?_
    rintro vendorSku env2 ⟨_, h2, rfl⟩
    exact Post.pure ⟨h1.trans h2, vendorId, vendorSku, rfl⟩
  refine Post.get_bind ?_
  refine Post.bind (hprofile.mono (fun _ _ h => h) (fun _ _ h => .of_gave h)) ?_
  rintro _ env1 ⟨hdrew, vendorId, vendorSku, rfl⟩
  exact respond_idle hdrew (.getProfile cmd) .getProfile rfl

theorem getCertificateChain_spec (cmd : GetCertificateChainCmd)
    (env : Env b W) :
    Post (cmd.executeSerialized d dpe locality) env
      (Done d dpe locality env (.getCertificateChain cmd))
      (Fell d dpe locality env (.getCertificateChain cmd)) := by
  refine Post.rejectIf_bind (fun _ => .at_once (by simp [Unwritable])) fun _ => ?_
  refine Post.bind (((Quiet.platform _).draws env).mono
    (fun _ _ h => h) (fun _ _ h => .of_gave h)) ?_
  rintro resp env1 ⟨_, hdrew, rfl⟩
  exact respond_idle hdrew (.getCertificateChain cmd) .getCertificateChain rfl

/-! ## InitializeContext -/

/-- The new context's type and handle; a default context marks the state
    as initialized. -/
theorem newContext_spec (cmd : InitCtxCmd) (env : Env b W) :
    Post (cmd.newContext d) env
      (fun new env' => new.1 = cmd.contextType ∧ env'.out = env.out ∧
        env'.state = { env.state with
          hasInitialized := env.state.hasInitialized || cmd.flagIsDefault } ∧
        ∃ draws, env'.drawn = env.drawn ++ draws ∧
          Chosen env.state cmd.flagIsDefault draws new.2)
      (Gave env) := by
  unfold InitCtxCmd.newContext InitCtxCmd.contextType
  cases cmd.flagIsDefault with
  | true =>
      refine Post.modify_bind (Post.pure ⟨rfl, rfl, ?_, [], ?_, .default⟩)
      · rw [Bool.or_true]
      · exact (List.append_nil _).symm
  | false =>
      refine Post.bind (generateNewHandle_spec d env) ?_
      rintro handle env1 ⟨draws, hdrew, hfresh⟩
      refine Post.pure ⟨rfl, hdrew.out, ?_, draws, hdrew.drawn, .fresh hfresh⟩
      rw [hdrew.state, Bool.or_false]

/-- Storing the new context is planting it. -/
theorem plant_state {s : State b} (cmd : InitCtxCmd) (idx : Fin b.maxHandles)
    (handle : ContextHandle) :
    State.set { s with
      hasInitialized := s.hasInitialized || cmd.flagIsDefault } idx
        ((s.contexts idx).activate
          (cmd.activeContextArgs cmd.contextType handle locality))
      = (Edit.plant idx (cmd.activeContextArgs cmd.contextType handle
          locality)).apply s := by
  have htype : (cmd.contextType == .normal) = cmd.flagIsDefault := by
    unfold InitCtxCmd.contextType
    cases cmd.flagIsDefault <;> rfl
  unfold Edit.apply State.set
  rw [← htype]
  rfl

theorem initCtx_spec (cmd : InitCtxCmd) (env : Env b W) :
    Post (cmd.executeSerialized d dpe locality) env
      (Done d dpe locality env (.initCtx cmd))
      (Fell d dpe locality env (.initCtx cmd)) := by
  refine Post.get_bind ?_
  refine Post.rejectIf_bind (fun _ => .at_once (by simp [Unwritable]))
    fun hflags => ?_
  refine Post.rejectIf_bind (fun _ => .at_once (by simp [Unwritable]))
    fun hone => ?_
  have haccepted : cmd.accepted env.state = true := by
    unfold InitCtxCmd.accepted
    rw [hflags]
    simpa using hone
  cases hslot : env.state.getNextInactiveContextPos with
  | none => exact Post.throw (.at_once (by simp [Unwritable]))
  | some idx =>
      show Post (cmd.newContext d >>= _) env _ _
      refine Post.bind ((newContext_spec d cmd env).mono (fun _ _ h => h)
        (fun _ _ h => .of_gave h)) ?_
      rintro ⟨_, handle⟩ env1 ⟨rfl, hout, hstate, draws, hdrawn, hchosen⟩
      refine Post.get_bind (Post.modify_bind ?_)
      refine respond_done ⟨?_, hdrawn⟩ hout (.initCtx haccepted hslot hchosen)
        .initCtx rfl (by simp) (by simp [Command.responseSize])
      show env1.state.set idx _ = _
      rw [hstate]
      exact plant_state locality cmd idx handle

/-! ## RotateContextHandle -/

theorem rotateCtx_spec (cmd : RotateCtxCmd) (env : Env b W) :
    Post (cmd.executeSerialized d dpe locality) env
      (Done d dpe locality env (.rotateCtx cmd))
      (Fell d dpe locality env (.rotateCtx cmd)) := by
  refine Post.get_bind ?_
  refine Post.rejectIf_bind (fun _ => .at_once (by simp [Unwritable]))
    fun hsupported => ?_
  refine resolve_bind locality (fun idx hpos => ?_) (fun _ he => .at_once he)
  refine Post.rejectIf_bind (fun _ => .at_once (by simp [Unwritable]))
    fun hallowed => ?_
  show Post ((if cmd.usesTargetIsDefault then pure .default
    else generateNewHandle d) >>= _) env _ _
  refine Post.bind ((chosen_spec d cmd.usesTargetIsDefault env).mono
    (fun _ _ h => h) (fun _ _ h => .of_gave h)) ?_
  rintro handle env1 ⟨draws, hdrew, hchosen⟩
  refine Post.get_bind (Post.modify_bind ?_)
  refine respond_done ⟨?_, hdrew.drawn⟩ hdrew.out (.rotateCtx
    (by simpa using hsupported) hpos hallowed hchosen) .rotateCtx rfl (by simp)
    (by simp [Command.responseSize])
  show env1.state.set idx { env1.state.contexts idx with handle := handle } = _
  rw [hdrew.state]
  rfl

/-! ## DestroyContext -/

/-- Destroying in place never fails once the handle resolves. -/
theorem destroyInPlace_spec {handle : ContextHandle} {env : Env b W}
    {idx : Fin b.maxHandles} (h : env.state.WellFormed)
    (hpos : env.state.getActiveContextPos handle locality = .ok idx) :
    Post (destroyInPlace handle locality) env
      (fun _ env' => ∃ marked top,
        env' = { env with state := (Edit.prune marked).apply env.state } ∧
        State.Summit env.state idx top ∧ Edit.Cut env.state marked top)
      (fun _ _ => False) := by
  obtain ⟨marked, top, hrun, hsummit, hcut⟩ := State.destroyContext_spec h.wellLinked hpos
  refine Post.get_bind ?_
  rw [hrun]
  exact Post.modify ⟨marked, top, rfl, hsummit, hcut⟩

/-- A handle that does not resolve destroys nothing. -/
theorem destroyInPlace_error {handle : ContextHandle} {env : Env b W}
    {e : DpeErrorCode}
    (hpos : env.state.getActiveContextPos handle locality = .error e) :
    Post (destroyInPlace handle locality) env (fun _ _ => False)
      (fun e' env' => e' = .err e ∧ env' = env) := by
  have hrun : destroyContext env.state handle locality = .error (.err e) := by
    unfold destroyContext
    rw [hpos]
  refine Post.get_bind ?_
  rw [hrun]
  exact ⟨⟨rfl, rfl⟩⟩

theorem destroyCtx_spec (cmd : DestroyCtxCmd) (env : Env b W)
    (h : env.state.WellFormed) :
    Post (cmd.executeSerialized dpe locality) env
      (Done d dpe locality env (.destroyCtx cmd))
      (Fell d dpe locality env (.destroyCtx cmd)) := by
  cases hpos : env.state.getActiveContextPos cmd.handle locality with
  | error e =>
      refine Post.bind ((destroyInPlace_error locality hpos).mono
        (fun _ _ h => h) ?_) (fun _ _ hno => hno.elim)
      rintro _ _ ⟨rfl, rfl⟩
      exact .at_once (getActiveContextPos_early locality hpos)
  | ok idx =>
      refine Post.bind ((destroyInPlace_spec locality h hpos).mono
        (fun _ _ h => h) (fun _ _ hno => hno.elim)) ?_
      rintro _ _ ⟨marked, top, rfl, hsummit, hcut⟩
      exact respond_done ⟨rfl, (List.append_nil _).symm⟩ rfl
        (.destroyCtx hpos hsummit hcut) .destroyCtx rfl (by simp)
        (by simp [Command.responseSize])

/-! ## UpdateContextMeasurement -/

/-- Writing a context over is the second write. -/
theorem State.set_set (s : State b) (i : Fin b.maxHandles)
    (c c' : Context b) : (s.set i c).set i c' = s.set i c' := by
  show { s with contexts := Function.update (Function.update s.contexts i c) i c' }
    = { s with contexts := Function.update s.contexts i c' }
  rw [Function.update_idem]

/-- Storing the two temporary copies is the three edits. -/
theorem update_state (s : State b) (parent child : Fin b.maxHandles)
    (handle handle' : ContextHandle) (measurement cumulative : TciMeasurement b) :
    (s.set parent ((s.contexts parent).rename handle)).set child
        (((s.contexts child).measure measurement cumulative).rename handle')
      = Edit.applyAll s [.rename parent handle,
          .measure child measurement cumulative, .rename child handle'] := by
  simp only [Edit.applyAll_cons, Edit.applyAll_nil, Edit.apply, State.set_self,
    State.set_set]
  by_cases hne : child = parent
  · rw [hne, State.set_self]
    rfl
  · rw [State.set_of_ne hne]

theorem updateContextMeasurement_spec (cmd : UpdateContextMeasurementCmd b)
    (env : Env b W) :
    Post (cmd.executeSerialized d dpe locality) env
      (Done d dpe locality env (.updateContextMeasurement cmd))
      (Fell d dpe locality env (.updateContextMeasurement cmd)) := by
  refine Post.rejectIf_bind (fun _ => .at_once (by simp [Unwritable]))
    fun hnamed => ?_
  have hnamed' : cmd.parentHandle ≠ .default := fun hdefault => by
    rw [(ContextHandle.isDefault_iff _).mpr hdefault] at hnamed
    cases hnamed
  refine Post.get_bind ?_
  cases hpos : env.state.getActiveContextPos cmd.parentHandle locality with
  | error e => exact ⟨.at_once (by simp [Unwritable])⟩
  | ok parent =>
      show Post (okOr (cmd.findChild env.state parent) .invalidArgument >>= _)
        env _ _
      cases hfound : cmd.findChild env.state parent with
      | none => exact ⟨.at_once (by simp [Unwritable])⟩
      | some child =>
          show Post (addTciMeasurement d (env.state.contexts child) cmd.data
            (env.state.contexts child).locality >>= _) env _ _
          refine Post.bind ((addTciMeasurement_spec d _ _ _ env).mono
            (fun _ _ h => h) (fun _ _ h => .of_gave h)) ?_
          rintro tmpChild env1 ⟨_, h1, rfl, hactive, -, cumulative, hextends, rfl⟩
          refine Post.get_bind ?_
          rw [h1.state]
          refine Post.bind ((rollOnetimeUseHandle_spec d _ env1).mono
            (fun _ _ h => h) (fun _ _ h => .of_gave (.after h1 h))) ?_
          rintro tmpParent env2 ⟨draws, h2, handle, rfl, hchosen⟩
          have h12 := h1.trans h2
          have hold : (env.state.contexts parent).handle = cmd.parentHandle :=
            (State.getActiveContextPos_ok hpos).2.1
          have hno : (env.state.contexts parent).handle.isDefault = false := by
            rw [hold]
            simpa using hnamed
          rw [hno, h1.state] at hchosen
          refine Post.modify_bind ?_
          -- the parent is stored under its new handle from here on
          generalize henv3 : ({ env2 with
            state := env2.state.set parent
              ((env.state.contexts parent).rename handle) } : Env b W) = env3
          have hstate3 : env3.state
              = (Edit.rename parent handle).apply env.state := by
            rw [← henv3, ← h12.state]
            rfl
          have hout3 : env3.out = env.out := by
            rw [← henv3]
            exact h12.out
          have hdrawn3 : env3.drawn = env.drawn ++ draws := by
            rw [← henv3]
            exact h12.drawn
          refine Post.bind ((rollOnetimeUseHandle_spec d _ env3).mono
            (fun _ _ h => h) ?_) ?_
          · rintro e env4 ⟨hstate, -, ⟨draws', hdrawn⟩, hearly⟩
            have hdid : Did env (draws ++ draws') [.rename parent handle] env4 :=
              ⟨hstate.trans hstate3, by rw [hdrawn, hdrawn3, List.append_assoc]⟩
            exact .halfway rfl hnamed' hpos hfound hchosen hdid hearly
          · rintro tmpChild env4 ⟨draws', h4, handle', rfl, hchosen'⟩
            rw [hstate3] at hchosen'
            refine Post.modify_bind (respond_done ⟨?_, ?_⟩
              (h4.out.trans hout3) (.updateContextMeasurement hnamed' hpos
                hfound hextends hchosen hchosen') .updateContextMeasurement rfl
              (by simp) (by simp [Command.responseSize]))
            · rw [← update_state]
              show env4.state.set child _ = _
              rw [h4.state, hstate3]
              rfl
            · show env4.drawn = _
              rw [h4.drawn, hdrawn3, List.append_assoc]

end Dpe
