import Dpe.Abstract.Address
import Dpe.Proofs.Outputs
import Dpe.Proofs.Refinement

/-! # Roots — when a call makes a context without a parent

    InitCtx makes a root if it accepts its flags and has a slot and a
    handle for it, and `new` makes the default root in the same way.
    Where it does not, it leaves the state as it was.  Either can be told
    from the state and the world that the call starts in. -/

namespace Dpe

open Prog

variable {b : Build} {W : Type} (d : Deps b W) (dpe : DpeInstance b)

/-- The command makes a root: its flags are accepted, a slot is free, and
    the random number generator gives a free handle in time if the root
    needs one. -/
structure InitCtxCmd.Plants (cmd : InitCtxCmd) (s : State b) (w : W) : Prop where
  accepted : cmd.accepted s = true
  slot : s.getNextInactiveContextPos.isSome = true
  handle : cmd.flagIsDefault = false →
    ∃ v ∈ d.crypto.outputs MAX_NEW_HANDLE_ATTEMPTS w, ¬ Taken s ⟨v⟩

/-- **THE TWO ENDS** of InitCtx. -/
inductive InitCtxCmd.Ends (cmd : InitCtxCmd) (locality : UInt32) (s : State b) (w : W) :
    State b → Prop where
  | planted {idx : Fin b.maxHandles} {draws : List (Vector UInt8 16)}
      {handle : ContextHandle} (plants : cmd.Plants d s w)
      (slot : s.getNextInactiveContextPos = some idx)
      (chosen : Chosen s cmd.flagIsDefault draws handle) :
      Ends cmd locality s w ((Edit.plant idx
        (cmd.activeContextArgs cmd.contextType handle locality)).apply s)
  | unplanted (no : ¬ cmd.Plants d s w) : Ends cmd locality s w s

/-- The type and the handle of a root, if there is a handle. -/
theorem newContext_ends (cmd : InitCtxCmd) (env : Env b W) :
    Post (cmd.newContext d) env
      (fun _ _ => cmd.flagIsDefault = false →
        ∃ v ∈ d.crypto.outputs MAX_NEW_HANDLE_ATTEMPTS env.world, ¬ Taken env.state ⟨v⟩)
      fun _ _ => cmd.flagIsDefault = false ∧
        ∀ v ∈ d.crypto.outputs MAX_NEW_HANDLE_ATTEMPTS env.world,
          Taken env.state ⟨v⟩ := by
  unfold InitCtxCmd.newContext
  cases cmd.flagIsDefault with
  | true => exact Post.modify_bind (Post.pure fun hno => by cases hno)
  | false =>
      have hdraw := newHandleAttempts_outputs d MAX_NEW_HANDLE_ATTEMPTS env
      refine Post.bind (hdraw.mono (fun _ _ h => h) fun _ _ h => ⟨rfl, h⟩) ?_
      rintro handle env1 ⟨refused, hlt, hfirst, hmore⟩
      exact Post.pure fun _ => ⟨handle.bytes, mem_outputs d hlt hmore, hfirst.free⟩

/-- **INITCTX** makes a root or leaves the state as it was, whether it
    returns or fails. -/
theorem initCtx_ends (cmd : InitCtxCmd) (locality : UInt32) (env : Env b W) :
    Post (cmd.executeSerialized d dpe locality) env
      (fun _ env' => cmd.Ends d locality env.state env.world env'.state)
      fun _ env' => cmd.Ends d locality env.state env.world env'.state := by
  refine Post.get_bind ?_
  refine Post.rejectIf_bind (fun hflags => .unplanted fun h => ?_) fun hflags => ?_
  · have haccepted := h.accepted
    simp [InitCtxCmd.accepted, hflags] at haccepted
  refine Post.rejectIf_bind (fun hone => .unplanted fun h => ?_) fun hone => ?_
  · have haccepted := h.accepted
    simp only [InitCtxCmd.accepted, Bool.and_eq_true] at haccepted
    rw [haccepted.2] at hone
    cases hone
  have haccepted : cmd.accepted env.state = true := by
    unfold InitCtxCmd.accepted
    rw [hflags]
    simpa using hone
  cases hslot : env.state.getNextInactiveContextPos with
  | none =>
      refine Post.throw (.unplanted fun h => ?_)
      have hsome := h.slot
      rw [hslot] at hsome
      cases hsome
  | some idx =>
      show Post (cmd.newContext d >>= _) env _ _
      refine Post.bind (((newContext_spec d cmd env).and (newContext_ends d cmd env)).mono
        (fun _ _ h => h) ?_) ?_
      · rintro e env1 ⟨hgave, hdefault, hall⟩
        rw [hgave.state]
        refine .unplanted fun h => ?_
        obtain ⟨v, hv, hfree⟩ := h.handle hdefault
        exact hfree (hall v hv)
      · rintro ⟨_, handle⟩ env1 ⟨⟨rfl, -, hstate, draws, -, hchosen⟩, hhandle⟩
        have hplants : cmd.Plants d env.state env.world :=
          ⟨haccepted, by rw [hslot]; rfl, hhandle⟩
        have hends : cmd.Ends d locality env.state env.world (env1.state.set idx
            ((env1.state.contexts idx).activate
              (cmd.activeContextArgs cmd.contextType handle locality))) := by
          rw [hstate]
          show cmd.Ends d locality env.state env.world (State.set _ idx _)
          rw [plant_state locality cmd idx handle]
          exact .planted hplants hslot hchosen
        refine Post.get_bind (Post.modify_bind ?_)
        refine Post.bind ((writeAt_spec 0 _ _ _).mono (fun _ _ h => ?_)
          fun _ _ h => ?_) fun _ _ h => Post.pure h
        · rw [h.1]
          exact hends
        · rw [h.2.1]
          exact hends

/-! ## Instances -/

/-- **THE TWO ENDS** of `new`: the default root is made for the locality
    that the platform names, or nothing is. -/
inductive NewEnds (s : State b) (w : W) : State b → Prop where
  | asked {locality : UInt32} {w' : W} {s' : State b}
      (autoInit : s.support.autoInit = true)
      (owner : d.platform.getAutoInitLocality w = (.ok locality, w'))
      (ends : InitCtxCmd.newUseDefault.Ends d locality s w' s') : NewEnds s w s'
  | idle (idle : s.support.autoInit = true →
      ∃ e, (d.platform.getAutoInitLocality w).1 = .error e) : NewEnds s w s

/-- A call of the platform, with the world that it was made in. -/
theorem callPlatform_answer {α : Type} (f : W → Except PlatformError α × W)
    (env : Env b W) :
    Post (callPlatform f) env
      (fun a env' => f env.world = (.ok a, env'.world) ∧ env'.own = env.own)
      fun _ env' => (∃ e, (f env.world).1 = .error e) ∧ env'.own = env.own := by
  refine ⟨?_⟩
  unfold callPlatform
  cases hf : f env.world with
  | mk r w =>
      cases r with
      | ok a => exact ⟨rfl, rfl⟩
      | error e => exact ⟨⟨e, rfl⟩, rfl⟩

theorem new_ends (env : Env b W) :
    Post (DpeInstance.new d dpe) env
      (fun _ env' => NewEnds d env.state env.world env'.state)
      fun _ env' => NewEnds d env.state env.world env'.state := by
  refine Post.get_bind (Post.ite (fun hauto => ?_) fun hauto => ?_)
  · refine Post.bind ((callPlatform_answer _ env).mono (fun _ _ h => h) ?_) ?_
    · rintro _ env1 ⟨he, hown⟩
      rw [show env1.state = env.state from congrArg (·.1) hown]
      exact .idle fun _ => he
    · rintro locality env1 ⟨howner, hown⟩
      have hstate : env1.state = env.state := congrArg (·.1) hown
      have hends : Post (withBuffer (List.replicate 28 0)
          (InitCtxCmd.newUseDefault.executeSerialized d dpe locality)) env1
          (fun _ env' => NewEnds d env.state env.world env'.state)
          fun _ env' => NewEnds d env.state env.world env'.state := by
        have hinit := initCtx_ends d dpe .newUseDefault locality
          { env1 with out := .slice (List.replicate 28 0) }
        have hasked : ∀ {s' : State b}, InitCtxCmd.newUseDefault.Ends d locality
            env1.state env1.world s' → NewEnds d env.state env.world s' := by
          rw [hstate]
          exact .asked hauto howner
        refine ⟨?_⟩
        unfold withBuffer
        cases hr : InitCtxCmd.newUseDefault.executeSerialized d dpe locality
          { env1 with out := .slice (List.replicate 28 0) } with
        | ok n env2 =>
            have hends := hinit.of_ok hr
            exact hasked hends
        | error e env2 =>
            have hends := hinit.of_error hr
            exact hasked hends
      exact Post.bind hends fun _ _ h => Post.pure h
  · exact Post.pure (.idle fun h => absurd h hauto)

/-- `new_auto_init` makes a root as `new` does; what it measures keeps its
    address. -/
theorem newAutoInit_ends (tciType : UInt32) (measurement : TciMeasurement b)
    (env : Env b W) :
    Post (dpe.newAutoInit d tciType measurement) env
      (fun _ env' => ∃ s, NewEnds d env.state env.world s ∧
        env'.state.address = s.address)
      fun _ env' => ∃ s, NewEnds d env.state env.world s ∧
        env'.state.address = s.address := by
  refine Post.get_bind ?_
  refine Post.rejectIf_bind (fun hno => ⟨_, .idle fun h => ?_, rfl⟩) fun hauto => ?_
  · rw [h] at hno
    cases hno
  refine Post.bind ((new_ends d dpe env).mono (fun _ _ h => h)
    fun _ _ h => ⟨_, h, rfl⟩) ?_
  intro _ env1 hends
  have hkept : ∀ {env' : Env b W}, env'.state = env1.state →
      ∃ s, NewEnds d env.state env.world s ∧ env'.state.address = s.address :=
    fun h => ⟨_, hends, by rw [h]⟩
  refine Post.bind ((callPlatform_answer _ env1).mono (fun _ _ h => h)
    fun _ _ h => hkept (congrArg (·.1) h.2)) ?_
  rintro locality env2 ⟨-, hown⟩
  have hstate : env2.state = env1.state := congrArg (·.1) hown
  refine Post.get_bind ?_
  refine resolve_bind locality (fun idx hpos => ?_) fun _ _ => hkept hstate
  refine Post.bind (((keeps_addTciMeasurement d _ _ _ env2).and
    (addTciMeasurement_spec d _ _ _ env2)).mono (fun _ _ h => h)
    fun _ _ h => hkept ((congrArg (·.1) h.1).trans hstate)) ?_
  rintro _ env3 ⟨hown3, -, -, -, -, -, cumulative, -, rfl⟩
  have hstate3 : env3.state = env2.state := congrArg (·.1) hown3
  refine Post.modify ⟨_, hends, ?_⟩
  rw [State.address_set, hstate3, hstate]
  exact Function.update_eq_self ..

end Dpe
