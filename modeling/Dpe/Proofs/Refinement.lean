import Dpe.Proofs.DeriveCommand

/-! # Refinement — every call is an effect

    Whatever a call does and however it ends, what it has done to the
    state is an effect: a list of legal edits.  So every run of the code
    is a run of the abstract machine, and every reachable state is well
    formed. -/

namespace Dpe

open Prog Runs

variable {b : Build} {W : Type} (d : Deps b W) (dpe : DpeInstance b)

/-- The call has had an effect, complete or in part. -/
def Had (env : Env b W) (call : Call b) (env' : Env b W) : Prop :=
  ∃ draws es, CallEffect d env.state call draws es ∧ Did env draws es env'

/-- The call has changed nothing. -/
theorem had_nothing {env env' : Env b W} {draws : List (Vector UInt8 16)}
    (call : Call b) (hstate : env'.state = env.state)
    (hdrawn : env'.drawn = env.drawn ++ draws) : Had d env call env' :=
  ⟨draws, [], .failed call draws, hstate, hdrawn⟩

/-! ## Creating an instance -/

theorem callPlatform_returned {α : Type} (f : W → Except PlatformError α × W)
    (env : Env b W) :
    Post (callPlatform f) env
      (fun a env' => Returned f a ∧ env'.own = env.own)
      (fun _ env' => env'.own = env.own) := by
  refine ⟨?_⟩
  unfold callPlatform
  cases hf : f env.world with
  | mk r w =>
      cases r with
      | ok a => exact ⟨⟨_, _, hf⟩, rfl⟩
      | error e => rfl

/-- `new` has made the default context, if it is to be made at once. -/
def Made (env env' : Env b W) : Prop :=
  ∃ draws es, CallEffect d env.state .new draws es ∧
    (env.state.support.autoInit = true → Planted d env.state draws es) ∧
    Did env draws es env'

/-- `DpeInstance::new` has had its effect, or has changed nothing. -/
theorem new_spec (env : Env b W) :
    Post (DpeInstance.new d dpe) env (fun _ env' => Made d env env')
      (fun _ env' => env'.state = env.state ∧
        ∃ draws, env'.drawn = env.drawn ++ draws) := by
  refine Post.get_bind (Post.ite (fun hauto => ?_) fun hauto => ?_)
  · refine Post.bind ((callPlatform_returned _ env).mono (fun _ _ h => h) ?_) ?_
    · intro e env1 hown
      exact ⟨congrArg (·.1) hown, [], (Drew.of_own hown).drawn⟩
    rintro locality env1 ⟨howner, hown⟩
    have h1 := Drew.of_own hown
    have hbuffer : Post (withBuffer (List.replicate 28 0)
        (InitCtxCmd.newUseDefault.executeSerialized d dpe locality)) env1
        (fun _ env' => Made d env env')
        (fun _ env' => env'.state = env.state ∧
          ∃ draws, env'.drawn = env.drawn ++ draws) := by
      have hinit := initCtx_spec d dpe locality .newUseDefault
        { env1 with out := .slice (List.replicate 28 0) }
      refine ⟨?_⟩
      unfold withBuffer
      cases hr : InitCtxCmd.newUseDefault.executeSerialized d dpe locality
        { env1 with out := .slice (List.replicate 28 0) } with
      | ok n env2 =>
          obtain ⟨draws, es, _, heffect, hdid, -⟩ := hinit.of_ok hr
          have heffect' : Effect d env1.state locality _ draws es := heffect
          rw [h1.state] at heffect'
          have hplanted : Planted d env.state draws es :=
            ⟨locality, howner, heffect'⟩
          refine ⟨draws, es, .new hauto hplanted, fun _ => hplanted, ?_, ?_⟩
          · rw [← h1.state]
            exact hdid.state
          · show env2.drawn = _
            rw [hdid.drawn]
            show env1.drawn ++ draws = _
            rw [h1.drawn, List.append_nil]
      | error e env2 =>
          cases hinit.of_error hr with
          | early hstate hdrawn =>
              obtain ⟨draws, hdrawn⟩ := hdrawn
              refine ⟨hstate.trans h1.state, draws, hdrawn.trans ?_⟩
              show env1.drawn ++ draws = _
              rw [h1.drawn, List.append_nil]
          | late _ _ _ short =>
              exact absurd short (by simp [Command.responseSize,
                ResponseBuffer.capacity])
          | halfway isUpdate => cases isUpdate
          | mistyped isCertify => cases isCertify
    refine Post.bind hbuffer ?_
    rintro _ env2 hdid
    exact Post.pure hdid
  · refine Post.pure ⟨[], [], .newIdle (by simpa using hauto),
      fun h => absurd h hauto, rfl, ?_⟩
    exact (List.append_nil _).symm

/-- `new_auto_init` has made its default context and has measured a
    default context. -/
def AutoMeasured (env : Env b W) (tciType : UInt32)
    (measurement : TciMeasurement b) (env' : Env b W) : Prop :=
  ∃ draws es locality idx cumulative,
    env.state.support.autoInit = true ∧ Planted d env.state draws es ∧
    (Edit.applyAll env.state es).getActiveContextPos .default locality = .ok idx ∧
    Extends d ((Edit.applyAll env.state es).contexts idx).tci.tciCumulative
      measurement cumulative ∧
    Did env draws (es ++ [.measure idx measurement cumulative,
      .retype idx tciType]) env'

/-- `DpeInstance::new_auto_init` has had its effect, or that of `new`
    alone. -/
theorem newAutoInit_spec (tciType : UInt32) (measurement : TciMeasurement b)
    (env : Env b W) :
    Post (dpe.newAutoInit d tciType measurement) env
      (fun _ env' => AutoMeasured d env tciType measurement env')
      (fun _ env' => Had d env .new env') := by
  refine Post.get_bind ?_
  refine Post.rejectIf_bind (fun _ => had_nothing d _ rfl
    (List.append_nil _).symm) fun hauto => ?_
  refine Post.bind ((new_spec d dpe env).mono (fun _ _ h => h) ?_) ?_
  · rintro e env1 ⟨hstate, draws, hdrawn⟩
    exact had_nothing d _ hstate hdrawn
  rintro _ env1 ⟨draws, es, heffect, hplanted, hdid⟩
  have hauto : env.state.support.autoInit = true := by simpa using hauto
  have hunmeasured : ∀ {env' : Env b W}, env'.state = env1.state →
      env'.drawn = env1.drawn → Had d env .new env' :=
    fun hstate hdrawn => ⟨draws, es, heffect,
      hstate.trans hdid.state, hdrawn.trans hdid.drawn⟩
  refine Post.bind ((callPlatform_returned _ env1).mono (fun _ _ h => h) ?_) ?_
  · intro e env2 hown
    exact hunmeasured (congrArg (·.1) hown) (congrArg (·.2.2) hown)
  rintro locality env2 ⟨-, hown⟩
  have h2 := Drew.of_own hown
  have hdrawn2 : env2.drawn = env1.drawn := congrArg (·.2.2) hown
  refine Post.get_bind ?_
  refine resolve_bind locality (fun idx hpos => ?_)
    (fun _ _ => by exact hunmeasured h2.state hdrawn2)
  refine Post.bind (((keeps_addTciMeasurement d _ _ _ env2).and
    (addTciMeasurement_spec d _ _ _ env2)).mono (fun _ _ h => h) ?_) ?_
  · rintro e env3 ⟨hown3, -⟩
    exact hunmeasured ((congrArg (·.1) hown3).trans h2.state)
      ((congrArg (·.2.2) hown3).trans hdrawn2)
  rintro _ env3 ⟨-, _, h3, rfl, -, -, cumulative, hextends, rfl⟩
  rw [h2.state, hdid.state] at hpos hextends
  refine Post.modify ⟨draws, es, locality, idx, cumulative, hauto, hplanted hauto,
    hpos, hextends, ?_, ?_⟩
  · show env3.state.set idx _ = _
    rw [h3.state, h2.state, hdid.state, Edit.applyAll_append]
    simp only [Edit.applyAll_cons, Edit.applyAll_nil, Edit.apply,
      State.set_self, State.set_set]
    rfl
  · show env3.drawn = _
    rw [h3.drawn, List.append_nil, hdrawn2, hdid.drawn]

/-! ## All calls -/

/-- **EVERY CALL IS AN EFFECT**, whether it returns or fails. -/
theorem Call.run_spec (call : Call b) (env : Env b W) (h : env.state.WellFormed) :
    Post (call.run d dpe) env (fun _ env' => Had d env call env')
      (fun _ env' => Had d env call env') := by
  cases call with
  | new =>
      refine (new_spec d dpe env).mono ?_ ?_
      · rintro _ env' ⟨draws, es, heffect, -, hdid⟩
        exact ⟨draws, es, heffect, hdid⟩
      · rintro e env' ⟨hstate, draws, hdrawn⟩
        exact had_nothing d _ hstate hdrawn
  | newAutoInit tciType measurement =>
      refine (newAutoInit_spec d dpe tciType measurement env).mono ?_ ?_
      · rintro _ env' ⟨draws, es, locality, idx, cumulative, hauto, hplanted, hpos,
          hextends, hdid⟩
        exact ⟨draws, _, .newAutoInit hauto hplanted hpos hextends, hdid⟩
      · rintro e env' ⟨draws, es, heffect, hdid⟩
        exact ⟨draws, es, .newUnmeasured heffect, hdid⟩
  | command locality cmd =>
      refine Post.bind ((cmd.executeSerialized_spec d dpe locality env h).mono
        (fun _ _ h => h) ?_) ?_
      · intro e env' hfell
        cases hfell with
        | early hstate hdrawn =>
            obtain ⟨draws, hdrawn⟩ := hdrawn
            exact had_nothing d _ hstate hdrawn
        | late stored | mistyped _ stored =>
            obtain ⟨draws, es, heffect, hdid⟩ := stored
            exact ⟨draws, es, .command heffect, hdid⟩
        | halfway isUpdate named resolves found chosen did =>
            cases isUpdate
            exact ⟨_, _, .parentRolled named resolves found chosen, did⟩
      · rintro n env' ⟨draws, es, _, heffect, hdid, -⟩
        exact Post.pure ⟨draws, es, .command heffect, hdid⟩

/-- The environment in which a call ends. -/
def Exec.final (x : Exec b) : Env b x.W :=
  match x.call.run x.deps x.dpe x.env with
  | .ok _ env' => env'
  | .error _ env' => env'

/-- The random values that a call draws. -/
def Exec.draws (x : Exec b) : List (Vector UInt8 16) :=
  x.final.drawn.drop x.env.drawn.length

/-- A step ends where its call does. -/
theorem Exec.Step.final_state {s s' : State b} {x : Exec b}
    (hstep : Exec.Step s x s') : x.final.state = s' := by
  unfold Exec.final
  rcases hstep.2 with ⟨env', hrun, rfl⟩ | ⟨e, env', hrun, rfl⟩ <;> rw [hrun]

/-- **REFINEMENT**: every step of the code is an effect of the abstract
    machine, with the values that the call has drawn. -/
theorem Exec.Step.effect_draws {s s' : State b} {x : Exec b} (h : s.WellFormed)
    (hstep : Exec.Step s x s') :
    ∃ es, CallEffect x.deps s x.call x.draws es ∧ s' = Edit.applyAll s es := by
  obtain ⟨rfl, hend⟩ := hstep
  have hspec := x.call.run_spec x.deps x.dpe x.env h
  have hdrew : ∀ {draws : List (Vector UInt8 16)} {es : List (Edit b)},
      Did x.env draws es x.final → x.draws = draws := by
    intro draws es hdid
    unfold Exec.draws
    rw [hdid.drawn, List.drop_left]
  rcases hend with ⟨env', hrun, rfl⟩ | ⟨e, env', hrun, rfl⟩
  · obtain ⟨draws, es, heffect, hdid⟩ := hspec.of_ok hrun
    have hfinal : x.final = env' := by
      unfold Exec.final
      rw [hrun]
    rw [hdrew (hfinal ▸ hdid)]
    exact ⟨es, heffect, hdid.state⟩
  · obtain ⟨draws, es, heffect, hdid⟩ := hspec.of_error hrun
    have hfinal : x.final = env' := by
      unfold Exec.final
      rw [hrun]
    rw [hdrew (hfinal ▸ hdid)]
    exact ⟨es, heffect, hdid.state⟩

theorem Exec.Step.effect {s s' : State b} {x : Exec b} (h : s.WellFormed)
    (hstep : Exec.Step s x s') :
    ∃ draws es, CallEffect x.deps s x.call draws es ∧ s' = Edit.applyAll s es :=
  ⟨x.draws, hstep.effect_draws h⟩

theorem Exec.Step.wellFormed {s s' : State b} {x : Exec b} (h : s.WellFormed)
    (hstep : Exec.Step s x s') : s'.WellFormed := by
  obtain ⟨draws, es, heffect, rfl⟩ := hstep.effect h
  exact heffect.wellFormed h

/-- **INVARIANTS OF THE CODE**: what holds of new states and is kept by
    every effect on a well-formed state holds of every reachable state. -/
theorem Reachable.invariant {I : State b → Prop}
    (hnew : ∀ support flags, I (State.new b support flags))
    (heffect : ∀ {s : State b} {W : Type} {d : Deps b W} {call : Call b}
      {draws : List (Vector UInt8 16)} {es : List (Edit b)}, s.WellFormed → I s →
      CallEffect d s call draws es → I (Edit.applyAll s es))
    {s : State b} (h : Reachable s) : s.WellFormed ∧ I s := by
  obtain ⟨support, flags, xs, hrun⟩ := h
  refine hrun.invariant_all (I := fun s => s.WellFormed ∧ I s) ?_
    ⟨State.wellFormed_new support flags, hnew support flags⟩
  rintro s x s' ⟨hwell, hI⟩ hstep
  obtain ⟨draws, es, he, rfl⟩ := hstep.effect hwell
  exact ⟨he.wellFormed hwell, heffect hwell hI he⟩

/-- Every reachable state is well formed. -/
theorem Reachable.wellFormed {s : State b} (h : Reachable s) : s.WellFormed :=
  (h.invariant (I := fun _ => True) (fun _ _ => trivial)
    (fun _ _ _ => trivial)).1

/-- An edit-wise invariant of the code. -/
theorem Reachable.invariant_edits {I : State b → Prop}
    (hnew : ∀ support flags, I (State.new b support flags))
    (hstep : ∀ s e t, s.WellFormed → I s → Edit.Step s e t → I t)
    {s : State b} (h : Reachable s) : I s := by
  refine (h.invariant hnew fun {s} {W} {d} {call} {draws} {es} hwell hI he => ?_).2
  refine ((he.run hwell).invariant_all (I := fun s => s.WellFormed ∧ I s) ?_
    ⟨hwell, hI⟩).2
  rintro s e t ⟨hwell, hI⟩ hst
  exact ⟨hst.wellFormed hwell, hstep s e t hwell hI hst⟩

end Dpe
