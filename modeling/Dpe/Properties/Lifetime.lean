import Dpe.Properties.Privileges

/-! # Lifetime — one normal tree

    The default context can be made once.  The flag that says so is never
    taken back, so a normal tree that is gone is gone for good. -/

namespace Dpe

open Forest Prog Runs

variable {b : Build} {s s' t : State b}

/-- The step makes a normal root in slot `r`. -/
structure PlantsNormal (s s' : State b) (r : Fin b.maxHandles) : Prop where
  dead : ¬ s.Live r
  live : s'.Live r
  root : s'.up r = none
  normal : (s'.contexts r).contextType = .normal

/-- Slot `r` holds a normal root. -/
structure NormalRoot (s : State b) (r : Fin b.maxHandles) : Prop where
  live : s.Live r
  root : s.up r = none
  normal : (s.contexts r).contextType = .normal

/-- What is live and normal hangs below a normal root. -/
theorem State.WellFormed.normalRoot (h : s.WellFormed) {i : Fin b.maxHandles}
    (hi : s.Live i) (hn : (s.contexts i).contextType = .normal) :
    ∃ r, NormalRoot s r ∧ Subtree s.up r i := by
  obtain ⟨r, hroot, hsub⟩ := (h.rooted i hi).exists_root
  exact ⟨r, ⟨h.live_above hi hsub, hroot, (h.type_subtree hsub).symm.trans hn⟩,
    hsub⟩

/-! ## One effect -/

section Effects

open Edit

variable {W : Type} {d : Deps b W} {call : Call b}
  {draws : List (Vector UInt8 16)} {es : List (Edit b)}

/-- The flag stays. -/
theorem hasInitialized_effect (h : s.WellFormed) (he : CallEffect d s call draws es)
    (hinit : s.hasInitialized = true) :
    (applyAll s es).hasInitialized = true := by
  refine ((he.run h).invariant_all (I := fun s => s.hasInitialized = true) ?_ hinit)
  rintro s e t hs ⟨-, rfl⟩
  cases e with
  | plant idx args =>
      show (s.hasInitialized || args.contextType == .normal) = true
      rw [hs]
      rfl
  | rename | measure | retype | retire | adopt | prune => exact hs

/-- A root planted when the flag is set is a simulation. -/
theorem simulation_of_initialized {cmd : InitCtxCmd}
    (hacc : cmd.accepted s = true) (hinit : s.hasInitialized = true) :
    cmd.contextType = .simulation := by
  unfold InitCtxCmd.accepted at hacc
  rw [hinit, Bool.and_true] at hacc
  cases hdefault : cmd.flagIsDefault with
  | false => exact if_neg (by rw [hdefault]; exact Bool.false_ne_true)
  | true =>
      rw [hdefault] at hacc
      cases hacc

/-- A context that lives on keeps its place and its type. -/
theorem place_effect (h : s.WellFormed) (he : CallEffect d s call draws es)
    {i : Fin b.maxHandles} (hi : s.Live i) (hi' : (applyAll s es).Live i) :
    (applyAll s es).up i = s.up i ∧
      ((applyAll s es).contexts i).contextType = (s.contexts i).contextType := by
  have hlasts := he.lasts h hi hi'
  exact ⟨State.up_congr hlasts.parentIdx, hlasts.contextType⟩

/-- A context that is new is a root of the type its command asks for, or
    it is no root. -/
theorem born_effect (h : s.WellFormed) (he : CallEffect d s call draws es)
    {i : Fin b.maxHandles} (hi : ¬ s.Live i) (hi' : (applyAll s es).Live i)
    (hroot : (applyAll s es).up i = none) :
    ∃ cmd : InitCtxCmd, cmd.accepted s = true ∧
      ((applyAll s es).contexts i).contextType = cmd.contextType := by
  have hrun := he.run h
  cases he.shape with
  | tame htame => exact absurd (((alike_of_run htame hrun).live i).mp hi') hi
  | @plant cmd idx handle locality es hacc hidle htame =>
      cases hrun with
      | cons hstep hrun =>
          obtain ⟨-, rfl⟩ := hstep
          have ha := alike_of_run htame hrun
          refine ⟨cmd, hacc, (ha.contexts i).contextType.trans ?_⟩
          have hlive := (ha.live i).mp hi'
          have heq : i = idx := by
            by_contra hne
            unfold State.Live at hlive
            rw [plant_other hne] at hlive
            exact hi hlive
          rw [heq, plant_self]
          rfl
  | @adopt cmd locality parent child kept handle cumulative hacc hidle =>
      have hplive := State.live_of_resolves hacc.resolves
      have hlegal : (adopt parent child kept (cmd.activeContextArgs
          (s.contexts parent).contextType (s.contexts parent) parent handle
          (cmd.childLocality locality)) cmd.data cumulative).Legal s :=
        ⟨hplive, hidle, rfl, rfl⟩
      simp only [applyAll_cons, applyAll_nil] at hi' hroot
      have hne : i ≠ child := by
        intro heq
        rw [heq, adopt_up_child hlegal] at hroot
        cases hroot
      have hnp : i ≠ parent := by
        intro heq
        rw [heq] at hi
        exact hi hplive
      unfold State.Live at hi'
      rw [adopt_other hne hnp] at hi'
      exact absurd hi' hi
  | @prune marked idx top _ hcut =>
      simp only [applyAll_cons, applyAll_nil] at hi'
      unfold State.Live at hi'
      by_cases hm : marked.hasChild b i = true
      · rw [prune_marked hm] at hi'
        exact absurd rfl hi'
      · rw [prune_other hm] at hi'
        exact absurd hi' hi

/-- **NO NEW NORMAL ROOT** once the flag is set. -/
theorem normalRoot_effect (h : s.WellFormed) (he : CallEffect d s call draws es)
    (hinit : s.hasInitialized = true) {r : Fin b.maxHandles}
    (hr : NormalRoot (applyAll s es) r) : NormalRoot s r := by
  by_cases hlive : s.Live r
  · obtain ⟨hup, htype⟩ := place_effect h he hlive hr.live
    exact ⟨hlive, hup.symm.trans hr.root, htype.symm.trans hr.normal⟩
  · obtain ⟨cmd, hacc, htype⟩ := born_effect h he hlive hr.live hr.root
    rw [simulation_of_initialized hacc hinit, hr.normal] at htype
    cases htype

end Effects

/-! ## Runs -/

theorem Exec.Step.hasInitialized {x : Exec b} (h : s.WellFormed)
    (hstep : Exec.Step s x s') (hinit : s.hasInitialized = true) :
    s'.hasInitialized = true := by
  obtain ⟨draws, es, he, rfl⟩ := hstep.effect h
  exact hasInitialized_effect h he hinit

theorem Exec.Step.normalRoot {x : Exec b} (h : s.WellFormed)
    (hstep : Exec.Step s x s') (hinit : s.hasInitialized = true)
    {r : Fin b.maxHandles} (hr : NormalRoot s' r) : NormalRoot s r := by
  obtain ⟨draws, es, he, rfl⟩ := hstep.effect h
  exact normalRoot_effect h he hinit hr

/-- From an initialized state on there is no new normal root. -/
theorem normalRoot_run {xs : List (Exec b)} (hrun : Run Exec.Step s xs t)
    (h : s.WellFormed) (hinit : s.hasInitialized = true) :
    t.WellFormed ∧ t.hasInitialized = true ∧
      ∀ r, NormalRoot t r → NormalRoot s r := by
  refine hrun.invariant_all (I := fun t => t.WellFormed ∧
    t.hasInitialized = true ∧ ∀ r, NormalRoot t r → NormalRoot s r) ?_
    ⟨h, hinit, fun _ hr => hr⟩
  rintro t x t' ⟨hwell, hinit, hroots⟩ hstep
  exact ⟨hstep.wellFormed hwell, hstep.hasInitialized hwell hinit,
    fun r hr => hroots r (hstep.normalRoot hwell hinit hr)⟩

/-- A step that makes a normal root sets the flag, and finds it unset. -/
theorem PlantsNormal.hasInitialized {x : Exec b} {r : Fin b.maxHandles}
    (h : s.WellFormed) (hstep : Exec.Step s x s') (hp : PlantsNormal s s' r) :
    s.hasInitialized = false ∧ s'.hasInitialized = true := by
  refine ⟨?_, (hstep.wellFormed h).normal_init r hp.live hp.normal⟩
  by_contra hno
  rw [Bool.not_eq_false] at hno
  exact hp.dead (hstep.normalRoot h hno ⟨hp.live, hp.root, hp.normal⟩).live

/-- A normal root at the end of a run was there from the start, or a
    step of the run made it. -/
theorem planted_of_run {s₀ : State b} {xs : List (Exec b)}
    (hrun : Run Exec.Step s₀ xs s) (h : s₀.WellFormed) {r : Fin b.maxHandles}
    (hr : NormalRoot s r) :
    NormalRoot s₀ r ∨ ∃ xs₁ x xs₂ s₁ s₂, xs = xs₁ ++ x :: xs₂ ∧
      Run Exec.Step s₀ xs₁ s₁ ∧ Exec.Step s₁ x s₂ ∧ Run Exec.Step s₂ xs₂ s ∧
      PlantsNormal s₁ s₂ r := by
  induction hrun with
  | nil => exact .inl hr
  | @cons s₀ s₁ s x ys hstep hrest ih =>
      rcases ih (hstep.wellFormed h) hr with hroot | hlater
      · by_cases hlive : s₀.Live r
        · obtain ⟨draws, es, he, rfl⟩ := hstep.effect h
          obtain ⟨hup, htype⟩ := place_effect h he hlive hroot.live
          exact .inl ⟨hlive, hup.symm.trans hroot.root,
            htype.symm.trans hroot.normal⟩
        · exact .inr ⟨[], x, ys, s₀, s₁, rfl, .nil s₀, hstep, hrest, hlive,
            hroot.live, hroot.root, hroot.normal⟩
      · obtain ⟨xs₁, y, xs₂, t₁, t₂, rfl, h1, h2, h3, hplants⟩ := hlater
        exact .inr ⟨x :: xs₁, y, xs₂, t₁, t₂, rfl, .cons hstep h1, h2, h3,
          hplants⟩

/-- **ONE NORMAL ROOT**: over a run from a new state, with what follows
    it, the flag is never taken back, at most one step makes a normal
    root, everything normal hangs below that root, and when nothing
    normal is left nothing normal comes again. -/
theorem one_normal_root {support : Support} {flags : DpeFlags}
    {xs : List (Exec b)}
    (hrun : Run Exec.Step (State.new b support flags) xs s) :
    (∀ ys t, Run Exec.Step s ys t → s.hasInitialized = true →
      t.hasInitialized = true) ∧
    (∀ x s₁ ys t y t₁ r r', Exec.Step s x s₁ → Run Exec.Step s₁ ys t →
      Exec.Step t y t₁ → PlantsNormal s s₁ r → ¬ PlantsNormal t t₁ r') ∧
    (∀ i, s.Live i → (s.contexts i).contextType = .normal →
      ∃ xs₁ x xs₂ s₁ s₂ r, xs = xs₁ ++ x :: xs₂ ∧
        Run Exec.Step (State.new b support flags) xs₁ s₁ ∧
        Exec.Step s₁ x s₂ ∧ Run Exec.Step s₂ xs₂ s ∧ PlantsNormal s₁ s₂ r ∧
        Subtree s.up r i) ∧
    (∀ ys t, Run Exec.Step s ys t → s.hasInitialized = true →
      (∀ i, s.Live i → (s.contexts i).contextType ≠ .normal) →
      ∀ i, t.Live i → (t.contexts i).contextType ≠ .normal) ∧
    ∀ (x : Exec b) env' locality (cmd : InitCtxCmd),
      x.env.state = s → x.call = .command locality (.initCtx cmd) →
      cmd.flagIsDefault = true →
      x.call.run x.deps x.dpe x.env = .ok ⟨⟩ env' →
      ∃ r, PlantsNormal s env'.state r := by
  have hwell : s.WellFormed :=
    Reachable.wellFormed ⟨support, flags, xs, hrun⟩
  refine ⟨?_, ?_, ?_, ?_, ?_⟩
  · intro ys t hmore hinit
    exact (normalRoot_run hmore hwell hinit).2.1
  · intro x s₁ ys t y t₁ r r' hstep hmore hlast hp hp'
    have hwell₁ := hstep.wellFormed hwell
    obtain ⟨hwellt, hinit, -⟩ :=
      normalRoot_run hmore hwell₁ (hp.hasInitialized hwell hstep).2
    rw [(hp'.hasInitialized hwellt hlast).1] at hinit
    cases hinit
  · intro i hi hn
    obtain ⟨r, hroot, hsub⟩ := hwell.normalRoot hi hn
    rcases planted_of_run hrun (State.wellFormed_new support flags) hroot with
      hnew | ⟨xs₁, x, xs₂, s₁, s₂, hxs, h1, h2, h3, hplants⟩
    · exact absurd rfl hnew.live
    · exact ⟨xs₁, x, xs₂, s₁, s₂, r, hxs, h1, h2, h3, hplants, hsub⟩
  · intro ys t hmore hinit hnone i hi hn
    obtain ⟨hwellt, -, hroots⟩ := normalRoot_run hmore hwell hinit
    obtain ⟨r, hroot, -⟩ := hwellt.normalRoot hi hn
    have hold := hroots r hroot
    exact hnone r hold.live hold.normal
  · rintro x env' locality cmd rfl hcall hdefault hok
    rw [hcall] at hok
    have hspec : Post (Call.run x.deps x.dpe (.command locality (.initCtx cmd)))
        x.env (fun _ env' => ∃ n, Done x.deps x.dpe locality x.env (.initCtx cmd)
          n env') (fun _ _ => True) :=
      Post.bind ((initCtx_spec x.deps x.dpe locality cmd x.env).mono
        (fun _ _ h => h) (fun _ _ _ => trivial))
        fun n _ h => Post.pure ⟨n, h⟩
    obtain ⟨n, draws, es, bytes, heffect, hdid, -⟩ := hspec.of_ok hok
    rw [hdid.state]
    cases heffect with
    | @initCtx _ idx draws handle hacc hslot hchosen =>
        have hidle := State.getNextInactiveContextPos_some hslot
        refine ⟨idx, fun hlive => hlive hidle, ?_, ?_, ?_⟩
        · simp only [Edit.applyAll_cons, Edit.applyAll_nil]
          unfold State.Live
          rw [Edit.plant_self]
          exact fun hno => by cases hno
        · exact (Edit.plant_up hwell hidle rfl idx).trans (hwell.up_inactive hidle)
        · simp only [Edit.applyAll_cons, Edit.applyAll_nil]
          rw [Edit.plant_self]
          exact if_pos hdefault

/-- The child of a default context hangs below a normal root. -/
theorem one_normal_root_played :
    ∃ s₁ s₂ : State sampleBuild, ∃ r, PlantsNormal s₁ s₂ r ∧
      Subtree (played [sampleInit 0, sampleDerive 0 0
        DeriveContextFlags.MAKE_DEFAULT 5 0 [] 44]).up r (sampleSlot 1) := by
  have hplays : (play sampleNew [sampleInit 0, sampleDerive 0 0
      DeriveContextFlags.MAKE_DEFAULT 5 0 [] 44]).isSome = true := by
    decide +kernel
  obtain ⟨xs, hrun, -⟩ := run_played hplays
  obtain ⟨-, -, hbelow, -⟩ := one_normal_root hrun
  obtain ⟨-, -, -, s₁, s₂, r, -, -, -, -, hplants, hsub⟩ :=
    hbelow (sampleSlot 1) (by decide +kernel) (by decide +kernel)
  exact ⟨s₁, s₂, r, hplants, hsub⟩

end Dpe
