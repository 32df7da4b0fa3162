import Dpe.Properties.Localities

/-! # Uniqueness — one handle, one context

    A drawn handle is compared with the handles that are stored.  It is
    not compared with a handle that the same command has drawn and not
    stored yet, and not with the handle that stands for none. -/

namespace Dpe

open Prog Runs

variable {b : Build}

/-! ## Addresses -/

/-- No two addresses share a handle other than the default one, and none
    has the invalid handle. -/
structure Unique {ι : Type} (a : ι → Option Address) : Prop where
  distinct : ∀ i j locality locality' handle, handle ≠ .default →
    a i = some (locality, handle) → a j = some (locality', handle) → j = i
  valid : ∀ i locality, a i ≠ some (locality, .newInvalid)

namespace Unique

variable {ι : Type} {a a' : ι → Option Address} {i : ι} {x : Option Address}

/-- The new address has a handle that nobody else has. -/
theorem update [DecidableEq ι] (h : Unique a)
    (hx : ∀ locality handle, x = some (locality, handle) →
      handle ≠ .newInvalid ∧ (handle ≠ .default → ∀ j, j ≠ i → ∀ locality',
        a j ≠ some (locality', handle))) :
    Unique (Function.update a i x) where
  distinct p q locality locality' handle hne hp hq := by
    by_cases hpi : p = i
    · by_cases hqi : q = i
      · rw [hpi, hqi]
      · rw [hpi, Function.update_self] at hp
        rw [Function.update_of_ne hqi] at hq
        exact absurd hq ((hx _ _ hp).2 hne q hqi locality')
    · rw [Function.update_of_ne hpi] at hp
      by_cases hqi : q = i
      · rw [hqi, Function.update_self] at hq
        exact absurd hp ((hx _ _ hq).2 hne p hpi locality)
      · rw [Function.update_of_ne hqi] at hq
        exact h.distinct p q locality locality' handle hne hp hq
  valid p locality := by
    by_cases hpi : p = i
    · rw [hpi, Function.update_self]
      exact fun hp => (hx _ _ hp).1 rfl
    · rw [Function.update_of_ne hpi]
      exact h.valid p locality

/-- Addresses may be given up. -/
theorem restrict (h : Unique a) (ha : ∀ i, a' i = none ∨ a' i = a i) :
    Unique a' := by
  have hold : ∀ {i : ι} {y : Address}, a' i = some y → a i = some y := by
    intro i y hi
    rcases ha i with hn | hs
    · rw [hn] at hi
      cases hi
    · rw [← hs, hi]
  exact ⟨fun p q locality locality' handle hne hp hq =>
    h.distinct p q locality locality' handle hne (hold hp) (hold hq),
    fun p locality hp => h.valid p locality (hold hp)⟩

theorem update_none [DecidableEq ι] (h : Unique a) :
    Unique (Function.update a i none) :=
  h.update fun _ _ hno => by cases hno

end Unique

/-! ## Draws -/

section Effects

open Edit

variable {W : Type} {d : Deps b W} {s : State b} {locality : UInt32}
  {i : Fin b.maxHandles} {old handle : ContextHandle} {isDefault : Bool}
  {draws draws' : List (Vector UInt8 16)}

/-- A value that no slot stores is no address. -/
theorem Fresh.ne_address (h : Fresh s draws handle) (i : Fin b.maxHandles)
    (locality : UInt32) : s.address i ≠ some (locality, handle) := by
  intro hi
  exact h.ne_handle i (State.address_some.mp hi).2.2

/-- The invalid handle is drawn only if it is stored, so it is refused. -/
def Refused (s : State b) (draws : List (Vector UInt8 16)) : Prop :=
  ContextHandle.newInvalid.bytes ∈ draws →
    ∃ i, (s.contexts i).handle = .newInvalid

theorem Fresh.ne_invalid (h : Fresh s draws handle) (hrefused : Refused s draws) :
    handle ≠ .newInvalid := by
  rintro rfl
  obtain ⟨refused, rfl, -⟩ := h.drawn
  obtain ⟨i, hi⟩ := hrefused (by simp)
  exact h.ne_handle i hi

theorem newInvalid_ne_default :
    ContextHandle.newInvalid ≠ ContextHandle.default := by
  decide

theorem Chosen.ne_invalid (h : Chosen s isDefault draws handle)
    (hrefused : Refused s draws) : handle ≠ .newInvalid := by
  cases h with
  | default => exact fun h => newInvalid_ne_default h.symm
  | fresh hfresh => exact hfresh.ne_invalid hrefused

/-- A chosen handle that is not the default one is nobody's address. -/
theorem Chosen.ne_address (h : Chosen s isDefault draws handle)
    (hne : handle ≠ .default) (i : Fin b.maxHandles) (locality : UInt32) :
    s.address i ≠ some (locality, handle) := by
  cases h with
  | default => exact absurd rfl hne
  | fresh hfresh => exact hfresh.ne_address i locality

theorem Refused.append (h : Refused s (draws ++ draws')) :
    Refused s draws ∧ Refused s draws' :=
  ⟨fun hmem => h (List.mem_append_left _ hmem),
    fun hmem => h (List.mem_append_right _ hmem)⟩

/-- Giving a context a chosen handle. -/
theorem unique_rename (h : Unique s.address)
    (hi : s.address i = some (locality, old))
    (hchosen : Chosen s isDefault draws handle) (hrefused : Refused s draws) :
    Unique ((rename i handle).apply s).address := by
  rw [address_rename hi]
  refine h.update fun locality' handle' hx => ?_
  cases hx
  exact ⟨hchosen.ne_invalid hrefused, fun hne j _ _ => hchosen.ne_address hne j _⟩

/-- No value that may be accepted is drawn twice. -/
def Once (s : State b) (draws : List (Vector UInt8 16)) : Prop :=
  ∀ v, ¬ Taken s ⟨v⟩ → draws.count v ≤ 1

/-- Two handles accepted in one command differ. -/
theorem Fresh.ne_fresh {handle' : ContextHandle} (h : Fresh s draws handle)
    (h' : Fresh s draws' handle') (honce : Once s (draws ++ draws')) :
    handle ≠ handle' := by
  rintro rfl
  have hcount := honce handle.bytes h.free
  obtain ⟨refused, rfl, -⟩ := h.drawn
  obtain ⟨refused', rfl, -⟩ := h'.drawn
  simp only [List.count_append, List.count_singleton_self] at hcount
  omega

/-- A child gets a handle that its parent does not get. -/
theorem unique_adopt (h : Unique s.address) {cmd : DeriveContextCmd b}
    {parent child : Fin b.maxHandles} {kept : Option ContextHandle}
    {args : ActiveContextArgs} {measurement cumulative : TciMeasurement b}
    (hparent : s.address parent = some (locality, cmd.handle))
    (hidle : (s.contexts child).state = .inactive)
    (hkept : Kept s cmd.handle cmd.flags.retainsParent draws kept)
    (hchosen : Chosen s cmd.flags.makesDefault draws' args.handle)
    (hrefused : Refused s (draws ++ draws')) (honce : Once s (draws ++ draws')) :
    Unique ((adopt parent child kept args measurement cumulative).apply
      s).address := by
  have hne : child ≠ parent := by
    rintro rfl
    obtain ⟨hactive, -⟩ := State.address_some.mp hparent
    rw [hidle] at hactive
    cases hactive
  rw [address_adopt hparent hne]
  generalize cmd.flags.retainsParent = retains at hkept
  have hkeep : Unique (Function.update s.address parent
      (kept.map fun handle => (locality, handle))) := by
    cases hkept with
    | retained hkept =>
        have hrenamed := unique_rename h hparent hkept hrefused.append.1
        rwa [address_rename hparent] at hrenamed
    | retired => exact h.update_none
  refine hkeep.update fun target handle hx => ?_
  obtain ⟨-, hh⟩ := Prod.mk.inj (Option.some.inj hx)
  rw [hh] at hchosen
  refine ⟨hchosen.ne_invalid hrefused.append.2, fun hnd j _ target' hj => ?_⟩
  by_cases hjp : j = parent
  · rw [hjp, Function.update_self] at hj
    cases hkept with
    | retired => cases hj
    | retained hkept =>
        cases hj
        generalize cmd.flags.makesDefault = makes at hchosen
        cases hchosen with
        | default => exact hnd rfl
        | fresh hfresh =>
            generalize cmd.handle.isDefault = isDefault at hkept
            cases hkept with
            | default => exact hnd rfl
            | fresh hfresh' => exact hfresh'.ne_fresh hfresh honce rfl
  · rw [Function.update_of_ne hjp] at hj
    exact hchosen.ne_address hnd j target' hj

/-- Renaming an address that is not invalid leaves the invalid handles
    that are stored. -/
theorem Refused.rename (hrefused : Refused s draws) (h : Unique s.address)
    (hi : s.address i = some (locality, old)) (handle : ContextHandle) :
    Refused ((rename i handle).apply s) draws := by
  intro hmem
  obtain ⟨k, hk⟩ := hrefused hmem
  refine ⟨k, ?_⟩
  have hki : k ≠ i := by
    rintro rfl
    obtain ⟨-, hl, hh⟩ := State.address_some.mp hi
    rw [← hh, hk] at hi
    exact h.valid k locality hi
  rw [apply, State.set_of_ne hki]
  exact hk

/-- **EFFECTS KEEP HANDLES UNIQUE**, where the draws are fair. -/
theorem unique_effect (hwell : s.WellFormed) (h : Unique s.address)
    {cmd : Command b} {es : List (Edit b)}
    (he : Effect d s locality cmd draws es) (hrefused : Refused s draws)
    (honce : ∀ dcmd, cmd = .deriveContext dcmd → Once s draws) :
    Unique (applyAll s es).address := by
  cases he with
  | getProfile | getCertificateChain => exact h
  | initCtx _ _ chosen =>
      simp only [applyAll_cons, applyAll_nil, address_plant]
      refine h.update fun locality' handle' hx => ?_
      cases hx
      exact ⟨chosen.ne_invalid hrefused, fun hne j _ _ => chosen.ne_address hne j _⟩
  | rotateCtx _ resolves _ chosen =>
      exact unique_rename h (State.address_of_resolves resolves) chosen hrefused
  | destroyCtx | exportDestroyed =>
      refine h.restrict fun j => ?_
      simp only [applyAll_cons, applyAll_nil, address_prune]
      split
      · exact .inl rfl
      · exact .inr rfl
  | sign resolves _ chosen =>
      exact unique_rename h (State.address_of_resolves resolves) chosen hrefused
  | certifyKey resolves _ _ chosen =>
      exact unique_rename h (State.address_of_resolves resolves) chosen hrefused
  | @updateContextMeasurement cmd parent child _ _ handle handle' _ _ resolves
      found _ parentChosen childChosen =>
      have hparent := State.address_of_resolves resolves
      obtain ⟨hfirst, hsecond⟩ := hrefused.append
      have h1 := unique_rename h hparent parentChosen hfirst
      have hchild := (updated_child hwell resolves found handle).2
      have h2 := unique_rename h1 hchild childChosen
        (hsecond.rename h hparent handle)
      rw [address_rename hchild] at h2
      simp only [applyAll_cons, applyAll_nil]
      rw [address_measure_rename hchild]
      exact h2
  | @recursive cmd idx _ handle _ accepted _ _ _ _ chosen =>
      have hidx := State.address_of_resolves accepted.resolves
      have h1 := unique_rename h hidx chosen hrefused
      simp only [applyAll_cons, applyAll_nil]
      rw [address_measure_rename hidx, ← address_rename hidx]
      exact h1
  | child accepted _ isKept slot _ chosen =>
      exact unique_adopt h (State.address_of_resolves accepted.resolves)
        (State.getNextInactiveContextPos_some slot) isKept chosen hrefused
        (honce _ rfl)
  | exportRetired =>
      simp only [applyAll_cons, applyAll_nil, address_retire]
      exact h.update_none
  | exportRetained accepted _ _ chosen =>
      exact unique_rename h (State.address_of_resolves accepted.resolves) chosen
        hrefused

end Effects

/-! ## Runs -/

/-- The random values that a call draws lead to no clash: sixteen 0xFF
    bytes only where a slot stores them, and in DeriveContext no value
    twice that no slot stores. -/
structure Exec.Fair (x : Exec b) : Prop where
  refused : Refused x.env.state x.draws
  once : ∀ locality cmd, x.call = .command locality (.deriveContext cmd) →
    Once x.env.state x.draws

/-- One step keeps handles unique, where the draws are fair. -/
theorem Exec.Step.unique {x : Exec b} {s s' : State b} (hwell : s.WellFormed)
    (h : Unique s.address) (hstep : Exec.Step s x s') (hfair : x.Fair) :
    Unique s'.address := by
  obtain ⟨es, heffect, rfl⟩ := hstep.effect_draws hwell
  obtain ⟨rfl, -⟩ := hstep
  obtain ⟨hrefused, honce⟩ := hfair
  have hnew : ∀ {draws : List (Vector UInt8 16)} {es : List (Edit b)},
      Refused x.env.state draws →
      CallEffect x.deps x.env.state .new draws es →
      Unique (Edit.applyAll x.env.state es).address := by
    intro draws es hrefused he
    cases he with
    | newIdle | failed => exact h
    | new _ planted =>
        obtain ⟨_, -, effect⟩ := planted
        exact unique_effect hwell h effect hrefused fun _ hno => by cases hno
  generalize x.call = call at heffect honce
  generalize x.draws = draws at heffect honce hrefused
  cases heffect with
  | newIdle | failed => exact h
  | new autoInit planted => exact hnew hrefused (.new autoInit planted)
  | newAutoInit autoInit planted =>
      rw [Edit.applyAll_append]
      simp only [Edit.applyAll_cons, Edit.applyAll_nil, Edit.address_retype,
        Edit.address_measure]
      exact hnew hrefused (.new autoInit planted)
  | newUnmeasured effect => exact hnew hrefused effect
  | command effect =>
      refine unique_effect hwell h effect hrefused ?_
      rintro dcmd rfl
      exact honce _ _ rfl
  | parentRolled _ resolves _ chosen =>
      exact unique_rename h (State.address_of_resolves resolves) chosen
        hrefused.append.1

/-- **UNIQUE HANDLES**: after a run whose draws are fair, a handle other
    than the default one names one active context at most, and the
    invalid handle names none. -/
theorem unique_run {support : Support} {flags : DpeFlags}
    {xs : List (Exec b)} {s : State b}
    (hrun : Run Exec.Step (State.new b support flags) xs s)
    (hfair : ∀ x ∈ xs, x.Fair) :
    (∀ i j, (s.contexts i).state = .active → (s.contexts j).state = .active →
      (s.contexts i).handle = (s.contexts j).handle →
      (s.contexts i).handle ≠ .default → i = j) ∧
    ∀ i, (s.contexts i).state = .active → (s.contexts i).handle ≠ .newInvalid := by
  have hinv : s.WellFormed ∧ Unique s.address := by
    refine hrun.invariant (I := fun s => s.WellFormed ∧ Unique s.address) ?_ hfair
      ⟨State.wellFormed_new support flags, ?_, ?_⟩
    · rintro s x s' ⟨hwell, h⟩ hx hstep
      exact ⟨hstep.wellFormed hwell, hstep.unique hwell h hx⟩
    · intro i j locality locality' handle _ hi
      cases hi
    · intro i locality hi
      cases hi
  refine ⟨fun i j hi hj hh hne => ?_, fun i hi hh => ?_⟩
  · exact hinv.2.distinct j i _ _ _ (hh ▸ hne)
      (State.address_some.mpr ⟨hj, rfl, rfl⟩)
      (State.address_some.mpr ⟨hi, rfl, hh⟩)
  · exact hinv.2.valid i _ (State.address_some.mpr ⟨hi, rfl, hh⟩)

/-- A simulation, and a derivation from it that keeps its parent and draws
    a value for each of the two. -/
def keepingCalls : List SampleCall :=
  [sampleSimulation 1 5,
    sampleDerive 1 5 DeriveContextFlags.RETAIN_PARENT_CONTEXT 6 0 [8, 9] 44]

/-- Parent and child have handles of their own. -/
theorem unique_run_played :
    ((played keepingCalls).contexts (sampleSlot 0)).handle
        ≠ ((played keepingCalls).contexts (sampleSlot 1)).handle ∧
      ((played keepingCalls).contexts (sampleSlot 1)).handle ≠ .newInvalid := by
  have hplays : (play sampleNew keepingCalls).isSome = true := by decide +kernel
  have hplays₁ : (play sampleNew [sampleSimulation 1 5]).isSome = true := by
    decide +kernel
  have hstep₁ : Exec.Step sampleNew ((sampleSimulation 1 5).exec sampleNew)
      (played [sampleSimulation 1 5]) := @step_played [] _ hplays₁
  have hstep₂ : Exec.Step (played [sampleSimulation 1 5])
      ((sampleDerive 1 5 DeriveContextFlags.RETAIN_PARENT_CONTEXT 6 0 [8, 9]
        44).exec (played [sampleSimulation 1 5])) (played keepingCalls) :=
    @step_played [sampleSimulation 1 5] _ hplays
  have hdraws : ((sampleSimulation 1 5).exec sampleNew).draws
        = [(sampleHandle 5).bytes] ∧
      ((sampleDerive 1 5 DeriveContextFlags.RETAIN_PARENT_CONTEXT 6 0 [8, 9]
          44).exec (played [sampleSimulation 1 5])).draws
        = [(sampleHandle 8).bytes, (sampleHandle 9).bytes] := by
    decide +kernel
  have hactive : ((played keepingCalls).contexts (sampleSlot 0)).state = .active ∧
      ((played keepingCalls).contexts (sampleSlot 1)).state = .active ∧
      ((played keepingCalls).contexts (sampleSlot 0)).handle ≠ .default := by
    decide +kernel
  have hrun : Run Exec.Step sampleNew _ (played keepingCalls) :=
    .cons hstep₁ (Run.single hstep₂)
  have hunique := unique_run hrun fun x hx => by
    simp only [List.mem_cons, List.not_mem_nil, or_false] at hx
    rcases hx with rfl | rfl
    · refine ⟨fun hmem => ?_, fun _ _ hno => by cases hno⟩
      rw [hdraws.1] at hmem
      exact absurd hmem (by decide)
    · refine ⟨fun hmem => ?_, fun _ _ _ v _ => ?_⟩
      · rw [hdraws.2] at hmem
        exact absurd hmem (by decide)
      · rw [hdraws.2]
        exact List.nodup_iff_count_le_one.mp (by decide) v
  obtain ⟨hparent, hchild, hdefault⟩ := hactive
  refine ⟨fun heq => ?_, hunique.2 _ hchild⟩
  exact absurd (hunique.1 _ _ hparent hchild heq hdefault) (by decide)

/-- A derivation that draws one value for its two handles, and a
    simulation that draws the invalid handle. -/
theorem not_unique_played :
    (Reachable (played [sampleSimulation 1 5, sampleDerive 1 5
        DeriveContextFlags.RETAIN_PARENT_CONTEXT 6 0 [8, 8] 44]) ∧
      ∃ i j, i ≠ j ∧
        (played [sampleSimulation 1 5, sampleDerive 1 5
          DeriveContextFlags.RETAIN_PARENT_CONTEXT 6 0 [8, 8] 44]).address i
          = some (1, sampleHandle 8) ∧
        (played [sampleSimulation 1 5, sampleDerive 1 5
          DeriveContextFlags.RETAIN_PARENT_CONTEXT 6 0 [8, 8] 44]).address j
          = some (1, sampleHandle 8)) ∧
    Reachable (played [sampleSimulation 1 0xFF]) ∧
      ∃ i, (played [sampleSimulation 1 0xFF]).address i
        = some (1, .newInvalid) :=
  ⟨⟨reachable_played (by decide +kernel), sampleSlot 0, sampleSlot 1,
    by decide, by decide +kernel, by decide +kernel⟩,
    reachable_played (by decide +kernel), sampleSlot 0, by decide +kernel⟩

end Dpe
