import Dpe.Abstract.Measured
import Dpe.Abstract.Shape
import Dpe.Proofs.KeyUse
import Dpe.Properties.Attestation
import Dpe.Properties.Transcripts

/-! # Stability — a derived key does not move

    The key of a context depends on its path, on the node data and the
    permissions along it, and on nothing else.  No command changes any of
    this while the context lives, except by recording a measurement: not
    by rotating handles, not by retiring parents, and not by what happens
    to slots off the path. -/

namespace Dpe

open Forest Prog Runs

variable {b : Build}

/-! ## What a command records -/

namespace Edit

variable {s : State b} {i : Fin b.maxHandles}

/-- The edit replaces node data in the slot of a live context. -/
def Records : Edit b → Fin b.maxHandles → Prop
  | measure idx _ _, i => idx = i
  | retype idx _, i => idx = i
  | plant .., _ | rename .., _ | retire _, _ | adopt .., _ | prune _, _ => False

/-- A context may be replaced by one with its node data. -/
theorem tci_set {idx : Fin b.maxHandles} {c : Context b}
    (hc : idx = i → c.tci = (s.contexts i).tci) :
    ((s.set idx c).contexts i).tci = (s.contexts i).tci := by
  by_cases hi : i = idx
  · rw [hi, State.set_self]
    exact hi ▸ hc hi.symm
  · rw [State.set_of_ne hi]

/-- A tame edit that records nothing in a slot keeps its node data. -/
theorem Tame.tci {e : Edit b} (h : e.Tame) (hspared : ¬ e.Records i) :
    ((e.apply s).contexts i).tci = (s.contexts i).tci := by
  cases e with
  | rename idx handle => exact tci_set fun hidx => hidx ▸ rfl
  | measure idx => exact tci_set fun hidx => absurd hidx hspared
  | retype idx => exact tci_set fun hidx => absurd hidx hspared
  | retire idx => exact tci_set fun hidx => hidx ▸ rfl
  | plant | adopt | prune => cases h

theorem tci_run {es : List (Edit b)} {t : State b} (hrun : Run Step s es t)
    (htame : ∀ e ∈ es, e.Tame) (hspared : ∀ e ∈ es, ¬ e.Records i) :
    (t.contexts i).tci = (s.contexts i).tci := by
  have hallowed : ∀ e ∈ es, e.Tame ∧ ¬ e.Records i :=
    fun e he => ⟨htame e he, hspared e he⟩
  refine hrun.invariant (I := fun t => (t.contexts i).tci = (s.contexts i).tci) ?_
    hallowed rfl
  rintro t e t' ht ⟨htame, hspared⟩ ⟨-, rfl⟩
  exact (htame.tci hspared).trans ht

end Edit

section Effects

open Edit

variable {W : Type} {d : Deps b W} {s : State b} {locality : UInt32}
  {draws : List (Vector UInt8 16)} {es : List (Edit b)} {i : Fin b.maxHandles}

/-- A call that records nothing in the slot of a live context keeps its
    node data. -/
theorem CallEffect.tci {call : Call b} (h : s.WellFormed)
    (he : CallEffect d s call draws es) (hi : s.Live i) (hi' : (applyAll s es).Live i)
    (hspared : ∀ e ∈ es, ¬ e.Records i) :
    ((applyAll s es).contexts i).tci = (s.contexts i).tci := by
  have hrun := he.run h
  have hnew : ∀ {idx}, (s.contexts idx).state = .inactive → i ≠ idx := by
    rintro idx hidle rfl
    exact hi hidle
  cases he.shape with
  | tame htame => exact tci_run hrun htame hspared
  | @plant cmd idx handle locality es _ hidle htame =>
      cases hrun with
      | cons hstep hrun =>
          obtain ⟨-, rfl⟩ := hstep
          rw [tci_run hrun htame fun e he => hspared e (List.mem_cons_of_mem _ he),
            plant_other (hnew hidle)]
  | @adopt cmd locality parent child kept handle cumulative _ hidle =>
      show (((Edit.adopt ..).apply s).contexts i).tci = _
      by_cases hp : i = parent
      · rw [hp, adopt_parent]
        exact Context.keep_tci _ kept
      · rw [adopt_other (hnew hidle) hp]
  | @prune marked idx top _ hcut =>
      show (((Edit.prune marked).apply s).contexts i).tci = _
      rw [prune_other (prune_spared hi').1]
      rfl

/-- A command records in the slot that it measures, and in no other. -/
theorem Effect.spares {cmd : Command b} (he : Effect d s locality cmd draws es)
    (hother : ∀ m, cmd.measures s locality ≠ some (i, m)) :
    ∀ e ∈ es, ¬ e.Records i := by
  intro e hmem hrecords
  cases he with
  | getProfile | getCertificateChain => cases hmem
  | initCtx | rotateCtx | destroyCtx | sign | certifyKey | child | exportDestroyed
  | exportRetired | exportRetained =>
      cases List.mem_singleton.mp hmem
      exact hrecords
  | @updateContextMeasurement cmd parent child _ _ _ _ _ _ resolves found =>
      refine hother cmd.data ?_
      simp only [List.mem_cons, List.not_mem_nil, or_false] at hmem
      rcases hmem with rfl | rfl | rfl
      · exact hrecords.elim
      · cases hrecords
        simp only [Command.measures, resolves, Except.toOption, Option.bind_some,
          found, Option.map_some]
      · exact hrecords.elim
  | @recursive cmd idx _ _ _ accepted isRecursive =>
      refine hother cmd.data ?_
      simp only [List.mem_cons, List.not_mem_nil, or_false] at hmem
      rcases hmem with rfl | rfl
      · cases hrecords
        simp only [Command.measures, isRecursive, if_true, accepted.resolves,
          Except.toOption, Option.map_some]
      · exact hrecords.elim

/-- Whether it succeeds, or fails on the way. -/
theorem CallEffect.spares {cmd : Command b}
    (he : CallEffect d s (.command locality cmd) draws es)
    (hother : ∀ m, cmd.measures s locality ≠ some (i, m)) :
    ∀ e ∈ es, ¬ e.Records i := by
  cases he with
  | command effect => exact effect.spares hother
  | parentRolled =>
      intro e hmem hrecords
      cases List.mem_singleton.mp hmem
      exact hrecords
  | failed =>
      intro e hmem
      cases hmem

end Effects

/-! ## What stays on a path -/

/-- Along `l` the links and what is hashed are the same in both states. -/
structure Stays (l : List (Fin b.maxHandles)) (s t : State b) : Prop where
  up : ∀ j ∈ l, t.up j = s.up j
  imprint : ∀ j ∈ l, (t.contexts j).imprint = (s.contexts j).imprint
  support : t.support = s.support

section Stays

variable {s t u : State b} {i : Fin b.maxHandles} {l : List (Fin b.maxHandles)}

theorem Stays.refl (l : List (Fin b.maxHandles)) (s : State b) : Stays l s s :=
  ⟨fun _ _ => rfl, fun _ _ => rfl, rfl⟩

theorem Stays.trans (h : Stays l s t) (h' : Stays l t u) : Stays l s u where
  up := fun j hj => (h'.up j hj).trans (h.up j hj)
  imprint := fun j hj => (h'.imprint j hj).trans (h.imprint j hj)
  support := h'.support.trans h.support

theorem Stays.path (h : Stays l s t) (hpath : Path s.up i l) : Path t.up i l :=
  hpath.congr h.up

/-- What is hashed of the path stays. -/
theorem Stays.imprints (h : Stays l s t) :
    (t.chain l).map Context.imprint = (s.chain l).map Context.imprint := by
  unfold State.chain
  rw [List.map_map, List.map_map]
  refine List.map_congr_left fun j hj => ?_
  exact h.imprint j (List.mem_reverse.mp hj)

end Stays

/-- What is above a context that lives on lives on, if links stay where
    both ends do. -/
theorem State.WellFormed.lives_on {s t : State b} (hwell : s.WellFormed)
    (hwell' : t.WellFormed)
    (hup : ∀ j, s.Live j → t.Live j → t.up j = s.up j) {i : Fin b.maxHandles}
    {l : List (Fin b.maxHandles)} (hpath : Path s.up i l) (hi : s.Live i)
    (hi' : t.Live i) : ∀ j ∈ l, s.Live j ∧ t.Live j := by
  induction hpath with
  | root =>
      intro j hj
      cases List.mem_singleton.mp hj
      exact ⟨hi, hi'⟩
  | step hs _ ih =>
      intro j hj
      rcases List.mem_cons.mp hj with rfl | hj
      · exact ⟨hi, hi'⟩
      · have hs' := (hup _ hi hi').trans hs
        exact ih (hwell.wellLinked.live_parent hs) (hwell'.wellLinked.live_parent hs')
          j hj

/-! ## Runs -/

/-- The command measures slot `j`, and the node data there changes. -/
def Exec.Records (x : Exec b) (j : Fin b.maxHandles) : Prop :=
  (x.final.state.contexts j).tci ≠ (x.env.state.contexts j).tci ∧
    ∃ locality cmd m, x.call = .command locality cmd ∧
      cmd.measures x.env.state locality = some (j, m)

section Runs

variable {s s' : State b} {i : Fin b.maxHandles} {l : List (Fin b.maxHandles)}

/-- **ONE COMMAND** leaves the path of a context alone that lives on, if
    it records nothing there. -/
theorem Exec.Step.stays {x : Exec b} (hstep : Exec.Step s x s') (hwell : s.WellFormed)
    (hcommand : ∃ locality cmd, x.call = .command locality cmd)
    (hpath : Path s.up i l) (hi : s.Live i) (hi' : s'.Live i)
    (hspared : ∀ j ∈ l, ¬ x.Records j) : Stays l s s' := by
  obtain ⟨locality, cmd, hcall⟩ := hcommand
  obtain ⟨draws, es, he, hfinal⟩ := hstep.effect hwell
  have hwell' := hstep.wellFormed hwell
  have hstate : x.env.state = s := hstep.1
  have hend : x.final.state = s' := hstep.final_state
  subst hfinal
  have hlast := fun j => he.lasts (i := j) hwell
  have hlive := hwell.lives_on hwell'
    (fun j hj hj' => State.up_congr (hlast j hj hj').parentIdx) hpath hi hi'
  refine ⟨?_, ?_, he.support hwell⟩
  · intro j hj
    obtain ⟨hlj, hlj'⟩ := hlive j hj
    exact State.up_congr (hlast j hlj hlj').parentIdx
  · intro j hj
    obtain ⟨hlj, hlj'⟩ := hlive j hj
    have htci : ((Edit.applyAll s es).contexts j).tci = (s.contexts j).tci := by
      by_contra hne
      refine hne (he.tci hwell hlj hlj' ?_)
      rw [hcall] at he
      refine he.spares fun m hm => hspared j hj ⟨?_, locality, cmd, m, hcall, ?_⟩
      · rw [hend, hstate]
        exact hne
      · rw [hstate]
        exact hm
    have hsame := hlast j hlj hlj'
    unfold Context.imprint
    rw [htci, hsame.allowX509, hsame.usesInternalInputInfo,
      hsame.usesInternalInputDice]

/-- **A RUN** leaves the path of a context alone that lives throughout, if
    none of its commands records anything there. -/
theorem run_stays {xs : List (Exec b)} (hrun : Run Exec.Step s xs s')
    (hwell : s.WellFormed)
    (hcommands : ∀ x ∈ xs, ∃ locality cmd, x.call = .command locality cmd)
    (hpath : Path s.up i l) (hlive : ∀ x ∈ xs, x.env.state.Live i) (hi' : s'.Live i)
    (hspared : ∀ x ∈ xs, ∀ j ∈ l, ¬ x.Records j) : Stays l s s' := by
  induction hrun with
  | nil => exact .refl l _
  | @cons s t s' x xs hstep hrun ih =>
      have hi : s.Live i := hstep.1 ▸ hlive x (List.mem_cons_self ..)
      have ht : t.Live i := by
        cases hrun with
        | nil => exact hi'
        | cons hnext _ =>
            exact hnext.1 ▸ hlive _ (List.mem_cons_of_mem _ (List.mem_cons_self ..))
      have hfirst := hstep.stays hwell (hcommands x (List.mem_cons_self ..)) hpath hi ht
        (hspared x (List.mem_cons_self ..))
      refine hfirst.trans (ih (hstep.wellFormed hwell) ?_ (hfirst.path hpath) ?_ hi' ?_)
      · exact fun y hy => hcommands y (List.mem_cons_of_mem _ hy)
      · exact fun y hy => hlive y (List.mem_cons_of_mem _ hy)
      · exact fun y hy => hspared y (List.mem_cons_of_mem _ hy)

end Runs

/-! ## The answers of the platform -/

/-- A context of the chain asks for an internal input. -/
def asksPlatform (chain : List (Context b)) : Bool :=
  chain.any (·.usesInternalInputInfo) || chain.any (·.usesInternalInputDice)

/-- A steady platform gives chains with the same imprints the same
    answers. -/
theorem Hashed.steady {W : Type} {d : Deps b W} {dpe : DpeInstance b}
    {support : Support} {chain chain' : List (Context b)}
    {info dice info' dice' : Bytes} {digest digest' : Digest}
    (h : Hashed d dpe support chain info dice digest)
    (h' : Hashed d dpe support chain' info' dice' digest')
    (hsame : chain.map Context.imprint = chain'.map Context.imprint)
    (hsteady : asksPlatform chain = true → d.platform.Steady) :
    info = info' ∧ dice = dice' := by
  have hinfo := h.asked
  have hdice := h.read
  have hinfo' := h'.asked
  have hdice' := h'.read
  have hasksInfo : chain.any (·.usesInternalInputInfo)
      = chain'.any (·.usesInternalInputInfo) := any_of_imprints hsame fun p => p.2.2.1
  have hasksDice : chain.any (·.usesInternalInputDice)
      = chain'.any (·.usesInternalInputDice) := any_of_imprints hsame fun p => p.2.2.2
  rw [← hasksInfo] at hinfo'
  rw [← hasksDice] at hdice'
  by_cases hasks : asksPlatform chain = true
  · exact ⟨hinfo.unique (hsteady hasks) hinfo', hdice.unique (hsteady hasks) hdice'⟩
  · rw [Bool.not_eq_true] at hasks
    obtain ⟨hnoInfo, hnoDice⟩ := Bool.or_eq_false_iff.mp hasks
    rw [hnoInfo, Bool.false_and] at hinfo hinfo'
    rw [hnoDice, Bool.false_and] at hdice hdice'
    cases hinfo
    cases hinfo'
    cases hdice
    cases hdice'
    exact ⟨rfl, rfl⟩

/-! ## Keys -/

section Keys

variable {W : Type} {d : Deps b W} {dpe : DpeInstance b} {s s' : State b}
  {i : Fin b.maxHandles} {l : List (Fin b.maxHandles)}

/-- The hasher is fed the same bytes where a path stays. -/
theorem Stays.hashed {env env₁ env' env₁' : Env b W} {digest digest' : Digest}
    (h : Stays l env.state env'.state) (hwell : env.state.WellFormed)
    (hwell' : env'.state.WellFormed) (hpath : Path env.state.up i l)
    (hi : env.state.Live i) (hi' : env'.state.Live i)
    (hsteady : asksPlatform (env.state.chain l) = true → d.platform.Steady)
    (hrun : computeMeasurementHash d dpe i env = .ok digest env₁)
    (hrun' : computeMeasurementHash d dpe i env' = .ok digest' env₁') :
    env₁'.hashed = env₁.hashed := by
  obtain ⟨chain, hchain, htranscript, hdigest⟩ :=
    (computeMeasurementHash_fed d dpe i env).of_ok hrun
  obtain ⟨chain', hchain', htranscript', hdigest'⟩ :=
    (computeMeasurementHash_fed d dpe i env').of_ok hrun'
  cases hchain.eq_path hwell hpath hi
  cases hchain'.eq_path hwell' (h.path hpath) hi'
  obtain ⟨info, dice, hinfo, hdice, hbs⟩ := htranscript
  obtain ⟨info', dice', hinfo', hdice', hbs'⟩ := htranscript'
  rw [h.support] at hinfo'
  have hhashed : Hashed d dpe env.state.support (env.state.chain l) info dice digest :=
    ⟨hinfo, hdice, hbs ▸ hdigest⟩
  have hhashed' : Hashed d dpe env.state.support (env'.state.chain l) info' dice'
      digest' := ⟨hinfo', hdice', hbs' ▸ hdigest'⟩
  obtain ⟨rfl, rfl⟩ := hhashed.steady hhashed' h.imprints.symm hsteady
  rw [hbs, hbs', chainInput_congr h.imprints]

/-- Commands use one key pair where a path stays. -/
theorem Stays.keyed {env env₁ env' env₁' : Env b W} {n n' : Nat}
    {cmd cmd' : Command b} {handle handle' : ContextHandle} {label : Bytes}
    {locality locality' : UInt32}
    (h : Stays l env.state env'.state) (hwell : env.state.WellFormed)
    (hwell' : env'.state.WellFormed) (hpath : Path env.state.up i l)
    (hcrypto : d.crypto.Deterministic)
    (hsteady : asksPlatform (env.state.chain l) = true → d.platform.Steady)
    (hkeyed : cmd.keyed = some (handle, label))
    (hkeyed' : cmd'.keyed = some (handle', label))
    (hidx : env.state.getActiveContextPos handle locality = .ok i)
    (hidx' : env'.state.getActiveContextPos handle' locality' = .ok i)
    (hrun : cmd.executeSerialized d dpe locality env = .ok n env₁)
    (hrun' : cmd'.executeSerialized d dpe locality' env' = .ok n' env₁') :
    ∃ info dice digest signer,
      KeyOf d dpe env.state i l label info dice digest signer ∧
      KeyUse d dpe locality env n env₁ cmd i digest signer ∧
      KeyUse d dpe locality' env' n' env₁' cmd' i digest signer := by
  obtain ⟨idx, l₁, info, dice, digest, signer, hres, huse, hkey⟩ :=
    Command.keyUse hcrypto hrun hwell hkeyed
  obtain ⟨idx', l₁', info', dice', digest', signer', hres', huse', hkey'⟩ :=
    Command.keyUse hcrypto hrun' hwell' hkeyed'
  cases hidx.symm.trans hres
  cases hidx'.symm.trans hres'
  cases hpath.unique hkey.path
  cases (h.path hpath).unique hkey'.path
  have hhashed' := hkey'.hashed
  rw [h.support] at hhashed'
  obtain ⟨rfl, rfl⟩ := hkey.hashed.steady hhashed' h.imprints.symm hsteady
  obtain ⟨rfl, rfl⟩ := hkey.unique hcrypto hkey' h.imprints.symm
  exact ⟨info, dice, digest, signer, hkey, huse, huse'⟩

/-- **DERIVED KEYS ARE STABLE.**  Across a run of commands in which a
    context lives, and which records nothing into it or above it, the hash
    of the context is fed the same bytes, and Sign and CertifyKey use the
    same key pair for a label, by whichever handle the context is named. -/
theorem keys_stable (hreach : Reachable s) {xs : List (Exec b)}
    (hrun : Run Exec.Step s xs s')
    (hcommands : ∀ x ∈ xs, ∃ locality cmd, x.call = .command locality cmd)
    (hi : s.Live i) (hlive : ∀ x ∈ xs, x.env.state.Live i) (hi' : s'.Live i)
    (hspared : ∀ x ∈ xs, ∀ j, Subtree s.up j i → ¬ x.Records j) :
    ∃ l, Path s.up i l ∧
      ((asksPlatform (s.chain l) = true → d.platform.Steady) →
        ∀ {env env₁ env' env₁' : Env b W}, env.state = s → env'.state = s' →
          (∀ {digest digest'},
            computeMeasurementHash d dpe i env = .ok digest env₁ →
            computeMeasurementHash d dpe i env' = .ok digest' env₁' →
            env₁'.hashed = env₁.hashed) ∧
          (d.crypto.Deterministic →
            ∀ {cmd cmd' handle handle' label locality locality' n n'},
            cmd.keyed = some (handle, label) → cmd'.keyed = some (handle', label) →
            s.getActiveContextPos handle locality = .ok i →
            s'.getActiveContextPos handle' locality' = .ok i →
            cmd.executeSerialized d dpe locality env = .ok n env₁ →
            cmd'.executeSerialized d dpe locality' env' = .ok n' env₁' →
            ∃ info dice digest signer,
              KeyOf d dpe s i l label info dice digest signer ∧
              KeyUse d dpe locality env n env₁ cmd i digest signer ∧
              KeyUse d dpe locality' env' n' env₁' cmd' i digest signer)) := by
  have hwell := hreach.wellFormed
  obtain ⟨l, hpath⟩ := hwell.rooted i hi
  have hwell' : s'.WellFormed :=
    hrun.invariant_all (fun _ _ _ hs hstep => hstep.wellFormed hs) hwell
  have hstays := run_stays hrun hwell hcommands hpath hlive hi'
    fun x hx j hj => hspared x hx j (hpath.mem_iff.mp hj)
  refine ⟨l, hpath, ?_⟩
  rintro hsteady env env₁ env' env₁' rfl rfl
  refine ⟨?_, ?_⟩
  · intro digest digest'
    exact hstays.hashed hwell hwell' hpath hi hi' hsteady
  · intro hcrypto cmd cmd' handle handle' label locality locality' n n' hkeyed hkeyed'
    exact hstays.keyed hwell hwell' hpath hcrypto hsteady hkeyed hkeyed'

end Keys

/-! ## A simulation on the side -/

/-- The state with the child, and a simulation context planted on the side. -/
def sampleAside : State sampleBuild :=
  played ([sampleInit 1, sampleSvn 128] ++ [sampleSimulation 2 5])

def sampleSign : Command sampleBuild :=
  .sign (.p384 .default (.replicate 48 0) 0 (.replicate 48 0))

/-- A signature of the child. -/
def sampleSigned (s : State sampleBuild) :
    EStateM.Result Stop (Env sampleBuild (List UInt8)) Nat :=
  sampleSign.executeSerialized sampleDeps sampleDpe 1 (sampleEnv s [] 124)

/-- The key of a child is the same behind a command on the side. -/
theorem keys_stable_sample : ∃ digest signer,
    KeyUse sampleDeps sampleDpe 1 (sampleEnv sampleChain [] 124) 124
      (ending (sampleSigned sampleChain)) sampleSign (sampleSlot 1) digest signer ∧
    KeyUse sampleDeps sampleDpe 1 (sampleEnv sampleAside [] 124) 124
      (ending (sampleSigned sampleAside)) sampleSign (sampleSlot 1) digest signer := by
  have hplays : (play sampleNew ([sampleInit 1, sampleSvn 128]
      ++ [sampleSimulation 2 5])).isSome = true := by
    decide +kernel
  have hstep : Exec.Step sampleChain ((sampleSimulation 2 5).exec sampleChain)
      sampleAside := step_played hplays
  have hsigned : sampleSigned sampleChain
      = .ok 124 (ending (sampleSigned sampleChain)) := by
    refine ending_of_returns ?_
    decide +kernel
  have hsigned' : sampleSigned sampleAside
      = .ok 124 (ending (sampleSigned sampleAside)) := by
    refine ending_of_returns ?_
    decide +kernel
  have hlive : sampleChain.Live (sampleSlot 1) := by
    unfold State.Live
    decide +kernel
  have hlive' : sampleAside.Live (sampleSlot 1) := by
    unfold State.Live
    decide +kernel
  have hpos : sampleChain.getActiveContextPos .default 1 = .ok (sampleSlot 1) := by
    decide +kernel
  have hpos' : sampleAside.getActiveContextPos .default 1 = .ok (sampleSlot 1) := by
    decide +kernel
  have hstate : (sampleEnv sampleChain [] 124).state = sampleChain := sampleEnv_state ..
  have hstate' : (sampleEnv sampleAside [] 124).state = sampleAside := sampleEnv_state ..
  have hsteady : sampleDeps.platform.Steady := samplePlatform_steady
  obtain ⟨l, -, hstable⟩ := keys_stable sampleChain_reachable (Run.single hstep)
    (fun x hx => ⟨2, .initCtx .newSimulation, by rw [List.mem_singleton.mp hx]; rfl⟩)
    hlive (fun x hx => by rw [List.mem_singleton.mp hx]; exact hlive) hlive'
    (by
      rintro x hx j - ⟨-, locality, cmd, m, hcall, hmeasures⟩
      rw [List.mem_singleton.mp hx] at hcall
      cases hcall
      cases hmeasures)
  obtain ⟨-, hkeyed⟩ := hstable (fun _ => hsteady) hstate hstate'
  obtain ⟨info, dice, digest, signer, -, huse, huse'⟩ :=
    hkeyed sampleCrypto_deterministic rfl rfl hpos hpos' hsigned hsigned'
  exact ⟨digest, signer, huse, huse'⟩

end Dpe
