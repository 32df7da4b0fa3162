import Dpe.Abstract.Measured
import Dpe.Abstract.Shape
import Dpe.Lib.Records
import Dpe.Proofs.MeasurementHash
import Dpe.Properties.Recursion

/-! # Transcripts — what the measurement hash tells apart

    The transcript of a chain has no delimiters.  Its nodes are all as
    wide as each other, and the block that may follow them is no multiple
    of that width, so the bytes still say where the nodes end and what
    they are. -/

namespace Dpe

open Forest Prog

variable {b : Build} {W : Type}

/-! ## The nodes of a transcript -/

/-- What a context records of its measurements. -/
def Context.history (c : Context b) : TciNodeData b × Bool := (c.tci, c.allowX509)

/-- A context of the chain uses internal input info. -/
def usesInfo (chain : List (Context b)) : Bool := chain.any (·.usesInternalInputInfo)

/-- A context of the chain uses internal input dice. -/
def usesDice (chain : List (Context b)) : Bool := chain.any (·.usesInternalInputDice)

theorem hashInput_length (c : Context b) : c.hashInput.length = 13 + 2 * b.tciSize := by
  rw [Context.hashInput, List.length_append, TciNodeData.asBytes_length,
    List.length_singleton]
  omega

theorem hashInput_eq_iff (c c' : Context b) :
    c.hashInput = c'.hashInput ↔ c.history = c'.history := by
  constructor
  · intro h
    obtain ⟨htci, hallow⟩ := List.append_inj h
      (by rw [TciNodeData.asBytes_length, TciNodeData.asBytes_length])
    refine Prod.ext (TciNodeData.asBytes_inj htci) ?_
    show c.allowX509 = c'.allowX509
    revert hallow
    cases c.allowX509 <;> cases c'.allowX509 <;> decide
  · intro h
    obtain ⟨htci, hallow⟩ := Prod.mk.inj h
    rw [Context.hashInput, Context.hashInput, htci, hallow]

theorem map_hashInput_iff (chain chain' : List (Context b)) :
    chain.map Context.hashInput = chain'.map Context.hashInput
      ↔ chain.map Context.history = chain'.map Context.history := by
  induction chain generalizing chain' with
  | nil => cases chain' <;> simp
  | cons c chain ih =>
      cases chain' with
      | nil => simp
      | cons c' chain' =>
          rw [List.map_cons, List.map_cons, List.map_cons, List.map_cons,
            List.cons.injEq, List.cons.injEq, hashInput_eq_iff, ih]

theorem chainInput_length (chain : List (Context b)) :
    (chainInput chain).length = (13 + 2 * b.tciSize) * chain.length :=
  Records.length_flatten hashInput_length chain

/-- Nodes, and after them perhaps a block that is no multiple of their
    width. -/
theorem chainInput_append_inj {chain chain' : List (Context b)} {info info' : Bytes}
    (hinfo : info.length = 0 ∨ info.length = 36)
    (hinfo' : info'.length = 0 ∨ info'.length = 36)
    (h : chainInput chain ++ info = chainInput chain' ++ info') :
    chain.map Context.history = chain'.map Context.history ∧ info = info' := by
  have hwidth : b.tciSize = 48 ∨ b.tciSize = 32 := by
    unfold Build.tciSize
    split
    · exact .inl rfl
    · exact .inr rfl
  have hlengths := congrArg List.length h
  rw [List.length_append, List.length_append, chainInput_length,
    chainInput_length] at hlengths
  have hlen : chain.length = chain'.length := by
    rcases hwidth with hw | hw <;> rw [hw] at hlengths <;> omega
  obtain ⟨hchain, htail⟩ := List.append_inj h
    (by rw [chainInput_length, chainInput_length, hlen])
  exact ⟨(map_hashInput_iff _ _).mp
    (Records.map_eq_of_flatten_eq hashInput_length hlen hchain), htail⟩

/-! ## A platform that answers the same every time -/

/-- The vendor info and the certificate chain do not change. -/
structure Platform.Steady (p : Platform b W) : Prop where
  vendorId : ∀ w w', (p.getVendorId w).1 = (p.getVendorId w').1
  vendorSku : ∀ w w', (p.getVendorSku w).1 = (p.getVendorSku w').1
  certificateChain : ∀ offset size chunk w w',
    (p.getCertificateChain offset size chunk w).1
      = (p.getCertificateChain offset size chunk w').1

section Steady

variable {d : Deps b W} {dpe : DpeInstance b} {support : Support}

theorem Platform.Steady.returned {α : Type} {f : W → Except PlatformError α × W}
    (hsteady : ∀ w w', (f w).1 = (f w').1) {a a' : α} (h : Returned f a)
    (h' : Returned f a') : a = a' := by
  obtain ⟨w, w₁, hw⟩ := h
  obtain ⟨w', w₁', hw'⟩ := h'
  have hsame := hsteady w w'
  rw [hw, hw'] at hsame
  exact Except.ok.inj hsame

theorem InfoInput.length {info : Bool} {bs : Bytes}
    (h : InfoInput d dpe support info bs) : bs.length = if info then 36 else 0 := by
  cases h <;> rfl

theorem InfoInput.length_cases {info : Bool} {bs : Bytes}
    (h : InfoInput d dpe support info bs) : bs.length = 0 ∨ bs.length = 36 := by
  cases h with
  | absent => exact .inl rfl
  | present => exact .inr rfl

/-- The block is there or it is not. -/
theorem InfoInput.flag_unique {info info' : Bool} {bs : Bytes}
    (h : InfoInput d dpe support info bs) (h' : InfoInput d dpe support info' bs) :
    info = info' := by
  have hlength := h.length.symm.trans h'.length
  cases info <;> cases info' <;> first | rfl | cases hlength

theorem InfoInput.unique (hsteady : d.platform.Steady) {info : Bool} {bs bs' : Bytes}
    (h : InfoInput d dpe support info bs) (h' : InfoInput d dpe support info bs') :
    bs = bs' := by
  cases h with
  | absent => cases h'; rfl
  | present hid hsku =>
      cases h' with
      | present hid' hsku' =>
          rw [Platform.Steady.returned hsteady.vendorId hid hid',
            Platform.Steady.returned hsteady.vendorSku hsku hsku']

theorem Chunks.unique (hsteady : d.platform.Steady) {fuel : Nat} {offset : UInt32}
    {chunk : Vector UInt8 MAX_CHUNK_SIZE} {bs bs' : Bytes}
    (h : Chunks d fuel offset chunk bs) (h' : Chunks d fuel offset chunk bs') :
    bs = bs' := by
  induction h generalizing bs' with
  | stop he =>
      obtain ⟨w, he⟩ := he
      cases h' with
      | stop => rfl
      | more hm =>
          obtain ⟨w', hm⟩ := hm
          rw [hsteady.certificateChain _ _ _ w w', hm] at he
          cases he
  | more hm _ ih =>
      obtain ⟨w, hm⟩ := hm
      cases h' with
      | stop he =>
          obtain ⟨w', he⟩ := he
          rw [hsteady.certificateChain _ _ _ w w', he] at hm
          cases hm
      | more hm' hrest' =>
          obtain ⟨w', hm'⟩ := hm'
          rw [hsteady.certificateChain _ _ _ w w', hm'] at hm
          cases hm
          rw [ih hrest']

theorem DiceInput.unique (hsteady : d.platform.Steady) {dice : Bool} {bs bs' : Bytes}
    (h : DiceInput d dice bs) (h' : DiceInput d dice bs') : bs = bs' := by
  cases h with
  | absent => cases h'; rfl
  | present hc =>
      cases h' with
      | present hc' => exact hc.unique hsteady hc'

/-- **TRANSCRIPTS** are told apart by the nodes and by whether the info
    is in them. -/
theorem Transcript.eq_iff (hsteady : d.platform.Steady)
    {chain chain' : List (Context b)} {bs bs' : Bytes}
    (h : Transcript d dpe support chain bs) (h' : Transcript d dpe support chain' bs')
    (hdice : usesDice chain = usesDice chain') :
    bs = bs' ↔ chain.map Context.history = chain'.map Context.history ∧
      (usesInfo chain && !b.disabled.internalInfo)
        = (usesInfo chain' && !b.disabled.internalInfo) := by
  obtain ⟨info, dice, hinfo, hd, rfl⟩ := h
  obtain ⟨info', dice', hinfo', hd', rfl⟩ := h'
  rw [show chain.any (·.usesInternalInputDice) = usesDice chain from rfl, hdice] at hd
  obtain rfl := hd.unique hsteady hd'
  constructor
  · intro heq
    obtain ⟨hnodes, rfl⟩ := chainInput_append_inj hinfo.length_cases hinfo'.length_cases
      (List.append_cancel_right heq)
    exact ⟨hnodes, hinfo.flag_unique hinfo'⟩
  · rintro ⟨hnodes, huses⟩
    unfold usesInfo at huses
    rw [huses] at hinfo
    rw [hinfo.unique hsteady hinfo', chainInput, chainInput,
      (map_hashInput_iff _ _).mpr hnodes]

end Steady

/-! ## Builds without internal input info -/

/-- Internal input info is used only where it is supported. -/
def State.InfoSupported (s : State b) : Prop :=
  ∀ i, (s.contexts i).usesInternalInputInfo = true → s.support.internalInfo = true

namespace State.InfoSupported

variable {s s' : State b}

theorem alike (h : s.InfoSupported) (ha : s.Alike s') : s'.InfoSupported := by
  intro i hi
  rw [ha.support]
  exact h i ((ha.contexts i).usesInternalInputInfo ▸ hi)

open Edit in
theorem effect (hwell : s.WellFormed) (h : s.InfoSupported) {d : Deps b W} {call : Call b}
    {draws : List (Vector UInt8 16)} {es : List (Edit b)}
    (he : CallEffect d s call draws es) : (applyAll s es).InfoSupported := by
  have hrun := he.run hwell
  cases he.shape with
  | tame htame => exact h.alike (alike_of_run htame hrun)
  | @plant cmd idx handle locality _ _ _ htame =>
      cases hrun with
      | cons hstep hrun =>
          obtain ⟨-, rfl⟩ := hstep
          have hplant : ((plant idx (cmd.activeContextArgs cmd.contextType handle
              locality)).apply s).InfoSupported := by
            intro i hi
            by_cases hidx : i = idx
            · rw [hidx, plant_self] at hi
              cases hi
            · rw [plant_other hidx] at hi
              exact h i hi
          exact hplant.alike (alike_of_run htame hrun)
  | @adopt cmd locality parent child kept handle cumulative hacc hidle =>
      have hne : child ≠ parent := by
        rintro rfl
        exact State.live_of_resolves hacc.resolves hidle
      intro i hi
      show s.support.internalInfo = true
      have hi : (((Edit.adopt ..).apply s).contexts i).usesInternalInputInfo = true := hi
      by_cases hic : i = child
      · rw [hic, adopt_child hne] at hi
        have hflag : cmd.flags.usesInternalInfoInput = true := hi
        have hsupported := hacc.supported
        simp only [DeriveContextCmd.unsupported, Bool.or_eq_false_iff, hflag,
          Bool.and_true] at hsupported
        simpa using hsupported.1.1.1.1.1
      · by_cases hip : i = parent
        · rw [hip, adopt_parent] at hi
          refine h parent ?_
          cases kept <;> exact hi
        · rw [adopt_other hic hip] at hi
          exact h i hi
  | @prune marked _ _ _ _ =>
      intro i hi
      have hi : (((Edit.prune ..).apply s).contexts i).usesInternalInputInfo = true := hi
      by_cases hm : marked.hasChild b i = true
      · rw [prune_marked hm] at hi
        cases hi
      · rw [prune_other hm] at hi
        exact h i hi

end State.InfoSupported

theorem Reachable.infoSupported {s : State b} (h : Reachable s) : s.InfoSupported :=
  (h.invariant (fun _ _ _ hi => by cases hi) fun hwell hs he => hs.effect hwell he).2

/-- A build without internal input info has no context that uses it. -/
theorem Reachable.usesInfo_disabled {s : State b} (h : Reachable s)
    (hdisabled : b.disabled.internalInfo = true) (i : Fin b.maxHandles) :
    (s.contexts i).usesInternalInputInfo = false := by
  by_contra hinfo
  have hsupport := h.infoSupported i (by simpa using hinfo)
  obtain ⟨support, hs⟩ := h.preprocessed
  rw [hs] at hsupport
  have henabled := contains_and_not (by decide) hsupport
  rw [show b.disabled.internalInfo = contains b.disabled.bits _ from rfl,
    henabled] at hdisabled
  cases hdisabled

/-! ## The measurement hash -/

/-- Which contexts of a chain use internal input info can be told where
    the build has it, and where the state is reachable. -/
theorem usesInfo_enabled {s : State b}
    (h : b.disabled.internalInfo = false ∨ Reachable s) {startIdx : Nat}
    {chain : List (Context b)} (hchain : s.Chain startIdx chain) :
    (usesInfo chain && !b.disabled.internalInfo) = usesInfo chain := by
  cases hdisabled : b.disabled.internalInfo with
  | false => exact Bool.and_true _
  | true =>
      have hreach : Reachable s := h.resolve_left (by simp [hdisabled])
      have hnone : usesInfo chain = false := by
        refine List.any_eq_false.mpr fun c hc => ?_
        obtain ⟨i, rfl⟩ := hchain.mem_slot hc
        simp [hreach.usesInfo_disabled hdisabled i]
      rw [hnone]
      rfl

/-- **THE TRANSCRIPT IS INJECTIVE**: two runs of the measurement hash over
    the same platform outputs, on chains that agree on the use of
    internal input dice, feed the hasher the same bytes just when the
    chains record the same history and agree on the use of internal input
    info.  If the hash does not collide on the two transcripts, nor the
    derivation of CDIs on the two digests, then the same CDI means the same
    history. -/
theorem transcript_injective {d : Deps b W} {dpe : DpeInstance b}
    (hsteady : d.platform.Steady) {i₁ i₂ : Nat} {env₁ env₂ env₁' env₂' : Env b W}
    {digest₁ digest₂ : Digest}
    (hrun₁ : computeMeasurementHash d dpe i₁ env₁ = .ok digest₁ env₁')
    (hrun₂ : computeMeasurementHash d dpe i₂ env₂ = .ok digest₂ env₂')
    (hsupport : env₂.state.support = env₁.state.support)
    (hinfo : b.disabled.internalInfo = false ∨
      Reachable env₁.state ∧ Reachable env₂.state) :
    ∃ chain₁ chain₂, env₁.state.Chain i₁ chain₁ ∧ env₂.state.Chain i₂ chain₂ ∧
      (usesDice chain₁ = usesDice chain₂ →
        (env₁'.hashed = env₂'.hashed ↔
          chain₁.map Context.history = chain₂.map Context.history ∧
            usesInfo chain₁ = usesInfo chain₂) ∧
        ((digest₁ = digest₂ → env₁'.hashed = env₂'.hashed) →
          (∀ info cdi, Returned (d.crypto.deriveCdi digest₁ info) cdi →
            Returned (d.crypto.deriveCdi digest₂ info) cdi → digest₁ = digest₂) →
          ∀ info cdi, Returned (d.crypto.deriveCdi digest₁ info) cdi →
            Returned (d.crypto.deriveCdi digest₂ info) cdi →
            chain₁.map Context.history = chain₂.map Context.history ∧
              usesInfo chain₁ = usesInfo chain₂)) := by
  obtain ⟨chain₁, hchain₁, hbytes₁, -⟩ :=
    (computeMeasurementHash_fed d dpe i₁ env₁).of_ok hrun₁
  obtain ⟨chain₂, hchain₂, hbytes₂, -⟩ :=
    (computeMeasurementHash_fed d dpe i₂ env₂).of_ok hrun₂
  rw [hsupport] at hbytes₂
  refine ⟨chain₁, chain₂, hchain₁, hchain₂, fun hdice => ?_⟩
  have hiff := hbytes₁.eq_iff hsteady hbytes₂ hdice
  rw [usesInfo_enabled (hinfo.imp_right And.left) hchain₁,
    usesInfo_enabled (hinfo.imp_right And.right) hchain₂] at hiff
  refine ⟨hiff, ?_⟩
  intro hhash hderive info cdi hcdi₁ hcdi₂
  exact hiff.mp (hhash (hderive info cdi hcdi₁ hcdi₂))

/-- The sample platform always answers the same. -/
theorem samplePlatform_steady : samplePlatform.Steady :=
  ⟨fun _ _ => rfl, fun _ _ => rfl, fun _ _ _ _ _ => rfl⟩

/-- The environment that both hashes are computed in. -/
def transcriptEnv : Env sampleBuild (List UInt8) := sampleEnv recursiveState [] 0

/-- The two runs return different values. -/
def differs {α : Type} [DecidableEq α] (r r' : EStateM.Result Stop (Env b W) α) :
    Bool :=
  match r, r' with
  | .ok a _, .ok a' _ => a != a'
  | _, _ => false

theorem of_differs {α : Type} [DecidableEq α] {r r' : EStateM.Result Stop (Env b W) α}
    (h : differs r r' = true) :
    ∃ a a' env env', r = .ok a env ∧ r' = .ok a' env' ∧ a ≠ a' := by
  unfold differs at h
  split at h
  · exact ⟨_, _, _, _, rfl, rfl, by simpa using h⟩
  · cases h

/-- A child's transcript and CDI are not its parent's. -/
theorem transcript_injective_played : ∃ digest₁ digest₂ env₁ env₂,
    computeMeasurementHash sampleDeps sampleDpe (sampleSlot 1) transcriptEnv
      = .ok digest₁ env₁ ∧
    computeMeasurementHash sampleDeps sampleDpe (sampleSlot 2) transcriptEnv
      = .ok digest₂ env₂ ∧ env₁.hashed ≠ env₂.hashed ∧
    ∀ info cdi, Returned (sampleDeps.crypto.deriveCdi digest₁ info) cdi →
      ¬ Returned (sampleDeps.crypto.deriveCdi digest₂ info) cdi := by
  have hreach : Reachable recursiveState := reachable_played (by decide +kernel)
  have hwell := hreach.wellFormed
  have hruns : differs
      (computeMeasurementHash sampleDeps sampleDpe (sampleSlot 1) transcriptEnv)
      (computeMeasurementHash sampleDeps sampleDpe (sampleSlot 2) transcriptEnv)
        = true := by
    decide +kernel
  obtain ⟨digest₁, digest₂, env₁, env₂, hrun₁, hrun₂, hdigests⟩ := of_differs hruns
  have hstate : transcriptEnv.state = recursiveState := sampleEnv_state _ _ _
  clear hruns
  generalize transcriptEnv = env at hrun₁ hrun₂ hstate
  obtain ⟨chain₁, chain₂, hchain₁, hchain₂, hinjective⟩ := transcript_injective
    samplePlatform_steady hrun₁ hrun₂ rfl (.inl rfl)
  rw [hstate] at hchain₁ hchain₂
  have hup₁ : recursiveState.up (sampleSlot 1) = some (sampleSlot 0) := by decide +kernel
  have hup₂ : recursiveState.up (sampleSlot 2) = some (sampleSlot 1) := by decide +kernel
  have hpath : Path recursiveState.up (sampleSlot 1) [sampleSlot 1, sampleSlot 0] :=
    .step hup₁ (.root (by decide +kernel))
  obtain rfl := State.Chain.eq_path hwell hpath (by decide +kernel) hchain₁
  obtain rfl := State.Chain.eq_path hwell (.step hup₂ hpath) (by decide +kernel) hchain₂
  obtain ⟨hbytes, hcdis⟩ := hinjective (by decide +kernel)
  have hapart : ¬ ((recursiveState.chain [sampleSlot 1, sampleSlot 0]).map
        Context.history
      = (recursiveState.chain [sampleSlot 2, sampleSlot 1, sampleSlot 0]).map
        Context.history) := by
    intro hnodes
    have hlengths := congrArg List.length hnodes
    rw [List.length_map, List.length_map, State.chain, State.chain, List.length_map,
      List.length_map] at hlengths
    cases hlengths
  refine ⟨digest₁, digest₂, env₁, env₂, hrun₁, hrun₂, fun hsame => ?_, ?_⟩
  · exact hapart (hbytes.mp hsame).1
  · intro info cdi hcdi₁ hcdi₂
    refine hapart (hcdis (fun h => absurd h hdigests) ?_ info cdi hcdi₁ hcdi₂).1
    -- a CDI of the sample is its digest
    rintro _ _ ⟨_, _, h₁⟩ ⟨_, _, h₂⟩
    cases h₁
    cases h₂
    rfl

end Dpe
