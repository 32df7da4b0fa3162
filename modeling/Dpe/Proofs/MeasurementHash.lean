import Dpe.Proofs.Handles
import Dpe.Proofs.Walk

/-! # The measurement hash — what is hashed

    The transcript of the measurement hash of a context: the node data
    and the certificate permission of every context on its path, root
    first, and then the internal inputs that one of them asks for.  The
    internal inputs are answers of the platform. -/

namespace Dpe

open Forest Prog

variable {b : Build} {W : Type}

/-! ## Transcripts -/

/-- What a context adds to the transcript. -/
def Context.hashInput (c : Context b) : Bytes :=
  c.tci.asBytes ++ [if c.allowX509 then 1 else 0]

/-- What the contexts of a path add to the transcript. -/
def chainInput (chain : List (Context b)) : Bytes :=
  (chain.map Context.hashInput).flatten

variable (d : Deps b W) (dpe : DpeInstance b)

/-- What internal input info adds. -/
inductive InfoInput (support : Support) : Bool → Bytes → Prop where
  | absent : InfoInput support false []
  | present {vendorId vendorSku : UInt32}
      (hid : Returned d.platform.getVendorId vendorId)
      (hsku : Returned d.platform.getVendorSku vendorSku) :
      InfoInput support true
        ((GetProfileResp.new b dpe.profile support.bits vendorId
          vendorSku).asBytes ++ toLeBytes dpe.profile.toU32)

/-- The certificate chain of the platform, chunk by chunk up to the first
    error. -/
inductive Chunks : Nat → UInt32 → Vector UInt8 MAX_CHUNK_SIZE → Bytes →
    Prop where
  | stop {fuel : Nat} {offset : UInt32} {chunk : Vector UInt8 MAX_CHUNK_SIZE}
      {e : PlatformError}
      (h : ∃ w, (d.platform.getCertificateChain offset
        (UInt32.ofNat MAX_CHUNK_SIZE) chunk w).1 = .error e) :
      Chunks (fuel + 1) offset chunk []
  | more {fuel : Nat} {offset len : UInt32}
      {chunk chunk' : Vector UInt8 MAX_CHUNK_SIZE} {bs : Bytes}
      (h : ∃ w, (d.platform.getCertificateChain offset
        (UInt32.ofNat MAX_CHUNK_SIZE) chunk w).1 = .ok (len, chunk'))
      (hrest : Chunks fuel (offset + len) chunk' bs) :
      Chunks (fuel + 1) offset chunk (chunk'.toList.take len.toNat ++ bs)

/-- What internal input dice adds. -/
inductive DiceInput : Bool → Bytes → Prop where
  | absent : DiceInput false []
  | present {bs : Bytes}
      (h : Chunks d d.fuel 0 (.replicate MAX_CHUNK_SIZE 0) bs) :
      DiceInput true bs

/-- **THE TRANSCRIPT** of the measurement hash of a path. -/
def Transcript (support : Support) (chain : List (Context b)) (bs : Bytes) :
    Prop :=
  ∃ info dice,
    InfoInput d dpe support (chain.any (·.usesInternalInputInfo)
      && !b.disabled.internalInfo) info ∧
    DiceInput d (chain.any (·.usesInternalInputDice)
      && !b.disabled.internalDice) dice ∧
    bs = chainInput chain ++ info ++ dice

/-! ## The hash of a path -/

theorem hashNodes_result (chain : List (Context b)) (info dice : Bool)
    (env : Env b W) :
    Post (hashNodes d info dice (chain.map .ok)) env
      (fun inputs env' => env'.hashed = env.hashed ++ chainInput chain ∧
        inputs = (info || chain.any (·.usesInternalInputInfo),
          dice || chain.any (·.usesInternalInputDice)))
      (fun _ _ => True) := by
  induction chain generalizing info dice env with
  | nil => exact Post.pure (by simp [chainInput])
  | cons c chain ih =>
      show Post (updateHash d c.tci.asBytes >>= fun _ =>
        updateHash d [if c.allowX509 then 1 else 0] >>= fun _ =>
          hashNodes d (info || c.usesInternalInputInfo)
            (dice || c.usesInternalInputDice) (chain.map .ok)) env _ _
      refine Post.bind (updateHash_result d c.tci.asBytes env) ?_
      intro _ env1 h1
      refine Post.bind (updateHash_result d [if c.allowX509 then 1 else 0] env1) ?_
      intro _ env2 h2
      refine (ih _ _ env2).mono ?_ (fun _ _ h => h)
      rintro inputs env3 ⟨h3, rfl⟩
      refine ⟨?_, ?_⟩
      · rw [h3, h2, h1]
        simp [chainInput, Context.hashInput]
      · simp [Bool.or_assoc]

theorem callPlatform_result {α : Type} (f : W → Except PlatformError α × W)
    (env : Env b W) :
    Post (callPlatform f) env
      (fun a env' => Returned f a ∧ env'.hashed = env.hashed)
      (fun _ _ => True) := by
  refine ⟨?_⟩
  unfold callPlatform
  cases hf : f env.world with
  | mk r w =>
      cases r with
      | ok a => exact ⟨⟨_, _, hf⟩, rfl⟩
      | error e => trivial

theorem hashInternalInfo_result (support : Support) (info : Bool)
    (env : Env b W) :
    Post (hashInternalInfo d dpe support info) env
      (fun _ env' => ∃ bs, InfoInput d dpe support
        (info && !b.disabled.internalInfo) bs ∧ env'.hashed = env.hashed ++ bs)
      (fun _ _ => True) := by
  unfold hashInternalInfo
  cases info && !b.disabled.internalInfo with
  | false => exact Post.pure ⟨[], .absent, (List.append_nil _).symm⟩
  | true =>
      have hprofile : Post (serializeInternalInputInfo d dpe support) env
          (fun bs env' => InfoInput d dpe support true bs ∧
            env'.hashed = env.hashed) (fun _ _ => True) := by
        have hresp : Post (getProfile d dpe support) env
            (fun profile env' => InfoInput d dpe support true
              (profile.asBytes ++ toLeBytes dpe.profile.toU32) ∧
              env'.hashed = env.hashed) (fun _ _ => True) := by
          refine Post.bind (callPlatform_result _ env) ?_
          rintro vendorId env1 ⟨hid, h1⟩
          refine Post.bind (callPlatform_result _ env1) ?_
          rintro vendorSku env2 ⟨hsku, h2⟩
          exact Post.pure ⟨.present hid hsku, h2.trans h1⟩
        exact Post.bind hresp fun _ _ h => Post.pure h
      refine Post.bind hprofile ?_
      rintro bs env1 ⟨hbs, h1⟩
      refine (updateHash_result d bs env1).mono ?_ (fun _ _ h => h)
      intro _ env2 h2
      exact ⟨bs, hbs, by rw [h2, h1]⟩

theorem hashCertificateChain_result (fuel : Nat) (offset : UInt32)
    (chunk : Vector UInt8 MAX_CHUNK_SIZE) (env : Env b W) :
    Post (hashCertificateChain d fuel offset chunk) env
      (fun _ env' => ∃ bs, Chunks d fuel offset chunk bs ∧
        env'.hashed = env.hashed ++ bs)
      (fun _ _ => True) := by
  induction fuel generalizing offset chunk env with
  | zero => exact Post.throw trivial
  | succ fuel ih =>
      have htry : Post (tryPlatform (d.platform.getCertificateChain offset
          (UInt32.ofNat MAX_CHUNK_SIZE) chunk)) env
          (fun r env' => (∃ w, (d.platform.getCertificateChain offset
            (UInt32.ofNat MAX_CHUNK_SIZE) chunk w).1 = r) ∧
            env'.hashed = env.hashed) (fun _ _ => True) := ⟨⟨_, rfl⟩, rfl⟩
      refine Post.bind htry ?_
      rintro r env1 ⟨hr, h1⟩
      cases r with
      | error e => exact Post.pure ⟨[], .stop hr, by rw [h1, List.append_nil]⟩
      | ok r =>
          obtain ⟨len, chunk'⟩ := r
          refine Post.rejectIf_bind (fun _ => trivial) fun _ => ?_
          refine Post.bind (updateHash_result d _ env1) ?_
          intro _ env2 h2
          refine (ih _ _ env2).mono ?_ (fun _ _ h => h)
          rintro _ env3 ⟨bs, hbs, h3⟩
          refine ⟨_, .more hr hbs, ?_⟩
          rw [h3, h2, h1, List.append_assoc]

theorem hashInternalDice_result (dice : Bool) (env : Env b W) :
    Post (hashInternalDice d dice) env
      (fun _ env' => ∃ bs, DiceInput d (dice && !b.disabled.internalDice) bs ∧
        env'.hashed = env.hashed ++ bs)
      (fun _ _ => True) := by
  unfold hashInternalDice
  cases dice && !b.disabled.internalDice with
  | false => exact Post.pure ⟨[], .absent, (List.append_nil _).symm⟩
  | true =>
      refine (hashCertificateChain_result d _ _ _ env).mono ?_ (fun _ _ h => h)
      rintro _ env' ⟨bs, hbs, h⟩
      exact ⟨bs, .present hbs, h⟩

/-- The chain of contexts from a root down to an index. -/
def State.Chain (s : State b) (startIdx : Nat) (chain : List (Context b)) : Prop :=
  ∃ iter, RootToChildIter.new startIdx s.slice = .ok iter ∧
    iter.items = chain.map .ok

/-- What is on a chain is in a slot. -/
theorem State.Chain.mem_slot {s : State b} {startIdx : Nat} {chain : List (Context b)}
    (h : s.Chain startIdx chain) {c : Context b} (hc : c ∈ chain) :
    ∃ i, s.contexts i = c := by
  obtain ⟨iter, hiter, hitems⟩ := h
  have hmem : Except.ok c ∈ iter.items := by
    rw [hitems]
    exact List.mem_map_of_mem hc
  have hslice := RootToChildIter.mem_of_yields hmem
  rw [RootToChildIter.new_contexts hiter] at hslice
  exact List.mem_ofFn.mp hslice

/-- **WHAT IS FED** to the hasher is the transcript of a chain, in any
    state. -/
theorem computeMeasurementHash_fed (startIdx : Nat) (env : Env b W) :
    Post (computeMeasurementHash d dpe startIdx) env
      (fun digest env' => ∃ chain, env.state.Chain startIdx chain ∧
        Transcript d dpe env.state.support chain env'.hashed ∧
        Returned (d.crypto.hasherFinish env'.hashed) digest)
      (fun _ _ => True) := by
  have hstart := ((quiet_startHash d).keeps env).and (startHash_result d env)
  refine Post.bind (hstart.mono (fun _ _ h => h) (fun _ _ _ => trivial)) ?_
  rintro _ env1 ⟨hown, h1⟩
  have hstate : env1.state = env.state := congrArg (·.1) hown
  refine Post.get_bind ?_
  rw [hstate]
  refine orFail_bind (fun iter hiter => ?_) fun _ _ => trivial
  obtain ⟨chain, hchain⟩ := RootToChildIter.items_ok hiter
  rw [hchain]
  refine Post.bind (hashNodes_result d _ _ _ env1) ?_
  rintro _ env2 ⟨h2, rfl⟩
  refine Post.bind (hashInternalInfo_result d dpe _ _ env2) ?_
  rintro _ env3 ⟨info, hinfo, h3⟩
  refine Post.bind (hashInternalDice_result d _ env3) ?_
  rintro _ env4 ⟨dice, hdice, h4⟩
  refine (finishHash_result d env4).mono ?_ (fun _ _ h => h)
  rintro digest env5 ⟨hdigest, h5⟩
  refine ⟨chain, ⟨iter, hiter, hchain⟩, ⟨info, dice, ?_, ?_, ?_⟩, ?_⟩
  · simpa using hinfo
  · simpa using hdice
  · rw [h5, h4, h3, h2, h1, List.nil_append]
  · rw [h5]
    exact hdigest

variable {s : State b} {i : Fin b.maxHandles} {l : List (Fin b.maxHandles)}

/-- The chain of a live context is that of its path. -/
theorem State.Chain.eq_path (h : s.WellFormed) (hpath : Path s.up i l)
    (hlive : s.Live i) {chain : List (Context b)} (hchain : s.Chain i chain) :
    chain = s.chain l := by
  obtain ⟨it, hit, -, -, hitems⟩ := RootToChildIter.new_path h hpath hlive
  obtain ⟨iter, hiter, hchain⟩ := hchain
  rw [hit] at hiter
  cases hiter
  rw [hitems] at hchain
  exact (List.map_injective_iff.mpr (fun _ _ h => Except.ok.inj h) hchain).symm

/-- **THE MEASUREMENT HASH** of a live context is the hash of the
    transcript of its path. -/
theorem computeMeasurementHash_result (env : Env b W)
    (h : env.state.WellFormed) (hpath : Path env.state.up i l)
    (hlive : env.state.Live i) :
    Post (computeMeasurementHash d dpe i) env
      (fun digest _ => ∃ bs,
        Transcript d dpe env.state.support (env.state.chain l) bs ∧
        Returned (d.crypto.hasherFinish bs) digest)
      (fun _ _ => True) := by
  refine (computeMeasurementHash_fed d dpe i env).mono ?_ (fun _ _ h => h)
  rintro digest env' ⟨chain, hchain, hbs, hdigest⟩
  rw [hchain.eq_path h hpath hlive] at hbs
  exact ⟨_, hbs, hdigest⟩

end Dpe
