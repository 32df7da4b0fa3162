import Dpe.Properties.ChainReaders
import Dpe.Properties.ExportedCdis

/-! # Termination — every command returns

    The library has three loops without a bound of their own: the walk to
    the topmost retired parent and the search below it, which end because
    the contexts of a reachable state are a forest, and the loop over the
    certificate chain of the platform, which ends if the platform runs out
    of certificates.  The default platform does, so the simulator answers
    every request that holds a command. -/

namespace Dpe

open Forest Prog

variable {b : Build} {W : Type} {d : Deps b W} {dpe : DpeInstance b}
  {env : Env b W}

/-! ## Programs that end -/

/-- The program has not been left running. -/
def Stop.Ended (e : Stop) : Prop := e ≠ .noReturn

theorem Stop.ended_err (e : DpeErrorCode) : (Stop.err e).Ended := by
  intro h
  cases h

instance : Covers Stop.Ended := ⟨fun e _ => Stop.ended_err e⟩

/-- The program returns, with a result or an error code. -/
def Ends {α : Type} (m : M b W α) (env : Env b W) : Prop :=
  Post m env (fun _ _ => True) (fun e _ => e.Ended)

theorem Ends.bind {α β : Type} {m : M b W α} {f : α → M b W β} (h : Ends m env)
    (hf : ∀ a env', Ends (f a) env') : Ends (m >>= f) env :=
  Post.bind h fun a env' _ => hf a env'

/-- A program that raises no other stop ends. -/
theorem ends_of_tame {α : Type} {m : M b W α} (h : Tame Anywhere Stop.Ended m)
    (env : Env b W) : Ends m env :=
  (h.post env).mono (fun _ _ _ => trivial) fun _ _ he => he.2

/-- **DESTRUCTION ENDS** in a well-formed state. -/
theorem ends_destroyInPlace (handle : ContextHandle) (locality : UInt32)
    (h : env.state.WellFormed) : Ends (destroyInPlace handle locality) env := by
  cases hpos : env.state.getActiveContextPos handle locality with
  | error e =>
      refine (destroyInPlace_error locality hpos).mono (fun _ _ h => h.elim) ?_
      rintro _ _ ⟨rfl, -⟩
      exact Stop.ended_err e
  | ok idx =>
      exact (destroyInPlace_spec locality h hpos).mono (fun _ _ _ => trivial)
        fun _ _ h => h.elim

theorem DestroyCtxCmd.ends_executeSerialized (cmd : DestroyCtxCmd)
    (dpe : DpeInstance b) (locality : UInt32) (h : env.state.WellFormed) :
    Ends (cmd.executeSerialized dpe locality) env := by
  have hrespond : ∀ env1 : Env b W,
      Ends (respond (dpe.responseHdr .noError).asBytes) env1 :=
    ends_of_tame (by simp)
  exact (ends_destroyInPlace cmd.handle locality h).bind fun _ => hrespond

namespace DeriveContextCmd

variable {cmd : DeriveContextCmd b} {locality : UInt32} {parent : Fin b.maxHandles}

theorem ends_settleParent (idx : Fin b.maxHandles) (tmpParent : Context b)
    (h : env.state.WellFormed) :
    Ends (cmd.settleParent idx tmpParent locality) env := by
  refine Post.get_bind (Post.ite (fun _ => ?_) fun _ => ?_)
  · exact ends_destroyInPlace _ _ h
  · exact ends_of_tame (by simp) env

/-- An export destroys a retired parent once its certificate is made, in
    the state that it started from. -/
theorem ends_deriveExported [d.Ends Stop.Ended] (tmpParent : Context b)
    (h : env.state.WellFormed)
    (hpos : env.state.getActiveContextPos cmd.handle locality = .ok parent) :
    Ends (cmd.deriveExported d dpe parent tmpParent locality) env := by
  obtain ⟨l, hpath⟩ := h.rooted parent (State.live_of_resolves hpos)
  have hkey : ∀ args digest, Tame Anywhere Stop.Ended
      (deriveCertKey d dpe args .exported digest) := by
    intro args digest
    unfold deriveCertKey
    repeat' with_reducible refine obeys_bind ?_ fun _ => ?_
    all_goals simp [show ∀ digest info, Shifts Anywhere
      (d.crypto.deriveExportedCdi digest info) from fun _ _ _ => trivial]
  refine Post.rejectIf_bind (fun _ => Stop.ended_err _) fun _ => ?_
  have hueid := (keeps_getUeid d env).and
    (ends_of_tame (obeys_getUeid d) env)
  refine Post.bind (hueid.mono (fun _ _ h => h) fun _ _ h => h.2) ?_
  rintro ueid env1 ⟨hown, -⟩
  have hstate : env1.state = env.state := congrArg (·.1) hown
  refine Post.get_bind ?_
  rw [hstate]
  have hspec : Post (createExportedDpeCert d dpe
      (cmd.exportedCertArgs dpe env.state locality ueid))
      (env1.window exportedHdrSize) _ _ :=
    createDpeCertOrCsr_spec d dpe .x509 .exported (env1.window exportedHdrSize)
      (hstate.symm ▸ h) (hstate.symm ▸ hpath) (hstate.symm ▸ hpos)
  have hends : Ends (createExportedDpeCert d dpe
      (cmd.exportedCertArgs dpe env.state locality ueid))
      (env1.window exportedHdrSize) :=
    ends_of_tame (obeys_createDpeCertOrCsr d dpe (hkey _) .x509) _
  refine Post.bind ((withOffset_spec (hspec.and hends)).mono (fun _ _ h => h) ?_) ?_
  · rintro e env2 ⟨window, ⟨-, he⟩, -⟩
    exact he
  rintro r env2 ⟨window, ⟨⟨hsettled, -⟩, -⟩, rfl⟩
  have hwindow := settled_unwindow hsettled
  have hwell : window.unwindow.state.WellFormed := by
    rw [show window.unwindow.state = env1.state from congrArg (·.1) hwindow, hstate]
    exact h
  refine (ends_settleParent parent tmpParent hwell).bind fun _ env3 => ?_
  exact Post.get_bind ((ends_of_tame (obeys_writeAt _ _ (by simp)) env3).bind
    fun _ _ => Post.pure trivial)

theorem ends_executeSerialized [d.Ends Stop.Ended] (cmd : DeriveContextCmd b)
    (dpe : DpeInstance b) (locality : UInt32) (h : env.state.WellFormed) :
    Ends (cmd.executeSerialized d dpe locality) env := by
  refine Post.get_bind ?_
  refine Post.rejectIf_bind (fun _ => Stop.ended_err _) fun _ => ?_
  refine resolve_bind locality (fun parent hpos => ?_) fun _ _ => Stop.ended_err _
  refine Post.rejectIf_bind (fun _ => Stop.ended_err _) fun _ => ?_
  refine Post.ite (fun _ => ends_of_tame (cmd.obeys_deriveRecursive d dpe _ _) env) fun _ => ?_
  refine Post.get_bind ?_
  refine Post.rejectIf_bind (fun _ => Stop.ended_err _) fun _ => ?_
  have hparent := (parentAfter_spec d env (env.state.contexts parent)).and
    (ends_of_tame (cmd.obeys_parentAfter d (env.state.contexts parent)) env)
  refine Post.bind (hparent.mono (fun _ _ h => h) fun _ _ h => h.2) ?_
  rintro tmpParent env1 ⟨⟨draws, hdrew, -⟩, -⟩
  have hstate : env1.state = env.state := hdrew.state
  refine Post.ite (fun _ => ?_) fun _ => ?_
  · exact ends_deriveExported tmpParent (hstate.symm ▸ h) (hstate.symm ▸ hpos)
  · exact ends_of_tame (cmd.obeys_deriveChild d dpe _ _ _) env1

end DeriveContextCmd

/-- **EVERY COMMAND RETURNS** in a well-formed state, with a result or an
    error code, if the loop over the certificate chain ends. -/
theorem Command.ends_executeSerialized [d.Ends Stop.Ended] (cmd : Command b)
    (dpe : DpeInstance b) (locality : UInt32) (h : env.state.WellFormed) :
    Ends (cmd.executeSerialized d dpe locality) env := by
  cases cmd with
  | destroyCtx cmd => exact cmd.ends_executeSerialized dpe locality h
  | deriveContext cmd => exact cmd.ends_executeSerialized dpe locality h
  | getProfile | initCtx | certifyKey | sign | rotateCtx | getCertificateChain
  | updateContextMeasurement =>
      refine ends_of_tame ?_ env
      refine Command.obeys_executeSerialized d dpe locality _ (fun hno => ?_) fun hno => ?_
      · cases hno
      · cases hno

/-- **EVERY CALL RETURNS** in a reachable state. -/
theorem Command.execute_ends [d.Ends Stop.Ended] {cmd : Command b} {locality : UInt32}
    {e : Stop} {env' : Env b W} (h : env.state.WellFormed)
    (hrun : cmd.execute d dpe locality env = .error e env') : e.Ended := by
  cases hserialized : cmd.executeSerialized d dpe locality (cmd.onResponse env) with
  | ok n env1 =>
      obtain ⟨r, hr⟩ := Command.execute_of_ok h hserialized
      cases hrun.symm.trans hr
  | error e1 env1 =>
      cases hrun.symm.trans (Command.execute_of_error hserialized)
      have hends : Ends (cmd.executeSerialized d dpe locality) (cmd.onResponse env) :=
        cmd.ends_executeSerialized dpe locality h
      exact hends.of_error hserialized

/-! ## The certificate chain -/

section Chain

variable {certChain : Bytes} {dead : W → Prop}

/-- **THE LOOP OVER THE CHAIN** ends: each round gets further, and behind
    the end there is an error. -/
theorem ends_hashCertificateChain (hserves : d.platform.Serves certChain dead)
    (hsmall : chainLen certChain ≤ 2 ^ 32 - 2048) {fuel : Nat} {offset : UInt32}
    (hoffset : offset.toNat ≤ chainLen certChain)
    (hfuel : (chainLen certChain - offset.toNat + 2047) / 2048 + 1 ≤ fuel)
    (out : Vector UInt8 MAX_CHUNK_SIZE) (env : Env b W) :
    Ends (hashCertificateChain d fuel offset out) env := by
  induction fuel generalizing offset out env with
  | zero => omega
  | succ fuel ih =>
      by_cases hend : chainLen certChain ≤ offset.toNat
      · have hstop : hashCertificateChain d (fuel + 1) offset out env = .ok ⟨⟩ env :=
          hashCertificateChain_stop hserves env (rule_end hend 2048)
        refine Post.intro (fun _ _ _ => trivial) fun e env' hrun => ?_
        cases hrun.symm.trans hstop
      · obtain ⟨len, chunk, hrule, hlen, -⟩ :=
          @rule_chunk certChain offset out (by omega) (by omega)
        have hnext : (offset + len).toNat = offset.toNat + len.toNat := by
          rw [UInt32.toNat_add]
          exact Nat.mod_eq_of_lt (by omega)
        have htry : Post (tryPlatform (d.platform.getCertificateChain offset
            (UInt32.ofNat MAX_CHUNK_SIZE) out)) env (fun r _ => r = .ok (len, chunk))
            (fun e _ => e.Ended) := by
          refine ⟨?_⟩
          show (d.platform.getCertificateChain offset 2048 out env.world).1 = _
          rw [hserves.answers _ _ _ _ _ hrule]
        refine Post.bind htry ?_
        rintro _ env1 rfl
        refine Post.rejectIf_bind (fun _ => Stop.ended_err _) fun _ => ?_
        refine (ends_of_tame (by simp) env1).bind fun _ env2 => ?_
        exact ih (by omega) (by omega) chunk env2

end Chain

/-! ## The simulator -/

section Software

variable {V : Type} {c : RustCrates} {algs : RustCryptoAlgs} {p : DefaultPlatform}
  {fuel : Nat}

/-- Rounds that are enough for the chain of the platform. -/
def DefaultPlatform.rounds (p : DefaultPlatform) : Nat :=
  (p.certChain.length + 2047) / 2048 + 1

/-- The default platform serves its chain by its rule, and does not panic on
    a chunk. -/
theorem DefaultPlatform.serves (c : RustCrates) (algs : RustCryptoAlgs)
    (p : DefaultPlatform) (fuel : Nat) :
    (Deps.software c algs (p.toPlatform : Platform b V) fuel).platform.Serves p.certChain
      fun _ => False where
  answers offset size out w r h := by
    show ((getCertificateChain p.certChain offset size out).getD _, _) = _
    rw [h]
    rfl
  panics offset out w h := by
    have hlen : chainLen p.certChain ≤ 2 ^ 32 - 2048 :=
      (Nat.mod_le _ _).trans p.certChain_le
    by_cases hend : chainLen p.certChain ≤ offset.toNat
    · rw [rule_end hend] at h
      cases h
    · obtain ⟨len, chunk, hrule, -⟩ :=
        @rule_chunk p.certChain offset out (by omega) (by omega)
      rw [hrule] at h
      cases h

theorem DefaultPlatform.ends (hfuel : p.rounds ≤ fuel) :
    (Deps.software c algs (p.toPlatform : Platform b V) fuel).Ends Stop.Ended := by
  have hlen : chainLen p.certChain = p.certChain.length :=
    Nat.mod_eq_of_lt (by have := p.certChain_le; unfold MAX_CHUNK_SIZE at this; omega)
  have hsmall : chainLen p.certChain ≤ 2 ^ 32 - 2048 := hlen.le.trans p.certChain_le
  have hends : ∀ env, Ends (hashCertificateChain
      (Deps.software c algs (p.toPlatform : Platform b V) fuel) fuel 0
      (.replicate MAX_CHUNK_SIZE 0)) env := by
    intro env
    refine ends_hashCertificateChain (p.serves c algs fuel) hsmall (Nat.zero_le _) ?_ _ env
    rw [hlen]
    exact hfuel
  exact ⟨fun env env' hrun => (hends env).of_error hrun⟩

end Software

namespace Simulator

variable {address : Nat} {streams : List Bytes}

/-- A simulator whose commands return serves all that hold a command. -/
theorem serve_isSome_iff [d.Ends Stop.Ended] (hreach : Reachable env.state) :
    (serve d dpe address streams env).isSome = true
      ↔ ∀ stream ∈ streams, ∃ (locality : UInt32) (cmd : Command b),
          Requests dpe.profile address locality cmd stream := by
  induction streams generalizing env with
  | nil => simp [serve]
  | cons stream streams ih =>
      rw [List.forall_mem_cons]
      by_cases hrequest : ∃ (locality : UInt32) (cmd : Command b),
          Requests dpe.profile address locality cmd stream
      · rw [and_iff_right hrequest]
        obtain ⟨locality, cmd, hrequest⟩ := hrequest
        unfold serve
        cases hrun : cmd.execute d dpe locality env with
        | ok r env1 =>
            obtain ⟨-, answer, -, -, hbytes, -⟩ :=
              Command.bytes_of_execute hreach.wellFormed hrun
            simp only [handleRequest_answers hrequest hrun hbytes, Option.isSome_map]
            exact ih (hreach.step (Command.step_of_execute hreach.wellFormed hrun))
        | error e env1 =>
            cases e with
            | err e =>
                simp only [handleRequest_refuses hrequest hrun, Option.isSome_map]
                exact ih (hreach.step (Command.step_of_failed hreach.wellFormed hrun))
            | noReturn => exact absurd rfl (Command.execute_ends hreach.wellFormed hrun)
      · constructor
        · intro hsome
          unfold serve at hsome
          simp only [handleRequest_panics fun l cmd hr => hrequest ⟨l, cmd, hr⟩] at hsome
          cases hsome
        · rintro ⟨hyes, -⟩
          exact absurd hyes hrequest

/-- **THE SIMULATOR ANSWERS EVERY REQUEST.**  Over the software crypto suite
    and the default platform it serves a sequence of requests exactly if
    each of them holds a command: no command runs for ever, whatever has
    been called before. -/
theorem serves_iff_requests {V : Type} {c : RustCrates} {algs : RustCryptoAlgs}
    {p : DefaultPlatform} {fuel : Nat} {env : Env b (RustCryptoImpl c algs × V)}
    (hfuel : p.rounds ≤ fuel) (hreach : Reachable env.state) :
    (serve (.software c algs p.toPlatform fuel) dpe address streams env).isSome = true
      ↔ ∀ stream ∈ streams, ∃ (locality : UInt32) (cmd : Command b),
          Requests dpe.profile address locality cmd stream := by
  have hends := @DefaultPlatform.ends b V c algs p fuel hfuel
  exact serve_isSome_iff hreach

/-- A platform with a chain of three chunks, the last one of them short. -/
def samplePlatform3 : DefaultPlatform where
  certChain := List.replicate 5000 0x30
  issuerName := [0x30, 0x00]
  issuerSn := [1]
  keyIdentifier := .replicate 20 2
  certChain_le := by
    rw [List.length_replicate]
    decide

/-- The default context is destroyed, and is not there the next time. -/
theorem serves_iff_requests_twice :
    (serve (.software sampleCrates sampleAlgs samplePlatform3.toPlatform 4) sampleDpe 0
      [sampleRequest, sampleRequest] sampleExportEnv).isSome = true := by
  have hfuel : samplePlatform3.rounds ≤ 4 := by
    unfold DefaultPlatform.rounds samplePlatform3
    rw [List.length_replicate]
  have hrequest : Requests sampleDpe.profile 0 1
      (.destroyCtx ⟨.default⟩ : Command sampleBuild) sampleRequest :=
    requests_iff.mpr ⟨by decide +kernel, rfl⟩
  have hreach : Reachable sampleExportEnv.state := sampleParent_reachable
  refine (serves_iff_requests hfuel hreach).mpr fun stream hstream => ?_
  rcases List.mem_cons.mp hstream with rfl | hstream
  · exact ⟨1, _, hrequest⟩
  · cases List.mem_singleton.mp hstream
    exact ⟨1, _, hrequest⟩

end Simulator

end Dpe
