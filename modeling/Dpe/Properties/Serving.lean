import Dpe.Commands.Serve
import Dpe.Proofs.Worlds
import Dpe.Properties.Decoding
import Dpe.Properties.Responses

/-! # Serving requests — runs of the simulator

    The simulator unwraps two results of the library, so what comes in
    over its socket can end it.  It is ended exactly by the requests that
    do not hold a command; each of the others is a call of the library,
    and is answered with the bytes of the response, or with a header that
    has the status of the failure. -/

namespace Dpe

open Layout Prog Runs

variable {b : Build} {W : Type}

/-! ## Sizes of commands -/

theorem Build.tciSize_le (b : Build) : b.tciSize ≤ 48 := by
  unfold Build.tciSize
  split <;> omega

/-- No command is longer than a Sign command with raw data. -/
theorem Command.asBytes_length_le (cmd : Command b) : cmd.asBytes.length ≤ 1096 := by
  have htci := b.tciSize_le
  have hlayout : ∀ {α : Type} (l : Layout α) (a : α), l.Valid a → l.size ≤ 1096 →
      (l.toBytes a).length ≤ 1096 :=
    fun l a hvalid hsize => (l.length_toBytes a hvalid).trans_le hsize
  cases cmd with
  | getProfile cmd => exact hlayout _ _ trivial (by decide)
  | initCtx cmd => exact hlayout _ _ trivial (by decide)
  | deriveContext cmd =>
      refine hlayout _ _ (DeriveContextCmd.layout_valid cmd) ?_
      show 16 + (b.tciSize + (4 + (4 + (4 + 4)))) ≤ 1096
      omega
  | certifyKey cmd =>
      cases cmd <;> exact hlayout _ _ (CertifyKeyCmd.layout_valid _) (by decide)
  | sign cmd =>
      cases cmd with
      | p256 | p384 | mldsa87 =>
          exact hlayout _ _ (SignCommand.digestLayout_valid _) (by decide)
      | mldsa87Raw => exact hlayout _ _ (SignCommand.rawLayout_valid _) (by decide)
  | rotateCtx cmd => exact hlayout _ _ (RotateCtxCmd.layout_valid cmd) (by decide)
  | destroyCtx cmd => exact hlayout _ _ trivial (by decide)
  | getCertificateChain cmd =>
      exact hlayout _ _ (GetCertificateChainCmd.layout_valid cmd) (by decide)
  | updateContextMeasurement cmd =>
      refine hlayout _ _ (UpdateContextMeasurementCmd.layout_valid cmd) ?_
      show 16 + (b.tciSize + (4 + (4 + 4))) ≤ 1096
      omega

/-! ## Calls -/

section Calls

variable {d : Deps b W} {dpe : DpeInstance b} {locality : UInt32} {cmd : Command b}
  {env env' : Env b W} {r : Response b}

theorem Reachable.step {s s' : State b} {x : Exec b} (h : Reachable s)
    (hstep : Exec.Step s x s') : Reachable s' := by
  obtain ⟨support, flags, xs, hrun⟩ := h
  exact ⟨support, flags, xs ++ [x], hrun.append (.single hstep)⟩

theorem Reachable.run {s s' : State b} {xs : List (Exec b)} (h : Reachable s)
    (hrun : Run Exec.Step s xs s') : Reachable s' := by
  obtain ⟨support, flags, xs', hxs'⟩ := h
  exact ⟨support, flags, xs' ++ xs, hxs'.append hrun⟩

/-- The call that `execute` makes. -/
def Command.executed (d : Deps b W) (dpe : DpeInstance b) (locality : UInt32)
    (cmd : Command b) (env : Env b W) : Exec b where
  W := W
  deps := d
  dpe := dpe
  call := .command locality cmd
  env := cmd.onResponse env

/-- `execute` takes a step if it returns… -/
theorem Command.step_of_execute (hwell : env.state.WellFormed)
    (h : cmd.execute d dpe locality env = .ok r env') :
    Exec.Step env.state (cmd.executed d dpe locality env) env'.state := by
  refine ⟨rfl, Or.inl ?_⟩
  cases hrun : cmd.executeSerialized d dpe locality (cmd.onResponse env) with
  | ok n env1 =>
      obtain ⟨r', hr'⟩ := Command.execute_of_ok hwell hrun
      cases h.symm.trans hr'
      exact ⟨env1, bind_of_ok hrun, rfl⟩
  | error e env1 => cases h.symm.trans (Command.execute_of_error hrun)

/-- … and if it fails. -/
theorem Command.step_of_failed {e : DpeErrorCode} (hwell : env.state.WellFormed)
    (h : cmd.execute d dpe locality env = .error (.err e) env') :
    Exec.Step env.state (cmd.executed d dpe locality env) env'.state := by
  refine ⟨rfl, Or.inr ?_⟩
  cases hrun : cmd.executeSerialized d dpe locality (cmd.onResponse env) with
  | ok n env1 =>
      obtain ⟨r', hr'⟩ := Command.execute_of_ok hwell hrun
      cases h.symm.trans hr'
  | error e' env1 =>
      cases h.symm.trans (Command.execute_of_error hrun)
      exact ⟨e, env1, bind_of_error hrun, rfl⟩

/-- A call that fails has a status of its own. -/
theorem Command.reported_of_failed {e : DpeErrorCode} (hwell : env.state.WellFormed)
    (h : cmd.execute d dpe locality env = .error (.err e) env') : e.Reported := by
  cases hrun : cmd.executeSerialized d dpe locality (cmd.onResponse env) with
  | ok n env1 =>
      obtain ⟨r', hr'⟩ := Command.execute_of_ok hwell hrun
      cases h.symm.trans hr'
  | error e' env1 =>
      cases h.symm.trans (Command.execute_of_error hrun)
      exact ((cmd.raises_executeSerialized d dpe locality).error _ _ _ hrun).2

/-- **EVERY RESPONSE HAS BYTES**: it is a valid one of the variant of the
    command, and its bytes begin with the header of a success. -/
theorem Command.bytes_of_execute (hwell : env.state.WellFormed)
    (h : cmd.execute d dpe locality env = .ok r env') :
    ∃ a bytes, cmd.kind.layout.Valid a ∧ cmd.kind.build a = r ∧
      r.asBytesPartial = .ok bytes ∧ (dpe.responseHdr .noError).asBytes <+: bytes := by
  obtain ⟨n, env1, a, hserialized, hread, rfl⟩ := Command.execute_ok h
  have hvalid := (cmd.kind.layout.tryReadFromBytes_some hread).2.1
  obtain ⟨draws, es, bytes, heffect, hreply, hn, -, hout⟩ :=
    Command.answered_on_response hserialized hwell
  rw [hout] at hread
  cases hunsigned : cmd.unsigned with
  | true =>
      exact ⟨a, bytes, hvalid, rfl, (hreply.decodes heffect hunsigned rfl hread).encoded,
        hreply.header⟩
  | false =>
      cases cmd with
      | sign cmd =>
          refine ⟨a, _, hvalid, rfl, cmd.kind_trimmed a, ?_⟩
          rw [((Command.sign cmd).kind.layout.tryReadFromBytes_some hread).2.2]
          exact hreply.header.trans (List.prefix_append _ _)
      | getProfile | initCtx | deriveContext | certifyKey | rotateCtx | destroyCtx
      | getCertificateChain | updateContextMeasurement => cases hunsigned

end Calls

namespace Simulator

/-! ## Requests -/

/-- The stream holds a locality, and a command for an instance of the
    profile. -/
structure Requests (profile : DpeProfile) (address : Nat) (locality : UInt32)
    (cmd : Command b) (stream : Bytes) : Prop where
  accepted : cmd.Accepted profile
  aligned : address % cmd.align = 0
  encoded : ∃ hdr : CommandHdr, hdr.IsOf profile cmd ∧
    toLeBytes locality ++ (hdr.asBytes ++ cmd.asBytes) <+: stream

variable {d : Deps b W} {dpe : DpeInstance b} {address : Nat} {locality : UInt32}
  {cmd : Command b} {stream : Bytes} {env env' : Env b W}

theorem append_prefix_iff {x y l : Bytes} :
    x ++ y <+: l ↔ x <+: l ∧ y <+: l.drop x.length := by
  constructor
  · rintro ⟨tail, rfl⟩
    rw [List.append_assoc, List.drop_left]
    exact ⟨List.prefix_append _ _, List.prefix_append _ _⟩
  · rintro ⟨⟨rest, rfl⟩, h⟩
    rw [List.drop_left] at h
    exact (List.prefix_append_right_inj _).mpr h

/-- The buffer of the simulator is long enough for every command, so
    requests that are cut off still hold theirs. -/
theorem requests_iff {profile : DpeProfile} :
    Requests profile address locality cmd stream
      ↔ word32.ofBytes (stream.take BUF_SIZE) = some locality ∧
        Command.deserialize profile (address + 4) ((stream.take BUF_SIZE).drop 4)
          = .ok cmd := by
  have halign : (address + 4) % cmd.align = 0 ↔ address % cmd.align = 0 := by
    cases cmd with
    | destroyCtx => exact iff_of_true (Nat.mod_one _) (Nat.mod_one _)
    | getProfile | initCtx | deriveContext | certifyKey | sign | rotateCtx
    | getCertificateChain | updateContextMeasurement =>
        show (address + 4) % 4 = 0 ↔ address % 4 = 0
        omega
  have hfits : ∀ hdr : CommandHdr,
      toLeBytes locality ++ (hdr.asBytes ++ cmd.asBytes) <+: stream
        ↔ toLeBytes locality <+: stream.take BUF_SIZE ∧
          hdr.asBytes ++ cmd.asBytes <+: (stream.take BUF_SIZE).drop 4 := by
    intro hdr
    rw [← toLeBytes_length locality, ← append_prefix_iff, List.prefix_take_iff]
    refine (and_iff_left ?_).symm
    have hlen := cmd.asBytes_length_le
    rw [List.length_append, List.length_append]
    show 4 + (12 + cmd.asBytes.length) ≤ 4096
    omega
  rw [word32.ofBytes_iff, Command.deserialize_ok, halign]
  constructor
  · rintro ⟨haccepted, haligned, hdr, hof, hfront⟩
    obtain ⟨hword, hbytes⟩ := (hfits hdr).mp hfront
    exact ⟨⟨trivial, hword⟩, haccepted, haligned, hdr, hof, hbytes⟩
  · rintro ⟨⟨-, hword⟩, haccepted, haligned, hdr, hof, hbytes⟩
    exact ⟨haccepted, haligned, hdr, hof, (hfits hdr).mpr ⟨hword, hbytes⟩⟩

/-- What does not hold a command ends the simulator, and leaves the
    instance as it is. -/
theorem handleRequest_panics
    (h : ∀ (locality : UInt32) (cmd : Command b),
      ¬Requests dpe.profile address locality cmd stream) :
    handleRequest d dpe address stream env = .ok none env := by
  unfold handleRequest
  cases hword : word32.ofBytes (stream.take BUF_SIZE) with
  | none => rfl
  | some locality =>
      cases hdecode : (Command.deserialize dpe.profile (address + 4)
          ((stream.take BUF_SIZE).drop 4) : Except DpeErrorCode (Command b)) with
      | ok cmd => exact absurd (requests_iff.mpr ⟨hword, hdecode⟩) (h locality cmd)
      | error e =>
          simp only [DpeInstance.executeSerializedCommand, DpeInstance.deserializeCommand,
            hdecode]
          rfl

/-- What does is executed. -/
theorem handleRequest_of_requests (h : Requests dpe.profile address locality cmd stream) :
    handleRequest d dpe address stream = (do
      let resp ← attempt (cmd.execute d dpe locality)
      match resp with
      | .error e => pure (some (dpe.responseHdr e).asBytes)
      | .ok r =>
          match r.asBytesPartial with
          | .error _ => pure none
          | .ok bytes => pure (some bytes)) := by
  obtain ⟨hword, hdecode⟩ := requests_iff.mp h
  unfold handleRequest
  simp only [hword, DpeInstance.executeSerializedCommand, DpeInstance.deserializeCommand,
    hdecode, bind_assoc]
  congr 1
  funext resp
  cases resp <;> rfl

/-! ## Answers -/

/-- A command that returns is answered with its response… -/
theorem handleRequest_answers {r : Response b} {answer : Bytes}
    (h : Requests dpe.profile address locality cmd stream)
    (hrun : cmd.execute d dpe locality env = .ok r env')
    (hbytes : r.asBytesPartial = .ok answer) :
    handleRequest d dpe address stream env = .ok (some answer) env' := by
  have hattempt : attempt (cmd.execute d dpe locality) env = .ok (.ok r) env' := by
    unfold attempt
    rw [hrun]
  rw [handleRequest_of_requests h]
  refine (bind_of_ok hattempt).trans ?_
  simp only [hbytes]
  rfl

/-- … one that fails with its status… -/
theorem handleRequest_refuses {e : DpeErrorCode}
    (h : Requests dpe.profile address locality cmd stream)
    (hrun : cmd.execute d dpe locality env = .error (.err e) env') :
    handleRequest d dpe address stream env
      = .ok (some (dpe.responseHdr e).asBytes) env' := by
  have hattempt : attempt (cmd.execute d dpe locality) env = .ok (.error e) env' := by
    unfold attempt
    rw [hrun]
  rw [handleRequest_of_requests h]
  exact bind_of_ok hattempt

/-- … and one that does not return is not answered. -/
theorem handleRequest_hangs (h : Requests dpe.profile address locality cmd stream)
    (hrun : cmd.execute d dpe locality env = .error .noReturn env') :
    handleRequest d dpe address stream env = .error .noReturn env' := by
  have hattempt : attempt (cmd.execute d dpe locality) env = .error .noReturn env' := by
    unfold attempt
    rw [hrun]
  rw [handleRequest_of_requests h]
  exact bind_of_error hattempt

/-- **WHAT ENDS THE SIMULATOR** is a request that does not hold a command,
    and nothing else; the instance is not touched then. -/
theorem handleRequest_panics_iff (hreach : Reachable env.state) :
    handleRequest d dpe address stream env = .ok none env'
      ↔ env' = env ∧ ∀ (locality : UInt32) (cmd : Command b),
          ¬Requests dpe.profile address locality cmd stream := by
  constructor
  · intro h
    have hnone : ∀ (locality : UInt32) (cmd : Command b),
        ¬Requests dpe.profile address locality cmd stream := by
      intro locality cmd hrequest
      cases hrun : cmd.execute d dpe locality env with
      | ok r env1 =>
          obtain ⟨-, bytes, -, -, hbytes, -⟩ :=
            Command.bytes_of_execute hreach.wellFormed hrun
          cases h.symm.trans (handleRequest_answers hrequest hrun hbytes)
      | error e env1 =>
          cases e with
          | err e => cases h.symm.trans (handleRequest_refuses hrequest hrun)
          | noReturn => cases h.symm.trans (handleRequest_hangs hrequest hrun)
    cases h.symm.trans (handleRequest_panics hnone)
    exact ⟨rfl, hnone⟩
  · rintro ⟨rfl, hnone⟩
    exact handleRequest_panics hnone

/-- A request whose header has no magic number. -/
theorem handleRequest_panics_zeros :
    handleRequest sampleDeps sampleDpe 0 (.replicate 16 0)
      (sampleEnv (played [sampleInit 1]) [] 0)
      = .ok none (sampleEnv (played [sampleInit 1]) [] 0) := by
  have hreach : Reachable (sampleEnv (played [sampleInit 1]) [] 0).state :=
    (reachable_played (by decide +kernel) : Reachable (played [sampleInit 1]))
  refine (handleRequest_panics_iff hreach).mpr ⟨rfl, fun locality cmd h => ?_⟩
  have hdecode := (requests_iff.mp h).2
  have hmagic : CommandHdr.tryFromWithProfile .p384Sha384
      (((List.replicate 16 0).take BUF_SIZE).drop 4) = .error .invalidCommand := by decide
  unfold Command.deserialize at hdecode
  rw [show sampleDpe.profile = .p384Sha384 from rfl, hmagic] at hdecode
  cases hdecode

/-! ## Runs -/

/-- What an instance answers to a sequence of requests. -/
inductive Session (d : Deps b W) (dpe : DpeInstance b) (address : Nat) :
    Env b W → List Bytes → List Bytes → Env b W → Prop where
  | done (env : Env b W) : Session d dpe address env [] [] env
  | answered {env env1 env' : Env b W} {stream answer : Bytes}
      {streams answers : List Bytes} {locality : UInt32} {cmd : Command b}
      {r : Response b} (request : Requests dpe.profile address locality cmd stream)
      (executes : cmd.execute d dpe locality env = .ok r env1)
      (encoded : r.asBytesPartial = .ok answer)
      (rest : Session d dpe address env1 streams answers env') :
      Session d dpe address env (stream :: streams) (answer :: answers) env'
  | refused {env env1 env' : Env b W} {stream : Bytes}
      {streams answers : List Bytes} {locality : UInt32} {cmd : Command b}
      {e : DpeErrorCode} (request : Requests dpe.profile address locality cmd stream)
      (fails : cmd.execute d dpe locality env = .error (.err e) env1)
      (rest : Session d dpe address env1 streams answers env') :
      Session d dpe address env (stream :: streams)
        ((dpe.responseHdr e).asBytes :: answers) env'

variable {streams answers : List Bytes}

/-- The simulator does what is specified. -/
theorem Session.serves (h : Session d dpe address env streams answers env') :
    serve d dpe address streams env = some ⟨answers, env'⟩ := by
  induction h with
  | done => rfl
  | answered request executes encoded _ ih =>
      unfold serve
      simp only [handleRequest_answers request executes encoded, ih, Option.map_some]
  | refused request fails _ ih =>
      unfold serve
      simp only [handleRequest_refuses request fails, ih, Option.map_some]

/-- It does nothing else. -/
theorem session_of_serve (hreach : Reachable env.state)
    (h : serve d dpe address streams env = some ⟨answers, env'⟩) :
    Session d dpe address env streams answers env' := by
  induction streams generalizing env answers with
  | nil =>
      cases h
      exact .done _
  | cons stream streams ih =>
      have hstop : ∀ (locality : UInt32) (cmd : Command b),
          Requests dpe.profile address locality cmd stream →
          Session d dpe address env (stream :: streams) answers env' := by
        intro locality cmd hrequest
        unfold serve at h
        cases hrun : cmd.execute d dpe locality env with
        | ok r env1 =>
            obtain ⟨-, answer, -, -, hbytes, -⟩ :=
              Command.bytes_of_execute hreach.wellFormed hrun
            simp only [handleRequest_answers hrequest hrun hbytes] at h
            obtain ⟨⟨answers', env2⟩, hserve, heq⟩ := Option.map_eq_some_iff.mp h
            cases heq
            exact .answered hrequest hrun hbytes
              (ih (hreach.step (Command.step_of_execute hreach.wellFormed hrun)) hserve)
        | error e env1 =>
            cases e with
            | err e =>
                simp only [handleRequest_refuses hrequest hrun] at h
                obtain ⟨⟨answers', env2⟩, hserve, heq⟩ := Option.map_eq_some_iff.mp h
                cases heq
                exact .refused hrequest hrun
                  (ih (hreach.step (Command.step_of_failed hreach.wellFormed hrun)) hserve)
            | noReturn =>
                simp only [handleRequest_hangs hrequest hrun] at h
                cases h
      by_cases hrequest : ∃ (locality : UInt32) (cmd : Command b),
          Requests dpe.profile address locality cmd stream
      · obtain ⟨locality, cmd, hrequest⟩ := hrequest
        exact hstop locality cmd hrequest
      · unfold serve at h
        simp only [handleRequest_panics fun locality cmd hr => hrequest ⟨locality, cmd, hr⟩] at h
        cases h

/-- Each request is a call of the library. -/
theorem Session.run (h : Session d dpe address env streams answers env')
    (hreach : Reachable env.state) :
    ∃ xs : List (Exec b), Run Exec.Step env.state xs env'.state ∧
      List.Forall₂ (fun stream x => ∃ (locality : UInt32) (cmd : Command b),
        Requests dpe.profile address locality cmd stream ∧
        x.call = .command locality cmd) streams xs := by
  induction h with
  | done env => exact ⟨[], .nil _, .nil⟩
  | answered request executes _ _ ih =>
      have hstep := Command.step_of_execute hreach.wellFormed executes
      obtain ⟨xs, hrun, hcalls⟩ := ih (hreach.step hstep)
      exact ⟨_ :: xs, .cons hstep hrun, .cons ⟨_, _, request, rfl⟩ hcalls⟩
  | refused request fails _ ih =>
      have hstep := Command.step_of_failed hreach.wellFormed fails
      obtain ⟨xs, hrun, hcalls⟩ := ih (hreach.step hstep)
      exact ⟨_ :: xs, .cons hstep hrun, .cons ⟨_, _, request, rfl⟩ hcalls⟩

/-- **A SIMULATOR SERVES** a sequence of requests exactly if each of them
    holds a command and the call returns; the answers are the bytes of the
    responses, or the statuses of the failures, and the instance takes the
    steps of these calls, in their order. -/
theorem serve_iff_session (hreach : Reachable env.state) :
    (serve d dpe address streams env = some ⟨answers, env'⟩
      ↔ Session d dpe address env streams answers env') ∧
    (Session d dpe address env streams answers env' → ∃ xs : List (Exec b),
      Run Exec.Step env.state xs env'.state ∧
      List.Forall₂ (fun stream x => ∃ (locality : UInt32) (cmd : Command b),
        Requests dpe.profile address locality cmd stream ∧
        x.call = .command locality cmd) streams xs) :=
  ⟨⟨session_of_serve hreach, Session.serves⟩, fun h => h.run hreach⟩

/-- DestroyContext of the default handle, at locality 1. -/
def sampleRequest : Bytes :=
  toLeBytes 1 ++ ((CommandHdr.new .p384Sha384 Command.DESTROY_CONTEXT).asBytes
    ++ .replicate 16 0)

/-- It is refused the second time. -/
theorem serve_destroys_twice : ∃ answers env',
    Session sampleDeps sampleDpe 0 (sampleEnv (played [sampleInit 1]) [] 0)
      [sampleRequest, sampleRequest] answers env' ∧
    answers = [(sampleDpe.responseHdr .noError).asBytes,
      (sampleDpe.responseHdr .invalidLocality).asBytes] := by
  have hreach : Reachable (sampleEnv (played [sampleInit 1]) [] 0).state :=
    (reachable_played (by decide +kernel) : Reachable (played [sampleInit 1]))
  cases h : serve sampleDeps sampleDpe 0 [sampleRequest, sampleRequest]
      (sampleEnv (played [sampleInit 1]) [] 0) with
  | none =>
      have hsome : (serve sampleDeps sampleDpe 0 [sampleRequest, sampleRequest]
        (sampleEnv (played [sampleInit 1]) [] 0)).isSome = true := by decide +kernel
      rw [h] at hsome
      cases hsome
  | some served =>
      have hanswers : (serve sampleDeps sampleDpe 0 [sampleRequest, sampleRequest]
        (sampleEnv (played [sampleInit 1]) [] 0)).map Served.answers
        = some [(sampleDpe.responseHdr .noError).asBytes,
          (sampleDpe.responseHdr .invalidLocality).asBytes] := by decide +kernel
      rw [h] at hanswers
      exact ⟨served.answers, served.env, (serve_iff_session hreach).1.mp h,
        Option.some.inj hanswers⟩

end Simulator

end Dpe
