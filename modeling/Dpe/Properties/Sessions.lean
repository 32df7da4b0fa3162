import Dpe.Properties.Remote

/-! # Sessions — clients that connect, and what they call

    A client is connected by asking the instance for its profile.  Any
    number of clients, at any localities, then call their methods in any
    order: it is as if the library were called in that order, for one
    command after the other where a client reads the certificate chain,
    and for none where it refuses its arguments. -/

namespace Dpe

open Layout Prog Runs

variable {b : Build} {W : Type}

namespace Client

section Connecting

variable {d : Deps b W} {dpe : DpeInstance b} {address : Nat} {locality : UInt32}
  {env env' : Env b W}

/-! ## Connecting -/

/-- The connection that a response to GetProfile leads to. -/
def connection (dpe : DpeInstance b) (res : Dpe.GetProfileResp) : DPEABI where
  params := paramsOf dpe.profile
  codes := getProfileInfoV09
  profile := dpe.profile.toU32
  majorVersion := res.majorVersion
  minorVersion := res.minorVersion
  vendorId := res.vendorId
  vendorSku := res.vendorSku
  maxTciNodes := 0
  flags := res.flags

theorem connected_connection (dpe : DpeInstance b) (res : Dpe.GetProfileResp) :
    Connected (connection dpe res) dpe := ⟨rfl, rfl, rfl⟩

/-- GetProfile returns what the instance is, and changes nothing. -/
theorem execute_getProfile {r : Response b} (hwell : env.state.WellFormed)
    (h : Command.execute d dpe locality (.getProfile ⟨⟩) env = .ok r env') :
    (∃ vendorId vendorSku, r = .getProfile
      (.new b dpe.profile env.state.support.bits vendorId vendorSku)) ∧
    env'.state = env.state := by
  cases hrun : Command.executeSerialized d dpe locality (.getProfile ⟨⟩)
      (Command.onResponse (.getProfile ⟨⟩) env) with
  | error e env1 => cases h.symm.trans (Command.execute_of_error hrun)
  | ok n env1 =>
      obtain ⟨draws, es, bytes, heffect, hdid, hreply, hanswered⟩ :=
        (Command.executeSerialized_spec d dpe locality (.getProfile ⟨⟩)
          (Command.onResponse (.getProfile ⟨⟩) env) hwell).of_ok hrun
      obtain ⟨_, _, a, hrun', hread, rfl⟩ := Command.execute_ok h
      cases hrun.symm.trans hrun'
      obtain ⟨r', hr'⟩ := Command.execute_of_ok hwell hrun
      cases h.symm.trans hr'
      have hout := hanswered.zeros
      cases hreply with
      | @getProfile _ vendorId vendorSku =>
          obtain ⟨-, hvalid, hbytes⟩ := (GetProfileResp.layout b).tryReadFromBytes_some hread
          have hnew : a = .new b dpe.profile env.state.support.bits vendorId vendorSku := by
            refine (GetProfileResp.layout b).toBytes_inj hvalid
              ⟨dpe.responseHdr_valid .noError, trivial, trivial, trivial, trivial, trivial,
                trivial⟩ ?_
            rw [hbytes, hout, GetProfileResp.toBytes_layout]
            exact List.append_nil _
          exact ⟨⟨vendorId, vendorSku, congrArg Response.getProfile hnew⟩, hdid.state⟩

/-- The client gets the profile if the instance returns it… -/
theorem getProfile_of_execute {res : Dpe.GetProfileResp} (haligned : address % 4 = 0)
    (hreach : Reachable env.state) (h : Command.execute d dpe locality (.getProfile ⟨⟩) env
      = .ok (.getProfile res) env') :
    Client.getProfile (sendCmd d dpe address locality) env = .ok (.ok {
      profile := res.respHdr.profile.toU32
      majorVersion := res.majorVersion
      minorVersion := res.minorVersion
      vendorId := res.vendorId
      vendorSku := res.vendorSku
      maxTciNodes := res.maxTciNodes
      flags := res.flags }) env' := by
  have hcall := getProfile_received d dpe DPEABI256 locality haligned hreach
  rw [received_ok h] at hcall
  obtain ⟨r, env1, hget, hmap⟩ := run_bind hcall
  cases r with
  | error e => cases hmap
  | ok resp =>
      cases hmap
      exact hget

/-- … and not if it fails. -/
theorem execute_of_getProfile {resp : GetProfileResp} (haligned : address % 4 = 0)
    (hreach : Reachable env.state)
    (h : Client.getProfile (sendCmd d dpe address locality) env = .ok (.ok resp) env') :
    ∃ res, Command.execute d dpe locality (.getProfile ⟨⟩) env
      = .ok (.getProfile res) env' := by
  have hcall := getProfile_received d dpe DPEABI256 locality haligned hreach
  rw [bind_of_ok h] at hcall
  cases hrun : Command.execute d dpe locality (.getProfile ⟨⟩) env with
  | ok r env1 =>
      obtain ⟨⟨vendorId, vendorSku, rfl⟩, -⟩ := execute_getProfile hreach.wellFormed hrun
      rw [received_ok hrun] at hcall
      cases hcall
      exact ⟨_, rfl⟩
  | error e env1 =>
      cases e with
      | err e =>
          rw [received_failed hrun] at hcall
          cases hcall
      | noReturn =>
          rw [received_hangs hrun] at hcall
          cases hcall

/-- **A CLIENT IS MADE** exactly if its type parameters are those of the
    profile, and GetProfile returns. -/
theorem newDPEABI_connects {params : Params} {c : DPEABI} (haligned : address % 4 = 0)
    (hreach : Reachable env.state) :
    newDPEABI params (sendCmd d dpe address locality) env = .ok (.ok c) env'
      ↔ dpeProfileImplementsTypeConstraints params dpe.profile.toU32 = .ok () ∧
        ∃ res, Command.execute d dpe locality (.getProfile ⟨⟩) env
          = .ok (.getProfile res) env' ∧
          c = { connection dpe res with params := params } := by
  have hnew : ∀ {res : Dpe.GetProfileResp} {env1 : Env b W},
      Command.execute d dpe locality (.getProfile ⟨⟩) env = .ok (.getProfile res) env1 →
      newDPEABI params (sendCmd d dpe address locality) env
        = .ok ((dpeProfileImplementsTypeConstraints params dpe.profile.toU32).map
            fun _ => { connection dpe res with params := params }) env1 := by
    intro res env1 hrun
    have hget := getProfile_of_execute haligned hreach hrun
    obtain ⟨⟨vendorId, vendorSku, hres⟩, -⟩ := execute_getProfile hreach.wellFormed hrun
    cases hres
    unfold newDPEABI
    refine (bind_of_ok hget).trans ?_
    dsimp only [Dpe.GetProfileResp.new]
    cases dpeProfileImplementsTypeConstraints params dpe.profile.toU32 <;> rfl
  constructor
  · intro h
    obtain ⟨rsp, env1, hget, hrest⟩ := run_bind h
    cases rsp with
    | error e => cases hrest
    | ok resp =>
        obtain ⟨res, hrun⟩ := execute_of_getProfile haligned hreach hget
        have hsome := h.symm.trans (hnew hrun)
        cases himplements : dpeProfileImplementsTypeConstraints params dpe.profile.toU32 with
        | error e =>
            rw [himplements] at hsome
            cases hsome
        | ok =>
            rw [himplements] at hsome
            cases hsome
            exact ⟨rfl, res, hrun, rfl⟩
  · rintro ⟨himplements, res, hrun, rfl⟩
    rw [hnew hrun, himplements]
    rfl

/-- The type parameters of a profile are those of no other. -/
theorem implements_paramsOf (p q : DpeProfile) :
    dpeProfileImplementsTypeConstraints (paramsOf p) q.toU32 = .ok () ↔ p = q := by
  cases p <;> cases q <;>
    simp [dpeProfileImplementsTypeConstraints, paramsOf, DPEABI256, DPEABI384,
      DPEABIMldsa87, DpeProfile.toU32, ProfileP256SHA256, ProfileP384SHA384,
      ProfileMldsa87]

/-- Nor do instances have one of the profiles with short certificates. -/
theorem not_implements_min (q : DpeProfile) :
    dpeProfileImplementsTypeConstraints DPEABI256Min q.toU32 ≠ .ok () ∧
      dpeProfileImplementsTypeConstraints DPEABI384Min q.toU32 ≠ .ok () := by
  cases q <;>
    simp [dpeProfileImplementsTypeConstraints, DPEABI256Min, DPEABI384Min,
      DpeProfile.toU32, ProfileMinP256SHA256, ProfileMinP384SHA384]

/-- `newClient` chooses the type parameters of the profile that it is
    asked for. -/
theorem newClient_toU32 (t : Transport b W) (p : DpeProfile) :
    newClient t p.toU32 = newDPEABI (paramsOf p) t := by
  cases p <;> rfl

theorem newClient_iff {p : UInt32} {c : DPEABI} (haligned : address % 4 = 0)
    (hreach : Reachable env.state) :
    newClient (sendCmd d dpe address locality) p env = .ok (.ok c) env'
      ↔ p = dpe.profile.toU32 ∧
        ∃ res, Command.execute d dpe locality (.getProfile ⟨⟩) env
          = .ok (.getProfile res) env' ∧ c = connection dpe res := by
  constructor
  · intro h
    have hparams : ∃ q : DpeProfile, p = q.toU32 := by
      unfold newClient at h
      split at h
      · exact absurd ((newDPEABI_connects haligned hreach).mp h).1
          (not_implements_min dpe.profile).1
      split at h
      · exact absurd ((newDPEABI_connects haligned hreach).mp h).1
          (not_implements_min dpe.profile).2
      split at h
      · exact ⟨.p256Sha256, ‹_›⟩
      split at h
      · exact ⟨.p384Sha384, ‹_›⟩
      split at h
      · exact ⟨.mldsa87, ‹_›⟩
      cases h
    obtain ⟨q, rfl⟩ := hparams
    rw [newClient_toU32] at h
    obtain ⟨himplements, res, hrun, rfl⟩ := (newDPEABI_connects haligned hreach).mp h
    obtain rfl := (implements_paramsOf q dpe.profile).mp himplements
    exact ⟨rfl, res, hrun, rfl⟩
  · rintro ⟨rfl, res, hrun, rfl⟩
    rw [newClient_toU32, newDPEABI_connects haligned hreach]
    exact ⟨(implements_paramsOf _ _).mpr rfl, res, hrun, rfl⟩

/-- **A CLIENT CONNECTS** to an instance exactly if it is asked for the
    profile of the instance and GetProfile returns; it has then taken the
    command codes and the type parameters that the instance needs, and
    the instance is as it was. -/
theorem client_connects {p : UInt32} {c : DPEABI} (haligned : address % 4 = 0)
    (hreach : Reachable env.state) :
    (newClient (sendCmd d dpe address locality) p env = .ok (.ok c) env'
      ↔ p = dpe.profile.toU32 ∧
        ∃ res, Command.execute d dpe locality (.getProfile ⟨⟩) env
          = .ok (.getProfile res) env' ∧ c = connection dpe res) ∧
    (newClient (sendCmd d dpe address locality) p env = .ok (.ok c) env' →
      Connected c dpe ∧ env'.state = env.state) := by
  refine ⟨newClient_iff haligned hreach, fun h => ?_⟩
  obtain ⟨-, res, hrun, rfl⟩ := (newClient_iff haligned hreach).mp h
  exact ⟨connected_connection dpe res, (execute_getProfile hreach.wellFormed hrun).2⟩

/-- A client for P-384, at locality 1. -/
theorem client_connects_p384 : ∃ c env',
    newClient (sendCmd sampleDeps sampleDpe 0 1) ProfileP384SHA384
      (sampleEnv (played [sampleInit 1]) [] 0) = .ok (.ok c) env' ∧
    Connected c sampleDpe := by
  have hreach : Reachable (sampleEnv (played [sampleInit 1]) [] 0).state :=
    (reachable_played (by decide +kernel) : Reachable (played [sampleInit 1]))
  have hrun : ∃ r env', Command.execute sampleDeps sampleDpe 1 (.getProfile ⟨⟩)
      (sampleEnv (played [sampleInit 1]) [] 0) = .ok r env' :=
    ⟨_, _, eq_outcome (by decide +kernel)⟩
  obtain ⟨r, env', hrun⟩ := hrun
  obtain ⟨⟨_, _, rfl⟩, -⟩ := execute_getProfile hreach.wellFormed hrun
  have hnew := (client_connects (p := ProfileP384SHA384) (Nat.zero_mod 4) hreach).1.mpr
    ⟨rfl, _, hrun, rfl⟩
  exact ⟨_, env', hnew, ((client_connects (Nat.zero_mod 4) hreach).2 hnew).1⟩

end Connecting

/-! ## Calling -/

/-- What a request stands for. -/
inductive Task (b : Build) where
  | command (cmd : Command b)
  /-- the chain is read in chunks, one command after the other -/
  | certificateChain
  /-- the client refuses the arguments, and sends nothing -/
  | refused (e : CallError)

/-- Why a client of the profile refuses the arguments of a request. -/
def Request.refusal (p : DpeProfile) : Request → Option CallError
  | certifyKey _ label _ _ =>
      if label.length ≠ (paramsOf p).digest.digestLen then some .invalidLabelLength
      else none
  | deriveContext _ inputData _ _ _ | updateContextMeasurement _ inputData _ =>
      if inputData.length ≠ (paramsOf p).digest.digestLen then
        some .invalidDigestLength
      else none
  | sign _ label _ toBeSigned =>
      if label.length ≠ (paramsOf p).digest.digestLen then some .invalidLabelLength
      else if toBeSigned.length ≠ (paramsOf p).signData.digestLen then
        some .invalidToBeSignedLength
      else none
  | signRaw _ label rawData =>
      if p ≠ .mldsa87 then some .signRawNotImplemented
      else if label.length ≠ (paramsOf p).digest.digestLen then
        some .invalidLabelLength
      else if SignRawMaxSize < rawData.length then some .rawDataTooLarge
      else none
  | initializeContext _ | getProfile | getCertificateChain | destroyContext _
  | rotateContextHandle _ _ => none

/-- **THE TASK OF A REQUEST**, for a client of the profile. -/
inductive Request.StandsFor (p : DpeProfile) : Request → Task b → Prop where
  | command {req : Request} {cmd : Command b} (h : req.Means p cmd) :
      StandsFor p req (.command cmd)
  | certificateChain : StandsFor p .getCertificateChain .certificateChain
  | refused {req : Request} {e : CallError} (h : req.refusal p = some e) :
      StandsFor p req (.refused e)

/-- The build has what the clients of the profile can ask for: its TCIs
    are as long as their digests, and handles can be rotated. -/
structure Build.Serves (b : Build) (p : DpeProfile) : Prop where
  tciSize : b.tciSize = p.tciSize
  rotates : b.disabled.rotateContext = false

/-- The request is no `Sign` of ML-DSA with the flag of `SignRaw`. -/
def Request.Unmixed (p : DpeProfile) : Request → Prop
  | sign _ _ flags _ => p = .mldsa87 → contains flags SignCommand.IS_RAW = false
  | _ => True

theorem exists_toList {n : Nat} {l : Bytes} (h : l.length = n) :
    ∃ v : Vector UInt8 n, v.toList = l := by
  subst h
  exact ⟨⟨l.toArray, rfl⟩, rfl⟩

theorem digestLen_paramsOf (p : DpeProfile) :
    (paramsOf p).digest.digestLen = p.tciSize := by
  cases p <;> rfl

/-- **EVERY REQUEST** stands for a task, where the build serves the
    clients of the profile. -/
theorem Request.stands {p : DpeProfile} (hserves : Build.Serves b p) (req : Request)
    (hunmixed : req.Unmixed p) : ∃ task : Task b, req.StandsFor p task := by
  cases hrefusal : req.refusal p with
  | some e => exact ⟨_, .refused hrefusal⟩
  | none =>
      cases req with
      | initializeContext flags => exact ⟨_, .command (.initializeContext flags)⟩
      | getProfile => exact ⟨_, .command .getProfile⟩
      | getCertificateChain => exact ⟨_, .certificateChain⟩
      | destroyContext handle => exact ⟨_, .command (.destroyContext handle)⟩
      | rotateContextHandle handle flags =>
          exact ⟨_, .command (.rotateContextHandle ⟨handle, flags⟩ hserves.rotates)⟩
      | certifyKey handle label format flags =>
          dsimp only [refusal] at hrefusal
          split_ifs at hrefusal with hlabel
          replace hlabel := not_not.mp hlabel
          cases p with
          | p256Sha256 =>
              obtain ⟨label, rfl⟩ := exists_toList hlabel
              exact ⟨_, .command (.certifyKeyP256 rfl ⟨handle, flags, format, label⟩)⟩
          | p384Sha384 =>
              obtain ⟨label, rfl⟩ := exists_toList hlabel
              exact ⟨_, .command (.certifyKeyP384 rfl ⟨handle, flags, format, label⟩)⟩
          | mldsa87 =>
              obtain ⟨label, rfl⟩ := exists_toList hlabel
              exact ⟨_, .command (.certifyKeyMldsa87 rfl ⟨handle, flags, format, label⟩)⟩
      | deriveContext handle inputData flags tciType targetLocality =>
          dsimp only [refusal] at hrefusal
          split_ifs at hrefusal with hdata
          rw [digestLen_paramsOf, ← hserves.tciSize] at hdata
          obtain ⟨data, rfl⟩ := exists_toList (not_not.mp hdata)
          exact ⟨_, .command (.deriveContext
            ⟨handle, data, ⟨flags⟩, tciType, targetLocality, 0⟩ rfl hserves.tciSize)⟩
      | updateContextMeasurement handle inputData tciType =>
          dsimp only [refusal] at hrefusal
          split_ifs at hrefusal with hdata
          rw [digestLen_paramsOf, ← hserves.tciSize] at hdata
          obtain ⟨data, rfl⟩ := exists_toList (not_not.mp hdata)
          exact ⟨_, .command (.updateContextMeasurement handle data tciType
            hserves.tciSize)⟩
      | sign handle label flags toBeSigned =>
          dsimp only [refusal] at hrefusal
          split_ifs at hrefusal with hlabel hdata
          replace hlabel := not_not.mp hlabel
          replace hdata := not_not.mp hdata
          cases p with
          | p256Sha256 =>
              obtain ⟨label, rfl⟩ := exists_toList hlabel
              obtain ⟨digest, rfl⟩ := exists_toList hdata
              exact ⟨_, .command (.signP256 rfl handle label flags digest)⟩
          | p384Sha384 =>
              obtain ⟨label, rfl⟩ := exists_toList hlabel
              obtain ⟨digest, rfl⟩ := exists_toList hdata
              exact ⟨_, .command (.signP384 rfl handle label flags digest)⟩
          | mldsa87 =>
              obtain ⟨label, rfl⟩ := exists_toList hlabel
              obtain ⟨digest, rfl⟩ := exists_toList hdata
              exact ⟨_, .command (.signMldsa87 rfl handle label flags digest
                (hunmixed rfl))⟩
      | signRaw handle label rawData =>
          dsimp only [refusal] at hrefusal
          split_ifs at hrefusal with hprofile hlabel hraw
          obtain rfl := not_not.mp hprofile
          obtain ⟨label, rfl⟩ := exists_toList (not_not.mp hlabel)
          replace hraw := not_lt.mp hraw
          have hfull : (rawData ++ List.replicate (SignRawMaxSize - rawData.length)
              (0 : UInt8)).length = MLDSA87_RAW_MAX_SIZE := by
            rw [List.length_append, List.length_replicate]
            exact Nat.add_sub_cancel' hraw
          obtain ⟨rawBuf, hbuf⟩ := exists_toList hfull
          exact ⟨_, .command (.signRaw rfl handle label rawData rawBuf hbuf hraw)⟩

/-- The library is called for the task, with so many rounds for the
    certificate chain. -/
def Task.perform (d : Deps b W) (dpe : DpeInstance b) (params : Params)
    (locality : UInt32) (rounds : Nat) : Task b → M b W (Except CallError Result)
  | command cmd => received params (cmd.execute d dpe locality)
  | certificateChain => do
      let certs ← readChain (chunkReceived d dpe params locality) rounds 0 []
      pure (chainResult certs)
  | refused e => pure (.error e)

/-- The calls of so many rounds of reading the certificate chain. -/
def chainCalls (locality : UInt32) : (rounds : Nat) → (offset : UInt32) → List (Call b)
  | 0, _ => []
  | rounds + 1, offset =>
      .command locality (.getCertificateChain ⟨offset, MaxChunkSize⟩)
        :: chainCalls locality rounds (offset + MaxChunkSize)

/-- The calls that a task can make. -/
def Task.Makes (locality : UInt32) : Task b → List (Call b) → Prop
  | command cmd, calls => calls = [.command locality cmd]
  | certificateChain, calls => ∃ rounds, calls = chainCalls locality (rounds + 1) 0
  | refused _, calls => calls = []

/-- A client calls a method at a locality. -/
structure Turn (b : Build) where
  client : DPEABI
  locality : UInt32
  request : Request
  task : Task b

structure Turn.Fits (dpe : DpeInstance b) (t : Turn b) : Prop where
  connected : Connected t.client dpe
  stands : t.request.StandsFor dpe.profile t.task

/-- The clients call their methods over the socket. -/
def callAll (d : Deps b W) (dpe : DpeInstance b) (address rounds : Nat) :
    List (Turn b) → M b W (List (Except CallError Result))
  | [] => pure []
  | t :: ts => do
      let r ← t.client.call (sendCmd d dpe address t.locality) rounds t.request
      let rs ← callAll d dpe address rounds ts
      pure (r :: rs)

/-- The library is called for the tasks. -/
def executeAll (d : Deps b W) (dpe : DpeInstance b) (rounds : Nat) :
    List (Turn b) → M b W (List (Except CallError Result))
  | [] => pure []
  | t :: ts => do
      let r ← t.task.perform d dpe t.client.params t.locality rounds
      let rs ← executeAll d dpe rounds ts
      pure (r :: rs)

section Calling

variable {d : Deps b W} {dpe : DpeInstance b} {address rounds : Nat} {env env' : Env b W}

/-- A call that is received is a step. -/
theorem step_of_received {params : Params} {locality : UInt32} {cmd : Command b}
    {r : Except CallError Result} (hwell : env.state.WellFormed)
    (h : received params (cmd.execute d dpe locality) env = .ok r env') :
    Exec.Step env.state (cmd.executed d dpe locality env) env'.state := by
  cases hrun : cmd.execute d dpe locality env with
  | ok resp env1 =>
      cases h.symm.trans (received_ok hrun)
      exact Command.step_of_execute hwell hrun
  | error e env1 =>
      cases e with
      | err e =>
          cases h.symm.trans (received_failed hrun)
          exact Command.step_of_failed hwell hrun
      | noReturn => cases h.symm.trans (received_hangs hrun)

/-! ### The certificate chain -/

/-- A round is a step. -/
theorem step_of_chunkReceived {params : Params} {locality offset : UInt32}
    {r : Except Error (UInt32 × Bytes)} (hwell : env.state.WellFormed)
    (h : chunkReceived d dpe params locality offset env = .ok r env') :
    ∃ x : Exec b, Exec.Step env.state x env'.state ∧
      x.call = .command locality (.getCertificateChain ⟨offset, MaxChunkSize⟩) := by
  obtain ⟨r', env1, hrun, hpure⟩ := run_bind h
  cases hpure
  exact ⟨_, step_of_received hwell hrun, rfl⟩

/-- The loop reads from the client what it reads from the library. -/
theorem readChain_received {c : DPEABI} {locality offset : UInt32} {certs : Bytes}
    (hconn : Connected c dpe) (haligned : address % 4 = 0)
    (hreach : Reachable env.state) :
    readChain (c.getCertificateChunk (sendCmd d dpe address locality)) rounds offset
        certs env
      = readChain (chunkReceived d dpe c.params locality) rounds offset certs env := by
  induction rounds generalizing offset certs env with
  | zero => rfl
  | succ rounds ih =>
      have hround := getCertificateChunk_received d locality offset hconn haligned hreach
      unfold readChain
      cases hrun : chunkReceived d dpe c.params locality offset env with
      | error e env1 =>
          rw [hrun] at hround
          rw [bind_of_error hround, bind_of_error hrun]
      | ok r env1 =>
          rw [hrun] at hround
          rw [bind_of_ok hround, bind_of_ok hrun]
          obtain ⟨x, hstep, -⟩ := step_of_chunkReceived hreach.wellFormed hrun
          cases r with
          | error e => cases e <;> rfl
          | ok chunk =>
              dsimp only
              by_cases hover : 2048 < chunk.1.toNat
              · rw [if_pos hover, if_pos hover]
              by_cases hshort : chunk.1 < MaxChunkSize
              · rw [if_neg hover, if_neg hover, if_pos hshort, if_pos hshort]
              · rw [if_neg hover, if_neg hover, if_neg hshort, if_neg hshort]
                exact ih (hreach.step hstep)

/-- Reading the chain takes a step in each round. -/
theorem run_of_readChain {params : Params} {locality offset : UInt32} {certs : Bytes}
    {r : Except Error Bytes} (hreach : Reachable env.state)
    (h : readChain (chunkReceived d dpe params locality) rounds offset certs env
      = .ok r env') :
    ∃ (n : Nat) (xs : List (Exec b)), Run Exec.Step env.state xs env'.state ∧
      xs.map Exec.call = chainCalls locality (n + 1) offset := by
  induction rounds generalizing offset certs env with
  | zero => cases h
  | succ rounds ih =>
      unfold readChain at h
      obtain ⟨chunk, env1, hrun, hrest⟩ := run_bind h
      obtain ⟨x, hstep, hcall⟩ := step_of_chunkReceived hreach.wellFormed hrun
      have hlast : ∀ {r' : Except Error Bytes},
          (pure r' : M b W (Except Error Bytes)) env1 = .ok r env' →
          ∃ (n : Nat) (xs : List (Exec b)), Run Exec.Step env.state xs env'.state ∧
            xs.map Exec.call = chainCalls locality (n + 1) offset := by
        intro r' hpure
        cases hpure
        exact ⟨0, [x], .cons hstep (.nil _), congrArg (· :: []) hcall⟩
      cases chunk with
      | error e =>
          cases e with
          | status s =>
              dsimp only at hrest
              by_cases hend : (s == StatusInvalidArgument) = true
              · rw [if_pos hend] at hrest
                exact hlast hrest
              · rw [if_neg hend] at hrest
                exact hlast hrest
          | unexpectedEof | invalidRespMagic | emptyCertificateChain | sliceOutOfRange =>
              exact hlast hrest
      | ok chunk =>
          dsimp only at hrest
          by_cases hover : 2048 < chunk.1.toNat
          · rw [if_pos hover] at hrest
            exact hlast hrest
          rw [if_neg hover] at hrest
          by_cases hshort : chunk.1 < MaxChunkSize
          · rw [if_pos hshort] at hrest
            exact hlast hrest
          rw [if_neg hshort] at hrest
          obtain ⟨n, xs, hxs, hcalls⟩ := ih (hreach.step hstep) hrest
          refine ⟨n + 1, x :: xs, .cons hstep hxs, ?_⟩
          rw [List.map_cons, hcall, hcalls]
          rfl

/-! ### All methods -/

/-- A client refuses arguments before it sends anything. -/
theorem call_refused (t : Transport b W) {c : DPEABI} {req : Request} {e : CallError}
    (hconn : Connected c dpe) (hrefusal : req.refusal dpe.profile = some e) :
    c.call t rounds req = pure (.error e) := by
  cases req with
  | initializeContext | getProfile | getCertificateChain | destroyContext
  | rotateContextHandle => cases hrefusal
  | certifyKey | deriveContext | updateContextMeasurement =>
      dsimp only [Request.refusal] at hrefusal
      split_ifs at hrefusal with hlength
      cases hrefusal
      rw [← hconn.params] at hlength
      exact if_pos hlength
  | sign =>
      dsimp only [Request.refusal] at hrefusal
      rw [← hconn.params] at hrefusal
      split_ifs at hrefusal with hlabel hdata
      · cases hrefusal
        exact if_pos hlabel
      · cases hrefusal
        exact (if_neg hlabel).trans (if_pos hdata)
  | signRaw =>
      dsimp only [Request.refusal] at hrefusal
      rw [← hconn.params] at hrefusal
      split_ifs at hrefusal with hprofile hlabel hraw
      · cases hrefusal
        exact if_pos (hconn.not_mldsa87 hprofile)
      all_goals
        have hmldsa : c.profile = ProfileMldsa87 := by
          rw [hconn.profile, not_not.mp hprofile]
          rfl
        cases hrefusal
      · exact (if_neg (not_not.mpr hmldsa)).trans (if_pos hlabel)
      · exact (if_neg (not_not.mpr hmldsa)).trans
          ((if_neg hlabel).trans (if_pos hraw))

/-- **A METHOD** of a connected client is the task that it stands for. -/
theorem call_performs (d : Deps b W) (locality : UInt32) (rounds : Nat) {c : DPEABI}
    {req : Request} {task : Task b} (hconn : Connected c dpe)
    (hstands : req.StandsFor dpe.profile task) (haligned : address % 4 = 0)
    (hreach : Reachable env.state) :
    c.call (sendCmd d dpe address locality) rounds req env
      = task.perform d dpe c.params locality rounds env := by
  cases hstands with
  | command hmeans => exact call_received d locality rounds hconn hmeans haligned hreach
  | certificateChain =>
      exact bind_congr_run (readChain_received hconn haligned hreach) _
  | refused hrefusal => exact congrFun (call_refused _ hconn hrefusal) env

/-- A task that returns is a run of the instance. -/
theorem Task.run {params : Params} {locality : UInt32} {task : Task b}
    {r : Except CallError Result} (hreach : Reachable env.state)
    (h : task.perform d dpe params locality rounds env = .ok r env') :
    ∃ xs : List (Exec b), Run Exec.Step env.state xs env'.state ∧
      task.Makes locality (xs.map Exec.call) := by
  cases task with
  | command cmd =>
      exact ⟨_, .cons (step_of_received hreach.wellFormed h) (.nil _), rfl⟩
  | certificateChain =>
      obtain ⟨certs, env1, hrun, hpure⟩ := run_bind h
      cases hpure
      obtain ⟨n, xs, hxs, hcalls⟩ := run_of_readChain hreach hrun
      exact ⟨xs, hxs, n, hcalls⟩
  | refused e =>
      cases h
      exact ⟨[], .nil _, rfl⟩

/-- Calls of methods are calls of the library. -/
theorem callAll_eq (rounds : Nat) {ts : List (Turn b)} (hfits : ∀ t ∈ ts, t.Fits dpe)
    (haligned : address % 4 = 0) (hreach : Reachable env.state) :
    callAll d dpe address rounds ts env = executeAll d dpe rounds ts env := by
  induction ts generalizing env with
  | nil => rfl
  | cons t ts ih =>
      have ⟨hconn, hstands⟩ := hfits t List.mem_cons_self
      have hcall := call_performs d t.locality rounds hconn hstands haligned hreach
      unfold callAll executeAll
      cases hrun : t.task.perform d dpe t.client.params t.locality rounds env with
      | error e env1 =>
          rw [hrun] at hcall
          rw [bind_of_error hcall, bind_of_error hrun]
      | ok r env1 =>
          rw [hrun] at hcall
          rw [bind_of_ok hcall, bind_of_ok hrun]
          obtain ⟨xs, hxs, -⟩ := Task.run hreach hrun
          have hrest := ih (fun t ht => hfits t (List.mem_cons_of_mem _ ht))
            (hreach.run hxs)
          cases hrs : executeAll d dpe rounds ts env1 with
          | error e env2 =>
              rw [hrs] at hrest
              rw [bind_of_error hrest, bind_of_error hrs]
          | ok rs env2 =>
              rw [hrs] at hrest
              rw [bind_of_ok hrest, bind_of_ok hrs]

/-- The calls that return are a run of the instance. -/
theorem run_of_executeAll {ts : List (Turn b)} {rs : List (Except CallError Result)}
    (hreach : Reachable env.state) (h : executeAll d dpe rounds ts env = .ok rs env') :
    ∃ (xs : List (Exec b)) (calls : List (List (Call b))),
      Run Exec.Step env.state xs env'.state ∧ xs.map Exec.call = calls.flatten ∧
      List.Forall₂ (fun t calls => t.task.Makes t.locality calls) ts calls := by
  induction ts generalizing env rs with
  | nil =>
      cases h
      exact ⟨[], [], .nil _, rfl, .nil⟩
  | cons t ts ih =>
      obtain ⟨r, env1, hrun, hrest⟩ := run_bind h
      obtain ⟨rs', env2, hrest, hpure⟩ := run_bind hrest
      cases hpure
      obtain ⟨xs, hxs, hmakes⟩ := Task.run hreach hrun
      obtain ⟨xs', calls, hxs', hcalls, hall⟩ := ih (hreach.run hxs) hrest
      refine ⟨xs ++ xs', xs.map Exec.call :: calls, hxs.append hxs', ?_,
        .cons hmakes hall⟩
      rw [List.map_append, hcalls]
      rfl

/-- **ANY NUMBER OF CLIENTS**, at any localities and in any order: their
    calls return what the library returns for the tasks that they stand
    for, called in that order, and the instance takes the steps of these
    calls.  Where the build serves the clients, every call stands for a
    task, but for a `Sign` of ML-DSA with the flag of `SignRaw`. -/
theorem sessions (rounds : Nat) {ts : List (Turn b)} (hfits : ∀ t ∈ ts, t.Fits dpe)
    (haligned : address % 4 = 0) (hreach : Reachable env.state) :
    callAll d dpe address rounds ts env = executeAll d dpe rounds ts env ∧
    (∀ rs env', callAll d dpe address rounds ts env = .ok rs env' →
      ∃ (xs : List (Exec b)) (calls : List (List (Call b))),
        Run Exec.Step env.state xs env'.state ∧ xs.map Exec.call = calls.flatten ∧
        List.Forall₂ (fun t calls => t.task.Makes t.locality calls) ts calls) ∧
    (Build.Serves b dpe.profile → ∀ (c : DPEABI) (locality : UInt32) (req : Request),
      Connected c dpe → req.Unmixed dpe.profile →
      ∃ task : Task b, Turn.Fits dpe ⟨c, locality, req, task⟩) := by
  have heq := callAll_eq (d := d) rounds hfits haligned hreach
  refine ⟨heq, fun rs env' h => run_of_executeAll hreach (heq.symm.trans h), ?_⟩
  intro hserves c locality req hconn hunmixed
  obtain ⟨task, hstands⟩ := req.stands hserves hunmixed
  exact ⟨task, hconn, hstands⟩

/-- A client of the sample. -/
def sampleClient : DPEABI := connection sampleDpe (.new sampleBuild .p384Sha384 0 1 1)

/-- One client destroys the default context of locality 1, another one
    asks for a handle of its own, a third one for the certificate chain,
    and a fourth one for a key under a label that is too short. -/
def sampleTurns : List (Turn sampleBuild) :=
  [⟨sampleClient, 1, .destroyContext .default, .command (.destroyCtx ⟨.default⟩)⟩,
    ⟨sampleClient, 2, .rotateContextHandle .default 0,
      .command (.rotateCtx ⟨.default, 0⟩)⟩,
    ⟨sampleClient, 3, .getCertificateChain, .certificateChain⟩,
    ⟨sampleClient, 4, .certifyKey .default [1] 0 0, .refused .invalidLabelLength⟩]

theorem sessions_sample : ∃ rs env',
    callAll sampleDeps sampleDpe 0 1 sampleTurns
      (sampleEnv (played [sampleInit 1]) [] 0) = .ok rs env' ∧
    executeAll sampleDeps sampleDpe 1 sampleTurns
      (sampleEnv (played [sampleInit 1]) [] 0) = .ok rs env' := by
  have hreach : Reachable (sampleEnv (played [sampleInit 1]) [] 0).state :=
    (reachable_played (by decide +kernel) : Reachable (played [sampleInit 1]))
  have hconn : Connected sampleClient sampleDpe := connected_connection _ _
  have hfits : ∀ t ∈ sampleTurns, t.Fits sampleDpe := by
    intro t ht
    rcases List.mem_cons.mp ht with rfl | ht
    · exact ⟨hconn, .command (.destroyContext _)⟩
    rcases List.mem_cons.mp ht with rfl | ht
    · exact ⟨hconn, .command (.rotateContextHandle ⟨.default, 0⟩ rfl)⟩
    rcases List.mem_cons.mp ht with rfl | ht
    · exact ⟨hconn, .certificateChain⟩
    · cases List.mem_singleton.mp ht
      exact ⟨hconn, .refused rfl⟩
  have heq := (sessions (d := sampleDeps) 1 hfits (Nat.zero_mod 4) hreach).1
  have hrun : ∃ rs env', executeAll sampleDeps sampleDpe 1 sampleTurns
      (sampleEnv (played [sampleInit 1]) [] 0) = .ok rs env' :=
    ⟨_, _, eq_outcome (by decide +kernel)⟩
  obtain ⟨rs, env', hrun⟩ := hrun
  exact ⟨rs, env', heq.trans hrun, hrun⟩

end Calling

end Client

end Dpe
