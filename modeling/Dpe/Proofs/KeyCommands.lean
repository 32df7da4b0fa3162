import Dpe.Proofs.ContextCommands
import Dpe.Proofs.Creation

/-! # Sign and CertifyKey end as they should

    Both are effects of one rename.  What they answer with is described
    in full: the key a signature is made with, and the tree of a
    certificate behind its header. -/

namespace Dpe

open Der Forest Prog

variable {b : Build} {W : Type}

/-! ## In a window, behind a header -/

section Window

variable {α : Type} {env env1 : Env b W} {base : Nat} {tree : Tlv}

/-- The environment that sees the output buffer from `base` on. -/
def Env.window (env : Env b W) (base : Nat) : Env b W :=
  { env with out := .offset env.out base }

/-- The environment behind a window. -/
def Env.unwindow (env : Env b W) : Env b W := { env with out := env.out.inner }

theorem withOffset_spec {m : M b W α} {ok : α → Env b W → Prop}
    {err : Stop → Env b W → Prop} (h : Post m (env.window base) ok err) :
    Post (withOffset base m) env
      (fun a env' => ∃ env1, ok a env1 ∧ env' = env1.unwindow)
      (fun e env' => ∃ env1, err e env1 ∧ env' = env1.unwindow) := by
  refine ⟨?_⟩
  unfold withOffset
  cases hr : m { env with out := .offset env.out base } with
  | ok a env1 => exact ⟨env1, h.of_ok hr, rfl⟩
  | error e env1 => exact ⟨env1, h.of_error hr, rfl⟩

/-- What is settled seen through a window is settled. -/
theorem settled_unwindow (h : env1.settled = (env.window base).settled) :
    env1.unwindow.settled = env.settled := by
  obtain ⟨hstate, hrest⟩ := Prod.ext_iff.mp h
  obtain ⟨hshape, hdrawn⟩ := Prod.ext_iff.mp hrest
  exact Prod.ext hstate (Prod.ext (ResponseBuffer.inner_shape hshape) hdrawn)

/-- **A HEADER** in front of what was emitted in its window: both are the
    answer, and the header cannot fail to fit. -/
theorem header_spec {env2 : Env b W} {header : Bytes}
    (hshape : env1.out.shape = (ResponseBuffer.offset env.out base).shape)
    (hemitted : Emitted (env.window base) tree env1) (hpos : 0 < tree.size)
    (hout : env2.out = env1.unwindow.out) (hbase : header.length = base)
    (hheader : 0 < header.length)
    (e : DpeErrorCode) :
    Post (writeAt 0 header e) env2
      (fun _ env3 => env3.state = env2.state ∧ env3.drawn = env2.drawn ∧
        (header ++ tree.bytes).length ≤ env.out.capacity ∧
        env3.out.bytes
          = Splice.splice env.out.bytes 0 (header ++ tree.bytes))
      (fun _ _ => False) := by
  have hcap : env2.out.capacity = env.out.capacity := by
    rw [hout]
    exact ResponseBuffer.capacity_congr (ResponseBuffer.inner_shape hshape)
  have hfits : tree.size ≤ env.out.capacity - base := hemitted.fits
  have hbehind : env2.out.bytes.drop header.length
      = Splice.splice (env.out.bytes.drop header.length) 0 tree.bytes := by
    rw [hbase, hout]
    exact (ResponseBuffer.bytes_of_window hshape).symm.trans hemitted.bytes
  refine (writeAt_spec 0 header e env2).mono ?_ ?_
  · rintro _ env3 ⟨hstate, hdrawn, -, hbytes⟩
    refine ⟨hstate, hdrawn, ?_, ?_⟩
    · rw [List.length_append, Tlv.length_bytes]
      omega
    · rw [hbytes]
      exact Splice.splice_header hbehind
  · rintro _ _ ⟨-, -, hshort⟩
    rcases hshort with rfl | hshort
    · exact absurd hheader (Nat.lt_irrefl 0)
    · omega

end Window

variable (d : Deps b W) (dpe : DpeInstance b) (locality : UInt32)

/-! ## Sign -/

namespace SignCommand

/-- The signature of a Sign command: made over the data of the command,
    with the key of the measurement digest of the context at the end of
    the path `l`. -/
def SignedFor (s : State b) (cmd : SignCommand) (l : List (Fin b.maxHandles))
    (sig : Signature) : Prop :=
  ∃ bs digest signer data out,
    Transcript d dpe s.support (s.chain l) bs ∧
    Returned (d.crypto.hasherFinish bs) digest ∧
    Derives d cdiLabel cmd.label dpe.profile.keyContext digest signer ∧
    cmd.data = .ok data ∧ Returned (d.crypto.sign signer data out) sig

/-- What a Sign command that returned has done. -/
structure Signs (env : Env b W) (cmd : SignCommand) (n : Nat)
    (env' : Env b W) (idx : Fin b.maxHandles) (l : List (Fin b.maxHandles))
    (draws : List (Vector UInt8 16)) (handle : ContextHandle)
    (sig : Signature) (bytes : Bytes) : Prop where
  resolves : env.state.getActiveContextPos cmd.handle locality = .ok idx
  normal : (env.state.contexts idx).contextType ≠ .simulation
  path : Path env.state.up idx l
  chosen : Chosen env.state cmd.handle.isDefault draws handle
  did : Did env draws [.rename idx handle] env'
  signed : SignedFor d dpe env.state cmd l sig
  sized : sigBytes b sig = .ok bytes
  answered : Answered env (SignResp.asBytes
    { respHdr := dpe.responseHdr .noError
      newContextHandle := handle
      sig := bytes }) n env'

theorem quiet_rest (idx : Fin b.maxHandles) (label : Bytes) (data : SignData) :
    Keeps Env.own (sign d dpe idx label data) :=
  Keeps.get.bind fun _ => (keeps_computeMeasurementHash d dpe idx).bind fun _ =>
    (keeps_callCrypto _).bind fun _ => (keeps_callCrypto _).bind fun _ =>
      keeps_callCrypto _

/-- The key of a signature is that of the digest of the path. -/
theorem sign_result {cmd : SignCommand} {data : SignData} {env : Env b W}
    {i : Fin b.maxHandles} {l : List (Fin b.maxHandles)}
    (h : env.state.WellFormed) (hpath : Path env.state.up i l)
    (hlive : env.state.Live i) (hdata : cmd.data = .ok data) :
    Post (sign d dpe i cmd.label data) env
      (fun sig _ => SignedFor d dpe env.state cmd l sig) (fun _ _ => True) := by
  refine Post.get_bind ?_
  refine Post.bind (computeMeasurementHash_result d dpe env h hpath hlive) ?_
  rintro digest env1 ⟨bs, htranscript, hdigest⟩
  refine Post.bind (callCrypto_result _ env1) ?_
  rintro cdi env2 ⟨hcdi, -⟩
  refine Post.bind (callCrypto_result _ env2) ?_
  rintro signer env3 ⟨hsigner, -⟩
  refine (callCrypto_result _ env3).mono ?_ (fun _ _ h => h)
  rintro sig _ ⟨hsig, -⟩
  exact ⟨bs, digest, signer, data, _, htranscript, hdigest, ⟨cdi, hcdi, hsigner⟩,
    hdata, hsig⟩

/-- **SIGN** ends in its effect and its answer, or has changed nothing. -/
theorem executeSerialized_spec (cmd : SignCommand) (env : Env b W)
    (h : env.state.WellFormed) :
    Post (cmd.executeSerialized d dpe locality) env
      (fun n env' => ∃ idx l draws handle sig bytes,
        Signs d dpe locality env cmd n env' idx l draws handle sig bytes)
      (fun _ env' => env'.state = env.state ∧
        ∃ draws, env'.drawn = env.drawn ++ draws) := by
  have hstart : env.state = env.state ∧
      ∃ draws, env.drawn = env.drawn ++ draws :=
    ⟨rfl, [], (List.append_nil _).symm⟩
  refine orFail_bind (fun data hdata => ?_) (fun _ _ => by exact hstart)
  refine Post.get_bind ?_
  refine resolve_bind locality (fun idx hpos => ?_) (fun _ _ => by exact hstart)
  refine Post.rejectIf_bind (fun _ => by exact hstart) fun hnormal => ?_
  have hlive := State.live_of_resolves hpos
  obtain ⟨l, hpath⟩ := h.rooted idx hlive
  have hold := (State.getActiveContextPos_ok hpos).2.1
  have hsign := (quiet_rest d dpe idx cmd.label data env).and
    (sign_result d dpe h hpath hlive hdata)
  refine Post.bind (hsign.mono (fun _ _ h => h) ?_) ?_
  · rintro e env' ⟨hown, -⟩
    exact ⟨congrArg (·.1) hown, [], (Drew.of_own hown).drawn⟩
  rintro sig env1 ⟨hown, hsigned⟩
  have h1 := Drew.of_own hown
  refine Post.get_bind ?_
  rw [h1.state]
  refine Post.bind ((rollOnetimeUseHandle_spec d _ env1).mono
    (fun _ _ h => h) ?_) ?_
  · rintro e env' hgave
    have hall := Gave.after h1 hgave
    exact ⟨hall.state, hall.drawn⟩
  rintro ctx env2 ⟨draws, h2, handle, rfl, hchosen⟩
  have h12 := h1.trans h2
  rw [hold, h1.state] at hchosen
  show Post (writeResponse dpe sig handle >>= _) env2 _ _
  have hwrite : Post (writeResponse dpe sig handle : M b W Nat) env2
      (fun n env' => env'.state = env.state ∧
        env'.drawn = env.drawn ++ draws ∧ ∃ bytes,
          sigBytes b sig = .ok bytes ∧
          Answered env (SignResp.asBytes
            { respHdr := dpe.responseHdr .noError
              newContextHandle := handle
              sig := bytes }) n env')
      (fun _ env' => env'.state = env.state ∧
        ∃ draws, env'.drawn = env.drawn ++ draws) := by
    refine orFail_bind (fun bytes hsized => ?_)
      (fun _ _ => ⟨h12.state, _, h12.drawn⟩)
    refine Post.bind ((writeAt_spec 0 _ _ env2).mono (fun _ _ h => h) ?_) ?_
    · rintro e env' ⟨-, rfl, -⟩
      exact ⟨h12.state, _, h12.drawn⟩
    · rintro _ env3 ⟨hstate, hdrawn, hfits, hbytes⟩
      rw [h12.out] at hfits hbytes
      exact Post.pure ⟨hstate.trans h12.state, hdrawn.trans h12.drawn, bytes,
        hsized, rfl, by rwa [Nat.zero_add] at hfits, hbytes⟩
  refine Post.bind hwrite ?_
  rintro n env3 ⟨hstate, hdrawn, bytes, hsized, hanswered⟩
  refine Post.modify_bind (Post.pure ⟨idx, l, draws, handle, sig, bytes, hpos,
    by simpa using hnormal, hpath, hchosen, ⟨?_, hdrawn⟩, hsigned, hsized,
    hanswered.count, hanswered.fits, hanswered.out⟩)
  show env3.state.set idx _ = _
  rw [hstate]
  rfl

end SignCommand

theorem sign_spec (cmd : SignCommand) (env : Env b W)
    (h : env.state.WellFormed) :
    Post (cmd.executeSerialized d dpe locality) env
      (Done d dpe locality env (.sign cmd))
      (Fell d dpe locality env (.sign cmd)) := by
  refine (cmd.executeSerialized_spec d dpe locality env h).mono ?_ ?_
  · rintro n env' ⟨idx, l, draws, handle, sig, bytes, hsigns⟩
    exact ⟨draws, _, _, .sign hsigns.resolves hsigns.normal hsigns.chosen,
      hsigns.did, .sign hsigns.sized, hsigns.answered⟩
  · rintro e env' ⟨hstate, hdrawn⟩
    exact .early hstate hdrawn fun hyes => by cases hyes

/-! ## CertifyKey -/

/-- The format a certificate is asked for by. -/
def CertificateFormat.code : CertificateFormat → UInt32
  | x509 => CertifyKeyCommand.FORMAT_X509
  | csr => CertifyKeyCommand.FORMAT_CSR

/-- What is issued is not empty. -/
theorem Issued.pos {signCb : SignCallback (Env b W)} {cfg : CertConfig}
    {pubKey : PubKey} {measurements : MeasurementData b} {first : TciNodeData b}
    {nodes : List (TciNodeData b)} {format : CertificateFormat} {tree : Tlv}
    (h : Issued signCb cfg pubKey measurements first nodes format tree) :
    0 < tree.size := by
  have hnode : ∀ tag body, 0 < (CertWriter.sized tag body).size := by
    intro tag body
    rw [CertWriter.sized, Tlv.size_node]
    omega
  cases h with
  | x509 => exact hnode _ _
  | csr => exact hnode _ _

namespace CertifyKeyCommand

/-- The header of a response to CertifyKey. -/
def header (r : CreateDpeCertResult) (handle : ContextHandle) (pubkey : Bytes) :
    Bytes :=
  CertifyKeyRespHdr.asBytes
    { respHdr := dpe.responseHdr .noError
      newContextHandle := handle
      pubkey := pubkey
      certSize := r.certSize }

/-- What a CertifyKey command that returned has done. -/
structure Certifies (env : Env b W) (cmd : CertifyKeyCommand) (n : Nat)
    (env' : Env b W) (idx : Fin b.maxHandles) (l : List (Fin b.maxHandles))
    (draws : List (Vector UInt8 16)) (handle : ContextHandle)
    (format : CertificateFormat) (r : CreateDpeCertResult) (digest : Digest)
    (measurements : MeasurementData b) (tree : Tlv) (pubkey : Bytes) : Prop where
  resolves : env.state.getActiveContextPos cmd.handle locality = .ok idx
  supported : formatUnsupported cmd.format env.state.support = false
  allowed : (cmd.format == FORMAT_X509 && !(env.state.contexts idx).allowX509)
    = false
  path : Path env.state.up idx l
  chosen : Chosen env.state cmd.handle.isDefault draws handle
  did : Did env draws [.rename idx handle] env'
  asked : cmd.format = format.code
  created : ∃ exportedCdi window, Created d dpe (env.window (hdrSize cmd.profile))
    (certArgs dpe cmd env.state locality) format .leaf l r digest exportedCdi
    measurements tree window
  typed : headerKey cmd.profile r.pubKey = .ok pubkey
  answered : Answered env (header dpe r handle pubkey ++ tree.bytes) n env'

theorem headerKey_length {profile : DpeProfile} {pubKey : PubKey} {bytes : Bytes}
    (h : headerKey profile pubKey = .ok bytes) :
    32 + bytes.length = hdrSize profile := by
  unfold headerKey at h
  split at h
  · cases h
    simp [hdrSize]
  · cases h
    simp [hdrSize]
  · cases h
    simp [hdrSize]
  · cases h

theorem headerKey_error {profile : DpeProfile} {pubKey : PubKey}
    {e : DpeErrorCode} (h : headerKey profile pubKey = .error e) :
    e = .invalidArgument := by
  unfold headerKey at h
  split at h <;> cases h
  rfl

theorem runCertFormat_spec {format : UInt32} {args : CreateDpeCertArgs}
    {i : Fin b.maxHandles} {l : List (Fin b.maxHandles)} (env : Env b W)
    (h : env.state.WellFormed) (hpath : Path env.state.up i l)
    (hpos : env.state.getActiveContextPos args.handle args.locality = .ok i) :
    Post (runCertFormat d dpe format args) env
      (fun r env' => env'.settled = env.settled ∧
        ∃ certFormat digest handle measurements tree,
          format = CertificateFormat.code certFormat ∧
          Created d dpe env args certFormat .leaf l r digest handle measurements
            tree env')
      (fun _ env' => env'.settled = env.settled) := by
  have hcreate : ∀ certFormat : CertificateFormat, format = certFormat.code →
      Post (createDpeCertOrCsr d dpe args certFormat .leaf) env
        (fun r env' => env'.settled = env.settled ∧
          ∃ certFormat digest handle measurements tree,
            format = CertificateFormat.code certFormat ∧
            Created d dpe env args certFormat .leaf l r digest handle
              measurements tree env')
        (fun _ env' => env'.settled = env.settled) := by
    intro certFormat hformat
    refine (createDpeCertOrCsr_spec d dpe certFormat .leaf env h hpath hpos).mono
      ?_ (fun _ _ h => h)
    rintro r env' ⟨hsettled, digest, handle, measurements, tree, hcreated⟩
    exact ⟨hsettled, certFormat, digest, handle, measurements, tree, hformat,
      hcreated⟩
  unfold runCertFormat
  refine Post.ite (fun hx509 => ?_) fun _ => Post.ite (fun hcsr => ?_) fun _ => ?_
  · exact Post.ite (fun _ => Post.throw rfl) fun _ => hcreate .x509 hx509
  · exact Post.ite (fun _ => Post.throw rfl) fun _ => hcreate .csr hcsr
  · exact Post.throw rfl

/-- **CERTIFYKEY** ends in its effect and its answer, or in one of the
    ways to fail. -/
theorem executeSerialized_spec (cmd : CertifyKeyCommand) (env : Env b W)
    (h : env.state.WellFormed) :
    Post (cmd.executeSerialized d dpe locality) env
      (fun n env' => ∃ idx l draws handle format r digest measurements tree pubkey,
        Certifies d dpe locality env cmd n env' idx l draws handle format r digest
          measurements tree pubkey)
      (Fell d dpe locality env (.certifyKey cmd)) := by
  refine Post.get_bind ?_
  refine resolve_bind locality (fun idx hpos => ?_) (fun _ he => .at_once he)
  refine Post.rejectIf_bind (fun _ => .at_once (by simp [Unwritable]))
    fun hsupported => ?_
  refine Post.rejectIf_bind (fun _ => .at_once (by simp [Unwritable]))
    fun hallowed => ?_
  refine Post.rejectIf_bind (fun _ => .at_once (by simp [Unwritable])) fun _ => ?_
  have hlive := State.live_of_resolves hpos
  obtain ⟨l, hpath⟩ := h.rooted idx hlive
  have hold := (State.getActiveContextPos_ok hpos).2.1
  have hrun : Post (runCertFormat d dpe cmd.format
      (certArgs dpe cmd env.state locality)) (env.window (hdrSize cmd.profile)) _ _ :=
    runCertFormat_spec d dpe (env.window (hdrSize cmd.profile)) h hpath hpos
  refine Post.bind ((withOffset_spec hrun).mono (fun _ _ h => h) ?_) ?_
  · rintro e env' ⟨window, hsettled, rfl⟩
    exact .of_settled (settled_unwindow hsettled) rfl
  rintro r env1 ⟨window, ⟨hsettled, format, digest, exportedCdi, measurements,
    tree, hformat, hcreated⟩, rfl⟩
  have h1 := settled_unwindow hsettled
  have hstate1 : window.unwindow.state = env.state := congrArg (·.1) h1
  have hdrawn1 : window.unwindow.drawn = env.drawn := congrArg (·.2.2) h1
  have hroll : Post (rollInPlace d idx) window.unwindow
      (fun handle env' => ∃ draws, Chosen env.state cmd.handle.isDefault draws handle ∧
        Did env draws [.rename idx handle] env' ∧
        env'.out = window.unwindow.out)
      (Fell d dpe locality env (.certifyKey cmd)) := by
    refine Post.get_bind ?_
    rw [hstate1]
    refine Post.bind ((rollOnetimeUseHandle_spec d _ window.unwindow).mono
      (fun _ _ h => h) ?_) ?_
    · rintro e env' hgave
      obtain ⟨draws, hdrawn⟩ := hgave.drawn
      exact .early (hgave.state.trans hstate1) ⟨draws, by rw [hdrawn, hdrawn1]⟩
        fun hyes => by cases hyes
    · rintro ctx env2 ⟨draws, h2, handle, rfl, hchosen⟩
      rw [hold, hstate1] at hchosen
      refine Post.modify_bind (Post.pure ⟨draws, hchosen, ⟨?_, ?_⟩, h2.out⟩)
      · show env2.state.set idx _ = _
        rw [h2.state, hstate1]
        rfl
      · show env2.drawn = _
        rw [h2.drawn, hdrawn1]
  refine Post.bind hroll ?_
  rintro handle env2 ⟨draws, hchosen, hdid, hout⟩
  have heffect : Effect d env.state locality (.certifyKey cmd) draws
      [.rename idx handle] := .certifyKey hpos hsupported hallowed hchosen
  refine orFail_bind (fun pubkey htyped => ?_) (fun e htyped => ?_)
  · have hlen : (header dpe r handle pubkey).length = hdrSize cmd.profile :=
      (CertifyKeyRespHdr.asBytes_length _).trans (headerKey_length htyped)
    have hpos' : 0 < (header dpe r handle pubkey).length := by
      rw [show (header dpe r handle pubkey).length = 32 + pubkey.length from
        CertifyKeyRespHdr.asBytes_length _]
      omega
    refine Post.bind ((header_spec (congrArg (·.2.1) hsettled) hcreated.emitted
      hcreated.issued.pos hout hlen hpos' .invalidResponseBuf).mono
      (fun _ _ h => h) (fun _ _ hno => hno.elim)) ?_
    rintro _ env3 ⟨hstate, hdrawn, hfits, hbytes⟩
    refine Post.pure ⟨idx, l, draws, handle, format, r, digest, measurements,
      tree, pubkey, hpos, hsupported, hallowed, hpath, hchosen,
      ⟨hstate.trans hdid.state, hdrawn.trans hdid.drawn⟩, hformat,
      ⟨exportedCdi, window, hcreated⟩, htyped, ?_, hfits, hbytes⟩
    rw [List.length_append, hlen, Tlv.length_bytes, ← hcreated.size]
  · have he := headerKey_error htyped
    have hnot : ¬ Unwritable (.err e) := by
      rw [he]
      decide
    rw [he] at htyped
    have hkey : ∃ signer : d.crypto.Signer,
        Returned (d.crypto.publicKey signer (.zeroed dpe.profile)) r.pubKey := by
      cases hcreated.key with
      | leaf _ hkey => exact ⟨_, hkey⟩
    obtain ⟨signer, hkey⟩ := hkey
    exact .mistyped rfl ⟨draws, _, heffect, hdid⟩ hkey htyped hnot

end CertifyKeyCommand

theorem certifyKey_spec (cmd : CertifyKeyCommand) (env : Env b W)
    (h : env.state.WellFormed) :
    Post (cmd.executeSerialized d dpe locality) env
      (Done d dpe locality env (.certifyKey cmd))
      (Fell d dpe locality env (.certifyKey cmd)) := by
  refine (cmd.executeSerialized_spec d dpe locality env h).mono ?_ (fun _ _ h => h)
  rintro n env' ⟨idx, l, draws, handle, format, r, digest, measurements, tree,
    pubkey, hcert⟩
  obtain ⟨_, _, hcreated⟩ := hcert.created
  exact ⟨draws, _, _, .certifyKey hcert.resolves hcert.supported hcert.allowed
    hcert.chosen, hcert.did, .certifyKey hcert.typed hcreated.size,
    hcert.answered⟩

end Dpe
