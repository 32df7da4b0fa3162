import Dpe.Commands.Respond
import Dpe.Proofs.DeriveCommand
import Dpe.Proofs.Sample
import Dpe.Proofs.Worlds

/-! # Decoding responses undoes encoding

    `execute`, `as_bytes_partial` and `try_read_from_bytes` each choose the
    variant of a response by the command.  They choose the same one, and
    the bytes of a response, trimmed to what has been written, are read
    back as that response. -/

namespace Dpe

open Layout Prog Splice

variable {b : Build} {W : Type}

/-! ## Layouts and bytes -/

theorem ResponseHdr.toBytes_layout (r : ResponseHdr) :
    (layout b).toBytes r = r.asBytes := by
  unfold asBytes
  rw [List.append_assoc]
  rfl

theorem GetProfileResp.toBytes_layout (r : GetProfileResp) :
    (layout b).toBytes r = r.asBytes := by
  unfold asBytes
  simp only [List.append_assoc]
  rfl

theorem NewHandleResp.toBytes_layout (r : NewHandleResp) :
    (layout b).toBytes r = r.asBytes := by
  unfold asBytes
  rw [← ResponseHdr.toBytes_layout]
  rfl

theorem DeriveContextResp.toBytes_layout (r : DeriveContextResp) :
    (layout b).toBytes r = r.asBytes := by
  unfold asBytes
  rw [List.append_assoc, ← ResponseHdr.toBytes_layout]
  rfl

theorem UpdateContextMeasurementResp.toBytes_layout (r : UpdateContextMeasurementResp) :
    (layout b).toBytes r = r.asBytes := by
  unfold asBytes
  rw [List.append_assoc, ← ResponseHdr.toBytes_layout]
  rfl

theorem GetCertificateChainResp.toBytes_layout (r : GetCertificateChainResp) :
    (layout b).toBytes r = r.asBytes := by
  unfold asBytes
  rw [List.append_assoc, ← ResponseHdr.toBytes_layout]
  rfl

theorem SignResp.toBytes_layout {profile : DpeProfile} (r : SignResp) :
    (layout b profile).toBytes r = r.asBytes := by
  unfold asBytes
  rw [List.append_assoc, ← ResponseHdr.toBytes_layout]
  rfl

theorem DeriveContextExportedCdiRespHdr.toBytes_layout
    (r : DeriveContextExportedCdiRespHdr) : (layout b).toBytes r = r.asBytes := by
  unfold asBytes
  simp only [List.append_assoc]
  rfl

theorem CertifyKeyRespHdr.toBytes_layout {profile : DpeProfile} (r : CertifyKeyRespHdr) :
    (layout b profile).toBytes r = r.asBytes := by
  unfold asBytes
  simp only [List.append_assoc]
  rfl

theorem DeriveContextExportedCdiResp.toBytes_layout (r : DeriveContextExportedCdiResp b) :
    (layout b).toBytes r = r.asBytes := by
  unfold asBytes
  rw [← DeriveContextExportedCdiRespHdr.toBytes_layout]
  rfl

theorem CertifyKeyBody.toBytes_layout {profile : DpeProfile} (r : CertifyKeyBody b) :
    (layout b profile).toBytes r = r.asBytes := by
  unfold asBytes
  rw [← CertifyKeyRespHdr.toBytes_layout]
  rfl

/-! ## The variant of a response -/

/-- A variant: its structure, and the constructor around it. -/
structure ResponseKind (b : Build) where
  α : Type
  layout : Layout α
  build : α → Response b

/-- The variant that answers a command. -/
def Command.kind : Command b → ResponseKind b
  | getProfile _ => ⟨_, GetProfileResp.layout b, .getProfile⟩
  | initCtx _ => ⟨_, NewHandleResp.layout b, .initCtx⟩
  | deriveContext cmd =>
      if cmd.flags.exportsCdi then
        ⟨_, DeriveContextExportedCdiResp.layout b, .deriveContextExportedCdi⟩
      else ⟨_, DeriveContextResp.layout b, .deriveContext⟩
  | certifyKey (.p256 _) =>
      ⟨_, CertifyKeyBody.layout b .p256Sha256, (.certifyKey <| .p256 ·)⟩
  | certifyKey (.p384 _) =>
      ⟨_, CertifyKeyBody.layout b .p384Sha384, (.certifyKey <| .p384 ·)⟩
  | certifyKey (.mldsa87 _) =>
      ⟨_, CertifyKeyBody.layout b .mldsa87, (.certifyKey <| .mldsa87 ·)⟩
  | sign (.p256 ..) => ⟨_, SignResp.layout b .p256Sha256, (.sign <| .p256 ·)⟩
  | sign (.p384 ..) => ⟨_, SignResp.layout b .p384Sha384, (.sign <| .p384 ·)⟩
  | sign (.mldsa87 ..) | sign (.mldsa87Raw ..) =>
      ⟨_, SignResp.layout b .mldsa87, (.sign <| .mldsa87 ·)⟩
  | rotateCtx _ => ⟨_, NewHandleResp.layout b, .rotateCtx⟩
  | destroyCtx _ => ⟨_, ResponseHdr.layout b, .destroyCtx⟩
  | getCertificateChain _ =>
      ⟨_, GetCertificateChainResp.layout b, .getCertificateChain⟩
  | updateContextMeasurement _ =>
      ⟨_, UpdateContextMeasurementResp.layout b, .updateContextMeasurement⟩

theorem Command.kind_export {cmd : DeriveContextCmd b}
    (h : cmd.flags.exportsCdi = true) : (deriveContext cmd).kind
      = ⟨_, DeriveContextExportedCdiResp.layout b, .deriveContextExportedCdi⟩ :=
  if_pos h

theorem Command.kind_child {cmd : DeriveContextCmd b}
    (h : cmd.flags.exportsCdi = false) : (deriveContext cmd).kind
      = ⟨_, DeriveContextResp.layout b, .deriveContext⟩ :=
  if_neg (Bool.eq_false_iff.mp h)

/-- **THE SAME VARIANT** is executed… -/
theorem Command.execute_eq (d : Deps b W) (dpe : DpeInstance b) (locality : UInt32)
    (cmd : Command b) : cmd.execute d dpe locality
      = exec cmd.kind.layout cmd.kind.build (cmd.executeSerialized d dpe locality) := by
  cases cmd with
  | deriveContext cmd =>
      cases hexports : cmd.flags.exportsCdi with
      | true =>
          rw [kind_export hexports]
          exact if_pos hexports
      | false =>
          rw [kind_child hexports]
          exact if_neg (Bool.eq_false_iff.mp hexports)
  | certifyKey cmd => cases cmd <;> rfl
  | sign cmd => cases cmd <;> rfl
  | getProfile | initCtx | rotateCtx | destroyCtx | getCertificateChain
  | updateContextMeasurement => rfl

/-- … and read back. -/
theorem Response.tryReadFromBytes_eq (cmd : Command b) (bytes : Bytes) :
    tryReadFromBytes cmd bytes
      = readAs cmd.kind.layout cmd.kind.build (buffer b bytes) := by
  cases cmd with
  | deriveContext cmd =>
      cases hexports : cmd.flags.exportsCdi with
      | true =>
          rw [Command.kind_export hexports]
          exact if_pos hexports
      | false =>
          rw [Command.kind_child hexports]
          exact if_neg (Bool.eq_false_iff.mp hexports)
  | certifyKey cmd => cases cmd <;> rfl
  | sign cmd => cases cmd <;> rfl
  | getProfile | initCtx | rotateCtx | destroyCtx | getCertificateChain
  | updateContextMeasurement => rfl

/-- The buffer that responses are read from has room for each of them. -/
theorem Command.kind_size_le (cmd : Command b) :
    cmd.kind.layout.size ≤ Response.size b := by
  have hmem : ∀ {n : Nat} {l : List Nat}, n ∈ l → n ≤ l.foldr max 0 := by
    intro n l h
    induction l with
    | nil => cases h
    | cons m l ih =>
        rw [List.foldr_cons]
        rcases List.mem_cons.mp h with rfl | h
        · exact Nat.le_max_left _ _
        · exact (ih h).trans (Nat.le_max_right _ _)
  cases cmd with
  | deriveContext cmd =>
      cases hexports : cmd.flags.exportsCdi with
      | true =>
          rw [kind_export hexports]
          exact hmem (by simp)
      | false =>
          rw [kind_child hexports]
          exact hmem (by simp)
  | certifyKey cmd => cases cmd <;> exact hmem (by simp [kind])
  | sign cmd => cases cmd <;> exact hmem (by simp [kind])
  | getProfile | initCtx | rotateCtx | destroyCtx | getCertificateChain
  | updateContextMeasurement => exact hmem (by simp [kind])

/-! ## Reading out -/

/-- What `exec!` returns has been read out of the buffer that the command
    was run on. -/
theorem exec_ok {α : Type} {l : Layout α} {build : α → Response b} {run : M b W Nat}
    {env env' : Env b W} {r : Response b} (h : exec l build run env = .ok r env') :
    ∃ n env1 a, run { env with out := .slice (wordBuffer l.size) } = .ok n env1 ∧
      l.tryReadFromBytes env1.out.bytes = some a ∧ build a = r := by
  obtain ⟨⟨n, out⟩, env2, hbuffer, hread⟩ := run_bind h
  have hrun : ∃ env1, run { env with out := .slice (wordBuffer l.size) } = .ok n env1 ∧
      env1.out = out := by
    unfold withBuffer at hbuffer
    split at hbuffer
    · rename_i n' env1 hrun
      cases hbuffer
      exact ⟨env1, hrun, rfl⟩
    · cases hbuffer
  obtain ⟨env1, hrun, rfl⟩ := hrun
  refine ⟨n, env1, ?_⟩
  cases htry : l.tryReadFromBytes env1.out.bytes with
  | none =>
      simp only [htry] at hread
      cases hread
  | some a =>
      simp only [htry] at hread
      cases hread
      exact ⟨a, hrun, rfl, rfl⟩

/-- Behind what is written to a zeroed buffer there are zeros. -/
theorem Answered.zeros {env env' : Env b W} {bytes : Bytes} {n size : Nat}
    (h : Answered { env with out := .slice (.replicate size 0) } bytes n env') :
    env'.out.bytes = bytes ++ .replicate (size - bytes.length) 0 := by
  rw [h.out]
  show splice (List.replicate size 0) 0 bytes = _
  unfold splice
  rw [List.take_zero, List.nil_append, Nat.zero_add, List.drop_replicate]

namespace Response

/-- The bytes are those of the response, and they are read back as it. -/
structure Decodes (cmd : Command b) (r : Response b) (bs : Bytes) : Prop where
  encoded : r.asBytesPartial = .ok bs
  decoded : tryReadFromBytes cmd bs = .ok r

variable {cmd : Command b} {kind : ResponseKind b} {a : kind.α} {bs : Bytes} {k : Nat}

/-- Trimmed zeros are put back. -/
theorem decoded_of_trimmed (hkind : cmd.kind = kind)
    (h : kind.layout.tryReadFromBytes (bs ++ .replicate k 0) = some a) :
    tryReadFromBytes cmd bs = .ok (kind.build a) := by
  subst hkind
  obtain ⟨hlen, hvalid, hbytes⟩ := cmd.kind.layout.tryReadFromBytes_some h
  rw [List.length_append, List.length_replicate] at hlen
  have hroom := cmd.kind_size_le
  have hbuffer : buffer b bs
      = cmd.kind.layout.toBytes a ++ .replicate (size b - bs.length - k) 0 := by
    unfold buffer
    rw [hbytes, List.take_of_length_le (by omega), List.append_assoc,
      List.replicate_append_replicate]
    congr 2
    omega
  rw [tryReadFromBytes_eq, hbuffer]
  unfold readAs
  rw [cmd.kind.layout.ofBytes_append hvalid]

/-- A response without a certificate is all its bytes. -/
theorem decodes_fixed (hkind : cmd.kind = kind)
    (htrimmed : ∀ a, (kind.build a).asBytesPartial = .ok (kind.layout.toBytes a))
    (h : kind.layout.tryReadFromBytes bs = some a) :
    (kind.build a).Decodes cmd bs := by
  have hread : kind.layout.tryReadFromBytes (bs ++ .replicate 0 0) = some a := by
    rwa [List.replicate_zero, List.append_nil]
  refine ⟨?_, decoded_of_trimmed hkind hread⟩
  rw [htrimmed, (kind.layout.tryReadFromBytes_some h).2.2]

/-- It is exactly what has been written, if that fills it. -/
theorem decodes_filled (hkind : cmd.kind = kind)
    (htrimmed : ∀ a, (kind.build a).asBytesPartial = .ok (kind.layout.toBytes a))
    (hfull : bs.length = kind.layout.size)
    (h : kind.layout.tryReadFromBytes (bs ++ .replicate k 0) = some a) :
    (kind.build a).Decodes cmd bs := by
  have hlen := (kind.layout.tryReadFromBytes_some h).1
  rw [List.length_append, List.length_replicate, hfull] at hlen
  obtain rfl : k = 0 := by omega
  rw [List.replicate_zero, List.append_nil] at h
  exact decodes_fixed hkind htrimmed h

end Response

/-- The bytes of a structure that ends in a certificate, up to the end of
    the certificate. -/
theorem partialBytes_ok {header cert : Bytes} {size certSize k : Nat}
    (e : InternalErrorCode) (hsize : size = header.length + b.maxCertSize)
    (hcert : certSize = cert.length) :
    partialBytes b (header ++ cert ++ .replicate k 0) size certSize e
      = .ok (header ++ cert) := by
  unfold partialBytes
  have hlen : size - b.maxCertSize + certSize = (header ++ cert).length := by
    rw [List.length_append]
    omega
  simp only [hlen]
  rw [if_pos (List.prefix_append _ _).length_le, List.take_left]

/-- The header of every response is valid. -/
theorem DpeInstance.responseHdr_valid (dpe : DpeInstance b) (e : DpeErrorCode) :
    (ResponseHdr.layout b).Valid (dpe.responseHdr e) :=
  ⟨trivial, trivial, trivial, dpe.enabled⟩

namespace CertifyKeyBody

variable {profile : DpeProfile} {resp : CertifyKeyBody b} {hdr : CertifyKeyRespHdr}
  {cert : Bytes} {k : Nat}

/-- The header that is read is the one that was written. -/
theorem header_of_read (hvalid : (CertifyKeyRespHdr.layout b profile).Valid hdr)
    (h : (layout b profile).tryReadFromBytes (hdr.asBytes ++ cert ++ .replicate k 0)
      = some resp) : resp.header = hdr := by
  obtain ⟨-, hresp, hbytes⟩ := (layout b profile).tryReadFromBytes_some h
  rw [List.append_assoc, ← hdr.toBytes_layout] at hbytes
  have hread := (CertifyKeyRespHdr.layout b profile).ofBytes_append hresp.1
    resp.cert.toList
  have hwritten := (CertifyKeyRespHdr.layout b profile).ofBytes_append hvalid
    (cert ++ .replicate k 0)
  rw [← hbytes] at hwritten
  exact Option.some.inj (hread.symm.trans hwritten)

/-- It trims the response to what was written. -/
theorem partial_of_read (e : InternalErrorCode)
    (hvalid : (CertifyKeyRespHdr.layout b profile).Valid hdr)
    (hcert : hdr.certSize.toNat = cert.length)
    (h : (layout b profile).tryReadFromBytes (hdr.asBytes ++ cert ++ .replicate k 0)
      = some resp) :
    partialBytes b resp.asBytes (layout b profile).size resp.header.certSize.toNat e
      = .ok (hdr.asBytes ++ cert) := by
  have hlen := (CertifyKeyRespHdr.layout b profile).length_toBytes hdr hvalid
  rw [hdr.toBytes_layout] at hlen
  have hbytes : resp.asBytes = hdr.asBytes ++ cert ++ .replicate k 0 :=
    resp.toBytes_layout.symm.trans ((layout b profile).tryReadFromBytes_some h).2.2
  rw [header_of_read hvalid h, hbytes]
  refine partialBytes_ok e ?_ hcert
  rw [hlen]
  rfl

end CertifyKeyBody

namespace DeriveContextExportedCdiResp

variable {resp : DeriveContextExportedCdiResp b} {hdr : DeriveContextExportedCdiRespHdr}
  {cert : Bytes} {k : Nat}

theorem header_valid (h : (ResponseHdr.layout b).Valid hdr.respHdr) :
    (DeriveContextExportedCdiRespHdr.layout b).Valid hdr :=
  ⟨h, trivial, trivial, trivial, trivial⟩

theorem header_of_read (hvalid : (DeriveContextExportedCdiRespHdr.layout b).Valid hdr)
    (h : (layout b).tryReadFromBytes (hdr.asBytes ++ cert ++ .replicate k 0)
      = some resp) : resp.header = hdr := by
  obtain ⟨-, hresp, hbytes⟩ := (layout b).tryReadFromBytes_some h
  rw [List.append_assoc, ← hdr.toBytes_layout (b := b)] at hbytes
  have hread := (DeriveContextExportedCdiRespHdr.layout b).ofBytes_append hresp.1
    resp.newCertificate.toList
  have hwritten := (DeriveContextExportedCdiRespHdr.layout b).ofBytes_append hvalid
    (cert ++ .replicate k 0)
  rw [← hbytes] at hwritten
  exact Option.some.inj (hread.symm.trans hwritten)

theorem partial_of_read (hvalid : (DeriveContextExportedCdiRespHdr.layout b).Valid hdr)
    (hcert : hdr.certificateSize.toNat = cert.length)
    (h : (layout b).tryReadFromBytes (hdr.asBytes ++ cert ++ .replicate k 0)
      = some resp) : resp.asBytesPartial = .ok (hdr.asBytes ++ cert) := by
  have hlen := (DeriveContextExportedCdiRespHdr.layout b).length_toBytes hdr hvalid
  rw [hdr.toBytes_layout] at hlen
  unfold asBytesPartial
  rw [header_of_read hvalid h, ← resp.toBytes_layout,
    ((layout b).tryReadFromBytes_some h).2.2]
  refine partialBytes_ok _ ?_ hcert
  rw [hlen]
  rfl

end DeriveContextExportedCdiResp

/-! ## Replies -/

/-- The command is not answered with a signature. -/
def Command.unsigned : Command b → Bool
  | sign _ => false
  | getProfile _ | initCtx _ | deriveContext _ | certifyKey _ | rotateCtx _
  | destroyCtx _ | getCertificateChain _ | updateContextMeasurement _ => true

/-- Only an export is answered with an exported CDI. -/
theorem DeriveContextCmd.Accepted.exportsCdi {cmd : DeriveContextCmd b} {s : State b}
    {locality : UInt32} {parent : Fin b.maxHandles}
    (h : cmd.Accepted s locality parent)
    (hno : (cmd.flags.createsCertificate && cmd.flags.exportsCdi) = false) :
    cmd.flags.exportsCdi = false := by
  have hvalid := h.valid
  unfold invalid at hvalid
  cases hexports : cmd.flags.exportsCdi with
  | false => rfl
  | true =>
      rw [hexports, Bool.and_true] at hno
      rw [hexports, hno] at hvalid
      simp at hvalid

/-- **EVERY REPLY** but a signature is trimmed to what was written, and read
    back. -/
theorem Reply.decodes {d : Deps b W} {dpe : DpeInstance b} {s : State b}
    {locality : UInt32} {cmd : Command b} {draws : List (Vector UInt8 16)}
    {es : List (Edit b)} {bytes : Bytes} {k : Nat} {kind : ResponseKind b} {a : kind.α}
    (heffect : Effect d s locality cmd draws es) (hreply : Reply dpe s cmd es bytes)
    (hunsigned : cmd.unsigned = true) (hkind : cmd.kind = kind)
    (h : kind.layout.tryReadFromBytes (bytes ++ .replicate k 0) = some a) :
    (kind.build a).Decodes cmd bytes := by
  have hok : ∀ {x y : Bytes}, x = y → (Except.ok y : Except DpeErrorCode Bytes) = .ok x :=
    fun h => congrArg Except.ok h.symm
  cases hreply with
  | getProfile =>
      cases hkind
      exact Response.decodes_filled rfl (fun a => hok a.toBytes_layout) rfl h
  | getCertificateChain =>
      cases hkind
      exact Response.decodes_filled rfl (fun a => hok a.toBytes_layout)
        (GetCertificateChainResp.asBytes_length _) h
  | initCtx | rotateCtx =>
      cases hkind
      exact Response.decodes_filled rfl (fun a => hok a.toBytes_layout)
        (NewHandleResp.asBytes_length _) h
  | destroyCtx =>
      cases hkind
      exact Response.decodes_filled rfl (fun a => hok a.toBytes_layout) rfl h
  | sign => cases hunsigned
  | updateContextMeasurement =>
      cases hkind
      exact Response.decodes_filled rfl (fun a => hok a.toBytes_layout)
        (UpdateContextMeasurementResp.asBytes_length _) h
  | @certifyKey cmd idx handle pubKey pubkey cert certSize typed sized =>
      have hwidth : ∀ p : DpeProfile,
          CertifyKeyCommand.hdrSize p = 32 + p.pubkeySize := by
        rintro (_ | _ | _) <;> rfl
      have hlen := (CertifyKeyCommand.headerKey_length typed).trans (hwidth _)
      have hvalid : (CertifyKeyRespHdr.layout b cmd.profile).Valid
          { respHdr := dpe.responseHdr .noError
            newContextHandle := handle
            pubkey := pubkey
            certSize := certSize } :=
        ⟨dpe.responseHdr_valid _, trivial, Nat.add_left_cancel hlen, trivial⟩
      cases hkind
      cases cmd with
      | p256 | p384 | mldsa87 =>
          exact ⟨CertifyKeyBody.partial_of_read _ hvalid sized h,
            Response.decoded_of_trimmed rfl h⟩
  | recursive =>
      cases heffect with
      | recursive accepted isRecursive =>
          have hexports := accepted.exportsCdi
            (DeriveContextCmd.notExport_of_recursive accepted.valid isRecursive)
          rw [Command.kind_child hexports] at hkind
          cases hkind
          exact Response.decodes_filled (Command.kind_child hexports)
            (fun a => hok a.toBytes_layout) (DeriveContextResp.asBytes_length _) h
  | child =>
      cases heffect with
      | child accepted notExported =>
          have hexports := accepted.toAccepted.exportsCdi notExported
          rw [Command.kind_child hexports] at hkind
          cases hkind
          exact Response.decodes_filled (Command.kind_child hexports)
            (fun a => hok a.toBytes_layout) (DeriveContextResp.asBytes_length _) h
  | exported sized isExport resolves =>
      have hexports := (Bool.and_eq_true_iff.mp isExport).2
      rw [Command.kind_export hexports] at hkind
      cases hkind
      have hvalid := dpe.responseHdr_valid .noError
      exact ⟨DeriveContextExportedCdiResp.partial_of_read
          (DeriveContextExportedCdiResp.header_valid hvalid) sized h,
        Response.decoded_of_trimmed (Command.kind_export hexports) h⟩

/-! ## Signatures -/

/-- The algorithm a signature belongs to. -/
def Signature.alg : Signature → SignatureAlgorithm
  | ecdsa (.ecdsa256 _) => .ecdsa .bit256
  | ecdsa (.ecdsa384 _) => .ecdsa .bit384
  | mldsa _ => .mldsa

/-- From the world `w` on, a key pair that has been derived signs in the
    signature algorithm of the suite. -/
def Deps.SignsInKind (d : Deps b W) (w : W) : Prop :=
  ∀ w₁ cdi label info signer w₂ data sig w₃, d.Reaches w w₁ →
    d.crypto.deriveKeyPair cdi label info w₁ = (.ok signer, w₂) →
    d.crypto.sign signer data (.zeroed (d.crypto.signatureAlgorithm w)) w₂
      = (.ok sig, w₃) →
    sig.alg = d.crypto.signatureAlgorithm w

namespace SignCommand

variable {d : Deps b W} {dpe : DpeInstance b} {locality : UInt32}

/-- The width of a signature tells its algorithm. -/
theorem sigBytes_length {sig : Signature} {bytes : Bytes}
    (h : sigBytes b sig = .ok bytes) (p : DpeProfile) :
    bytes.length = p.sigSize ↔ p.alg = sig.alg := by
  have hlen : ∀ {c : Bool} {x : Bytes}, (if c = true then Except.ok x
      else Except.error DpeErrorCode.invalidArgument) = .ok bytes →
      bytes.length = x.length := by
    intro c x h
    split at h
    · cases h
      rfl
    · cases h
  rcases sig with (sig | sig) | sig
  · rw [hlen (show (if b.p256 = true then _ else _) = _ from h)]
    cases p <;> simp [Signature.alg, DpeProfile.sigSize, DpeProfile.alg]
  · rw [hlen (show (if b.p384 = true then _ else _) = _ from h)]
    cases p <;> simp [Signature.alg, DpeProfile.sigSize, DpeProfile.alg]
  · rw [hlen (show (if b.mlDsa = true then _ else _) = _ from h)]
    cases p <;> simp [Signature.alg, DpeProfile.sigSize, DpeProfile.alg]

/-- A call of the suite that returns. -/
theorem callCrypto_runs {α : Type} (f : W → Except CryptoError α × W) (env : Env b W) :
    Post (callCrypto f) env (fun a env' => f env.world = (.ok a, env'.world))
      (fun _ _ => True) := by
  refine .intro (fun a env' hrun => ?_) fun _ _ _ => trivial
  unfold callCrypto at hrun
  split at hrun
  · rename_i w hf
    cases hrun
    exact hf
  · cases hrun

/-- A signature is of the algorithm of the suite. -/
theorem sign_alg {env : Env b W} (hkind : d.SignsInKind env.world)
    (idx : Fin b.maxHandles) (label : Bytes) (data : SignData) :
    Post (sign d dpe idx label data) env
      (fun sig _ => sig.alg = d.crypto.signatureAlgorithm env.world)
      (fun _ _ => True) := by
  have hhash : Tame d.Reaches Stop.Reported (computeMeasurementHash d dpe idx) := by
    simp
  have hcdi : ∀ measurement, Tame d.Reaches Stop.Reported
      (callCrypto (d.crypto.deriveCdi measurement cdiLabel) : M b W _) := by
    simp
  refine Post.get_bind ?_
  refine Post.bind ((hhash.post env).mono (fun _ _ h => h) fun _ _ _ => trivial) ?_
  intro cdiDigest env1 h1
  refine Post.bind (((hcdi cdiDigest).post env1).mono (fun _ _ h => h)
    fun _ _ _ => trivial) ?_
  intro cdi env2 h2
  refine Post.bind (callCrypto_runs _ env2) fun signer env3 hsigner => ?_
  refine (callCrypto_runs _ env3).mono ?_ fun _ _ h => h
  intro sig env4 hsig
  exact hkind _ _ _ _ _ _ _ _ _ (trans_of d.Reaches h1 h2) hsigner hsig

/-- **THE NUMBER OF BYTES** that a Sign command returns tells the algorithm
    of the suite. -/
theorem executeSerialized_length (cmd : SignCommand) (env : Env b W)
    (hkind : d.SignsInKind env.world) :
    Post (cmd.executeSerialized d dpe locality) env
      (fun n _ => ∀ p : DpeProfile, n = 28 + p.sigSize
        ↔ p.alg = d.crypto.signatureAlgorithm env.world)
      (fun _ _ => True) := by
  refine orFail_bind (fun data _ => ?_) fun _ _ => trivial
  refine Post.get_bind ?_
  refine resolve_bind locality (fun idx _ => ?_) fun _ _ => trivial
  refine Post.rejectIf_bind (fun _ => trivial) fun _ => ?_
  refine Post.bind (sign_alg hkind idx cmd.label data) fun sig env1 halg => ?_
  refine Post.get_bind ?_
  refine Post.bind ((rollOnetimeUseHandle_spec d _ env1).mono (fun _ _ _ => trivial)
    fun _ _ _ => trivial) fun ctx env2 (_ : True) => ?_
  have hwrite : Post (writeResponse dpe sig ctx.handle : M b W Nat) env2
      (fun n _ => ∀ p : DpeProfile, n = 28 + p.sigSize
        ↔ p.alg = d.crypto.signatureAlgorithm env.world) (fun _ _ => True) := by
    refine orFail_bind (fun bytes hsized => ?_) fun _ _ => trivial
    refine Post.bind ((writeAt_spec 0 _ _ env2).mono (fun _ _ _ => trivial)
      fun _ _ _ => trivial) fun _ _ (_ : True) => Post.pure fun p => ?_
    rw [SignResp.asBytes_length, Nat.add_left_cancel_iff, sigBytes_length hsized, halg]
  exact Post.bind hwrite fun n env3 hn => Post.modify_bind (Post.pure hn)

/-- The response to a Sign command has the width of its variant. -/
theorem kind_size (cmd : SignCommand) :
    (Command.sign cmd : Command b).kind.layout.size = 28 + cmd.profile.sigSize := by
  cases cmd <;> rfl

theorem kind_trimmed (cmd : SignCommand) (a : (Command.sign cmd : Command b).kind.α) :
    ((Command.sign cmd : Command b).kind.build a).asBytesPartial
      = .ok ((Command.sign cmd : Command b).kind.layout.toBytes a) := by
  cases cmd <;> exact congrArg Except.ok a.toBytes_layout.symm

end SignCommand

/-! ## Every answer is a response -/

/-- The bytes begin with a response header. -/
def Headed (b : Build) (bytes : Bytes) : Prop :=
  ∃ hdr : ResponseHdr, b.has hdr.profile = true ∧ hdr.asBytes <+: bytes

theorem ContextHandle.total_layout : ContextHandle.layout.Total :=
  (total_bytes 16).view rfl (fun _ => rfl) fun v => ⟨⟨v⟩, rfl⟩

theorem ResponseHdr.reads_layout : (ResponseHdr.layout b).Reads (Headed b) := by
  rintro bs ⟨hdr, hhas, hfront⟩ -
  rw [← hdr.toBytes_layout (b := b)] at hfront
  exact ⟨hdr, ((layout b).ofBytes_iff bs hdr).mpr
    ⟨⟨trivial, trivial, trivial, hhas⟩, hfront⟩⟩

theorem CertifyKeyRespHdr.reads_layout (profile : DpeProfile) :
    (CertifyKeyRespHdr.layout b profile).Reads (Headed b) :=
  (ResponseHdr.reads_layout.seq (ContextHandle.total_layout.seq
    ((total_list _).seq total_word32))).view rfl (fun _ => rfl)
    fun (r, h, k, n) => ⟨⟨r, h, k, n⟩, rfl⟩

theorem CertifyKeyBody.reads_layout (profile : DpeProfile) :
    (CertifyKeyBody.layout b profile).Reads (Headed b) :=
  ((CertifyKeyRespHdr.reads_layout profile).seq (total_bytes _)).view rfl (fun _ => rfl)
    fun (h, c) => ⟨⟨h, c⟩, rfl⟩

theorem SignResp.reads_layout (profile : DpeProfile) :
    (SignResp.layout b profile).Reads (Headed b) :=
  (ResponseHdr.reads_layout.seq (ContextHandle.total_layout.seq
    (total_list _))).view rfl (fun _ => rfl) fun (r, h, s) => ⟨⟨r, h, s⟩, rfl⟩

theorem NewHandleResp.reads_layout : (NewHandleResp.layout b).Reads (Headed b) :=
  (ResponseHdr.reads_layout.seq ContextHandle.total_layout).view rfl (fun _ => rfl)
    fun (r, h) => ⟨⟨r, h⟩, rfl⟩

theorem DeriveContextResp.reads_layout : (DeriveContextResp.layout b).Reads (Headed b) :=
  (ResponseHdr.reads_layout.seq (ContextHandle.total_layout.seq
    ContextHandle.total_layout)).view rfl (fun _ => rfl)
    fun (r, h, p) => ⟨⟨r, h, p⟩, rfl⟩

theorem UpdateContextMeasurementResp.reads_layout :
    (UpdateContextMeasurementResp.layout b).Reads (Headed b) :=
  (ResponseHdr.reads_layout.seq (ContextHandle.total_layout.seq
    ContextHandle.total_layout)).view rfl (fun _ => rfl)
    fun (r, h, p) => ⟨⟨r, h, p⟩, rfl⟩

theorem GetProfileResp.reads_layout : (GetProfileResp.layout b).Reads (Headed b) :=
  (ResponseHdr.reads_layout.seq (total_word16.seq (total_word16.seq (total_word32.seq
    (total_word32.seq (total_word32.seq total_word32)))))).view rfl (fun _ => rfl)
    fun (r, m, n, i, s, t, f) => ⟨⟨r, m, n, i, s, t, f⟩, rfl⟩

theorem GetCertificateChainResp.reads_layout :
    (GetCertificateChainResp.layout b).Reads (Headed b) :=
  (ResponseHdr.reads_layout.seq (total_word32.seq (total_bytes _))).view rfl (fun _ => rfl)
    fun (r, n, c) => ⟨⟨r, n, c⟩, rfl⟩

theorem DeriveContextExportedCdiRespHdr.reads_layout :
    (DeriveContextExportedCdiRespHdr.layout b).Reads (Headed b) :=
  (ResponseHdr.reads_layout.seq (ContextHandle.total_layout.seq
    (ContextHandle.total_layout.seq ((total_bytes 32).seq total_word32)))).view rfl
    (fun _ => rfl) fun (r, h, p, e, n) => ⟨⟨r, h, p, e, n⟩, rfl⟩

theorem DeriveContextExportedCdiResp.reads_layout :
    (DeriveContextExportedCdiResp.layout b).Reads (Headed b) :=
  (DeriveContextExportedCdiRespHdr.reads_layout.seq (total_bytes _)).view rfl (fun _ => rfl)
    fun (h, c) => ⟨⟨h, c⟩, rfl⟩

/-- **EVERY BIT PATTERN** behind a header is a response to the command. -/
theorem Command.reads_kind (cmd : Command b) : cmd.kind.layout.Reads (Headed b) := by
  cases cmd with
  | getProfile => exact GetProfileResp.reads_layout
  | initCtx | rotateCtx => exact NewHandleResp.reads_layout
  | deriveContext cmd =>
      cases hexports : cmd.flags.exportsCdi with
      | true =>
          rw [kind_export hexports]
          exact DeriveContextExportedCdiResp.reads_layout
      | false =>
          rw [kind_child hexports]
          exact DeriveContextResp.reads_layout
  | certifyKey cmd => cases cmd <;> exact CertifyKeyBody.reads_layout _
  | sign cmd => cases cmd <;> exact SignResp.reads_layout _
  | destroyCtx => exact ResponseHdr.reads_layout
  | getCertificateChain => exact GetCertificateChainResp.reads_layout
  | updateContextMeasurement => exact UpdateContextMeasurementResp.reads_layout

/-- A header that the code writes. -/
theorem DpeInstance.headed (dpe : DpeInstance b) {bytes : Bytes}
    (h : (dpe.responseHdr .noError).asBytes <+: bytes) : Headed b bytes :=
  ⟨_, dpe.enabled, h⟩

/-- Every reply begins with the header of a success. -/
theorem Reply.header {dpe : DpeInstance b} {s : State b} {cmd : Command b}
    {es : List (Edit b)} {bytes : Bytes} (h : Reply dpe s cmd es bytes) :
    (dpe.responseHdr .noError).asBytes <+: bytes := by
  cases h with
  | destroyCtx => exact List.prefix_rfl
  | getProfile | getCertificateChain | initCtx | rotateCtx | sign | certifyKey
  | updateContextMeasurement | recursive | child | exported =>
      simp only [GetProfileResp.asBytes, GetProfileResp.new,
        GetCertificateChainResp.asBytes, NewHandleResp.asBytes, SignResp.asBytes,
        CertifyKeyRespHdr.asBytes, UpdateContextMeasurementResp.asBytes,
        DeriveContextResp.asBytes, DeriveContextExportedCdiRespHdr.asBytes,
        List.append_assoc]
      exact List.prefix_append _ _

/-! ## Execution -/

/-- The responses are whole words. -/
theorem Command.wordBuffer_kind (cmd : Command b) :
    wordBuffer cmd.kind.layout.size = .replicate cmd.kind.layout.size 0 := by
  have hcert : b.maxCertSize % 4 = 0 := Nat.mul_mod_left _ _
  have hwords : cmd.kind.layout.size % 4 = 0 := by
    cases cmd with
    | deriveContext cmd =>
        cases hexports : cmd.flags.exportsCdi with
        | true =>
            rw [kind_export hexports]
            show (12 + (16 + (16 + (32 + 4))) + b.maxCertSize) % 4 = 0
            omega
        | false =>
            rw [kind_child hexports]
            exact (rfl : 44 % 4 = 0)
    | certifyKey cmd =>
        have hsize : ∀ p : DpeProfile, (CertifyKeyBody.layout b p).size
            = 32 + p.pubkeySize + b.maxCertSize := by
          rintro (_ | _ | _) <;> rfl
        cases cmd <;> simp only [kind, hsize, DpeProfile.pubkeySize] <;> omega
    | sign cmd =>
        have hsig : ∀ p : DpeProfile, p.sigSize % 4 = 0 := by
          rintro (_ | _ | _) <;> rfl
        rw [cmd.kind_size]
        exact Nat.mod_eq_zero_of_dvd
          ((Nat.dvd_add_right (by decide)).mpr (Nat.dvd_of_mod_eq_zero (hsig _)))
    | getProfile => exact (rfl : 32 % 4 = 0)
    | initCtx | rotateCtx => exact (rfl : 28 % 4 = 0)
    | destroyCtx => exact (rfl : 12 % 4 = 0)
    | getCertificateChain => exact (rfl : 2064 % 4 = 0)
    | updateContextMeasurement => exact (rfl : 44 % 4 = 0)
  unfold wordBuffer
  congr 1
  omega

/-- The call that `execute` makes: the same, on zeros of the size of the
    response. -/
def Command.onResponse (cmd : Command b) (env : Env b W) : Env b W :=
  { env with out := .slice (.replicate cmd.kind.layout.size 0) }

/-- What `exec!` returns has been read out of the buffer that the command
    was run on. -/
theorem Command.execute_ok {d : Deps b W} {dpe : DpeInstance b} {locality : UInt32}
    {cmd : Command b} {env env' : Env b W} {r : Response b}
    (h : cmd.execute d dpe locality env = .ok r env') :
    ∃ n env1 a,
      cmd.executeSerialized d dpe locality (cmd.onResponse env) = .ok n env1 ∧
      cmd.kind.layout.tryReadFromBytes env1.out.bytes = some a ∧
      cmd.kind.build a = r := by
  rw [cmd.execute_eq] at h
  obtain ⟨n, env1, a, hrun, hread⟩ := exec_ok h
  rw [cmd.wordBuffer_kind] at hrun
  exact ⟨n, env1, a, hrun, hread⟩

section Execution

variable {d : Deps b W} {dpe : DpeInstance b} {locality : UInt32} {env env' : Env b W}

/-- A call that returns has answered on zeros. -/
theorem Command.answered_on_response {cmd : Command b} {n : Nat}
    (h : cmd.executeSerialized d dpe locality (cmd.onResponse env) = .ok n env')
    (hwell : env.state.WellFormed) :
    ∃ draws es bytes, Effect d env.state locality cmd draws es ∧
      Reply dpe env.state cmd es bytes ∧ n = bytes.length ∧
      bytes.length ≤ cmd.kind.layout.size ∧
      env'.out.bytes = bytes ++ .replicate (cmd.kind.layout.size - bytes.length) 0 := by
  obtain ⟨draws, es, bytes, heffect, -, hreply, hanswered⟩ :=
    (cmd.executeSerialized_spec d dpe locality (cmd.onResponse env) hwell).of_ok h
  refine ⟨draws, es, bytes, heffect, hreply, hanswered.count, ?_, hanswered.zeros⟩
  have hfits : bytes.length ≤ (List.replicate cmd.kind.layout.size (0 : UInt8)).length :=
    hanswered.fits
  rwa [List.length_replicate] at hfits

/-- The command asks for the signature algorithm, if it asks for a
    signature. -/
def Command.SignsWith (alg : SignatureAlgorithm) : Command b → Prop
  | sign cmd => cmd.profile.alg = alg
  | getProfile _ | initCtx _ | deriveContext _ | certifyKey _ | rotateCtx _
  | destroyCtx _ | getCertificateChain _ | updateContextMeasurement _ => True

theorem Command.signsWith_of_unsigned {cmd : Command b} (alg : SignatureAlgorithm)
    (h : cmd.unsigned = true) : cmd.SignsWith alg := by
  cases cmd with
  | sign => cases h
  | getProfile | initCtx | deriveContext | certifyKey | rotateCtx | destroyCtx
  | getCertificateChain | updateContextMeasurement => trivial

/-- A signature is read back exactly if it is of the algorithm that the
    command asks for: the widths of the others differ. -/
theorem SignCommand.decodes_iff (hkind : d.SignsInKind env.world)
    (hwell : env.state.WellFormed) {cmd : SignCommand} {n : Nat}
    {a : (Command.sign cmd : Command b).kind.α}
    (hrun : (Command.sign cmd).executeSerialized d dpe locality
      ((Command.sign cmd).onResponse env) = .ok n env')
    (hread : (Command.sign cmd).kind.layout.tryReadFromBytes env'.out.bytes = some a) :
    ((Command.sign cmd).kind.build a).Decodes (.sign cmd) (env'.out.bytes.take n)
      ↔ cmd.profile.alg = d.crypto.signatureAlgorithm env.world := by
  have hlen : ∀ p : DpeProfile, n = 28 + p.sigSize
      ↔ p.alg = d.crypto.signatureAlgorithm env.world :=
    (cmd.executeSerialized_length ((Command.sign cmd).onResponse env) hkind).of_ok hrun
  obtain ⟨-, -, bytes, -, -, hn, hfits, hout⟩ :=
    Command.answered_on_response hrun hwell
  have hbytes := (Command.sign cmd).kind.layout.tryReadFromBytes_some hread
  rw [← hlen, ← cmd.kind_size (b := b)]
  constructor
  · rintro ⟨hencoded, -⟩
    rw [cmd.kind_trimmed] at hencoded
    have htake := congrArg List.length (Except.ok.inj hencoded)
    rw [hbytes.2.2, List.length_take, hbytes.1] at htake
    omega
  · intro hfull
    rw [List.take_of_length_le (by rw [hbytes.1, hfull])]
    exact Response.decodes_fixed rfl cmd.kind_trimmed hread

/-- **A RESPONSE IS THE BYTES THAT WERE WRITTEN**: trimmed to its
    certificate it is what the command has written on a buffer of its size,
    and reading these bytes for the command gives the response.  A
    signature is the exception: it must be of the algorithm that the
    command asks for, which the library does not check. -/
theorem response_round_trip {cmd : Command b} {r : Response b}
    (hreach : Reachable env.state)
    (hkind : cmd.unsigned = false → d.SignsInKind env.world)
    (hrun : cmd.execute d dpe locality env = .ok r env') :
    ∃ n env1,
      cmd.executeSerialized d dpe locality (cmd.onResponse env) = .ok n env1 ∧
      (r.Decodes cmd (env1.out.bytes.take n)
        ↔ cmd.SignsWith (d.crypto.signatureAlgorithm env.world)) := by
  have hwell := hreach.wellFormed
  obtain ⟨n, env1, a, hserialized, hread, rfl⟩ := Command.execute_ok hrun
  refine ⟨n, env1, hserialized, ?_⟩
  cases hunsigned : cmd.unsigned with
  | true =>
      refine iff_of_true ?_ (Command.signsWith_of_unsigned _ hunsigned)
      obtain ⟨draws, es, bytes, heffect, hreply, hn, -, hout⟩ :=
        Command.answered_on_response hserialized hwell
      rw [hout] at hread ⊢
      rw [hn, List.take_left]
      exact hreply.decodes heffect hunsigned rfl hread
  | false =>
      cases cmd with
      | sign cmd => exact cmd.decodes_iff (hkind rfl) hwell hserialized hread
      | getProfile | initCtx | deriveContext | certifyKey | rotateCtx | destroyCtx
      | getCertificateChain | updateContextMeasurement => cases hunsigned

theorem sampleDeps_signsInKind (w : List UInt8) : sampleDeps.SignsInKind w := by
  intro _ _ _ _ _ _ _ _ _ _ _ hsig
  cases hsig
  rfl

/-- A P-384 signature of the sample. -/
theorem response_round_trip_sign :
    ∃ r env' n env1,
      Command.execute sampleDeps sampleDpe 1
        (.sign (.p384 .default (.replicate 48 0) 0 (.replicate 48 0)))
        (sampleEnv (played [sampleInit 1]) [] 0) = .ok r env' ∧
      Command.executeSerialized sampleDeps sampleDpe 1
        (.sign (.p384 .default (.replicate 48 0) 0 (.replicate 48 0)))
        (sampleEnv (played [sampleInit 1]) [] 124) = .ok n env1 ∧
      r.Decodes (.sign (.p384 .default (.replicate 48 0) 0 (.replicate 48 0)))
        (env1.out.bytes.take n) := by
  have hreach : Reachable (sampleEnv (played [sampleInit 1]) [] 0).state :=
    (reachable_played (by decide +kernel) : Reachable (played [sampleInit 1]))
  have hrun : ∃ r env', Command.execute sampleDeps sampleDpe 1
      (.sign (.p384 .default (.replicate 48 0) 0 (.replicate 48 0)))
      (sampleEnv (played [sampleInit 1]) [] 0) = .ok r env' := by
    exact ⟨_, _, eq_outcome (by decide +kernel)⟩
  obtain ⟨r, env', hrun⟩ := hrun
  obtain ⟨n, env1, hserialized, hiff⟩ :=
    response_round_trip hreach (fun _ => sampleDeps_signsInKind _) hrun
  exact ⟨r, env', n, env1, hrun, hserialized, hiff.mpr rfl⟩

/-- A command that returns on a buffer of the size of its response is
    executed, and the buffer of the caller is as it was. -/
theorem Command.execute_of_ok {cmd : Command b} {n : Nat} {env1 : Env b W}
    (hwell : env.state.WellFormed)
    (hrun : cmd.executeSerialized d dpe locality (cmd.onResponse env) = .ok n env1) :
    ∃ r, cmd.execute d dpe locality env = .ok r { env1 with out := env.out } := by
  obtain ⟨draws, es, bytes, heffect, hreply, hn, hfits, hout⟩ :=
    Command.answered_on_response hrun hwell
  have hheaded : Headed b env1.out.bytes := by
    rw [hout]
    exact dpe.headed (hreply.header.trans (List.prefix_append _ _))
  have hlen : env1.out.bytes.length = cmd.kind.layout.size := by
    rw [hout, List.length_append, List.length_replicate]
    omega
  obtain ⟨a, ha⟩ := cmd.reads_kind.tryReadFromBytes hheaded hlen
  refine ⟨cmd.kind.build a, ?_⟩
  rw [cmd.execute_eq]
  have hbuffer : withBuffer (wordBuffer cmd.kind.layout.size)
      (cmd.executeSerialized d dpe locality) env
      = .ok (n, env1.out) { env1 with out := env.out } := by
    unfold withBuffer
    rw [cmd.wordBuffer_kind]
    unfold Command.onResponse at hrun
    rw [hrun]
  refine (bind_of_ok hbuffer).trans ?_
  simp only [ha]
  rfl

theorem Command.execute_of_error {cmd : Command b} {e : Stop} {env1 : Env b W}
    (hrun : cmd.executeSerialized d dpe locality (cmd.onResponse env) = .error e env1) :
    cmd.execute d dpe locality env = .error e { env1 with out := env.out } := by
  rw [cmd.execute_eq]
  refine bind_of_error ?_
  unfold withBuffer
  rw [cmd.wordBuffer_kind]
  unfold Command.onResponse at hrun
  rw [hrun]

/-- **EVERY ANSWER IS READ**: `execute` returns a response exactly if the
    command returns on a buffer of its size, stops as it stops there, and
    leaves everything but the output buffer as it is left there.  In
    particular no response fails to be read. -/
theorem execute_total (d : Deps b W) (dpe : DpeInstance b) (locality : UInt32)
    (cmd : Command b) (hreach : Reachable env.state) :
    match cmd.executeSerialized d dpe locality (cmd.onResponse env) with
    | .ok _ env1 => ∃ r, cmd.execute d dpe locality env
        = .ok r { env1 with out := env.out }
    | .error e env1 => cmd.execute d dpe locality env
        = .error e { env1 with out := env.out } := by
  cases hrun : cmd.executeSerialized d dpe locality (cmd.onResponse env) with
  | error e env1 => exact Command.execute_of_error hrun
  | ok n env1 => exact Command.execute_of_ok hreach.wellFormed hrun

/-- A rotation is answered, and its answer is read. -/
theorem execute_total_rotate :
    ∃ r env', Command.execute sampleDeps sampleDpe 1 (.rotateCtx ⟨sampleHandle 5, 0⟩)
      (sampleEnv (played [sampleSimulation 1 5]) [9] 0) = .ok r env' := by
  have hreach : Reachable (sampleEnv (played [sampleSimulation 1 5]) [9] 0).state :=
    (reachable_played (by decide +kernel) : Reachable (played [sampleSimulation 1 5]))
  have hrun : ∃ n env1, Command.executeSerialized sampleDeps sampleDpe 1
      (.rotateCtx ⟨sampleHandle 5, 0⟩) (sampleEnv (played [sampleSimulation 1 5]) [9] 28)
      = .ok n env1 := ⟨_, _, eq_outcome (by decide +kernel)⟩
  obtain ⟨n, env1, hrun⟩ := hrun
  have htotal := execute_total sampleDeps sampleDpe 1 (.rotateCtx ⟨sampleHandle 5, 0⟩)
    hreach
  have hon : (Command.rotateCtx ⟨sampleHandle 5, 0⟩ : Command sampleBuild).onResponse
      (sampleEnv (played [sampleSimulation 1 5]) [9] 0)
      = sampleEnv (played [sampleSimulation 1 5]) [9] 28 := rfl
  rw [hon, hrun] at htotal
  obtain ⟨r, hr⟩ := htotal
  exact ⟨r, _, hr⟩

end Execution

end Dpe
