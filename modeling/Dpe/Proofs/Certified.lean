import Dpe.Proofs.Issuing
import Dpe.Proofs.Sample

/-! # What has been certified

    CertifyKey and the exporting DeriveContext answer with a certificate
    or a CSR behind a header.  This module puts the two side by side: the
    path that was walked, the digest, the key, and the tree of the
    certificate with its MultiTcbInfo. -/

namespace Dpe

open Der Forest Prog Tlv

variable {b : Build} {W : Type}

/-- The command answers with a certificate or a CSR. -/
def Command.certifies : Command b → Bool
  | certifyKey _ => true
  | deriveContext cmd => cmd.isExport
  | getProfile _ | initCtx _ | sign _ | rotateCtx _ | destroyCtx _
  | getCertificateChain _ | updateContextMeasurement _ => false

/-- The command has certified a key of the context at the end of the
    path, and `tree` is in its answer. -/
inductive Certified (d : Deps b W) (dpe : DpeInstance b) (locality : UInt32)
    (env : Env b W) (n : Nat) (env' : Env b W) : Command b → CertificateType →
      CertificateFormat → Fin b.maxHandles → List (Fin b.maxHandles) → Digest →
      PubKey → Tlv → Prop where
  | leaf {cmd : CertifyKeyCommand} {idx : Fin b.maxHandles}
      {l : List (Fin b.maxHandles)} {draws : List (Vector UInt8 16)}
      {handle : ContextHandle} {format : CertificateFormat}
      {r : CreateDpeCertResult} {digest : Digest}
      {measurements : MeasurementData b} {tree : Tlv} {pubkey : Bytes}
      (h : CertifyKeyCommand.Certifies d dpe locality env cmd n env' idx l draws
        handle format r digest measurements tree pubkey) :
      Certified d dpe locality env n env' (.certifyKey cmd) .leaf format idx l
        digest r.pubKey tree
  | exported {cmd : DeriveContextCmd b} {parent : Fin b.maxHandles}
      {l : List (Fin b.maxHandles)} {draws : List (Vector UInt8 16)}
      {es : List (Edit b)} {r : CreateDpeCertResult} {digest : Digest}
      {measurements : MeasurementData b} {tree : Tlv}
      (h : DeriveContextCmd.Exports d dpe locality env cmd n env' parent l draws es
        r digest measurements tree) :
      Certified d dpe locality env n env' (.deriveContext cmd) .exported .x509
        parent l digest r.pubKey tree

/-- **A CERTIFYING COMMAND** that returned has certified a key. -/
theorem Command.certified {d : Deps b W} {dpe : DpeInstance b} {locality : UInt32}
    {env env' : Env b W} {n : Nat} {cmd : Command b}
    (hrun : cmd.executeSerialized d dpe locality env = .ok n env')
    (h : env.state.WellFormed) (hcertifies : cmd.certifies = true) :
    ∃ certType format idx l digest pubKey tree, Certified d dpe locality env n env'
      cmd certType format idx l digest pubKey tree := by
  cases cmd with
  | certifyKey cmd =>
      obtain ⟨idx, l, draws, handle, format, r, digest, measurements, tree, pubkey,
        hcert⟩ := (cmd.executeSerialized_spec d dpe locality env h).of_ok hrun
      exact ⟨_, _, _, _, _, _, _, .leaf hcert⟩
  | deriveContext cmd =>
      obtain ⟨parent, l, draws, es, r, digest, measurements, tree, hexports⟩ :=
        ((cmd.executeSerialized_spec d dpe locality env h).of_ok hrun).2 hcertifies
      exact ⟨_, _, _, _, _, _, _, .exported hexports⟩
  | getProfile | initCtx | sign | rotateCtx | destroyCtx | getCertificateChain
  | updateContextMeasurement => cases hcertifies

namespace Certified

variable {d : Deps b W} {dpe : DpeInstance b} {locality : UInt32}
  {env env' : Env b W} {n : Nat} {cmd : Command b} {certType : CertificateType}
  {format : CertificateFormat} {idx : Fin b.maxHandles}
  {l : List (Fin b.maxHandles)} {digest : Digest} {pubKey : PubKey} {tree : Tlv}

/-- The creation behind the answer. -/
theorem created (h : Certified d dpe locality env n env' cmd certType format idx l
    digest pubKey tree) :
    ∃ base args r handle measurements window, Created d dpe (env.window base) args
      format certType l r digest handle measurements tree window ∧
      r.pubKey = pubKey := by
  cases h with
  | leaf h =>
      obtain ⟨handle, window, hcreated⟩ := h.created
      exact ⟨_, _, _, handle, _, window, hcreated, rfl⟩
  | exported h =>
      obtain ⟨ueid, handle, window, hcreated⟩ := h.created
      exact ⟨_, _, _, handle, _, window, hcreated, rfl⟩

theorem path (h : Certified d dpe locality env n env' cmd certType format idx l
    digest pubKey tree) : Path env.state.up idx l := by
  cases h with
  | leaf h => exact h.path
  | exported h => exact h.path

/-- The answer is a header and the bytes of the tree. -/
theorem answered (h : Certified d dpe locality env n env' cmd certType format idx l
    digest pubKey tree) :
    ∃ header, Answered env (header ++ tree.bytes) n env' := by
  cases h with
  | leaf h => exact ⟨_, h.answered⟩
  | exported h => exact ⟨_, h.answered⟩

end Certified

/-! ## Well nested certificates -/

section Issued

variable {signCb : SignCallback (Env b W)} {cfg : CertConfig} {pubKey : PubKey}
  {measurements : MeasurementData b} {first : TciNodeData b}
  {nodes : List (TciNodeData b)} {format : CertificateFormat} {tree : Tlv}

/-- What is issued is exact when its TcbInfos are as long as declared. -/
theorem Issued.exact_iff
    (h : Issued signCb cfg pubKey measurements first nodes format tree) :
    tree.Exact ↔ CertWriter.Uniform cfg.profile measurements.supportsRecursive first
      nodes := by
  cases h with
  | x509 => exact CertWriter.exact_signed _ _
  | csr => exact CertWriter.exact_cms _ _ _ _ _ _ _ _ _

end Issued

/-! ## A key to certify -/

/-- A child of the default context, with security version `svn`. -/
def sampleSvn (svn : UInt32) : SampleCall :=
  ⟨.command 1 (.deriveContext
    { handle := .default
      data := .replicate _ 1
      flags := ⟨DeriveContextFlags.MAKE_DEFAULT
        ||| DeriveContextFlags.INPUT_ALLOW_X509⟩
      tciType := 6
      targetLocality := 0
      svn := svn }), [], 44⟩

/-- The default context, whose security version is 0, and its child. -/
def sampleChain : State sampleBuild := played [sampleInit 1, sampleSvn 128]

theorem sampleChain_reachable : Reachable sampleChain :=
  reachable_played (by decide +kernel)

theorem sampleChain_shape :
    sampleChain.getActiveContextPos .default 1 = .ok (sampleSlot 1)
      ∧ sampleChain.up (sampleSlot 1) = some (sampleSlot 0)
      ∧ sampleChain.up (sampleSlot 0) = none := by
  decide +kernel

theorem sampleChain_position :
    sampleChain.getActiveContextPos .default 1 = .ok (sampleSlot 1) :=
  sampleChain_shape.1

theorem sampleChain_path (idx : Fin sampleBuild.maxHandles)
    (h : sampleChain.getActiveContextPos .default 1 = .ok idx) :
    Path sampleChain.up idx [sampleSlot 1, sampleSlot 0] := by
  cases sampleChain_position.symm.trans h
  exact .step sampleChain_shape.2.1 (.root sampleChain_shape.2.2)

/-- Certify the key of the context with the default handle. -/
def sampleCertify (format : UInt32) : CertifyKeyCommand :=
  .p384 ⟨.default, 0, format, .replicate 48 0⟩

/-- Certify the key of the child. -/
def sampleCertifyKey : Command sampleBuild := .certifyKey (sampleCertify 0)

/-- The certificate of the child, in a buffer that it fills. -/
def sampleCertificate : EStateM.Result Stop (Env sampleBuild (List UInt8)) Nat :=
  sampleCertifyKey.executeSerialized sampleDeps sampleDpe 1
    (sampleEnv sampleChain [] 913)

/-- The sample suite answers with the signature that it is given. -/
theorem sampleCrypto_answers {args : CreateDpeCertArgs} {digest : Digest}
    {handle : Option ExportedCdiHandle} {useDerived : Bool} {start : Nat}
    {bs : Bytes} {out : Signature} {env : Env sampleBuild (List UInt8)} :
    Answers (certSignCb sampleDeps args digest handle) useDerived start bs out env out
      env := by
  intro buf _
  cases useDerived with
  | false => rfl
  | true => cases handle <;> rfl

/-- A certificate that has been prepared is answered by the sample suite if
    it is long. -/
theorem sampleCrypto_answered {s : State sampleBuild} {args : CreateDpeCertArgs}
    {p : CertInputs sampleBuild} {base room : Nat} {idx : Fin sampleBuild.maxHandles}
    {l : List (Fin sampleBuild.maxHandles)} {window : Env sampleBuild (List UInt8)}
    (hwell : s.WellFormed)
    (hpos : s.getActiveContextPos args.handle args.locality = .ok idx)
    (hpath : Path s.up idx l)
    (hprepared : prepareCert sampleDeps sampleDpe args .x509 .leaf
      ((sampleEnv s [] room).window base) = .ok p window)
    (hserial : 20 ≤ p.subjectName.serial.bytes.length)
    (hkey : (CertWriter.payloadKey p.payload).compiled sampleBuild = true)
    (hpayload : CertWriter.Wide (CertWriter.payloadTree (args.config sampleDpe.profile)
      s.first.tci (nodesOf (s.chain l)) p.payload))
    (hsigned : CertWriter.Wide (CertWriter.signedTree (args.config sampleDpe.profile)
      s.first.tci (nodesOf (s.chain l)) p.payload p.sig)) :
    p.Answered sampleDeps sampleDpe args window s.first.tci (s.chain l)
      ⟨p.sig, window, p.sig, window⟩ := by
  have hspec : Prepared sampleDeps sampleDpe ((sampleEnv s [] room).window base) args
      .x509 .leaf l p :=
    ((prepareCert_spec sampleDeps sampleDpe .x509 .leaf
      ((sampleEnv s [] room).window base) hwell hpath hpos).of_ok hprepared).2
  have hvalid : (CertWriter.payloadMeasurements p.payload).tciNodes.Valid := by
    rw [CertInputs.payload_measurements]
    exact hspec.walks.valid
  refine ⟨hserial, hspec.walks, CertInputs.can_certificate hspec.format ?_⟩
  exact ⟨⟨hvalid, hkey, hpayload⟩, ⟨rfl, show 0 + 2 ≤ MAX_BACKTRACKS by decide⟩, hsigned,
    sampleCrypto_answers⟩

/-- The arguments of the certificate of the child. -/
def sampleArgs : CreateDpeCertArgs := (sampleCertify 0).certArgs sampleDpe sampleChain 1

/-- What is prepared for the certificate of the child. -/
def samplePrepared : EStateM.Result Stop
    (Env sampleBuild (List UInt8)) (CertInputs sampleBuild) :=
  prepareCert sampleDeps sampleDpe sampleArgs .x509 .leaf
    ((sampleEnv sampleChain [] 913).window 128)

theorem samplePrepared_some : (outcome samplePrepared).isSome = true := by
  decide +kernel

def sampleInputs : CertInputs sampleBuild :=
  ((outcome samplePrepared).get samplePrepared_some).1

def sampleWindow : Env sampleBuild (List UInt8) :=
  ((outcome samplePrepared).get samplePrepared_some).2

theorem samplePrepared_eq : samplePrepared = .ok sampleInputs sampleWindow :=
  eq_outcome samplePrepared_some

/-- The tree of the certificate. -/
def sampleTree : Tlv :=
  sampleInputs.tree (sampleArgs.config sampleDpe.profile) sampleChain.first.tci
    (nodesOf (sampleChain.chain [sampleSlot 1, sampleSlot 0]))
    ⟨sampleInputs.sig, sampleWindow, sampleInputs.sig, sampleWindow⟩

/-- The certificate is as long as the room for it, and its key has a
    header. -/
theorem sampleTree_size :
    sampleTree.size = 785 ∧ sampleWindow.out.capacity = 785 ∧
      (CertifyKeyCommand.headerKey .p384Sha384
        sampleInputs.key.1).toOption.isSome = true := by
  decide +kernel

/-- Nothing but the room is missing for the certificate. -/
theorem sampleInputs_answered :
    sampleInputs.Answered sampleDeps sampleDpe sampleArgs sampleWindow
      sampleChain.first.tci (sampleChain.chain [sampleSlot 1, sampleSlot 0])
      ⟨sampleInputs.sig, sampleWindow, sampleInputs.sig, sampleWindow⟩ := by
  have hpos : sampleChain.getActiveContextPos sampleArgs.handle sampleArgs.locality
      = .ok (sampleSlot 1) := sampleChain_position
  exact sampleCrypto_answered sampleChain_reachable.wellFormed hpos
    (sampleChain_path _ sampleChain_position) samplePrepared_eq (by decide +kernel)
    (by decide +kernel) (by decide +kernel) (by decide +kernel)

/-- The command returns a certificate that is answered and fits. -/
theorem sampleCertificate_fits {p : CertInputs sampleBuild}
    {window : Env sampleBuild (List UInt8)} {chain : List (Context sampleBuild)}
    {first : TciNodeData sampleBuild} {a : Replies (Env sampleBuild (List UInt8))}
    {pubkey : Bytes}
    (hprepared : prepareCert sampleDeps sampleDpe sampleArgs .x509 .leaf
      ((sampleEnv sampleChain [] 913).window 128) = .ok p window)
    (ha : p.Answered sampleDeps sampleDpe sampleArgs window first chain a)
    (hfits : (p.tree (sampleArgs.config sampleDpe.profile) first (nodesOf chain)
      a).size ≤ window.out.capacity)
    (hsmall : window.out.capacity < 2 ^ 32)
    (hkey : CertifyKeyCommand.headerKey .p384Sha384 p.key.1 = .ok pubkey) :
    ∃ env', sampleCertificate = .ok (128 + (p.tree (sampleArgs.config
      sampleDpe.profile) first (nodesOf chain) a).size) env' := by
  have hwell : (sampleEnv sampleChain [] 913).state.WellFormed :=
    sampleChain_reachable.wellFormed
  have hresolves : (sampleEnv sampleChain [] 913).state.getActiveContextPos
      (sampleCertify 0).handle 1 = .ok (sampleSlot 1) := sampleChain_position
  have hsupported : CertifyKeyCommand.formatUnsupported (sampleCertify 0).format
      (sampleEnv sampleChain [] 913).state.support = false := by
    decide +kernel
  have hallowed : ((sampleCertify 0).format == CertifyKeyCommand.FORMAT_X509
      && !((sampleEnv sampleChain [] 913).state.contexts (sampleSlot 1)).allowX509)
      = false := by
    decide +kernel
  have hdefault : ((sampleEnv sampleChain [] 913).state.contexts
      (sampleSlot 1)).handle = .default := by
    decide +kernel
  have hroom : 128 ≤ (sampleEnv sampleChain [] 913).out.capacity := by decide +kernel
  exact CertifyKeyCommand.executeSerialized_returns hwell hresolves hsupported hallowed
    rfl rfl hprepared ha hfits hsmall hdefault hkey hroom

theorem sampleInputs_key : ∃ pubkey,
    CertifyKeyCommand.headerKey .p384Sha384 sampleInputs.key.1 = .ok pubkey := by
  have hok := sampleTree_size.2.2
  cases hheader : CertifyKeyCommand.headerKey .p384Sha384 sampleInputs.key.1 with
  | ok pubkey => exact ⟨pubkey, rfl⟩
  | error =>
      rw [hheader] at hok
      cases hok

/-- The certificate and its header are the answer. -/
theorem sampleCertificate_returns :
    sampleCertificate = .ok 913 (ending sampleCertificate) := by
  have hsize : (sampleInputs.tree (sampleArgs.config sampleDpe.profile)
      sampleChain.first.tci (nodesOf (sampleChain.chain [sampleSlot 1, sampleSlot 0]))
      ⟨sampleInputs.sig, sampleWindow, sampleInputs.sig, sampleWindow⟩).size = 785 :=
    sampleTree_size.1
  have hcapacity := sampleTree_size.2.1
  obtain ⟨pubkey, hkey⟩ := sampleInputs_key
  obtain ⟨env', hreturns⟩ := sampleCertificate_fits samplePrepared_eq
    sampleInputs_answered (hsize.trans hcapacity.symm).le
    (hcapacity.trans_lt (by decide)) hkey
  rw [hsize] at hreturns
  exact ending_of_ok hreturns

end Dpe
