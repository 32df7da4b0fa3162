import Dpe.Proofs.MeasurementHash
import Dpe.Proofs.Cms

/-! # Creating a certificate

    What a creation keeps, and what it has done when it returns: it has
    hashed the path of the context, derived a key from the digest, and
    written the tree of a certificate or CSR for that key and that path
    to the start of the output buffer. -/

namespace Dpe

open Der Forest Prog

variable {b : Build} {W : Type} (d : Deps b W) (dpe : DpeInstance b)

/-! ## Frames -/

theorem quiet_derivePubKey (measurement : Digest)
    (info label derivedInfo : Bytes) (out : PubKey) :
    Quiet (derivePubKey d measurement info label derivedInfo out) :=
  (Quiet.crypto _).bind fun _ => (Quiet.crypto _).bind fun _ => .crypto _

theorem quiet_signWithDerived (measurement : Digest)
    (info label derivedInfo : Bytes) (data : SignData) (out : Signature) :
    Quiet (signWithDerived d measurement info label derivedInfo data out) :=
  (Quiet.crypto _).bind fun _ => (Quiet.crypto _).bind fun _ => .crypto _

theorem quiet_signWithExported (handle : ExportedCdiHandle)
    (label info : Bytes) (data : SignData) (out : Signature) :
    Quiet (signWithExported d handle label info data out) :=
  (Quiet.crypto _).bind fun _ => .crypto _

theorem quiet_deriveCertKey (args : CreateDpeCertArgs)
    (certType : CertificateType) (digest : Digest) :
    Quiet (deriveCertKey d dpe args certType digest) := by
  cases certType with
  | leaf => exact (quiet_derivePubKey d _ _ _ _ _).bind fun _ => .pure _
  | exported =>
      exact (Quiet.crypto _).bind fun _ => (Quiet.crypto _).bind fun _ =>
        (Quiet.crypto _).bind fun _ => .pure _

theorem quiet_hashPubKey (pubKey : PubKey) : Quiet (hashPubKey d pubKey) := by
  cases pubKey with
  | ecdsa key => exact quiet_hashAll d _
  | mldsa key => exact quiet_hashAll d _

theorem keeps_getPubkeySerial (pubKey : PubKey) (len : Nat) :
    Keeps Env.own (getPubkeySerial d pubKey len) :=
  Keeps.get.bind fun _ => (keeps_reject _ _).bind fun _ =>
    (keeps_reject _ _).bind fun _ => (quiet_hashPubKey d pubKey).keeps.bind
      fun _ => (keeps_reject _ _).bind fun _ => .pure _

theorem keeps_getSubjectName (certType : CertificateType) (pubKey : PubKey) :
    Keeps Env.own (getSubjectName d certType pubKey) :=
  (keeps_getPubkeySerial d pubKey _).bind fun _ => .pure _

theorem keeps_getSubjectKeyIdentifier (pubKey : PubKey) :
    Keeps Env.own (getSubjectKeyIdentifier d pubKey) := by
  refine (quiet_hashPubKey d pubKey).keeps.bind fun digest => ?_
  split
  · exact .throw _
  · exact .pure _

theorem keeps_getSubjectAltName : Keeps Env.own (getSubjectAltName d) := by
  refine (keeps_tryPlatform _).bind fun r => ?_
  split
  · exact .pure _
  · exact .pure _
  · exact .throw _

theorem keeps_getIssuerName : Keeps Env.own (getIssuerName d) :=
  (keeps_callPlatform _).bind fun _ => (keeps_reject _ _).bind fun _ => .pure _

theorem keeps_getFormatArgs (certFormat : CertificateFormat) :
    Keeps Env.own (getFormatArgs d certFormat) := by
  refine (keeps_callPlatform _).bind fun _ => (keeps_callPlatform _).bind
    fun _ => ?_
  cases certFormat with
  | x509 => exact (keeps_getIssuerName d).bind fun _ => .pure _
  | csr => exact .pure _

/-- What the signing callback keeps: the environment it runs in has the
    output buffer of before the certificate. -/
def Env.signing (env : Env b W) : State b × List (Vector UInt8 16) :=
  (env.state, env.drawn)

theorem callbackKeeps_certSignCb (args : CreateDpeCertArgs) (digest : Digest)
    (handle : Option ExportedCdiHandle) :
    CertWriter.CallbackKeeps Env.signing (certSignCb d args digest handle) := by
  have hsigning : ∀ {m : M b W Signature}, Quiet m → Keeps Env.signing m :=
    fun h => h.keeps.comp fun own => (own.1, own.2.2)
  intro buf start stop useDerived out
  refine hsigning ?_
  unfold certSignCb
  dsimp only
  split
  · split
    · exact quiet_signWithExported d _ _ _ _ _
    · exact quiet_signWithDerived d _ _ _ _ _ _
  · exact .crypto _

/-! ## Keys -/

/-- The key pair of a digest, a label and a context string. -/
def Derives (cdiInfo label context : Bytes) (digest : Digest)
    (signer : d.crypto.Signer) : Prop :=
  ∃ cdi, Returned (d.crypto.deriveCdi digest cdiInfo) cdi ∧
    Returned (d.crypto.deriveKeyPair cdi label context) signer

/-- The key a certificate is made for, and the exported CDI it is derived
    from if there is one. -/
inductive CertKey (args : CreateDpeCertArgs) (digest : Digest) :
    CertificateType → PubKey → Option ExportedCdiHandle → Prop where
  | leaf {signer : d.crypto.Signer} {pubKey : PubKey}
      (hsigner : Derives d args.cdiLabel args.keyLabel args.context digest
        signer)
      (hkey : Returned (d.crypto.publicKey signer (.zeroed dpe.profile)) pubKey) :
      CertKey args digest .leaf pubKey none
  | exported {handle : ExportedCdiHandle} {signer : d.crypto.Signer}
      {pubKey : PubKey}
      (hhandle : Returned (d.crypto.deriveExportedCdi digest args.cdiLabel)
        handle)
      (hsigner : Returned (d.crypto.deriveKeyPairExported handle args.keyLabel
        args.context) signer)
      (hkey : Returned (d.crypto.publicKey signer (.zeroed dpe.profile)) pubKey) :
      CertKey args digest .exported pubKey (some handle)

theorem deriveCertKey_result (args : CreateDpeCertArgs)
    (certType : CertificateType) (digest : Digest) (env : Env b W) :
    Post (deriveCertKey d dpe args certType digest) env
      (fun key _ => CertKey d dpe args digest certType key.1 key.2)
      (fun _ _ => True) := by
  cases certType with
  | leaf =>
      have hderive : Post (derivePubKey d digest args.cdiLabel args.keyLabel
          args.context (.zeroed dpe.profile)) env
          (fun pubKey _ => CertKey d dpe args digest .leaf pubKey none)
          (fun _ _ => True) := by
        refine Post.bind (callCrypto_result _ env) ?_
        rintro cdi env1 ⟨hcdi, -⟩
        refine Post.bind (callCrypto_result _ env1) ?_
        rintro signer env2 ⟨hsigner, -⟩
        refine (callCrypto_result _ env2).mono ?_ (fun _ _ h => h)
        rintro pubKey _ ⟨hkey, -⟩
        exact .leaf ⟨cdi, hcdi, hsigner⟩ hkey
      exact Post.bind hderive fun _ _ h => Post.pure h
  | exported =>
      refine Post.bind (callCrypto_result _ env) ?_
      rintro handle env1 ⟨hhandle, -⟩
      refine Post.bind (callCrypto_result _ env1) ?_
      rintro signer env2 ⟨hsigner, -⟩
      refine Post.bind (callCrypto_result _ env2) ?_
      rintro pubKey env3 ⟨hkey, -⟩
      exact Post.pure (.exported hhandle hsigner hkey)

/-- Signing with the derived key of a leaf: the key pair is that of the
    digest. -/
theorem signedOver_derived {args : CreateDpeCertArgs} {digest : Digest}
    {bs : Bytes} {sig : Signature}
    (h : SignedOver (certSignCb d args digest none) true bs sig) :
    ∃ signer buf start stop out,
      Derives d args.cdiLabel args.keyLabel args.context digest signer ∧
      buf.readRange start stop = .ok bs ∧
      Returned (d.crypto.sign signer (.responseBuffer buf start stop) out)
        sig := by
  obtain ⟨buf, start, stop, out, env, env', hrun, hread⟩ := h
  have hpost : Post (signWithDerived d digest args.cdiLabel args.keyLabel
      args.context (.responseBuffer buf start stop) out) env
      (fun sig _ => ∃ signer,
        Derives d args.cdiLabel args.keyLabel args.context digest signer ∧
        Returned (d.crypto.sign signer (.responseBuffer buf start stop) out) sig)
      (fun _ _ => True) := by
    refine Post.bind (callCrypto_result _ env) ?_
    rintro cdi env1 ⟨hcdi, -⟩
    refine Post.bind (callCrypto_result _ env1) ?_
    rintro signer env2 ⟨hsigner, -⟩
    refine (callCrypto_result _ env2).mono ?_ (fun _ _ h => h)
    rintro sig _ ⟨hsig, -⟩
    exact ⟨signer, ⟨cdi, hcdi, hsigner⟩, hsig⟩
  obtain ⟨signer, hsigner, hsig⟩ := hpost.of_ok hrun
  exact ⟨signer, buf, start, stop, out, hsigner, hread, hsig⟩

/-! ## What is issued -/

/-- The tree of a certificate or a CSR: of what it is made, and what its
    signatures are over. -/
inductive Issued (signCb : SignCallback (Env b W)) (cfg : CertConfig)
    (pubKey : PubKey) (measurements : MeasurementData b)
    (first : TciNodeData b) (nodes : List (TciNodeData b)) :
    CertificateFormat → Tlv → Prop where
  | x509 {serialNumber issuerName : Bytes} {subjectName : Name}
      {validity : CertValidity} {sig : Signature}
      (signed : SignedOver signCb false (CertWriter.tbsTree cfg serialNumber
        issuerName subjectName pubKey measurements validity first nodes).bytes
        sig) :
      Issued signCb cfg pubKey measurements first nodes .x509
        (CertWriter.signedTree cfg first nodes (.tbs serialNumber issuerName
          subjectName pubKey measurements validity) sig)
  | csr {subjectName : Name} {sid : SignerIdentifier b}
      {csrSig sig : Signature}
      (csrSigned : CertWriter.CsrSigned signCb cfg pubKey subjectName
        measurements first nodes csrSig)
      (signed : SignedOver signCb false (CertWriter.csrTree cfg pubKey
        subjectName measurements first nodes csrSig).bytes sig) :
      Issued signCb cfg pubKey measurements first nodes .csr
        (CertWriter.cmsTree cfg pubKey subjectName measurements sid first nodes
          csrSig sig)

/-- The bytes of `tree` are at the start of the output buffer. -/
structure Emitted (env : Env b W) (tree : Tlv) (env' : Env b W) : Prop where
  fits : tree.size ≤ env.out.capacity
  bytes : env'.out.bytes = Splice.splice env.out.bytes 0 tree.bytes

/-- Running an encoder on the output buffer. -/
theorem runEncoder_spec {m : EncM (Env b W) Nat} {sig : Signature}
    {env : Env b W} {p : Tlv → Prop}
    (hm : ∀ s : Enc (Env b W), Post m s
      (fun n s' => ∃ tree, p tree ∧ n = tree.size ∧ Fits n s ∧
        Wrote s.writer tree.bytes s'.writer ∧ s'.env.signing = s.env.signing)
      (fun _ s' => s'.writer.certificate.shape = s.writer.certificate.shape ∧
        s'.env.signing = s.env.signing)) :
    Post (runEncoder sig m) env
      (fun n env' => env'.settled = env.settled ∧
        ∃ tree, p tree ∧ n = tree.size ∧ Emitted env tree env')
      (fun _ env' => env'.settled = env.settled) := by
  have hpost := hm { writer := .new env.out, sig := sig, env := env }
  have hsettled : ∀ s' : Enc (Env b W), s'.writer.certificate.shape = env.out.shape →
      s'.env.signing = env.signing →
      Env.settled { s'.env with out := s'.writer.certificate }
        = env.settled := by
    intro s' hshape hsigning
    obtain ⟨hstate, hdrawn⟩ := Prod.ext_iff.mp hsigning
    exact Prod.ext hstate (Prod.ext hshape hdrawn)
  refine ⟨?_⟩
  unfold runEncoder
  cases hr : m { writer := .new env.out, sig := sig, env := env } with
  | ok n s' =>
      obtain ⟨tree, hp, hn, hfits, hwrote, hsigning⟩ := hpost.of_ok hr
      have hcap : tree.size ≤ env.out.capacity := by
        have hcap := hfits
        rw [hn] at hcap
        exact Nat.le_trans (Nat.le_add_left ..) hcap
      refine ⟨hsettled s' hwrote.shape hsigning, tree, hp, hn, hcap, ?_⟩
      refine hwrote.bytes ?_
      rw [hwrote.offset]
      show 0 + tree.bytes.length ≤ env.out.capacity
      rw [Tlv.length_bytes, Nat.zero_add]
      exact hcap
  | error e s' =>
      obtain ⟨hshape, hsigning⟩ := hpost.of_error hr
      exact hsettled s' hshape hsigning

section Create

variable {cfg : CertConfig} {pubKey : PubKey} {measurements : MeasurementData b}
  {first : TciNodeData b} {chain : List (Context b)}
  {signCb : SignCallback (Env b W)}

theorem tryU32_result (n : Nat) (e : InternalErrorCode) (env : Env b W) :
    Post (tryU32 n e) env
      (fun r env' => r.toNat = n ∧ env' = env) (fun _ env' => env' = env) := by
  refine Post.rejectIf_bind (fun _ => rfl) fun hlt => Post.pure ⟨?_, rfl⟩
  rw [UInt32.toNat_ofNat']
  exact Nat.mod_eq_of_lt (Nat.lt_of_not_le (by simpa using hlt))

/-- The size of what has been written, as a response carries it. -/
theorem sized_result {m : M b W Nat} {e : InternalErrorCode} {env : Env b W}
    {p : Tlv → Prop}
    (hm : Post m env
      (fun n env' => env'.settled = env.settled ∧
        ∃ tree, p tree ∧ n = tree.size ∧ Emitted env tree env')
      (fun _ env' => env'.settled = env.settled)) :
    Post (m >>= fun bytesWritten => tryU32 bytesWritten e) env
      (fun size env' => env'.settled = env.settled ∧
        ∃ tree, p tree ∧ size.toNat = tree.size ∧ Emitted env tree env')
      (fun _ env' => env'.settled = env.settled) := by
  refine Post.bind hm ?_
  rintro n env1 ⟨hsettled, tree, hp, rfl, hemitted⟩
  refine (tryU32_result _ e env1).mono ?_ ?_
  · rintro size env2 ⟨hsize, rfl⟩
    exact ⟨hsettled, tree, hp, hsize, hemitted⟩
  · rintro _ env2 rfl
    exact hsettled

def CertOrCsrArgs.format : CertOrCsrArgs b → CertificateFormat
  | cert .. => .x509
  | csr .. => .csr

/-- **GENERATING** a certificate or a CSR writes its tree. -/
theorem generateCertOrCsr_spec
    (hcb : CertWriter.CallbackKeeps Env.signing signCb)
    (h : Walks measurements.tciNodes first chain) (formatArgs : CertOrCsrArgs b)
    (subjectName : Name) (sig : Signature) (env : Env b W) :
    Post (generateCertOrCsr formatArgs cfg subjectName pubKey measurements
        signCb sig) env
      (fun size env' => env'.settled = env.settled ∧
        ∃ tree, Issued signCb cfg pubKey measurements first (nodesOf chain)
          formatArgs.format tree ∧ size.toNat = tree.size ∧
          Emitted env tree env')
      (fun _ env' => env'.settled = env.settled) := by
  cases formatArgs with
  | cert issuerName certValidity =>
      refine Post.rejectIf_bind (fun _ => rfl) fun _ => ?_
      refine sized_result (runEncoder_spec fun s => ?_)
      refine (CertWriter.encodeCertificate_spec (fun _ => h) _ issuerName
        subjectName pubKey certValidity s s.sig s.env).mono ?_ ?_
      · rintro n s' ⟨hfits, sig, env1, c, happended⟩
        have hsigning := Called.keeps hcb (Called.single happended.signs.made
          happended.signs.handed)
        exact ⟨_, .x509 happended.signs.signedOver, happended.size, hfits,
          happended.grew.opened.toWrote,
          (congrArg Env.signing happended.grew.env).trans hsigning⟩
      · intro e s' hlost
        exact ⟨hlost.shape, Called.keeps hcb hlost.env⟩
  | csr signerIdentifier =>
      refine sized_result (runEncoder_spec fun s => ?_)
      refine (CertWriter.encodeCms_spec (fun _ => h) pubKey subjectName
        signerIdentifier s s.sig s.env s.sig s.env).mono ?_ ?_
      · rintro n s' ⟨csrSig, env1, c1, sig, env2, c2, happended⟩
        have hsigning := (Called.keeps hcb (Called.single happended.signs.made
          happended.signs.handed)).trans (Called.keeps hcb (Called.single
            happended.csrSigns.made happended.csrSigns.handed))
        exact ⟨_, .csr happended.csrSigns.signedOver happended.signs.signedOver,
          happended.size, happended.fits, happended.grew.opened.toWrote,
          (congrArg Env.signing happended.grew.env).trans hsigning⟩
      · intro e s' hlost
        exact ⟨hlost.shape, Called.keeps hcb hlost.env⟩

end Create

/-! ## The whole creation -/

/-- The context of the first slot. -/
def State.first (s : State b) : Context b := s.contexts ⟨0, b.maxHandles_pos⟩

section Whole

variable {i : Fin b.maxHandles} {l : List (Fin b.maxHandles)}

/-- The nodes of a live context are its path. -/
theorem tciNodes_spec {s : State b} (h : s.WellFormed) (hpath : Path s.up i l)
    (hlive : s.Live i) :
    TciNodes.new i.val s.slice = .ok ⟨i.val, s.slice⟩ ∧
      Walks ⟨i.val, s.slice⟩ s.first.tci (s.chain l) := by
  obtain ⟨it, hit, hcontexts, hpathlen, hitems⟩ :=
    RootToChildIter.new_path h hpath hlive
  have hlen := hpath.length_le
  rw [Fintype.card_fin] at hlen
  have hcount : ¬ it.items.length > b.maxHandles := by
    rw [hitems, State.chain]
    simp only [List.length_map, List.length_reverse]
    omega
  refine ⟨?_, ?_, it, hit, hitems, ?_, s.first, ?_, rfl⟩
  · unfold TciNodes.new TciNodes.iter
    dsimp only
    rw [hit]
    exact if_neg hcount
  · rw [State.chain]
    have hmem := List.mem_reverse.mpr hpath.mem_self
    exact List.ne_nil_of_mem (List.mem_map_of_mem hmem)
  · rw [hpathlen, State.chain, List.length_map, List.length_reverse]
  · have hfirst := State.slice_getElem? s ⟨0, b.maxHandles_pos⟩
    unfold RootToChildIter.firstNode
    rw [hcontexts, List.head?_eq_getElem?, hfirst]
    rfl

/-- Whether the entries of a certificate carry the cumulative TCI. -/
def CertificateType.showsCumulative (support : Support) :
    CertificateType → Bool
  | leaf => support.recursive
  | exported => false

/-- What a successful creation has done. -/
structure Created (env : Env b W) (args : CreateDpeCertArgs)
    (certFormat : CertificateFormat) (certType : CertificateType)
    (l : List (Fin b.maxHandles)) (r : CreateDpeCertResult) (digest : Digest)
    (handle : Option ExportedCdiHandle) (measurements : MeasurementData b)
    (tree : Tlv) (env' : Env b W) : Prop where
  hashed : ∃ bs, Transcript d dpe env.state.support (env.state.chain l) bs ∧
    Returned (d.crypto.hasherFinish bs) digest
  key : CertKey d dpe args digest certType r.pubKey handle
  exportedCdi : r.exportedCdiHandle = handle.getD (.replicate 32 0)
  recursive : measurements.supportsRecursive
    = certType.showsCumulative env.state.support
  issued : Issued (certSignCb d args digest handle)
    ⟨dpe.profile, args.diceExtensionsAreCritical⟩ r.pubKey measurements
    env.state.first.tci (nodesOf (env.state.chain l)) certFormat tree
  size : r.certSize.toNat = tree.size
  emitted : Emitted env tree env'

/-- A creation is about the state and the output buffer it started
    from. -/
theorem Created.congr {env env2 env' : Env b W} {args : CreateDpeCertArgs}
    {certFormat : CertificateFormat} {certType : CertificateType}
    {r : CreateDpeCertResult} {digest : Digest}
    {handle : Option ExportedCdiHandle} {measurements : MeasurementData b}
    {tree : Tlv}
    (h : Created d dpe env2 args certFormat certType l r digest handle
      measurements tree env')
    (hstate : env2.state = env.state) (hout : env2.out = env.out) :
    Created d dpe env args certFormat certType l r digest handle measurements
      tree env' where
  hashed := hstate ▸ h.hashed
  key := h.key
  exportedCdi := h.exportedCdi
  recursive := hstate ▸ h.recursive
  issued := hstate ▸ h.issued
  size := h.size
  emitted := ⟨hout ▸ h.emitted.fits, hout ▸ h.emitted.bytes⟩

theorem getFormatArgs_result (certFormat : CertificateFormat)
    (env : Env b W) :
    Post (getFormatArgs d certFormat) env
      (fun formatArgs _ => formatArgs.format = certFormat)
      (fun _ _ => True) := by
  refine Post.bind (callPlatform_result _ env) fun _ env1 _ => ?_
  refine Post.bind (callPlatform_result _ env1) fun _ env2 _ => ?_
  cases certFormat with
  | x509 =>
      have hname := (keeps_getIssuerName d env2).mono
        (fun _ _ _ => trivial) (fun _ _ _ => trivial)
      exact Post.bind (hname : Post _ _ (fun _ _ => True) (fun _ _ => True))
        fun _ _ _ => Post.pure rfl
  | csr => exact Post.pure rfl

theorem getMeasurements_spec {args : CreateDpeCertArgs}
    (certType : CertificateType) (pubKey : PubKey) (env : Env b W)
    (h : env.state.WellFormed) (hpath : Path env.state.up i l)
    (hpos : env.state.getActiveContextPos args.handle args.locality = .ok i) :
    Post (getMeasurements d args certType pubKey) env
      (fun m env' => env'.own = env.own ∧
        Walks m.tciNodes env.state.first.tci (env.state.chain l) ∧
        m.supportsRecursive = certType.showsCumulative env.state.support)
      (fun _ env' => env'.own = env.own) := by
  obtain ⟨hnodes, hwalks⟩ :=
    tciNodes_spec h hpath (State.live_of_resolves hpos)
  refine Post.bind (keeps_getSubjectKeyIdentifier d pubKey env) ?_
  intro ski env1 h1
  refine Post.bind ((keeps_callPlatform _ env1).mono (fun _ _ h => h.trans h1)
    (fun _ _ h => h.trans h1)) ?_
  intro aki env2 h2
  refine Post.bind ((keeps_getSubjectAltName d env2).mono
    (fun _ _ h => h.trans h2) (fun _ _ h => h.trans h2)) ?_
  intro san env3 h3
  have hstate : env3.state = env.state := congrArg (·.1) h3
  refine Post.get_bind ?_
  rw [hstate, hpos]
  show Post (orFail (TciNodes.new i.val env.state.slice) >>= _) env3 _ _
  rw [hnodes]
  refine Post.pure ⟨h3, hwalks, ?_⟩
  cases certType with
  | leaf => rfl
  | exported => rfl

/-- What is asked of the crypto suite and the platform before a
    certificate or a CSR is encoded. -/
structure CertInputs (b : Build) where
  digest : Digest
  key : PubKey × Option ExportedCdiHandle
  subjectName : Name
  measurements : MeasurementData b
  sig : Signature
  formatArgs : CertOrCsrArgs b

/-- All of `createDpeCertOrCsr` but the encoding. -/
def prepareCert (args : CreateDpeCertArgs) (certFormat : CertificateFormat)
    (certType : CertificateType) : M b W (CertInputs b) := do
  let digest ← getDpeMeasurementDigest d dpe args.handle args.locality
  let key ← deriveCertKey d dpe args certType digest
  let subjectName ← getSubjectName d certType key.1
  let measurements ← getMeasurements d args certType key.1
  let env ← get
  let sig := Signature.zeroed (d.crypto.signatureAlgorithm env.world)
  let formatArgs ← getFormatArgs d certFormat
  pure ⟨digest, key, subjectName, measurements, sig, formatArgs⟩

def CreateDpeCertArgs.config (args : CreateDpeCertArgs) (profile : DpeProfile) :
    CertConfig where
  profile := profile
  critDice := args.diceExtensionsAreCritical

/-- What is encoded. -/
def CertInputs.generate (p : CertInputs b) (args : CreateDpeCertArgs) : M b W UInt32 :=
  generateCertOrCsr p.formatArgs (args.config dpe.profile) p.subjectName p.key.1
    p.measurements (certSignCb d args p.digest p.key.2) p.sig

def CertInputs.finish (p : CertInputs b) (args : CreateDpeCertArgs) :
    M b W CreateDpeCertResult := do
  let certSize ← p.generate d dpe args
  pure ⟨certSize, p.key.1, p.key.2.getD (.replicate 32 0)⟩

/-- A creation is prepared, and then encoded. -/
theorem createDpeCertOrCsr_eq (args : CreateDpeCertArgs)
    (certFormat : CertificateFormat) (certType : CertificateType) :
    createDpeCertOrCsr d dpe args certFormat certType
      = (prepareCert d dpe args certFormat certType >>= fun p =>
          p.finish d dpe args) := by
  unfold createDpeCertOrCsr prepareCert
  simp only [bind_assoc, pure_bind]
  rfl

/-- What has been prepared is about the path of the context. -/
structure Prepared (env : Env b W) (args : CreateDpeCertArgs)
    (certFormat : CertificateFormat) (certType : CertificateType)
    (l : List (Fin b.maxHandles)) (p : CertInputs b) : Prop where
  hashed : ∃ bs, Transcript d dpe env.state.support (env.state.chain l) bs ∧
    Returned (d.crypto.hasherFinish bs) p.digest
  key : CertKey d dpe args p.digest certType p.key.1 p.key.2
  walks : Walks p.measurements.tciNodes env.state.first.tci (env.state.chain l)
  recursive : p.measurements.supportsRecursive
    = certType.showsCumulative env.state.support
  format : p.formatArgs.format = certFormat

theorem prepareCert_spec {args : CreateDpeCertArgs}
    (certFormat : CertificateFormat) (certType : CertificateType)
    (env : Env b W) (h : env.state.WellFormed)
    (hpath : Path env.state.up i l)
    (hpos : env.state.getActiveContextPos args.handle args.locality = .ok i) :
    Post (prepareCert d dpe args certFormat certType) env
      (fun p env' => env'.own = env.own ∧
        Prepared d dpe env args certFormat certType l p)
      (fun _ env' => env'.own = env.own) := by
  have hlive := State.live_of_resolves hpos
  have hdigest : Post (getDpeMeasurementDigest d dpe args.handle args.locality)
      env (fun digest env' => env'.own = env.own ∧ ∃ bs,
        Transcript d dpe env.state.support (env.state.chain l) bs ∧
        Returned (d.crypto.hasherFinish bs) digest)
      (fun _ env' => env'.own = env.own) := by
    refine Post.get_bind ?_
    rw [hpos]
    exact ((keeps_computeMeasurementHash d dpe i env).and
      (computeMeasurementHash_result d dpe env h hpath hlive)).mono
      (fun _ _ h => h) (fun _ _ h => h.1)
  refine Post.bind hdigest ?_
  rintro digest env1 ⟨h1, hhashed⟩
  refine Post.bind ((((quiet_deriveCertKey d dpe args certType digest).keeps
    env1).and (deriveCertKey_result d dpe args certType digest env1)).mono
    (fun _ _ h => h) (fun _ _ h => h.1.trans h1)) ?_
  rintro ⟨pubKey, handle⟩ env2 ⟨h2, hkey⟩
  have h2' := h2.trans h1
  refine Post.bind ((keeps_getSubjectName d certType pubKey env2).mono
    (fun _ _ h => h) (fun _ _ h => h.trans h2')) ?_
  intro subjectName env3 h3
  have h3' := h3.trans h2'
  have hstate : env3.state = env.state := congrArg (·.1) h3'
  refine Post.bind ((getMeasurements_spec d certType pubKey env3
    (hstate ▸ h) (hstate ▸ hpath) (hstate ▸ hpos)).mono
    (fun _ _ h => h) (fun _ _ h => h.trans h3')) ?_
  rintro measurements env4 ⟨h4, hwalks, hrecursive⟩
  have h4' := h4.trans h3'
  rw [hstate] at hwalks hrecursive
  refine Post.get_bind ?_
  refine Post.bind (((keeps_getFormatArgs d certFormat env4).and
    (getFormatArgs_result d certFormat env4)).mono
    (fun _ _ h => h) (fun _ _ h => h.1.trans h4')) ?_
  rintro formatArgs env5 ⟨h5, hformat⟩
  exact Post.pure ⟨h5.trans h4', hhashed, hkey, hwalks, hrecursive, hformat⟩

/-- **CREATING** a certificate or a CSR for an active context. -/
theorem createDpeCertOrCsr_spec {args : CreateDpeCertArgs}
    (certFormat : CertificateFormat) (certType : CertificateType)
    (env : Env b W) (h : env.state.WellFormed)
    (hpath : Path env.state.up i l)
    (hpos : env.state.getActiveContextPos args.handle args.locality = .ok i) :
    Post (createDpeCertOrCsr d dpe args certFormat certType) env
      (fun r env' => env'.settled = env.settled ∧
        ∃ digest handle measurements tree, Created d dpe env args certFormat
          certType l r digest handle measurements tree env')
      (fun _ env' => env'.settled = env.settled) := by
  have hsettled : ∀ {env' : Env b W}, env'.own = env.own →
      env'.settled = env.settled :=
    fun h => congrArg (fun own => (own.1, own.2.1.shape, own.2.2)) h
  rw [createDpeCertOrCsr_eq]
  refine Post.bind ((prepareCert_spec d dpe certFormat certType env h hpath hpos).mono
    (fun _ _ h => h) (fun _ _ h => hsettled h)) ?_
  rintro p env1 ⟨h1, hp⟩
  have hout : env1.out = env.out := congrArg (·.2.1) h1
  refine Post.bind ((generateCertOrCsr_spec (callbackKeeps_certSignCb d args
    p.digest p.key.2) hp.walks p.formatArgs p.subjectName p.sig env1).mono
    (fun _ _ h => h) (fun _ _ h => h.trans (hsettled h1))) ?_
  rintro size env2 ⟨h2, tree, hissued, hsize, hemitted⟩
  rw [hp.format] at hissued
  refine Post.pure ⟨h2.trans (hsettled h1), p.digest, p.key.2, p.measurements, tree,
    hp.hashed, hp.key, rfl, hp.recursive, hissued, hsize, ?_, ?_⟩
  · rw [← hout]
    exact hemitted.fits
  · rw [← hout]
    exact hemitted.bytes

end Whole

end Dpe
