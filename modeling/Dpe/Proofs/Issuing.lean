import Dpe.Proofs.DeriveCommand
import Dpe.Proofs.Encoding

/-! # Issuing — a certificate that fits is issued

    Once the crypto suite and the platform have answered, one thing is
    left that decides whether CertifyKey gets its certificate or CSR: the
    room in the output buffer.  If the whole structure fits it is issued,
    and if it does not the creation fails with the error of an output that
    is too small. -/

namespace Dpe

open Der Forest Prog Tlv

variable {b : Build} {W : Type} {d : Deps b W} {dpe : DpeInstance b}

namespace CertInputs

/-- The message that is encoded. -/
def message (p : CertInputs b) : Message b :=
  match p.formatArgs with
  | .cert issuerName certValidity =>
      .certificate (p.subjectName.serial.bytes.take 20) issuerName p.subjectName
        p.key.1 p.measurements certValidity
  | .csr signerIdentifier =>
      .cms p.key.1 p.subjectName p.measurements signerIdentifier

/-- What is signed first: all of a certificate but its signature, or the
    request info of a CSR. -/
def payload (p : CertInputs b) : SignedPayload b :=
  match p.formatArgs with
  | .cert issuerName certValidity =>
      .tbs (p.subjectName.serial.bytes.take 20) issuerName p.subjectName
        p.key.1 p.measurements certValidity
  | .csr _ => .certReqInfo p.key.1 p.subjectName p.measurements

/-- The encoder that it is encoded with. -/
def encoder (p : CertInputs b) (env : Env b W) : Enc (Env b W) where
  writer := .new env.out
  sig := p.sig
  env := env

/-- The structure that is issued if the crypto suite replies with `a`. -/
def tree (p : CertInputs b) (cfg : CertConfig) (first : TciNodeData b)
    (nodes : List (TciNodeData b)) (a : Replies (Env b W)) : Tlv :=
  p.message.tree cfg first nodes a.csrSig a.sig

/-- Nothing but room is missing: the crypto suite replies with `a`. -/
structure Answered (d : Deps b W) (dpe : DpeInstance b) (args : CreateDpeCertArgs)
    (env : Env b W) (first : TciNodeData b) (chain : List (Context b))
    (p : CertInputs b) (a : Replies (Env b W)) : Prop where
  serial : 20 ≤ p.subjectName.serial.bytes.length
  walks : Walks p.measurements.tciNodes first chain
  can : p.message.Can (args.config dpe.profile) first (nodesOf chain)
    (certSignCb d args p.digest p.key.2) a (p.encoder env)

section Run

variable {p : CertInputs b} {args : CreateDpeCertArgs} {env : Env b W}
  {first : TciNodeData b} {chain : List (Context b)} {a : Replies (Env b W)}

theorem message_measurements (p : CertInputs b) :
    p.message.measurements = p.measurements := by
  unfold message
  cases p.formatArgs <;> rfl

theorem payload_measurements (p : CertInputs b) :
    CertWriter.payloadMeasurements p.payload = p.measurements := by
  unfold payload
  cases p.formatArgs <;> rfl

/-- A certificate can be encoded if it can be signed. -/
theorem can_certificate {cfg : CertConfig} {nodes : List (TciNodeData b)}
    {signCb : SignCallback (Env b W)} (hformat : p.formatArgs.format = .x509)
    (h : CertWriter.CanSign signCb cfg p.payload first nodes a.sig a.env
      (p.encoder env)) :
    p.message.Can cfg first nodes signCb a (p.encoder env) := by
  obtain ⟨digest, key, subjectName, measurements, sig, formatArgs⟩ := p
  cases formatArgs with
  | cert => exact h
  | csr => cases hformat

/-- The creation runs the encoder of the message. -/
theorem generate_run (d : Deps b W) (dpe : DpeInstance b) (args : CreateDpeCertArgs)
    (env : Env b W) (hserial : 20 ≤ p.subjectName.serial.bytes.length) :
    ∃ e : InternalErrorCode, p.generate d dpe args env
      = (runEncoder p.sig (p.message.encode (args.config dpe.profile)
          (certSignCb d args p.digest p.key.2)) >>= fun n => tryU32 n e) env := by
  have hlong : decide (p.subjectName.serial.bytes.length < 20) = false :=
    decide_eq_false (Nat.not_lt.mpr hserial)
  obtain ⟨digest, key, subjectName, measurements, sig, formatArgs⟩ := p
  cases formatArgs with
  | cert issuerName certValidity =>
      refine ⟨.certSizeOverflow, ?_⟩
      simp only [generate, generateCertOrCsr, message, Message.encode]
      have hpass : (reject (decide (subjectName.serial.bytes.length < 20))
          InternalErrorCode.serialNumberSliceOob : M b W PUnit) env = .ok ⟨⟩ env := by
        rw [hlong]
        rfl
      exact bind_of_ok hpass
  | csr signerIdentifier =>
      refine ⟨.csrSizeOverflow, ?_⟩
      simp only [generate, generateCertOrCsr, message, Message.encode]

/-- What the encoder does, the creation does. -/
theorem runEncoder_ok {α : Type} {m : EncM (Env b W) α} {x : α} {s' : Enc (Env b W)}
    (h : m (p.encoder env) = .ok x s') :
    runEncoder p.sig m env = .ok x { s'.env with out := s'.writer.certificate } := by
  have hrun : m { writer := .new env.out, sig := p.sig, env := env } = .ok x s' := h
  unfold runEncoder
  rw [hrun]

theorem runEncoder_error {α : Type} {m : EncM (Env b W) α} {e : Stop}
    {s' : Enc (Env b W)} (h : m (p.encoder env) = .error e s') :
    runEncoder p.sig m env = .error e { s'.env with out := s'.writer.certificate } := by
  have hrun : m { writer := .new env.out, sig := p.sig, env := env } = .error e s' := h
  unfold runEncoder
  rw [hrun]

/-- The whole structure, behind nothing. -/
theorem fits_encoder {n : Nat} : Fits n (p.encoder env) ↔ n ≤ env.out.capacity := by
  show 0 + n ≤ env.out.capacity ↔ n ≤ env.out.capacity
  rw [Nat.zero_add]

/-- **WHAT FITS** is issued. -/
theorem Answered.returns (h : Answered d dpe args env first chain p a)
    (hfits : (p.tree (args.config dpe.profile) first (nodesOf chain) a).size
      ≤ env.out.capacity)
    (hsmall : env.out.capacity < 2 ^ 32) :
    ∃ r env', p.finish d dpe args env = .ok r env' ∧ r.pubKey = p.key.1 ∧
      r.certSize.toNat
        = (p.tree (args.config dpe.profile) first (nodesOf chain) a).size := by
  generalize hn : (p.tree (args.config dpe.profile) first (nodesOf chain) a).size = n
    at hfits
  have hroom : Fits (p.message.tree (args.config dpe.profile) first (nodesOf chain)
      a.csrSig a.sig).size (p.encoder env) := fits_encoder.mpr (hn.le.trans hfits)
  obtain ⟨a', calls, s', hrun, -⟩ := Message.encode_returns
    (fun _ => (message_measurements p) ▸ h.walks) h.can hroom
  rw [show (p.message.tree (args.config dpe.profile) first (nodesOf chain) a.csrSig
    a.sig).size = n from hn] at hrun
  obtain ⟨e, hgenerate⟩ := generate_run d dpe args env h.serial
  have hlt : decide (2 ^ 32 ≤ n) = false :=
    decide_eq_false (Nat.not_le.mpr (hfits.trans_lt hsmall))
  have hsized : (tryU32 n e : M b W UInt32)
      { s'.env with out := s'.writer.certificate }
        = .ok (UInt32.ofNat n) { s'.env with out := s'.writer.certificate } := by
    unfold tryU32
    rw [hlt]
    rfl
  refine ⟨⟨UInt32.ofNat n, p.key.1, p.key.2.getD (.replicate 32 0)⟩,
    { s'.env with out := s'.writer.certificate }, ?_, rfl, ?_⟩
  · refine bind_of_ok ?_
    rw [hgenerate, bind_of_ok (runEncoder_ok hrun)]
    exact hsized
  · rw [UInt32.toNat_ofNat', Nat.mod_eq_of_lt (hfits.trans_lt hsmall)]

/-- **WHAT DOES NOT FIT** is not. -/
theorem Answered.overflows (h : Answered d dpe args env first chain p a)
    (hlong : env.out.capacity
      < (p.tree (args.config dpe.profile) first (nodesOf chain) a).size) :
    ∃ env', p.finish d dpe args env = .error truncated env' := by
  have hspec : Post (p.message.encode (args.config dpe.profile)
      (certSignCb d args p.digest p.key.2)) (p.encoder env) _ _ :=
    p.message.encode_spec (fun _ => (message_measurements p) ▸ h.walks) _ a
  obtain ⟨e, hgenerate⟩ := generate_run d dpe args env h.serial
  cases hrun : p.message.encode (args.config dpe.profile)
      (certSignCb d args p.digest p.key.2) (p.encoder env) with
  | ok n s' =>
      obtain ⟨a', calls, hdone⟩ := hspec.of_ok hrun
      have hfits := fits_encoder.mp hdone.fits
      have hsame := congrArg Tlv.size (hdone.unique a h.can)
      rw [hdone.size, ← hsame] at hfits
      exact absurd hlong (Nat.not_lt.mpr hfits)
  | error e' s' =>
      obtain ⟨-, rfl⟩ := (hspec.of_error hrun).blame h.can
      refine ⟨{ s'.env with out := s'.writer.certificate }, bind_of_error ?_⟩
      rw [hgenerate]
      exact bind_of_error (runEncoder_error hrun)

end Run

end CertInputs

/-! ## Commands that encode -/

/-- Whether a format is compiled out. -/
def CertificateFormat.disabled (b : Build) : CertificateFormat → Bool
  | x509 => b.disabled.x509
  | csr => b.disabled.csr

/-- The command gets as far as its certificate or CSR.  The encoder starts
    in `window`, with the inputs `p`. -/
inductive Command.Encodes (d : Deps b W) (dpe : DpeInstance b) (locality : UInt32)
    (env : Env b W) : Command b → Nat → CreateDpeCertArgs → CertInputs b → Env b W →
      Prop where
  | certifyKey {cmd : CertifyKeyCommand} {idx : Fin b.maxHandles}
      {format : CertificateFormat} {p : CertInputs b} {window : Env b W}
      (resolves : env.state.getActiveContextPos cmd.handle locality = .ok idx)
      (supported : CertifyKeyCommand.formatUnsupported cmd.format env.state.support
        = false)
      (allowed : (cmd.format == CertifyKeyCommand.FORMAT_X509
        && !(env.state.contexts idx).allowX509) = false)
      (asked : cmd.format = format.code) (enabled : format.disabled b = false)
      (prepared : prepareCert d dpe (cmd.certArgs dpe env.state locality) format .leaf
        (env.window (CertifyKeyCommand.hdrSize cmd.profile)) = .ok p window) :
      Encodes d dpe locality env (.certifyKey cmd)
        (CertifyKeyCommand.hdrSize cmd.profile) (cmd.certArgs dpe env.state locality)
        p window
  | exported {cmd : DeriveContextCmd b} {parent : Fin b.maxHandles}
      {tmpParent : Context b} {ueid : Bytes} {env1 env2 window : Env b W}
      {p : CertInputs b}
      (accepted : cmd.FromParent env.state locality parent)
      (isExport : cmd.isExport = true) (enabled : b.disabled.cdiExport = false)
      (left : cmd.parentAfter d (env.state.contexts parent) env = .ok tmpParent env1)
      (named : DeriveContextCmd.getUeid d env1 = .ok ueid env2)
      (prepared : prepareCert d dpe (cmd.exportedCertArgs dpe env.state locality ueid)
        .x509 .exported (env2.window DeriveContextCmd.exportedHdrSize)
          = .ok p window) :
      Encodes d dpe locality env (.deriveContext cmd)
        DeriveContextCmd.exportedHdrSize
        (cmd.exportedCertArgs dpe env.state locality ueid) p window

section Overflow

variable {env : Env b W} {locality : UInt32} {base : Nat}
  {args : CreateDpeCertArgs} {p : CertInputs b} {window : Env b W}
  {first : TciNodeData b} {chain : List (Context b)} {a : Replies (Env b W)}

theorem reject_false {c : Bool} {e : DpeErrorCode} {α : Type} {f : PUnit → M b W α}
    (h : c = false) : (reject c e >>= f) env = f ⟨⟩ env := by
  subst h
  rfl

theorem orFail_ok {α β : Type} {r : Except DpeErrorCode α} {x : α} {f : α → M b W β}
    (h : r = .ok x) : (orFail r >>= f) env = f x env := by
  subst h
  rfl

theorem withOffset_error {α : Type} {m : M b W α} {e : Stop} {env' : Env b W}
    (h : m (env.window base) = .error e env') :
    withOffset base m env = .error e env'.unwindow := by
  have hrun : m { env with out := .offset env.out base } = .error e env' := h
  unfold withOffset
  rw [hrun]
  rfl

theorem withOffset_ok {α : Type} {m : M b W α} {x : α} {env' : Env b W}
    (h : m (env.window base) = .ok x env') :
    withOffset base m env = .ok x env'.unwindow := by
  have hrun : m { env with out := .offset env.out base } = .ok x env' := h
  unfold withOffset
  rw [hrun]
  rfl

/-- What is left of CertifyKey once the certificate is created. -/
def CertifyKeyCommand.finish (d : Deps b W) (dpe : DpeInstance b)
    (cmd : CertifyKeyCommand) (idx : Fin b.maxHandles) (result : CreateDpeCertResult) :
    M b W Nat := do
  let newHandle ← rollInPlace d idx
  writeHeader dpe cmd.profile result newHandle

/-- What is left of CertifyKey once the checks are passed. -/
theorem CertifyKeyCommand.executeSerialized_admitted {cmd : CertifyKeyCommand}
    {idx : Fin b.maxHandles} {format : CertificateFormat}
    (resolves : env.state.getActiveContextPos cmd.handle locality = .ok idx)
    (supported : formatUnsupported cmd.format env.state.support = false)
    (allowed : (cmd.format == FORMAT_X509 && !(env.state.contexts idx).allowX509)
      = false)
    (asked : cmd.format = format.code) (enabled : format.disabled b = false) :
    cmd.executeSerialized d dpe locality env
      = (withOffset (hdrSize cmd.profile) (createDpeCertOrCsr d dpe
          (cmd.certArgs dpe env.state locality) format .leaf) >>= fun result =>
            cmd.finish d dpe idx result) env := by
  have hplace := (State.getActiveContextPos_ok resolves).2.2
  have hformat : runCertFormat d dpe cmd.format (cmd.certArgs dpe env.state locality)
      = createDpeCertOrCsr d dpe (cmd.certArgs dpe env.state locality) format .leaf := by
    unfold runCertFormat
    rw [asked]
    cases format with
    | x509 =>
        rw [if_pos (show CertificateFormat.x509.code = FORMAT_X509 from rfl),
          show b.disabled.x509 = false from enabled]
        rfl
    | csr =>
        rw [if_neg (show CertificateFormat.csr.code ≠ FORMAT_X509 by decide),
          if_pos (show CertificateFormat.csr.code = FORMAT_CSR from rfl),
          show b.disabled.csr = false from enabled]
        rfl
  refine (bind_of_ok (show (get : M b W (Env b W)) env = .ok env env from rfl)).trans ?_
  refine (orFail_ok resolves).trans ?_
  refine (reject_false supported).trans ?_
  refine (reject_false allowed).trans ?_
  refine (reject_false (by rw [hplace]; exact bne_self_eq_false _)).trans ?_
  rw [hformat]
  rfl

/-- What is left of an export once the certificate is created. -/
def DeriveContextCmd.finishExported (dpe : DpeInstance b) (cmd : DeriveContextCmd b)
    (parentIdx : Fin b.maxHandles) (tmpParent : Context b) (locality : UInt32)
    (result : CreateDpeCertResult) : M b W Nat := do
  cmd.settleParent parentIdx tmpParent locality
  let env ← get
  writeAt 0 (DeriveContextExportedCdiRespHdr.asBytes
    { respHdr := dpe.responseHdr .noError
      handle := .newInvalid
      parentHandle := (env.state.contexts parentIdx).handle
      exportedCdi := result.exportedCdiHandle
      certificateSize := result.certSize }) .invalidResponseBuf
  pure (exportedHdrSize + result.certSize.toNat)

/-- What is left of an export once the checks are passed. -/
theorem DeriveContextCmd.executeSerialized_admitted {cmd : DeriveContextCmd b}
    {parent : Fin b.maxHandles} {tmpParent : Context b} {ueid : Bytes}
    {env1 env2 : Env b W} (accepted : cmd.FromParent env.state locality parent)
    (isExport : cmd.isExport = true) (enabled : b.disabled.cdiExport = false)
    (left : cmd.parentAfter d (env.state.contexts parent) env = .ok tmpParent env1)
    (named : getUeid d env1 = .ok ueid env2) (hstate : env2.state = env.state) :
    cmd.executeSerialized d dpe locality env
      = (withOffset exportedHdrSize (createExportedDpeCert d dpe
          (cmd.exportedCertArgs dpe env.state locality ueid)) >>= fun result =>
            cmd.finishExported dpe parent tmpParent locality result) env2 := by
  have hget : ∀ env : Env b W, (get : M b W (Env b W)) env = .ok env env :=
    fun _ => rfl
  refine (bind_of_ok (hget env)).trans ?_
  refine (reject_false accepted.supported).trans ?_
  refine (orFail_ok accepted.resolves).trans ?_
  refine (reject_false accepted.valid).trans ?_
  rw [if_neg (by rw [accepted.notRecursive]; exact Bool.false_ne_true)]
  refine (bind_of_ok (hget env)).trans ?_
  refine (reject_false (by rw [accepted.unique]; rfl)).trans ?_
  refine (bind_of_ok left).trans ?_
  rw [if_pos (show (cmd.flags.createsCertificate && cmd.flags.exportsCdi) = true
    from isExport)]
  refine (reject_false enabled).trans ?_
  refine (bind_of_ok named).trans ?_
  refine (bind_of_ok (hget env2)).trans ?_
  rw [hstate]
  rfl

/-- Behind its certificate, CertifyKey does not run out of room for it. -/
theorem CertifyKeyCommand.finish_error (cmd : CertifyKeyCommand)
    (idx : Fin b.maxHandles) (result : CreateDpeCertResult) (env : Env b W) :
    Post (cmd.finish d dpe idx result) env
      (fun _ _ => True) (fun e _ => e ≠ truncated) := by
  have hroll : Post (rollInPlace d idx) env (fun _ _ => True)
      (fun e _ => e ≠ truncated) := by
    refine Post.get_bind ?_
    refine Post.bind ((rollOnetimeUseHandle_spec d _ env).mono (fun _ _ _ => trivial)
      fun e env' h he => h.early (.inr he)) fun _ _ _ => ?_
    exact Post.modify_bind (Post.pure trivial)
  refine Post.bind hroll fun handle env' _ => ?_
  refine orFail_bind (fun pubkey _ => ?_) fun e htyped => ?_
  · refine Post.bind ((writeAt_spec 0 _ _ env').mono (fun _ _ _ => trivial) ?_)
      fun _ _ _ => Post.pure trivial
    rintro e _ ⟨rfl, -⟩
    decide
  · rw [headerKey_error htyped]
    decide

/-- Nor does an export. -/
theorem DeriveContextCmd.finish_error {cmd : DeriveContextCmd b}
    {parent : Fin b.maxHandles} {draws : List (Vector UInt8 16)}
    {kept : Option ContextHandle} {env1 : Env b W} (d : Deps b W)
    (hwell : env.state.WellFormed)
    (haccepted : cmd.FromParent env.state locality parent)
    (hexport : cmd.isExport = true) (hstate : env1.state = env.state)
    (hdrawn : env1.drawn = env.drawn ++ draws)
    (hkept : Kept env.state cmd.handle cmd.flags.retainsParent draws kept)
    (result : CreateDpeCertResult) :
    Post (cmd.finishExported dpe parent ((env.state.contexts parent).keep kept)
        locality result) env1
      (fun _ _ => True) (fun e _ => e ≠ truncated) := by
  refine Post.bind ((settleParent_spec d locality hwell haccepted hexport hstate hdrawn
    hkept).mono (fun _ _ _ => trivial) fun _ _ hno => hno.elim) fun _ env2 _ => ?_
  refine Post.get_bind ?_
  refine Post.bind ((writeAt_spec 0 _ _ env2).mono (fun _ _ _ => trivial) ?_)
    fun _ _ _ => Post.pure trivial
  rintro e _ ⟨rfl, -⟩
  decide

/-- What is left of CertifyKey returns for a default handle. -/
theorem CertifyKeyCommand.finish_returns {cmd : CertifyKeyCommand}
    {idx : Fin b.maxHandles} {result : CreateDpeCertResult} {pubkey : Bytes}
    (hdefault : (env.state.contexts idx).handle = .default)
    (htyped : headerKey cmd.profile result.pubKey = .ok pubkey)
    (hroom : hdrSize cmd.profile ≤ env.out.capacity) :
    ∃ env', cmd.finish d dpe idx result env
      = .ok (hdrSize cmd.profile + result.certSize.toNat) env' := by
  have hroll : rollInPlace d idx env
      = .ok .default { env with
          state := env.state.set idx (env.state.contexts idx) } := by
    have hkeep : rollOnetimeUseHandle d (env.state.contexts idx) env
        = .ok (env.state.contexts idx) env := by
      unfold rollOnetimeUseHandle
      rw [hdefault]
      rfl
    refine (bind_of_ok (show (get : M b W (Env b W)) env = .ok env env from rfl)).trans ?_
    refine (bind_of_ok hkeep).trans ?_
    rw [← hdefault]
    rfl
  have hwrite : ∀ env1 : Env b W, env1.out = env.out → ∃ env',
      writeHeader dpe cmd.profile result .default env1
        = .ok (hdrSize cmd.profile + result.certSize.toNat) env' := by
    intro env1 hout
    have hlen := headerKey_length htyped
    have hspec := writeAt_spec 0 (header dpe result .default pubkey)
      .invalidResponseBuf env1
    have hbytes : (header dpe result .default pubkey).length = hdrSize cmd.profile :=
      (CertifyKeyRespHdr.asBytes_length _).trans hlen
    cases hw : writeAt 0 (header dpe result .default pubkey) .invalidResponseBuf env1 with
    | ok u env' =>
        refine ⟨env', (orFail_ok htyped).trans ?_⟩
        exact (bind_of_ok hw).trans rfl
    | error e env' =>
        obtain ⟨-, -, hshort⟩ := hspec.of_error hw
        rcases hshort with hempty | hshort
        · rw [hempty] at hbytes
          rw [← hbytes] at hlen
          simp at hlen
        · rw [hbytes, hout] at hshort
          omega
  obtain ⟨env', hwritten⟩ := hwrite
    { env with state := env.state.set idx (env.state.contexts idx) } rfl
  exact ⟨env', (bind_of_ok hroll).trans hwritten⟩

/-- A creation in a window, once it is prepared. -/
theorem create_prepared {certFormat : CertificateFormat} {certType : CertificateType}
    (prepared : prepareCert d dpe args certFormat certType (env.window base)
      = .ok p window) :
    createDpeCertOrCsr d dpe args certFormat certType (env.window base)
      = p.finish d dpe args window := by
  rw [createDpeCertOrCsr_eq]
  exact bind_of_ok prepared

/-- What follows the creation. -/
structure Command.Follows (d : Deps b W) (dpe : DpeInstance b) (locality : UInt32)
    (env : Env b W) (cmd : Command b) (args : CreateDpeCertArgs) (p : CertInputs b)
    (window : Env b W) (rest : CreateDpeCertResult → M b W Nat) : Prop where
  ok : ∀ r env1, p.finish d dpe args window = .ok r env1 →
    cmd.executeSerialized d dpe locality env = rest r env1.unwindow ∧
      Post (rest r) env1.unwindow (fun _ _ => True) (fun e _ => e ≠ truncated)
  error : ∀ e env1, p.finish d dpe args window = .error e env1 →
    cmd.executeSerialized d dpe locality env = .error e env1.unwindow

/-- A command that encodes creates, and goes on. -/
theorem Command.Encodes.follows {cmd : Command b}
    (h : cmd.Encodes d dpe locality env base args p window)
    (hwell : env.state.WellFormed) :
    ∃ rest, cmd.Follows d dpe locality env args p window rest := by
  cases h with
  | @certifyKey cmd idx format p window resolves supported allowed asked enabled
      prepared =>
      have heq : (Command.certifyKey cmd).executeSerialized d dpe locality env = _ :=
        CertifyKeyCommand.executeSerialized_admitted resolves supported allowed asked
          enabled
      refine ⟨cmd.finish d dpe idx, ⟨fun r env1 hfinish => ⟨?_, ?_⟩,
        fun e env1 hfinish => ?_⟩⟩
      · rw [heq]
        exact bind_of_ok (withOffset_ok ((create_prepared prepared).trans hfinish))
      · exact cmd.finish_error idx r _
      · rw [heq]
        exact bind_of_error (withOffset_error ((create_prepared prepared).trans hfinish))
  | @exported cmd parent tmpParent ueid env1' env2 window p accepted isExport enabled
      left named prepared =>
      obtain ⟨draws, h1, kept, rfl, hkept⟩ :=
        (DeriveContextCmd.parentAfter_spec d env _).of_ok left
      rw [(State.getActiveContextPos_ok accepted.resolves).2.1] at hkept
      have h2 : env2.own = env1'.own :=
        (DeriveContextCmd.keeps_getUeid d env1').of_ok named
      have hstate : env2.state = env.state := (congrArg (·.1) h2).trans h1.state
      have hdrawn : env2.drawn = env.drawn ++ draws :=
        (congrArg (·.2.2) h2).trans h1.drawn
      have heq : (Command.deriveContext cmd).executeSerialized d dpe locality env = _ :=
        DeriveContextCmd.executeSerialized_admitted accepted isExport enabled left named
          hstate
      obtain ⟨l, hpath⟩ := hwell.rooted parent (State.live_of_resolves accepted.resolves)
      refine ⟨cmd.finishExported dpe parent ((env.state.contexts parent).keep kept)
        locality, ⟨fun r env1 hfinish => ⟨?_, ?_⟩, fun e env1 hfinish => ?_⟩⟩
      · rw [heq]
        exact bind_of_ok (withOffset_ok ((create_prepared prepared).trans hfinish))
      · have hcreated := (createDpeCertOrCsr_spec d dpe .x509 .exported
          (env2.window DeriveContextCmd.exportedHdrSize) (hstate.symm ▸ hwell)
          (hstate.symm ▸ hpath) (hstate.symm ▸ accepted.resolves)).of_ok
            ((create_prepared prepared).trans hfinish)
        have hsettled := settled_unwindow hcreated.1
        exact DeriveContextCmd.finish_error d hwell accepted isExport
          ((congrArg (·.1) hsettled).trans hstate)
          ((congrArg (·.2.2) hsettled).trans hdrawn) hkept r
      · rw [heq]
        exact bind_of_error (withOffset_error ((create_prepared prepared).trans hfinish))

/-- **A CERTIFICATE THAT FITS** is the answer for a default handle. -/
theorem CertifyKeyCommand.executeSerialized_returns {cmd : CertifyKeyCommand}
    {idx : Fin b.maxHandles} {format : CertificateFormat} {pubkey : Bytes}
    (hwell : env.state.WellFormed)
    (resolves : env.state.getActiveContextPos cmd.handle locality = .ok idx)
    (supported : formatUnsupported cmd.format env.state.support = false)
    (allowed : (cmd.format == FORMAT_X509 && !(env.state.contexts idx).allowX509)
      = false)
    (asked : cmd.format = format.code) (enabled : format.disabled b = false)
    (prepared : prepareCert d dpe (cmd.certArgs dpe env.state locality) format .leaf
      (env.window (hdrSize cmd.profile)) = .ok p window)
    (ha : p.Answered d dpe (cmd.certArgs dpe env.state locality) window first chain a)
    (hfits : (p.tree ((cmd.certArgs dpe env.state locality).config dpe.profile) first
      (nodesOf chain) a).size ≤ window.out.capacity)
    (hsmall : window.out.capacity < 2 ^ 32)
    (hdefault : (env.state.contexts idx).handle = .default)
    (htyped : headerKey cmd.profile p.key.1 = .ok pubkey)
    (hroom : hdrSize cmd.profile ≤ env.out.capacity) :
    ∃ env', cmd.executeSerialized d dpe locality env
      = .ok (hdrSize cmd.profile + (p.tree ((cmd.certArgs dpe env.state
          locality).config dpe.profile) first (nodesOf chain) a).size) env' := by
  obtain ⟨r, env1, hfinish, hkey, hsize⟩ := ha.returns hfits hsmall
  have hcreate := (create_prepared prepared).trans hfinish
  obtain ⟨l, hpath⟩ := hwell.rooted idx (State.live_of_resolves resolves)
  have hpos : (env.window (hdrSize cmd.profile)).state.getActiveContextPos
      (cmd.certArgs dpe env.state locality).handle
      (cmd.certArgs dpe env.state locality).locality = .ok idx := resolves
  have hsettled := settled_unwindow ((createDpeCertOrCsr_spec d dpe format .leaf
    (env.window (hdrSize cmd.profile)) hwell hpath hpos).of_ok hcreate).1
  have hstate : env1.unwindow.state = env.state := congrArg (·.1) hsettled
  have hcapacity : env1.unwindow.out.capacity = env.out.capacity :=
    ResponseBuffer.capacity_congr (congrArg (·.2.1) hsettled)
  have hfinished : ∃ env', cmd.finish d dpe idx r env1.unwindow
      = .ok (hdrSize cmd.profile + r.certSize.toNat) env' :=
    finish_returns (hstate ▸ hdefault) (hkey ▸ htyped) (hcapacity ▸ hroom)
  obtain ⟨env', hreturns⟩ := hfinished
  rw [hsize] at hreturns
  refine ⟨env', ?_⟩
  rw [executeSerialized_admitted resolves supported allowed asked enabled,
    bind_of_ok (withOffset_ok hcreate)]
  exact hreturns

/-- **A COMMAND THAT ENCODES** fails for want of room exactly if what it
    encodes is larger than the room behind the header. -/
theorem Command.Encodes.truncated_iff {cmd : Command b}
    (h : cmd.Encodes d dpe locality env base args p window)
    (hwell : env.state.WellFormed) (ha : p.Answered d dpe args window first chain a)
    (hsmall : window.out.capacity < 2 ^ 32) :
    (∃ env', cmd.executeSerialized d dpe locality env = .error truncated env')
      ↔ window.out.capacity
        < (p.tree (args.config dpe.profile) first (nodesOf chain) a).size := by
  obtain ⟨rest, hrest⟩ := h.follows hwell
  constructor
  · rintro ⟨env', hrun⟩
    by_contra hfits
    obtain ⟨r, env1, hfinish, -⟩ := ha.returns (Nat.le_of_not_lt hfits) hsmall
    obtain ⟨heq, herror⟩ := hrest.ok r env1 hfinish
    exact herror.of_error (heq.symm.trans hrun) rfl
  · intro hlong
    obtain ⟨env1, hfinish⟩ := ha.overflows hlong
    exact ⟨_, hrest.error _ env1 hfinish⟩

end Overflow

end Dpe
