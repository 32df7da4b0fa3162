import Dpe.Proofs.TwinRuns

/-! # Twin certificates — encoders, names, keys

    An encoder of measurements is handed the whole table of slots.  It
    reads the live contexts of one path and the node data of the first
    slot, so on tables that differ in stale fields only it writes the
    same bytes and asks for the same signatures. -/

namespace Dpe

open Prog

variable {b : Build}

/-! ## Encoders that sign -/

section Encoders

variable {σ : Type}

/-- Encoders are compared by the writer, the signature buffer and the
    environment of the signing callback. -/
def Enc.likeness (L : Likeness σ) : Likeness (Enc σ) where
  Alike s s' := s'.writer = s.writer ∧ s'.sig = s.sig ∧ L.Alike s.env s'.env
  refl s := ⟨rfl, rfl, L.refl s.env⟩
  Fair s := L.Fair s.env

variable {L : Likeness σ} {α : Type}

/-- `m` and `m'` write and return the same. -/
abbrev TwinEnc (L : Likeness σ) (m m' : EncM σ α) : Prop :=
  Twins (Enc.likeness L) Eq m m'

namespace EncM

theorem twin_emit (e : Encode) : TwinEnc L (emit e) (emit e) := by
  refine ⟨fun _ hfair => hfair, fun s s' h _ => ?_⟩
  obtain ⟨hwriter, hsig, henv⟩ := h
  have hrun : e.run s'.writer = e.run s.writer := congrArg (fun w => e.run w) hwriter
  exact ⟨congrArg Prod.fst hrun.symm, congrArg Prod.snd hrun, hsig, henv⟩

theorem twins_orFail {Q : α → α → Prop} {r r' : Except DpeErrorCode α}
    (h : Matched Q r r') : Twins (Enc.likeness L) Q (orFail r) (orFail r') := by
  cases r with
  | ok a =>
      cases r' with
      | ok a' => exact .pure h
      | error e' => exact h.elim
  | error e =>
      cases r' with
      | ok a' => exact h.elim
      | error e' =>
          have heq : e = e' := h
          rw [heq]
          exact .throw _

theorem twin_orFail {r r' : Except DpeErrorCode α} (h : r' = r) :
    TwinEnc L (orFail r) (orFail r') :=
  twins_orFail (.of_eq (fun _ => rfl) h)

theorem twin_reject {c c' : Bool} (h : c' = c) (e : DpeErrorCode) :
    TwinEnc L (reject c e) (reject c' e) := .rejectIf h _

theorem twin_setWriter (f : CertWriter → CertWriter) :
    TwinEnc L (setWriter f) (setWriter f) :=
  .modify rfl (fun _ hfair => hfair) fun _ _ h => ⟨congrArg f h.1, h.2⟩

theorem twin_zeroize :
    TwinEnc L (modify fun s => { s with sig := s.sig.zeroize })
      (modify fun s => { s with sig := s.sig.zeroize }) :=
  .modify rfl (fun _ hfair => hfair) fun _ _ h =>
    ⟨h.1, congrArg Signature.zeroize h.2.1, h.2.2⟩

/-- The callback is its own twin. -/
def TwinCallback (L : Likeness σ) (signCb : SignCallback σ) : Prop :=
  ∀ buf start stop useDerived sig,
    Twins L Eq (signCb buf start stop useDerived sig)
      (signCb buf start stop useDerived sig)

theorem twin_sign {signCb : SignCallback σ} (hcb : TwinCallback L signCb)
    (start stop : Nat) (useDerived : Bool) :
    TwinEnc L (sign signCb start stop useDerived)
      (sign signCb start stop useDerived) := by
  have hmid : ∀ s : Enc σ, (Enc.likeness L).Fair
      (final (sign signCb start stop useDerived s)) → L.Fair
      (final (signCb s.writer.certificate start stop useDerived s.sig s.env)) := by
    intro s hfair
    unfold sign at hfair
    cases hr : signCb s.writer.certificate start stop useDerived s.sig s.env with
    | ok a t =>
        rw [hr] at hfair
        exact hfair
    | error e t =>
        rw [hr] at hfair
        exact hfair
  refine ⟨fun s hfair => (hcb _ _ _ _ _).back _ (hmid s hfair), fun s s' h hfair => ?_⟩
  obtain ⟨hwriter, hsig, henv⟩ := h
  have hagree := (hcb s.writer.certificate start stop useDerived s.sig).agree _ _ henv
    (hmid s hfair)
  unfold sign
  rw [hwriter, hsig]
  cases hr : signCb s.writer.certificate start stop useDerived s.sig s.env with
  | ok a t =>
      rw [hr] at hagree
      cases hr' : signCb s.writer.certificate start stop useDerived s.sig s'.env with
      | ok a' t' =>
          rw [hr'] at hagree
          exact ⟨rfl, rfl, hagree.1.symm, hagree.2⟩
      | error e' t' =>
          rw [hr'] at hagree
          exact hagree.elim
  | error e t =>
      rw [hr] at hagree
      cases hr' : signCb s.writer.certificate start stop useDerived s.sig s'.env with
      | ok a' t' =>
          rw [hr'] at hagree
          exact hagree.elim
      | error e' t' =>
          rw [hr'] at hagree
          exact ⟨hagree.1, rfl, rfl, hagree.2⟩

theorem twin_checkNotTruncated :
    TwinEnc L (checkNotTruncated : EncM σ _) checkNotTruncated :=
  .get_bind fun _ _ h => twin_reject (by rw [h.1]) _

theorem twin_pushBacktrack (skip : Nat) :
    TwinEnc L (pushBacktrack skip) (pushBacktrack skip) := by
  refine .get_bind fun s s' h => ?_
  rw [h.1]
  exact (twin_reject rfl _).seq fun _ => (twin_setWriter _).seq fun _ => .pure rfl

theorem twin_popBacktrack (expectedWidth : Nat) :
    TwinEnc L (popBacktrack expectedWidth) (popBacktrack expectedWidth) := by
  refine .get_bind fun s s' h => ?_
  rw [h.1]
  refine (twin_reject rfl _).seq fun _ => ?_
  cases s.writer.backtracks with
  | nil => exact .throw _
  | cons range backtracks =>
      exact (twin_setWriter _).seq fun _ => (twin_reject rfl _).seq fun _ =>
        twin_setWriter _

theorem twin_startBacktrack : TwinEnc L (startBacktrack : EncM σ _) startBacktrack := by
  refine .get_bind fun s s' h => ?_
  rw [h.1]
  exact (twin_reject rfl _).seq fun _ => twin_setWriter _

theorem twin_endBacktrack : TwinEnc L (endBacktrack : EncM σ _) endBacktrack := by
  refine .get_bind fun s s' h => ?_
  rw [h.1]
  cases s.writer.savedOffset with
  | none => exact .throw _
  | some offset => exact twin_setWriter _

theorem twin_encodeSizes (sizes : List Nat) :
    TwinEnc L (encodeSizes sizes : EncM σ _) (encodeSizes sizes) := by
  induction sizes with
  | nil => exact .pure rfl
  | cons size sizes ih =>
      exact (twin_popBacktrack _).seq fun _ => (twin_setWriter _).seq fun _ =>
        (twin_emit _).seq fun _ => ih.seq fun _ => .pure rfl

theorem twin_backtrackAndEncodeSize (sizes : List Nat) :
    TwinEnc L (backtrackAndEncodeSize sizes : EncM σ _) (backtrackAndEncodeSize sizes) :=
  twin_startBacktrack.seq fun _ => (twin_encodeSizes sizes).seq fun _ =>
    twin_endBacktrack.seq fun _ => .pure rfl

end EncM

/-! ## Measurements -/

/-- The walks of two tables give the same nodes, and their first slots
    the same node data. -/
structure TciNodes.SameWalk (t t' : TciNodes b) : Prop where
  isEmpty : t'.isEmpty = t.isEmpty
  numNodes : t'.numNodes = t.numNodes
  firstNode : t'.firstNode = t.firstNode
  items : Matched (fun it it' : RootToChildIter b => it'.items = it.items) t.iter t'.iter

theorem TciNodes.SameWalk.refl (t : TciNodes b) : TciNodes.SameWalk t t :=
  ⟨rfl, rfl, rfl, .of_eq (Q := fun it it' : RootToChildIter b => it'.items = it.items)
    (fun _ => rfl) rfl⟩

/-- The measurements differ in the table of the walk only. -/
def MeasurementData.SameWalk (m m' : MeasurementData b) : Prop :=
  ∃ t, m' = { m with tciNodes := t } ∧ TciNodes.SameWalk m.tciNodes t

theorem MeasurementData.SameWalk.refl (m : MeasurementData b) :
    MeasurementData.SameWalk m m := ⟨_, rfl, .refl _⟩

namespace CertWriter

variable {cfg : CertConfig} {m m' : MeasurementData b}

theorem getExtensionsSize_congr (h : MeasurementData.SameWalk m m')
    (tagged explicit isX509 : Bool) :
    getExtensionsSize cfg m' tagged explicit isX509
      = getExtensionsSize cfg m tagged explicit isX509 := by
  obtain ⟨t, rfl, hwalk⟩ := h
  unfold getExtensionsSize getMultiTcbInfoSize
  dsimp only
  rw [hwalk.isEmpty, hwalk.numNodes, hwalk.firstNode]
  rfl

theorem getAttributeSize_congr (h : MeasurementData.SameWalk m m') (tagged : Bool) :
    getAttributeSize cfg m' tagged = getAttributeSize cfg m tagged := by
  unfold getAttributeSize
  rw [getExtensionsSize_congr h]

theorem getAttributesSize_congr (h : MeasurementData.SameWalk m m') (tagged : Bool) :
    getAttributesSize cfg m' tagged = getAttributesSize cfg m tagged := by
  unfold getAttributesSize
  rw [getAttributeSize_congr h]

theorem tcbInfosSize_congr (h : MeasurementData.SameWalk m m') (profile : DpeProfile) :
    tcbInfosSize profile m' = tcbInfosSize profile m := by
  obtain ⟨t, rfl, hwalk⟩ := h
  unfold tcbInfosSize
  dsimp only
  rw [hwalk.isEmpty, hwalk.numNodes, hwalk.firstNode]

theorem twin_encodeTcbInfos (profile : DpeProfile) (supportsRecursive : Bool)
    (nodes : List (Except DpeErrorCode (Context b))) :
    TwinEnc L (encodeTcbInfos profile supportsRecursive nodes : EncM σ _)
      (encodeTcbInfos profile supportsRecursive nodes) := by
  induction nodes with
  | nil => exact .pure rfl
  | cons node rest ih =>
      exact (EncM.twin_orFail rfl).seq fun _ => (EncM.twin_emit _).seq fun _ =>
        ih.seq fun _ => .pure rfl

theorem twin_encodeMultiTcbInfo (h : MeasurementData.SameWalk m m') :
    TwinEnc L (encodeMultiTcbInfo cfg m : EncM σ _) (encodeMultiTcbInfo cfg m') := by
  have hsize := tcbInfosSize_congr h cfg.profile
  obtain ⟨t, rfl, hwalk⟩ := h
  refine (EncM.twin_orFail hsize).seq fun _ => (EncM.twin_emit _).seq fun _ => ?_
  refine .bind (Q := fun it it' => it'.items = it.items) (fun _ => rfl)
    (EncM.twins_orFail hwalk.items) ?_
  intro it it' hitems
  rw [hitems]
  exact (twin_encodeTcbInfos _ _ _).seq fun _ => .pure rfl

theorem twin_encodeExtensions (h : MeasurementData.SameWalk m m') (isX509 : Bool) :
    TwinEnc L (encodeExtensions cfg m isX509 : EncM σ _)
      (encodeExtensions cfg m' isX509) := by
  have htag : TwinEnc L (encodeExtensionsTag cfg m isX509 : EncM σ _)
      (encodeExtensionsTag cfg m' isX509) := by
    refine .ite Iff.rfl ?_ (.pure rfl)
    exact (EncM.twin_emit _).seq fun _ =>
      (EncM.twin_orFail (getExtensionsSize_congr h _ _ _)).seq fun _ =>
        (EncM.twin_emit _).seq fun _ => .pure rfl
  have hothers : encodeOtherExtensions cfg m' isX509 = encodeOtherExtensions cfg m isX509 := by
    obtain ⟨t, rfl, -⟩ := h
    rfl
  refine htag.seq fun _ => (EncM.twin_emit _).seq fun _ => ?_
  refine (EncM.twin_orFail (getExtensionsSize_congr h _ _ _)).seq fun _ => ?_
  refine (EncM.twin_emit _).seq fun _ => (twin_encodeMultiTcbInfo h).seq fun _ => ?_
  rw [hothers]
  exact (EncM.twin_emit _).seq fun _ => .pure rfl

theorem twin_encodeAttributes (h : MeasurementData.SameWalk m m') :
    TwinEnc L (encodeAttributes cfg m : EncM σ _) (encodeAttributes cfg m') :=
  (EncM.twin_emit _).seq fun _ =>
    (EncM.twin_orFail (getAttributesSize_congr h _)).seq fun _ =>
      (EncM.twin_emit _).seq fun _ => (EncM.twin_emit _).seq fun _ =>
        (EncM.twin_orFail (getAttributeSize_congr h _)).seq fun _ =>
          (EncM.twin_emit _).seq fun _ => (EncM.twin_emit _).seq fun _ =>
            (EncM.twin_emit _).seq fun _ =>
              (EncM.twin_orFail (getExtensionsSize_congr h _ _ _)).seq fun _ =>
                (EncM.twin_emit _).seq fun _ =>
                  (twin_encodeExtensions h _).seq fun _ => .pure rfl

/-! ## Payloads and messages -/

theorem twin_encodeRdn (name : Name) :
    TwinEnc L (encodeRdn name : EncM σ _) (encodeRdn name) :=
  (EncM.twin_emit _).seq fun _ => EncM.twin_checkNotTruncated.seq fun _ => .pure rfl

theorem twin_encodePubKeyInfo (pubKey : PubKey) :
    TwinEnc L (encodePubKeyInfo b cfg pubKey : EncM σ _) (encodePubKeyInfo b cfg pubKey) := by
  cases pubKey with
  | ecdsa key =>
      cases key with
      | ecdsa256 key => exact .ite Iff.rfl (EncM.twin_emit _) (.throw _)
      | ecdsa384 key => exact .ite Iff.rfl (EncM.twin_emit _) (.throw _)
  | mldsa key => exact .ite Iff.rfl (EncM.twin_emit _) (.throw _)

theorem twin_encodeTbs (h : MeasurementData.SameWalk m m') (serialNumber issuerName : Bytes)
    (subjectName : Name) (pubkey : PubKey) (validity : CertValidity) :
    TwinEnc L (encodeTbs cfg serialNumber issuerName subjectName pubkey m validity : EncM σ _)
      (encodeTbs cfg serialNumber issuerName subjectName pubkey m' validity) :=
  (EncM.twin_emit _).seq fun _ => (EncM.twin_pushBacktrack _).seq fun _ =>
    (EncM.twin_emit _).seq fun _ => (twin_encodeRdn _).seq fun _ =>
      (twin_encodePubKeyInfo _).seq fun _ => (twin_encodeExtensions h _).seq fun _ =>
        (EncM.twin_backtrackAndEncodeSize _).seq fun _ =>
          EncM.twin_checkNotTruncated.seq fun _ => .pure rfl

theorem twin_encodeCertificationRequestInfo (h : MeasurementData.SameWalk m m')
    (pubKey : PubKey) (subjectName : Name) :
    TwinEnc L (encodeCertificationRequestInfo cfg pubKey subjectName m : EncM σ _)
      (encodeCertificationRequestInfo cfg pubKey subjectName m') :=
  (EncM.twin_emit _).seq fun _ => (EncM.twin_pushBacktrack _).seq fun _ =>
    (EncM.twin_emit _).seq fun _ => (twin_encodeRdn _).seq fun _ =>
      (twin_encodePubKeyInfo _).seq fun _ => (twin_encodeAttributes h).seq fun _ =>
        (EncM.twin_backtrackAndEncodeSize _).seq fun _ =>
          EncM.twin_checkNotTruncated.seq fun _ => .pure rfl

/-- A signed structure around twin payloads. -/
theorem twin_encodeSignedPayload {signCb : SignCallback σ}
    (hcb : EncM.TwinCallback L signCb) {payload payload' : SignedPayload b}
    (hpayload : TwinEnc L (encodePayload cfg payload : EncM σ _) (encodePayload cfg payload'))
    (hkind : SignedPayload.isCsr payload' = SignedPayload.isCsr payload) :
    TwinEnc L (encodeSignedPayload cfg signCb payload)
      (encodeSignedPayload cfg signCb payload') := by
  refine (EncM.twin_emit _).seq fun _ => (EncM.twin_pushBacktrack _).seq fun _ => ?_
  refine hpayload.seq fun _ => ?_
  rw [hkind]
  refine (EncM.twin_sign hcb _ _ _).seq fun _ => .get_bind fun s s' h => ?_
  rw [h.2.1]
  exact (EncM.twin_emit _).seq fun _ => EncM.twin_zeroize.seq fun _ =>
    (EncM.twin_backtrackAndEncodeSize _).seq fun _ => .pure rfl

theorem twin_encodeCertificate {signCb : SignCallback σ}
    (hcb : EncM.TwinCallback L signCb) (h : MeasurementData.SameWalk m m')
    (serialNumber issuerName : Bytes) (subjectName : Name) (pubkey : PubKey)
    (validity : CertValidity) :
    TwinEnc L
      (encodeCertificate cfg signCb serialNumber issuerName subjectName pubkey m validity)
      (encodeCertificate cfg signCb serialNumber issuerName subjectName pubkey m' validity) := by
  have hpayload : TwinEnc L
      (encodePayload cfg (.tbs serialNumber issuerName subjectName pubkey m validity))
      (encodePayload cfg (.tbs serialNumber issuerName subjectName pubkey m' validity)) :=
    twin_encodeTbs h _ _ _ _ _
  exact (twin_encodeSignedPayload hcb hpayload rfl).seq fun _ =>
    EncM.twin_checkNotTruncated.seq fun _ => .pure rfl

theorem twin_encodeCsr {signCb : SignCallback σ} (hcb : EncM.TwinCallback L signCb)
    (h : MeasurementData.SameWalk m m') (pubKey : PubKey) (subjectName : Name) :
    TwinEnc L (encodeCsr cfg signCb pubKey subjectName m)
      (encodeCsr cfg signCb pubKey subjectName m') := by
  have hpayload : TwinEnc L
      (encodePayload cfg (.certReqInfo pubKey subjectName m))
      (encodePayload cfg (.certReqInfo pubKey subjectName m')) :=
    twin_encodeCertificationRequestInfo h _ _
  exact (twin_encodeSignedPayload hcb hpayload rfl).seq fun _ =>
    EncM.twin_checkNotTruncated.seq fun _ => .pure rfl

theorem twin_encodeEncapsulatedContentInfo {signCb : SignCallback σ}
    (hcb : EncM.TwinCallback L signCb) (h : MeasurementData.SameWalk m m')
    (pubKey : PubKey) (subjectName : Name) :
    TwinEnc L (encodeEncapsulatedContentInfo cfg signCb pubKey subjectName m)
      (encodeEncapsulatedContentInfo cfg signCb pubKey subjectName m') :=
  (EncM.twin_emit _).seq fun _ => (EncM.twin_pushBacktrack _).seq fun _ =>
    (EncM.twin_emit _).seq fun _ => (EncM.twin_pushBacktrack _).seq fun _ =>
      (EncM.twin_emit _).seq fun _ => (EncM.twin_pushBacktrack _).seq fun _ =>
        (twin_encodeCsr hcb h _ _).seq fun _ => (EncM.twin_setWriter _).seq fun _ =>
          (EncM.twin_backtrackAndEncodeSize _).seq fun _ =>
            (EncM.twin_backtrackAndEncodeSize _).seq fun _ => .pure rfl

theorem twin_getCsrRange : TwinEnc L (getCsrRange : EncM σ _) getCsrRange := by
  refine .get_bind fun s s' h => ?_
  rw [h.1]
  cases s.writer.csrRange with
  | none => exact .throw _
  | some range => exact .pure rfl

theorem twin_encodeSignerInfo (sig : Signature) (sid : SignerIdentifier b) :
    TwinEnc L (encodeSignerInfo cfg sig sid : EncM σ _) (encodeSignerInfo cfg sig sid) :=
  (EncM.twin_emit _).seq fun _ => EncM.twin_checkNotTruncated.seq fun _ => .pure rfl

theorem twin_encodeCms {signCb : SignCallback σ} (hcb : EncM.TwinCallback L signCb)
    (h : MeasurementData.SameWalk m m') (pubKey : PubKey) (subjectName : Name)
    (sid : SignerIdentifier b) :
    TwinEnc L (encodeCms cfg signCb pubKey subjectName m sid)
      (encodeCms cfg signCb pubKey subjectName m' sid) := by
  refine (EncM.twin_emit _).seq fun _ => (EncM.twin_pushBacktrack _).seq fun _ => ?_
  refine (EncM.twin_emit _).seq fun _ => (EncM.twin_pushBacktrack _).seq fun _ => ?_
  refine (EncM.twin_emit _).seq fun _ => (EncM.twin_pushBacktrack _).seq fun _ => ?_
  refine (EncM.twin_emit _).seq fun _ => ?_
  refine (twin_encodeEncapsulatedContentInfo hcb h _ _).seq fun _ => ?_
  refine twin_getCsrRange.seq fun _ => (EncM.twin_sign hcb _ _ _).seq fun _ => ?_
  refine .get_bind fun s s' hs => ?_
  rw [hs.2.1]
  refine (EncM.twin_emit _).seq fun _ => (twin_encodeSignerInfo _ _).seq fun _ => ?_
  refine EncM.twin_zeroize.seq fun _ => (EncM.twin_backtrackAndEncodeSize _).seq fun _ => ?_
  refine .get_bind fun s s' hs => ?_
  rw [hs.1]
  exact (EncM.twin_reject rfl _).seq fun _ => EncM.twin_checkNotTruncated.seq fun _ => .pure rfl

end CertWriter

end Encoders

/-! ## Keys, names and identifiers -/

section Creation

variable {W α : Type} {stale : ContextHandle → Prop} {pinned : Fin b.maxHandles → Prop}
  (d : Deps b W) (dpe : DpeInstance b)

theorem twin_runEncoder (sig : Signature) {m m' : EncM (Env b W) α}
    (hm : TwinEnc (residue b W stale pinned) m m') :
    Twin stale pinned (runEncoder sig m) (runEncoder sig m') := by
  have hmid : ∀ env : Env b W, (residue b W stale pinned).Fair
      (final (runEncoder sig m env)) → (Enc.likeness (residue b W stale pinned)).Fair
      (final (m { writer := .new env.out, sig := sig, env := env })) := by
    intro env hfair
    unfold runEncoder at hfair
    cases hr : m { writer := .new env.out, sig := sig, env := env } with
    | ok a t =>
        rw [hr] at hfair
        exact hfair
    | error e t =>
        rw [hr] at hfair
        exact hfair
  refine ⟨fun env hfair => hm.back _ (hmid env hfair), fun env env' h hfair => ?_⟩
  have hagree := hm.agree { writer := .new env.out, sig := sig, env := env }
    { writer := .new env'.out, sig := sig, env := env' }
    ⟨by rw [h.out], rfl, h⟩ (hmid env hfair)
  unfold runEncoder
  cases hr : m { writer := .new env.out, sig := sig, env := env } with
  | ok a t =>
      rw [hr] at hagree
      cases hr' : m' { writer := .new env'.out, sig := sig, env := env' } with
      | ok a' t' =>
          rw [hr'] at hagree
          obtain ⟨hvalue, hwriter, -, henv⟩ := hagree
          exact ⟨hvalue, henv.state, henv.world, congrArg CertWriter.certificate hwriter,
            henv.hashed, henv.drawn⟩
      | error e' t' =>
          rw [hr'] at hagree
          exact hagree.elim
  | error e t =>
      rw [hr] at hagree
      cases hr' : m' { writer := .new env'.out, sig := sig, env := env' } with
      | ok a' t' =>
          rw [hr'] at hagree
          exact hagree.elim
      | error e' t' =>
          rw [hr'] at hagree
          obtain ⟨hvalue, hwriter, -, henv⟩ := hagree
          exact ⟨hvalue, henv.state, henv.world, congrArg CertWriter.certificate hwriter,
            henv.hashed, henv.drawn⟩

theorem twin_derivePubKey (measurement : Digest) (info label derivedInfo : Bytes)
    (out : PubKey) :
    Twin stale pinned (derivePubKey d measurement info label derivedInfo out)
      (derivePubKey d measurement info label derivedInfo out) :=
  (twin_crypto _).seq fun _ => (twin_crypto _).seq fun _ => twin_crypto _

theorem twin_certSignCb (args : CreateDpeCertArgs) (digest : Digest)
    (exportedCdiHandle : Option ExportedCdiHandle) :
    EncM.TwinCallback (residue b W stale pinned)
      (certSignCb d args digest exportedCdiHandle) := by
  intro buf start stop useDerived out
  refine .ite Iff.rfl ?_ (twin_crypto _)
  cases exportedCdiHandle with
  | none =>
      exact (twin_crypto _).seq fun _ => (twin_crypto _).seq fun _ => twin_crypto _
  | some handle => exact (twin_crypto _).seq fun _ => twin_crypto _

theorem twin_deriveCertKey (args : CreateDpeCertArgs) (certType : CertificateType)
    (digest : Digest) :
    Twin stale pinned (deriveCertKey d dpe args certType digest)
      (deriveCertKey d dpe args certType digest) := by
  cases certType with
  | leaf => exact (twin_derivePubKey d _ _ _ _ _).seq fun _ => .pure rfl
  | exported =>
      exact (twin_crypto _).seq fun _ => (twin_crypto _).seq fun _ =>
        (twin_crypto _).seq fun _ => .pure rfl

theorem twin_hashPubKey (pubKey : PubKey) :
    Twin stale pinned (hashPubKey d pubKey) (hashPubKey d pubKey) := by
  cases pubKey with
  | ecdsa key => exact twin_hashAll d _
  | mldsa key => exact twin_hashAll d _

theorem twin_getSubjectName (certType : CertificateType) (pubKey : PubKey) :
    Twin stale pinned (getSubjectName d certType pubKey)
      (getSubjectName d certType pubKey) := by
  have hserial : Twin stale pinned (getPubkeySerial d pubKey SUBJ_SERIAL_SIZE)
      (getPubkeySerial d pubKey SUBJ_SERIAL_SIZE) := by
    refine .get_bind fun env env' h => ?_
    rw [h.world]
    exact (twin_reject rfl _).seq fun _ => (twin_reject rfl _).seq fun _ =>
      (twin_hashPubKey d pubKey).seq fun _ => (twin_reject rfl _).seq fun _ => .pure rfl
  exact hserial.seq fun _ => .pure rfl

theorem twin_getSubjectKeyIdentifier (pubKey : PubKey) :
    Twin stale pinned (getSubjectKeyIdentifier d pubKey)
      (getSubjectKeyIdentifier d pubKey) := by
  refine (twin_hashPubKey d pubKey).seq fun digest => ?_
  by_cases h : digest.asSlice.length < MAX_KEY_IDENTIFIER_SIZE
  · rw [dif_pos h]
    exact .throw _
  · rw [dif_neg h]
    exact .pure rfl

theorem twin_getSubjectAltName :
    Twin stale pinned (getSubjectAltName d : M b W _) (getSubjectAltName d) := by
  refine (twin_tryPlatform _).seq fun r => ?_
  cases r with
  | ok san => exact .pure rfl
  | error e =>
      cases e with
      | notImplemented => exact .pure rfl
      | _ => exact .throw _

theorem twin_tryU32 (n : Nat) (e : InternalErrorCode) :
    Twin stale pinned (tryU32 n e : M b W _) (tryU32 n e) :=
  (twin_reject rfl _).seq fun _ => .pure rfl

theorem twin_getFormatArgs (certFormat : CertificateFormat) :
    Twin stale pinned (getFormatArgs d certFormat) (getFormatArgs d certFormat) := by
  have hissuer : Twin stale pinned (getIssuerName d) (getIssuerName d) :=
    (twin_platform _).seq fun _ => (twin_reject rfl _).seq fun _ => .pure rfl
  refine (twin_platform _).seq fun _ => (twin_platform _).seq fun _ => ?_
  cases certFormat with
  | x509 => exact hissuer.seq fun _ => .pure rfl
  | csr => exact .pure rfl

/-! ## The certificate -/

/-- The node data of the first slot. -/
theorem firstNode_residual {s s' : State b} (h : State.Residual stale pinned s s')
    (path : List Nat) :
    ((⟨s'.slice, path⟩ : RootToChildIter b).firstNode.map fun c => c.tci)
      = (⟨s.slice, path⟩ : RootToChildIter b).firstNode.map fun c => c.tci := by
  unfold RootToChildIter.firstNode State.slice
  rw [List.head?_eq_getElem?, List.head?_eq_getElem?, List.getElem?_ofFn,
    List.getElem?_ofFn, dif_pos b.maxHandles_pos, dif_pos b.maxHandles_pos]
  exact congrArg Except.ok (h.slots _).tci_eq

/-- The walks of two states. -/
theorem matched_tciNodes {s s' : State b} (h : State.Residual stale pinned s s')
    (idx : Nat) :
    Matched TciNodes.SameWalk (TciNodes.new idx s.slice) (TciNodes.new idx s'.slice) := by
  have hiter := matched_iter h idx
  have hwalk := h.walk_eq b.maxHandles idx
  unfold TciNodes.new TciNodes.iter
  dsimp only
  cases hpath : RootToChildIter.walk s.slice b.maxHandles idx with
  | error e =>
      rw [hpath] at hwalk
      have hnew : RootToChildIter.new idx s.slice = .error e := by
        unfold RootToChildIter.new
        rw [hpath]
      have hnew' : RootToChildIter.new idx s'.slice = .error e := by
        unfold RootToChildIter.new
        rw [hwalk]
      rw [hnew, hnew']
      rfl
  | ok path =>
      rw [hpath] at hwalk
      have hnew : RootToChildIter.new idx s.slice = .ok ⟨s.slice, path⟩ := by
        unfold RootToChildIter.new
        rw [hpath]
      have hnew' : RootToChildIter.new idx s'.slice = .ok ⟨s'.slice, path⟩ := by
        unfold RootToChildIter.new
        rw [hwalk]
      have hsame : TciNodes.SameWalk ⟨idx, s.slice⟩ ⟨idx, s'.slice⟩ := by
        refine ⟨?_, ?_, ?_, hiter⟩
        · unfold TciNodes.isEmpty TciNodes.iter
          rw [hnew, hnew']
          rfl
        · unfold TciNodes.numNodes TciNodes.iter
          rw [hnew, hnew']
          rfl
        · unfold TciNodes.firstNode TciNodes.iter
          rw [hnew, hnew']
          exact firstNode_residual h path
      rw [hnew, hnew'] at hiter ⊢
      have hitems : (⟨s'.slice, path⟩ : RootToChildIter b).items
        = (⟨s.slice, path⟩ : RootToChildIter b).items := hiter
      show Matched _ (if _ then _ else _) (if _ then _ else _)
      rw [hitems]
      split
      · rfl
      · exact hsame

theorem twins_getMeasurements (args : CreateDpeCertArgs) (certType : CertificateType)
    (pubKey : PubKey) :
    Twins (residue b W stale pinned) MeasurementData.SameWalk
      (getMeasurements d args certType pubKey) (getMeasurements d args certType pubKey) := by
  refine (twin_getSubjectKeyIdentifier d pubKey).seq fun ski => ?_
  refine (twin_platform _).seq fun aki => (twin_getSubjectAltName d).seq fun san => ?_
  refine .get_bind fun env env' h => ?_
  rw [h.state.getActiveContextPos_eq, h.state.support_eq]
  refine (twin_orFail rfl).seq fun idx => ?_
  refine .bind TciNodes.SameWalk.refl (twins_orFail (matched_tciNodes h.state idx)) ?_
  intro t t' hwalk
  exact .pure ⟨t', rfl, hwalk⟩

theorem twin_generateCertOrCsr (formatArgs : CertOrCsrArgs b) (cfg : CertConfig)
    (subjectName : Name) (pubKey : PubKey) {m m' : MeasurementData b}
    (hm : MeasurementData.SameWalk m m') {signCb : SignCallback (Env b W)}
    (hcb : EncM.TwinCallback (residue b W stale pinned) signCb) (sig : Signature) :
    Twin stale pinned (generateCertOrCsr formatArgs cfg subjectName pubKey m signCb sig)
      (generateCertOrCsr formatArgs cfg subjectName pubKey m' signCb sig) := by
  cases formatArgs with
  | cert issuerName certValidity =>
      refine (twin_reject rfl _).seq fun _ => ?_
      have henc : TwinEnc (residue b W stale pinned) (CertWriter.encodeCertificate cfg signCb
          (subjectName.serial.bytes.take 20) issuerName subjectName pubKey m certValidity)
          (CertWriter.encodeCertificate cfg signCb (subjectName.serial.bytes.take 20)
            issuerName subjectName pubKey m' certValidity) :=
        CertWriter.twin_encodeCertificate hcb hm _ _ _ _ _
      exact (twin_runEncoder sig henc).seq fun _ => twin_tryU32 _ _
  | csr signerIdentifier =>
      have henc : TwinEnc (residue b W stale pinned)
          (CertWriter.encodeCms cfg signCb pubKey subjectName m signerIdentifier)
          (CertWriter.encodeCms cfg signCb pubKey subjectName m' signerIdentifier) :=
        CertWriter.twin_encodeCms hcb hm _ _ _
      exact (twin_runEncoder sig henc).seq fun _ => twin_tryU32 _ _

/-- **CERTIFICATES AND CSRS** come out the same. -/
theorem twin_createDpeCertOrCsr (args : CreateDpeCertArgs)
    (certFormat : CertificateFormat) (certType : CertificateType) :
    Twin stale pinned (createDpeCertOrCsr d dpe args certFormat certType)
      (createDpeCertOrCsr d dpe args certFormat certType) := by
  have hdigest : Twin stale pinned
      (getDpeMeasurementDigest d dpe args.handle args.locality)
      (getDpeMeasurementDigest d dpe args.handle args.locality) := by
    refine .get_bind fun env env' h => ?_
    rw [h.state.getActiveContextPos_eq]
    exact (twin_orFail rfl).seq fun _ => twin_computeMeasurementHash d dpe _
  refine hdigest.seq fun digest => (twin_deriveCertKey d dpe args certType digest).seq
    fun key => ?_
  refine (twin_getSubjectName d certType key.1).seq fun subjectName => ?_
  refine .bind MeasurementData.SameWalk.refl (twins_getMeasurements d args certType key.1) ?_
  intro m m' hm
  refine .get_bind fun env env' h => ?_
  rw [h.world]
  refine (twin_getFormatArgs d certFormat).seq fun formatArgs => ?_
  exact (twin_generateCertOrCsr formatArgs _ subjectName key.1 hm
    (twin_certSignCb d args digest key.2) _).seq fun _ => .pure rfl

end Creation

end Dpe
