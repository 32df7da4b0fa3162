import Dpe.Proofs.Messages

/-! # CMS messages

    A message wraps a CSR, and signs it.  Two calls are made: the derived
    key signs the request info of the CSR, and then the other key signs
    the CSR as it stands in the message, its own signature in it. -/

namespace Dpe

open Der Tlv Prog

namespace CertWriter

variable {b : Build} {σ : Type}

/-- The CSR of a message. -/
def csrTree (cfg : CertConfig) (pubKey : PubKey) (subjectName : Name)
    (measurements : MeasurementData b) (first : TciNodeData b)
    (nodes : List (TciNodeData b)) (csrSig : Signature) : Tlv :=
  signedTree cfg first nodes (.certReqInfo pubKey subjectName measurements) csrSig

/-- The CSR of a message is signed by the derived key. -/
def CsrSigned (signCb : SignCallback σ) (cfg : CertConfig) (pubKey : PubKey)
    (subjectName : Name) (measurements : MeasurementData b)
    (first : TciNodeData b) (nodes : List (TciNodeData b))
    (csrSig : Signature) : Prop :=
  SignedOver signCb true (certReqInfoTree cfg pubKey subjectName measurements
    first nodes).bytes csrSig

/-! ## The CSR in its OCTET STRING -/

theorem econtent_inner (n : Nat) : getEcontentSize n false false = n := rfl

theorem econtent_outer (csr : Tlv) : getEcontentSize csr.size true false
    = (sized OCTET_STRING_TAG csr).size := by
  simp [getEcontentSize, getWrappedSize, sized]

/-- What stands in front of the CSR. -/
def encapsulatedHeader (csr : Tlv) : Bytes :=
  let eContent := sized (CONTEXT_SPECIFIC ||| CONSTRUCTED ||| 0x0)
    (sized OCTET_STRING_TAG csr)
  SEQUENCE_TAG :: (lengthField (all [prim OID_TAG ID_DATA_OID, eContent]).size
    ++ (prim OID_TAG ID_DATA_OID).bytes
    ++ (CONTEXT_SPECIFIC ||| CONSTRUCTED ||| 0x0)
      :: lengthField (sized OCTET_STRING_TAG csr).size
    ++ OCTET_STRING_TAG :: lengthField csr.size)

theorem encapsulatedTree_bytes (csr : Tlv) :
    (encapsulatedTree csr).bytes = encapsulatedHeader csr ++ csr.bytes := by
  simp only [encapsulatedTree, encapsulatedHeader, sized_bytes, bytes_all_cons,
    bytes_all_nil, List.append_assoc, List.cons_append, List.nil_append,
    List.append_nil]

/-- The three lengths in front of the CSR fill their gaps. -/
structure WideEncapsulated (csr : Tlv) : Prop where
  octets : Wide (sized OCTET_STRING_TAG csr)
  eContent : Wide (sized (CONTEXT_SPECIFIC ||| CONSTRUCTED ||| 0x0)
    (sized OCTET_STRING_TAG csr))
  whole : Wide (encapsulatedTree csr)

/-- Where the CSR begins in its EncapsulatedContentInfo. -/
def encapsulatedOffset : Nat := (prim OID_TAG ID_DATA_OID).size + 12

theorem WideEncapsulated.size_eq {csr : Tlv} (h : WideEncapsulated csr) :
    (encapsulatedTree csr).size = encapsulatedOffset + csr.size := by
  rw [encapsulatedTree, size_sized h.whole, size_all_cons, size_all_cons,
    size_all_nil, size_sized h.eContent, size_sized h.octets, encapsulatedOffset]
  omega

theorem WideEncapsulated.length_header {csr : Tlv} (h : WideEncapsulated csr) :
    (encapsulatedHeader csr).length = encapsulatedOffset := by
  have hlen := congrArg List.length (encapsulatedTree_bytes csr)
  rw [List.length_append, length_bytes, length_bytes, h.size_eq] at hlen
  omega

section Message

variable (cfg : CertConfig) (pubKey : PubKey) (subjectName : Name)
  (measurements : MeasurementData b) (first : TciNodeData b)
  (nodes : List (TciNodeData b))

/-- The call that signs the request info of the CSR, which starts at
    `start`. -/
def HandedInfo (r : ResponseBuffer) (start : Nat) : SignCall → Prop :=
  Handed r true (start + 4) (certReqInfoTree cfg pubKey subjectName measurements
    first nodes).bytes

/-- Nothing but the room for the output is missing. -/
structure CanEncapsulate (signCb : SignCallback σ) (csrSig : Signature) (env : σ)
    (s : Enc σ) : Prop where
  sound : SoundPayload cfg first nodes (.certReqInfo pubKey subjectName measurements)
  ready : Ready 5 s
  csr : Wide (csrTree cfg pubKey subjectName measurements first nodes csrSig)
  wide : WideEncapsulated
    (csrTree cfg pubKey subjectName measurements first nodes csrSig)
  answers : Answers signCb true (s.writer.offset + encapsulatedOffset + 4)
    (certReqInfoTree cfg pubKey subjectName measurements first nodes).bytes
    s.sig s.env csrSig env

/-- The CSR is appended in its OCTET STRING, and where it lies in the
    message is remembered. -/
structure Encapsulated (signCb : SignCallback σ) (s : Enc σ) (n : Nat)
    (csrSig : Signature) (env : σ) (c : SignCall) (s' : Enc σ) : Prop where
  size : n = (encapsulatedTree
    (csrTree cfg pubKey subjectName measurements first nodes csrSig)).size
  sound : SoundPayload cfg first nodes (.certReqInfo pubKey subjectName measurements)
  ready : Ready 5 s
  csr : Wide (csrTree cfg pubKey subjectName measurements first nodes csrSig)
  wide : WideEncapsulated
    (csrTree cfg pubKey subjectName measurements first nodes csrSig)
  signs : Signed signCb s.writer.certificate true
    (s.writer.offset + encapsulatedOffset + 4)
    (certReqInfoTree cfg pubKey subjectName measurements first nodes).bytes
    s.sig s.env csrSig env c
  grew : Grew { s with sig := csrSig.zeroize, env := env } (encapsulatedTree
    (csrTree cfg pubKey subjectName measurements first nodes csrSig)).bytes [] s'
  range : s'.writer.csrRange = some (s.writer.offset + encapsulatedOffset,
    s.writer.offset + encapsulatedOffset
      + (csrTree cfg pubKey subjectName measurements first nodes csrSig).size)
  fits : Fits n s

end Message

variable {cfg : CertConfig} {measurements : MeasurementData b}
  {first : TciNodeData b} {chain : List (Context b)} {signCb : SignCallback σ}

/-- **THE CSR IN ITS OCTET STRING**. -/
theorem encodeEncapsulatedContentInfo_spec
    (h : measurements.tciNodes.Valid → Walks measurements.tciNodes first chain)
    (pubKey : PubKey) (subjectName : Name) (s : Enc σ) (csrSig' : Signature)
    (env' : σ) :
    Post (encodeEncapsulatedContentInfo cfg signCb pubKey subjectName
        measurements) s
      (fun n s' => ∃ csrSig env c, Encapsulated cfg pubKey subjectName measurements
        first (nodesOf chain) signCb s n csrSig env c s')
      (fun e s' => Lost
        (Called signCb (HandedInfo cfg pubKey subjectName measurements first
          (nodesOf chain) s.writer.certificate
          (s.writer.offset + encapsulatedOffset)))
        (CanEncapsulate cfg pubKey subjectName measurements first (nodesOf chain)
          signCb csrSig' env' s)
        (Fits (encapsulatedTree (csrTree cfg pubKey subjectName measurements
          first (nodesOf chain) csrSig')).size s) e s s') := by
  refine (Grew.refl s).step (.emit (emits_encodeByte _)) fun s1 h1 => ?_
  refine h1.push Called.refl (fun o => ?_) fun g1 s2 hg1 _ h2 => ?_
  · have hroom := o.ready.room
    simp only [List.length_nil]
    omega
  refine h2.step (.emit (.cons (emits_encodeOid ID_DATA_OID)
    (.cons (emits_encodeByte _) .nil))) fun s3 h3 => ?_
  refine h3.push Called.refl (fun o => ?_) fun g2 s4 hg2 _ h4 => ?_
  · have hroom := o.ready.room
    simp only [List.length_cons, List.length_nil]
    omega
  refine h4.step (.emit (emits_encodeByte _)) fun s5 h5 => ?_
  refine h5.push Called.refl (fun o => ?_) fun g3 s6 hg3 _ h6 => ?_
  · have hroom := o.ready.room
    simp only [List.length_cons, List.length_nil]
    omega
  have hoff6 : s6.writer.offset = s.writer.offset + encapsulatedOffset := by
    rw [h6.opened.offset]
    simp only [List.length_append, length_bytes, List.length_cons,
      List.length_nil, hg1, hg2, hg3, encapsulatedOffset]
    omega
  refine Post.bind ((encodeCsr_spec h pubKey subjectName s6 csrSig' env').mono
    (fun _ _ h => h) ?_) ?_
  · intro e s' hlost
    refine hlost.after h6 ?_ ?_ ?_
    · intro env env' hcalled
      refine hcalled.mono fun c hc => ?_
      have hc' := hc.congr h6.opened.shape
      rw [hoff6] at hc'
      exact hc'
    · intro o
      refine ⟨o.sound, h6.ready o.ready, o.csr, ?_⟩
      rw [hoff6, h6.sig, h6.env]
      exact o.answers
    · intro o f
      rw [o.wide.size_eq] at f
      unfold Fits at f
      show s6.writer.offset + (csrTree cfg pubKey subjectName measurements first
        (nodesOf chain) csrSig').size ≤ _
      rw [hoff6, h6.opened.capacity]
      omega
  rintro n s7 ⟨hfits, csrSig, env, c, hsigned⟩
  have hsigns := hsigned.signs
  unfold SignsPayload at hsigns
  rw [hoff6, h6.sig, h6.env] at hsigns
  have hcall : Called signCb (HandedInfo cfg pubKey subjectName measurements first
      (nodesOf chain) s.writer.certificate
      (s.writer.offset + encapsulatedOffset)) s.env env :=
    .single hsigns.made (hsigns.handed.congr h6.opened.shape)
  have hunique : CanEncapsulate cfg pubKey subjectName measurements first
      (nodesOf chain) signCb csrSig' env' s → csrSig = csrSig' ∧ env = env' :=
    fun o => hsigns.unique o.answers
  obtain ⟨hn, hsound, hready, hwide, -, h7⟩ := hsigned
  refine rebase csrSig.zeroize hcall ?_
  have h7' := (h6.answered csrSig.zeroize env).append h7
  rw [hn] at hfits ⊢
  generalize hcsr : signedTree cfg first (nodesOf chain)
    (.certReqInfo pubKey subjectName measurements) csrSig = csr at *
  refine h7'.setRange fun s8 hrange h8 => ?_
  rw [econtent_inner, econtent_outer]
  refine h8.fillTwo hg2 hg3 Called.refl ?_ fun s9 hw1 hw0 hrange' h9 => ?_
  · intro o
    obtain ⟨rfl, rfl⟩ := hunique o
    have hw := o.wide
    rw [csrTree, hcsr] at hw
    exact ⟨o.ready.saved, hw.octets, hw.eContent⟩
  have hs1 : (sized OCTET_STRING_TAG csr).size = 4 + csr.size := size_sized hw1
  have hs0 : (sized (CONTEXT_SPECIFIC ||| CONSTRUCTED ||| 0)
      (sized OCTET_STRING_TAG csr)).size
      = 4 + (sized OCTET_STRING_TAG csr).size := size_sized hw0
  have hbody : (all [prim OID_TAG ID_DATA_OID,
      sized (CONTEXT_SPECIFIC ||| CONSTRUCTED ||| 0)
        (sized OCTET_STRING_TAG csr)]).size
      = (prim OID_TAG ID_DATA_OID).size + (8 + csr.size) := by
    rw [size_all_cons, size_all_cons, size_all_nil, hs0, hs1]
    omega
  refine close_sized SEQUENCE_TAG (all [prim OID_TAG ID_DATA_OID,
    sized (CONTEXT_SPECIFIC ||| CONSTRUCTED ||| 0) (sized OCTET_STRING_TAG csr)])
    hg1 h9 ?_ ?_ Called.refl ?_ fun s10 hsaved hw hrange'' h10 => ?_
  · simp only [sized_bytes, bytes_all_cons, bytes_all_nil, List.append_assoc,
      List.nil_append, List.append_nil]
  · rw [hbody]
    simp only [List.length_append, length_bytes, List.length_cons,
      List.length_nil]
    omega
  · intro o
    obtain ⟨rfl, rfl⟩ := hunique o
    have hwhole := o.wide.whole
    rw [csrTree, hcsr] at hwhole
    exact ⟨o.ready.saved, hwhole⟩
  · have hwide' : WideEncapsulated csr := ⟨hw1, hw0, hw⟩
    have hsize := hwide'.size_eq
    have hroom := hready.room
    rw [h6.opened.backtracks, List.length_append] at hroom
    simp only [List.length_cons, List.length_nil] at hroom
    have hnum : 3 * [(all [prim OID_TAG ID_DATA_OID,
        sized (CONTEXT_SPECIFIC ||| CONSTRUCTED ||| 0)
          (sized OCTET_STRING_TAG csr)]).size].length = 3 := rfl
    refine Post.pure ⟨csrSig, env, c, ?_⟩
    constructor
    · rw [csrTree, hcsr, hsize]
      simp only [List.length_append, length_bytes, List.length_cons,
        List.length_nil, encapsulatedOffset]
      omega
    · exact hsound
    · exact ⟨hsaved, by omega⟩
    · rw [csrTree, hcsr]
      exact hwide
    · rw [csrTree, hcsr]
      exact hwide'
    · exact ⟨hsigns.handed.congr h6.opened.shape, hsigns.out_eq,
        hsigns.answer_eq, hsigns.made⟩
    · rw [csrTree, hcsr]
      exact h10
    · rw [csrTree, hcsr, hrange'', hrange', hrange]
      refine congrArg (fun n => some (n, n + csr.size)) ?_
      rw [← hoff6, h6.opened.offset]
      simp only [List.length_append, length_bytes, List.length_cons,
        List.length_nil, hg1, hg2, hg3]
      omega
    · unfold Fits at hfits ⊢
      rw [hoff6, h6.opened.capacity, encapsulatedOffset] at hfits
      simp only [List.length_append, length_bytes, List.length_cons,
        List.length_nil]
      omega

/-! ## The message -/

theorem getCsrRange_eq {f : Nat × Nat → EncM σ Nat} {s : Enc σ}
    {range : Nat × Nat} {ok : Nat → Enc σ → Prop} {err : Stop → Enc σ → Prop}
    (hrange : s.writer.csrRange = some range) (hf : Post (f range) s ok err) :
    Post (getCsrRange >>= f) s ok err := by
  have hget : Post (getCsrRange : EncM σ (Nat × Nat)) s
      (fun r s' => r = range ∧ s' = s) err := by
    refine Post.get_bind ?_
    rw [hrange]
    exact Post.pure ⟨rfl, rfl⟩
  refine Post.bind hget ?_
  rintro _ _ ⟨rfl, rfl⟩
  exact hf

/-- The content of the SignedData of a message. -/
def signedDataBody (cfg : CertConfig) (sid : SignerIdentifier b) (csr : Tlv)
    (sig : Signature) : Tlv :=
  all [cmsVersionTree sid,
    node SET_OF_TAG (getHashAlgIdSize cfg.profile true)
      (hashAlgIdTree cfg.profile),
    encapsulatedTree csr,
    node SET_OF_TAG (getSignerInfoSize cfg.profile sig sid true)
      (signerInfoTree cfg sig sid)]

/-- The content of a message. -/
def contentInfoBody (cfg : CertConfig) (sid : SignerIdentifier b) (csr : Tlv)
    (sig : Signature) : Tlv :=
  all [prim OID_TAG ID_SIGNED_DATA_OID,
    sized (CONTEXT_SPECIFIC ||| CONSTRUCTED ||| 0x0)
      (sized SEQUENCE_TAG (signedDataBody cfg sid csr sig))]

theorem cmsTree_eq (pubKey : PubKey) (subjectName : Name)
    (sid : SignerIdentifier b) (nodes : List (TciNodeData b))
    (csrSig sig : Signature) :
    cmsTree cfg pubKey subjectName measurements sid first nodes csrSig sig
      = sized SEQUENCE_TAG (contentInfoBody cfg sid (csrTree cfg pubKey
          subjectName measurements first nodes csrSig) sig) := rfl

theorem emits_encodeCmsVersion (sid : SignerIdentifier b) :
    Emits (encodeCmsVersion sid) (cmsVersionTree sid).bytes :=
  emits_encodeIntegerBytes _

theorem signedDataBody_bytes (cfg : CertConfig) (sid : SignerIdentifier b)
    (csr : Tlv) (sig : Signature) :
    (signedDataBody cfg sid csr sig).bytes
      = (cmsVersionTree sid).bytes ++ ([SET_OF_TAG]
          ++ (lengthField (getHashAlgIdSize cfg.profile true)
            ++ ((hashAlgIdTree cfg.profile).bytes ++ [])))
        ++ (encapsulatedHeader csr ++ csr.bytes) ++ ([SET_OF_TAG]
          ++ (lengthField (getSignerInfoSize cfg.profile sig sid true) ++ []))
        ++ (signerInfoTree cfg sig sid).bytes := by
  simp [signedDataBody, encapsulatedTree_bytes, bytes]

/-- The three lengths around the SignedData fill their gaps. -/
structure WideMessage (cfg : CertConfig) (sid : SignerIdentifier b) (csr : Tlv)
    (sig : Signature) : Prop where
  signedData : Wide (sized SEQUENCE_TAG (signedDataBody cfg sid csr sig))
  content : Wide (sized (CONTEXT_SPECIFIC ||| CONSTRUCTED ||| 0x0)
    (sized SEQUENCE_TAG (signedDataBody cfg sid csr sig)))
  whole : Wide (sized SEQUENCE_TAG (contentInfoBody cfg sid csr sig))

theorem WideMessage.size_eq {sid : SignerIdentifier b} {csr : Tlv}
    {sig : Signature} (h : WideMessage cfg sid csr sig) :
    (sized SEQUENCE_TAG (contentInfoBody cfg sid csr sig)).size
      = (prim OID_TAG ID_SIGNED_DATA_OID).size + 12
        + (signedDataBody cfg sid csr sig).size := by
  rw [size_sized h.whole, contentInfoBody, size_all_cons, size_all_cons,
    size_all_nil, size_sized h.content, size_sized h.signedData]
  omega

/-- Where the CSR begins in a message. -/
def csrOffset (cfg : CertConfig) (sid : SignerIdentifier b) : Nat :=
  (prim OID_TAG ID_SIGNED_DATA_OID).size + 12 + (cmsVersionTree sid).size
    + (node SET_OF_TAG (getHashAlgIdSize cfg.profile true)
        (hashAlgIdTree cfg.profile)).size
    + encapsulatedOffset

section Message

variable (cfg : CertConfig) (pubKey : PubKey) (subjectName : Name)
  (measurements : MeasurementData b) (sid : SignerIdentifier b)
  (first : TciNodeData b) (nodes : List (TciNodeData b))

/-- What the input of a message must be like, and the lengths with these
    signatures, to be written. -/
structure SoundMessage (csrSig sig : Signature) : Prop where
  info : SoundPayload cfg first nodes (.certReqInfo pubKey subjectName measurements)
  csr : Wide (csrTree cfg pubKey subjectName measurements first nodes csrSig)
  encapsulated : WideEncapsulated
    (csrTree cfg pubKey subjectName measurements first nodes csrSig)
  wide : WideMessage cfg sid
    (csrTree cfg pubKey subjectName measurements first nodes csrSig) sig

/-- One of the two calls of a message: the info of the CSR is signed by
    the derived key, the CSR by the other key. -/
def HandedMessage (s : Enc σ) (c : SignCall) : Prop :=
  HandedInfo cfg pubKey subjectName measurements first nodes s.writer.certificate
      (s.writer.offset + csrOffset cfg sid) c ∨
    ∃ csrSig, Handed s.writer.certificate false
      (s.writer.offset + csrOffset cfg sid)
      (csrTree cfg pubKey subjectName measurements first nodes csrSig).bytes c

/-- Nothing but the room for the output is missing: the message is sound
    and the callback answers with `csrSig` and `sig`. -/
structure CanSignMessage (signCb : SignCallback σ) (csrSig : Signature) (env1 : σ)
    (sig : Signature) (env2 : σ) (s : Enc σ) : Prop where
  sound : SoundMessage cfg pubKey subjectName measurements sid first nodes csrSig
    sig
  saved : s.writer.savedOffset = none
  empty : s.writer.backtracks = []
  csrAnswers : Answers signCb true (s.writer.offset + csrOffset cfg sid + 4)
    (certReqInfoTree cfg pubKey subjectName measurements first nodes).bytes
    s.sig s.env csrSig env1
  answers : Answers signCb false (s.writer.offset + csrOffset cfg sid)
    (csrTree cfg pubKey subjectName measurements first nodes csrSig).bytes
    csrSig.zeroize env1 sig env2

/-- What an encoder of a message that returns has done, and the two calls
    that were made. -/
structure MessageAppended (signCb : SignCallback σ) (s : Enc σ) (n : Nat)
    (csrSig : Signature) (env1 : σ) (c1 : SignCall) (sig : Signature) (env2 : σ)
    (c2 : SignCall) (s' : Enc σ) : Prop where
  size : n = (cmsTree cfg pubKey subjectName measurements sid first nodes csrSig
    sig).size
  sound : SoundMessage cfg pubKey subjectName measurements sid first nodes csrSig
    sig
  saved : s.writer.savedOffset = none
  empty : s.writer.backtracks = []
  csrSigns : Signed signCb s.writer.certificate true
    (s.writer.offset + csrOffset cfg sid + 4)
    (certReqInfoTree cfg pubKey subjectName measurements first nodes).bytes
    s.sig s.env csrSig env1 c1
  signs : Signed signCb s.writer.certificate false
    (s.writer.offset + csrOffset cfg sid)
    (csrTree cfg pubKey subjectName measurements first nodes csrSig).bytes
    csrSig.zeroize env1 sig env2 c2
  grew : Grew { s with sig := sig.zeroize, env := env2 } (cmsTree cfg pubKey
    subjectName measurements sid first nodes csrSig sig).bytes [] s'
  fits : Fits n s

end Message

/-- The span of the CSR lies inside the message. -/
theorem SoundMessage.csr_le {pubKey : PubKey} {subjectName : Name}
    {sid : SignerIdentifier b} {nodes : List (TciNodeData b)}
    {csrSig sig : Signature}
    (h : SoundMessage cfg pubKey subjectName measurements sid first nodes csrSig
      sig) :
    csrOffset cfg sid
        + (csrTree cfg pubKey subjectName measurements first nodes csrSig).size
        + 1 + lengthWidth (getSignerInfoSize cfg.profile sig sid true)
        + (signerInfoTree cfg sig sid).size
      = (cmsTree cfg pubKey subjectName measurements sid first nodes csrSig
          sig).size := by
  have hinfo := size_node SET_OF_TAG (getSignerInfoSize cfg.profile sig sid true)
    (signerInfoTree cfg sig sid)
  rw [cmsTree_eq, h.wide.size_eq, signedDataBody]
  simp only [size_all_cons, size_all_nil, h.encapsulated.size_eq, csrOffset]
  omega

/-- **A CMS MESSAGE**: the CSR in it is signed by the derived key, and
    the message signs the CSR. -/
theorem encodeCms_spec
    (h : measurements.tciNodes.Valid → Walks measurements.tciNodes first chain)
    (pubKey : PubKey) (subjectName : Name) (sid : SignerIdentifier b) (s : Enc σ)
    (csrSig' : Signature) (env1' : σ) (sig' : Signature) (env2' : σ) :
    Post (encodeCms cfg signCb pubKey subjectName measurements sid) s
      (fun n s' => ∃ csrSig env1 c1 sig env2 c2, MessageAppended cfg pubKey
        subjectName measurements sid first (nodesOf chain) signCb s n csrSig env1
        c1 sig env2 c2 s')
      (fun e s' => Lost
        (Called signCb (HandedMessage cfg pubKey subjectName measurements sid first
          (nodesOf chain) s))
        (CanSignMessage cfg pubKey subjectName measurements sid first
          (nodesOf chain) signCb csrSig' env1' sig' env2' s)
        (Fits (cmsTree cfg pubKey subjectName measurements sid first
          (nodesOf chain) csrSig' sig').size s) e s s') := by
  refine (Grew.refl s).step (.emit (emits_encodeByte _)) fun s1 h1 => ?_
  refine h1.push Called.refl (fun o => ?_) fun g1 s2 hg1 _ h2 => ?_
  · rw [o.empty]
    exact Nat.zero_lt_succ _
  refine h2.step (.emit (.cons (emits_encodeOid ID_SIGNED_DATA_OID)
    (.cons (emits_encodeByte _) .nil))) fun s3 h3 => ?_
  refine h3.push Called.refl (fun o => ?_) fun g2 s4 hg2 _ h4 => ?_
  · rw [o.empty]
    simp [MAX_BACKTRACKS]
  refine h4.step (.emit (emits_encodeTagField _)) fun s5 h5 => ?_
  refine h5.push Called.refl (fun o => ?_) fun g3 s6 hg3 _ h6 => ?_
  · rw [o.empty]
    simp [MAX_BACKTRACKS]
  refine h6.step (.emit (.cons (emits_encodeCmsVersion sid)
    (.cons (emits_encodeTagField _) (.cons (emits_encodeSizeField _)
      (.cons (emits_encodeHashAlgId _) .nil))))) fun s7 h7 => ?_
  have hoff7 : s7.writer.offset + encapsulatedOffset
      = s.writer.offset + csrOffset cfg sid := by
    rw [h7.opened.offset, csrOffset]
    simp only [List.length_append, length_bytes, List.length_cons,
      List.length_nil, lengthField_length, size_node SET_OF_TAG, hg1, hg2,
      hg3]
    omega
  refine Post.bind ((encodeEncapsulatedContentInfo_spec h pubKey subjectName s7
    csrSig' env1').mono (fun _ _ h => h) ?_) ?_
  · intro e s' hlost
    refine hlost.after h7 ?_ ?_ ?_
    · intro env env' hcalled
      refine hcalled.mono fun c hc => ?_
      rw [hoff7] at hc
      exact .inl (hc.congr h7.opened.shape)
    · intro o
      refine ⟨o.sound.info, ⟨h7.saved.trans o.saved, ?_⟩, o.sound.csr,
        o.sound.encapsulated, ?_⟩
      · rw [h7.opened.backtracks, o.empty]
        simp [MAX_BACKTRACKS]
      · rw [hoff7, h7.sig, h7.env]
        exact o.csrAnswers
    · intro o f
      rw [← o.sound.csr_le] at f
      unfold Fits at f ⊢
      rw [o.sound.encapsulated.size_eq, h7.opened.capacity]
      omega
  rintro n s8 ⟨csrSig, env1, c1, hcsr⟩
  have hcsrSigns := hcsr.signs
  rw [hoff7, h7.sig, h7.env] at hcsrSigns
  have hcsrSigns' : Signed signCb s.writer.certificate true
      (s.writer.offset + csrOffset cfg sid + 4)
      (certReqInfoTree cfg pubKey subjectName measurements first
        (nodesOf chain)).bytes s.sig s.env csrSig env1 c1 :=
    ⟨hcsrSigns.handed.congr h7.opened.shape, hcsrSigns.out_eq,
      hcsrSigns.answer_eq, hcsrSigns.made⟩
  refine rebase csrSig.zeroize
    (.single hcsrSigns'.made (.inl hcsrSigns'.handed)) ?_
  have hunique : CanSignMessage cfg pubKey subjectName measurements sid first
      (nodesOf chain) signCb csrSig' env1' sig' env2' s →
      csrSig = csrSig' ∧ env1 = env1' :=
    fun o => hcsrSigns'.unique o.csrAnswers
  have hrange := hcsr.range
  rw [hoff7] at hrange
  refine getCsrRange_eq hrange ?_
  dsimp only
  have h8 := (h7.answered csrSig.zeroize env1).append hcsr.grew
  have hfits8 : Fits 0 s8 := by
    have hfits := hcsr.fits
    rw [hcsr.size] at hfits
    exact (hcsr.grew.fits_iff 0).mpr hfits
  have hsound := hcsr.sound
  have hwcsr := hcsr.csr
  have hwenc := hcsr.wide
  have hn := hcsr.size
  have hpos : 0 < (csrTree cfg pubKey subjectName measurements first
      (nodesOf chain) csrSig).bytes.length := by
    rw [length_bytes, csrTree, signedTree, sized, size_node]
    omega
  -- from here on the CSR is a block of bytes like any other
  generalize hcsrEq : csrTree cfg pubKey subjectName measurements first
    (nodesOf chain) csrSig = csr at h8 hwcsr hwenc hn hpos
  have h8' := h8.cast (congrArg _ (encapsulatedTree_bytes csr))
  rw [← List.append_assoc] at h8'
  refine h8'.sign sig' env2' hfits8 ?_ ?_ hpos ?_ ?_
    fun c2 sig env2 s9 hsigned h9 => ?_
  · rw [← hoff7, h7.opened.offset, ← hwenc.length_header]
    simp only [List.length_append]
    omega
  · rw [length_bytes]
  · intro c hc
    refine .inr ⟨csrSig, ?_⟩
    rw [hcsrEq]
    exact hc
  · intro o
    obtain ⟨rfl, rfl⟩ := hunique o
    have ha := o.answers
    rw [hcsrEq] at ha
    exact ha
  have hunique2 : CanSignMessage cfg pubKey subjectName measurements sid first
      (nodesOf chain) signCb csrSig' env1' sig' env2' s →
      csrSig = csrSig' ∧ sig = sig' := by
    intro o
    obtain ⟨rfl, rfl⟩ := hunique o
    have ha := o.answers
    rw [hcsrEq] at ha
    exact ⟨rfl, (hsigned.unique ha).1⟩
  refine Post.get_bind ?_
  have hsig : s9.sig = sig := h9.sig
  rw [hsig]
  refine h9.step (.emit (.cons (emits_encodeTagField _)
    (.cons (emits_encodeSizeField _) .nil))) fun s10 h10 => ?_
  have hoff8 : s8.writer.offset
      = s.writer.offset + csrOffset cfg sid + csr.size := by
    have hoff := hcsr.grew.opened.offset
    rw [hcsrEq, length_bytes, hwenc.size_eq] at hoff
    rw [hoff, ← hoff7, Nat.add_assoc]
  have hoff9 : s9.writer.offset = s8.writer.offset :=
    h9.opened.offset.trans h8'.opened.offset.symm
  refine h10.attempt (appends_encodeSignerInfo sig sid) Called.refl
    (fun _ => trivial) ?_ fun s11 _ _ h11 => ?_
  · intro o f
    obtain ⟨rfl, rfl⟩ := hunique2 o
    have hle := o.sound.csr_le
    rw [hcsrEq] at hle
    have hoff10 := h10.opened.offset
    have hcap := h10.opened.capacity
    rw [List.length_append, ← Nat.add_assoc, ← h9.opened.offset, hoff9, hoff8]
      at hoff10
    simp only [List.length_append, lengthField_length, List.length_cons,
      List.length_nil] at hoff10
    unfold Fits at f ⊢
    rw [hoff10, hcap]
    show _ ≤ s.writer.certificate.capacity
    omega
  refine h11.zeroize fun s12 h12 => ?_
  have h13 : Grew { s with sig := sig.zeroize, env := env2 }
      ([] ++ [SEQUENCE_TAG] ++ g1
      ++ ((prim OID_TAG ID_SIGNED_DATA_OID).bytes
        ++ ([CONTEXT_SPECIFIC ||| CONSTRUCTED ||| 0x0] ++ []))
      ++ g2 ++ [SEQUENCE_TAG] ++ g3 ++ (signedDataBody cfg sid csr sig).bytes)
      _ s12 := h12.cast (by
    simp only [signedDataBody_bytes, List.append_assoc])
  have hfield1 : List.length ((cmsVersionTree sid).bytes ++ ([SET_OF_TAG]
        ++ (lengthField (getHashAlgIdSize cfg.profile true)
          ++ ((hashAlgIdTree cfg.profile).bytes ++ []))))
      + n + List.length ([SET_OF_TAG]
        ++ (lengthField (getSignerInfoSize cfg.profile sig sid true) ++ []))
      + (signerInfoTree cfg sig sid).size
      = (signedDataBody cfg sid csr sig).size := by
    have hlen := congrArg List.length (encapsulatedTree_bytes csr)
    rw [hn, ← length_bytes (signedDataBody ..), signedDataBody_bytes]
    simp only [List.length_append, length_bytes] at hlen ⊢
    omega
  rw [hfield1]
  have hinfo0 : [SEQUENCE_TAG].length + SIZE_TAG_OFFSET
      + (signedDataBody cfg sid csr sig).size
      = 4 + (signedDataBody cfg sid csr sig).size := rfl
  have hinfo (hw1 : Wide (sized SEQUENCE_TAG (signedDataBody cfg sid csr sig)))
      (hw0 : Wide (sized (CONTEXT_SPECIFIC ||| CONSTRUCTED ||| 0x0)
        (sized SEQUENCE_TAG (signedDataBody cfg sid csr sig)))) :
      List.length ((prim OID_TAG ID_SIGNED_DATA_OID).bytes
        ++ ([CONTEXT_SPECIFIC ||| CONSTRUCTED ||| 0x0] ++ [])) + SIZE_TAG_OFFSET
      + (4 + (signedDataBody cfg sid csr sig).size)
      = (contentInfoBody cfg sid csr sig).size := by
    rw [contentInfoBody, size_all_cons, size_all_cons, size_all_nil,
      size_sized hw0, size_sized hw1]
    simp only [List.length_append, length_bytes, List.length_cons,
      List.length_nil, SIZE_TAG_OFFSET]
    omega
  dsimp only
  rw [hinfo0]
  refine h13.fillThree hg1 hg2 hg3 Called.refl ?_
    fun s14 hsaved hw1 hw0 hw h14 => ?_
  · intro o
    obtain ⟨rfl, rfl⟩ := hunique2 o
    have hwide := o.sound.wide
    rw [hcsrEq] at hwide
    rw [hinfo hwide.signedData hwide.content, ← size_sized hwide.signedData]
    exact ⟨o.saved, hwide.signedData, hwide.content, hwide.whole⟩
  have hwide1 : Wide (sized SEQUENCE_TAG (signedDataBody cfg sid csr sig)) := hw1
  rw [← size_sized hwide1] at hw0
  rw [hinfo hwide1 hw0] at hw h14 ⊢
  have hwide : WideMessage cfg sid csr sig := ⟨hwide1, hw0, hw⟩
  have htree : cmsTree cfg pubKey subjectName measurements sid first
      (nodesOf chain) csrSig sig
      = sized SEQUENCE_TAG (contentInfoBody cfg sid csr sig) := by
    rw [cmsTree_eq, hcsrEq]
  have h15 : Grew { s with sig := sig.zeroize, env := env2 } (cmsTree cfg pubKey
      subjectName measurements sid first (nodesOf chain) csrSig sig).bytes [] s14 :=
    h14.cast (by
      rw [htree, contentInfoBody, ← size_sized hwide1]
      simp only [sized_bytes, bytes_all_cons, bytes_all_nil, List.append_assoc,
        List.nil_append, List.append_nil])
  refine Post.get_bind (Post.rejectIf_bind ?_ fun hempty => ?_)
  · intro hstack
    refine .refused h15 (Called.refl _) fun o => ?_
    rw [h15.opened.backtracks, o.empty] at hstack
    cases hstack
  have hstack : s.writer.backtracks = [] := by
    rw [h15.opened.backtracks] at hempty
    simpa using hempty
  have htotal : 1 + SIZE_TAG_OFFSET + (contentInfoBody cfg sid csr sig).size
      = (cmsTree cfg pubKey subjectName measurements sid first (nodesOf chain)
          csrSig sig).size := by
    rw [htree, size_sized hwide.whole]
    rfl
  have hfits : Fits 0 s14 ↔ Fits (cmsTree cfg pubKey subjectName measurements sid
      first (nodesOf chain) csrSig sig).size s := by
    rw [h15.fits_iff, length_bytes, Nat.add_zero]
    exact Iff.rfl
  refine h15.attempt .checkNotTruncated Called.refl (fun _ => trivial) ?_
    fun s16 _ hcap h16 => ?_
  · intro o f
    obtain ⟨rfl, rfl⟩ := hunique2 o
    exact hfits.mpr f
  refine Post.pure ⟨csrSig, env1, c1, sig, env2, c2, htotal, ⟨hsound, ?_, ?_, ?_⟩,
    hsaved, hstack, hcsrSigns', ?_, h16.cast (List.append_nil _), ?_⟩
  · rw [hcsrEq]
    exact hwcsr
  · rw [hcsrEq]
    exact hwenc
  · rw [hcsrEq]
    exact hwide
  · rw [hcsrEq]
    exact hsigned
  · have hfit := hfits.mp hcap
    rw [← htotal] at hfit
    exact hfit

end CertWriter

end Dpe
