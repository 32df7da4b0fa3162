import Dpe.Proofs.Cms

/-! # The three messages

    A certificate, a CSR and a CMS message are encoded by one function
    each.  Here they are one type, with one specification: what has to
    hold for the encoder to return, what it has appended when it does,
    and which parts of the message it has signed. -/

namespace Dpe

open Der Tlv Splice Prog

variable {b : Build} {σ : Type}

/-- The callback looks at nothing but the bytes of the span. -/
def ByBytes (signCb : SignCallback σ) : Prop :=
  ∀ buf buf' start stop useDerived out env,
    buf.readRange start stop = buf'.readRange start stop →
    signCb buf start stop useDerived out env
      = signCb buf' start stop useDerived out env

/-- A callback that looks at the bytes only answers the same again. -/
theorem Signed.answers {signCb : SignCallback σ} {r : ResponseBuffer}
    {useDerived : Bool} {start : Nat} {bs : Bytes} {out sig : Signature}
    {env env' : σ} {c : SignCall}
    (h : Signed signCb r useDerived start bs out env sig env' c)
    (hbytes : ByBytes signCb) :
    Answers signCb useDerived start bs out env sig env' := by
  intro buf hread
  have hreads := h.handed.reads
  rw [h.handed.start_eq, h.handed.stop_eq] at hreads
  rw [hbytes buf c.buf _ _ _ _ _ (hread.trans hreads.symm)]
  exact h.run_eq

/-- **READING BACK** a piece of what has been appended. -/
theorem Grew.reads {s s' : Enc σ} {pre mid post : Bytes}
    (h : Grew s (pre ++ mid ++ post) [] s')
    (hfits : Fits (pre ++ mid ++ post).length s) (hpos : 0 < mid.length) :
    s'.writer.certificate.readRange (s.writer.offset + pre.length)
      (s.writer.offset + pre.length + mid.length) = .ok mid := by
  have hoff := h.opened.offset
  have hcap : s'.writer.certificate.capacity = s.writer.certificate.capacity :=
    h.opened.capacity
  have hlength : s.writer.certificate.bytes.length
      = s.writer.certificate.capacity := ResponseBuffer.length_bytes _
  unfold Fits at hfits
  have hfinal := h.opened.bytes (hoff ▸ hfits)
  have hinside := hfits
  simp only [List.length_append] at hinside
  rw [ResponseBuffer.readRange_eq (by omega) (by omega) (by omega), hfinal,
    Nat.add_sub_cancel_left]
  exact congrArg Except.ok (take_drop_splice_mid (hlength ▸ hfits))

theorem Grew.reads_all {s s' : Enc σ} {bs : Bytes} (h : Grew s bs [] s')
    (hfits : Fits bs.length s) (hpos : 0 < bs.length) :
    s'.writer.certificate.readRange s.writer.offset
      (s.writer.offset + bs.length) = .ok bs := by
  have hsplit : bs = [] ++ bs ++ [] := by simp
  rw [hsplit] at hfits
  exact (h.cast hsplit).reads hfits hpos

/-- The same encoder on another buffer. -/
def Enc.on (s : Enc σ) (r : ResponseBuffer) : Enc σ :=
  { s with writer := { s.writer with certificate := r } }

/-- What one of the three encoders is given. -/
inductive Message (b : Build) where
  | certificate (serialNumber issuerName : Bytes) (subjectName : Name)
      (pubkey : PubKey) (measurements : MeasurementData b)
      (validity : CertValidity)
  | csr (pubKey : PubKey) (subjectName : Name)
      (measurements : MeasurementData b)
  | cms (pubKey : PubKey) (subjectName : Name)
      (measurements : MeasurementData b) (sid : SignerIdentifier b)

/-- A part of a message that is signed: by which key, where it starts,
    and its tree. -/
structure Part where
  useDerived : Bool
  start : Nat
  tree : Tlv

/-- The answers of a callback: the signatures of a CSR and of the whole,
    and the environment after each. -/
structure Replies (σ : Type) where
  csrSig : Signature
  csrEnv : σ
  sig : Signature
  env : σ

namespace Message

def encode (cfg : CertConfig) (signCb : SignCallback σ) :
    Message b → EncM σ Nat
  | certificate serialNumber issuerName subjectName pubkey measurements validity =>
      CertWriter.encodeCertificate cfg signCb serialNumber issuerName subjectName
        pubkey measurements validity
  | csr pubKey subjectName measurements =>
      CertWriter.encodeCsr cfg signCb pubKey subjectName measurements
  | cms pubKey subjectName measurements sid =>
      CertWriter.encodeCms cfg signCb pubKey subjectName measurements sid

def measurements : Message b → MeasurementData b
  | certificate _ _ _ _ measurements _ => measurements
  | csr _ _ measurements => measurements
  | cms _ _ measurements _ => measurements

section Trees

variable (cfg : CertConfig) (first : TciNodeData b) (nodes : List (TciNodeData b))

/-- The whole message. -/
def tree (csrSig sig : Signature) : Message b → Tlv
  | certificate serialNumber issuerName subjectName pubkey measurements validity =>
      CertWriter.signedTree cfg first nodes (.tbs serialNumber issuerName
        subjectName pubkey measurements validity) sig
  | csr pubKey subjectName measurements =>
      CertWriter.signedTree cfg first nodes
        (.certReqInfo pubKey subjectName measurements) sig
  | cms pubKey subjectName measurements sid =>
      CertWriter.cmsTree cfg pubKey subjectName measurements sid first nodes
        csrSig sig

/-- The parts that are signed, in the order in which they are. -/
def parts (csrSig : Signature) : Message b → List Part
  | certificate serialNumber issuerName subjectName pubkey measurements validity =>
      [⟨false, 4, CertWriter.tbsTree cfg serialNumber issuerName subjectName
        pubkey measurements validity first nodes⟩]
  | csr pubKey subjectName measurements =>
      [⟨true, 4, CertWriter.certReqInfoTree cfg pubKey subjectName measurements
        first nodes⟩]
  | cms pubKey subjectName measurements sid =>
      [⟨true, CertWriter.csrOffset cfg sid + 4, CertWriter.certReqInfoTree cfg
          pubKey subjectName measurements first nodes⟩,
        ⟨false, CertWriter.csrOffset cfg sid, CertWriter.csrTree cfg pubKey
          subjectName measurements first nodes csrSig⟩]

/-- Nothing but the room for the output is missing. -/
def Can (signCb : SignCallback σ) (a : Replies σ) (s : Enc σ) :
    Message b → Prop
  | certificate serialNumber issuerName subjectName pubkey measurements validity =>
      CertWriter.CanSign signCb cfg (.tbs serialNumber issuerName subjectName
        pubkey measurements validity) first nodes a.sig a.env s
  | csr pubKey subjectName measurements =>
      CertWriter.CanSign signCb cfg (.certReqInfo pubKey subjectName measurements)
        first nodes a.sig a.env s
  | cms pubKey subjectName measurements sid =>
      CertWriter.CanSignMessage cfg pubKey subjectName measurements sid first
        nodes signCb a.csrSig a.csrEnv a.sig a.env s

/-- A call hands over one part of a message that starts in `s`. -/
def HandedPart (m : Message b) (s : Enc σ) (c : SignCall) : Prop :=
  ∃ csrSig, ∃ p ∈ m.parts cfg first nodes csrSig,
    Handed s.writer.certificate p.useDerived (s.writer.offset + p.start)
      p.tree.bytes c

/-- What an encoder that returns has done.  In a buffer that is as good,
    nothing but the room can be missing. -/
structure Done (m : Message b) (signCb : SignCallback σ) (s : Enc σ) (n : Nat)
    (a : Replies σ) (calls : List SignCall) (s' : Enc σ) : Prop where
  size : n = (m.tree cfg first nodes a.csrSig a.sig).size
  fits : Fits n s
  grew : Grew { s with sig := a.sig.zeroize, env := a.env }
    (m.tree cfg first nodes a.csrSig a.sig).bytes [] s'
  made : Calls signCb calls s.env a.env
  handed : List.Forall₂ (fun (c : SignCall) (p : Part) =>
      Handed s.writer.certificate p.useDerived (s.writer.offset + p.start)
        p.tree.bytes c)
    calls (m.parts cfg first nodes a.csrSig)
  answer : calls.head?.map (·.answer) = some (.ok a.csrSig)
  valid : m.measurements.tciNodes.Valid
  split : ∀ p ∈ m.parts cfg first nodes a.csrSig, ∃ pre post : Bytes,
    (m.tree cfg first nodes a.csrSig a.sig).bytes = pre ++ p.tree.bytes ++ post ∧
      pre.length = p.start
  unique : ∀ a', m.Can cfg first nodes signCb a' s →
    m.tree cfg first nodes a'.csrSig a'.sig
      = m.tree cfg first nodes a.csrSig a.sig
  again : ByBytes signCb → ∀ r, m.Can cfg first nodes signCb a (s.on r)

end Trees

/-- Every part is one structure. -/
theorem parts_sized {m : Message b} {cfg : CertConfig} {first : TciNodeData b}
    {nodes : List (TciNodeData b)} {csrSig : Signature} {p : Part}
    (h : p ∈ m.parts cfg first nodes csrSig) :
    ∃ body, p.tree = CertWriter.sized CertWriter.SEQUENCE_TAG body := by
  cases m with
  | certificate =>
      rw [List.mem_singleton.mp h]
      exact ⟨_, rfl⟩
  | csr =>
      rw [List.mem_singleton.mp h]
      exact ⟨_, rfl⟩
  | cms =>
      rcases List.mem_cons.mp h with rfl | h
      · exact ⟨_, rfl⟩
      · rw [List.mem_singleton.mp h]
        exact ⟨_, rfl⟩

end Message

/-! ## Where the parts lie -/

namespace CertWriter

variable {cfg : CertConfig} {measurements : MeasurementData b}
  {first : TciNodeData b} {nodes : List (TciNodeData b)}

/-- A payload begins behind the tag and the length of the whole. -/
theorem signedTree_split {payload : SignedPayload b} {sig : Signature}
    (h : Wide (signedTree cfg first nodes payload sig)) :
    ∃ pre post : Bytes, (signedTree cfg first nodes payload sig).bytes
      = pre ++ (payloadTree cfg first nodes payload).bytes ++ post ∧
        pre.length = 4 := by
  refine ⟨[SEQUENCE_TAG] ++ lengthField (all [payloadTree cfg first nodes payload,
    signatureBitStringTree cfg.profile sig]).size,
    (signatureBitStringTree cfg.profile sig).bytes, ?_, ?_⟩
  · simp [signedTree, sized_bytes]
  · rw [List.length_append, lengthField_length, wide_sized h]
    rfl

/-- The CSR begins behind the headers of a message. -/
theorem contentInfo_split {sid : SignerIdentifier b} {csr : Tlv}
    {sig : Signature} (henc : WideEncapsulated csr)
    (h : WideMessage cfg sid csr sig) :
    ∃ pre post : Bytes, (sized SEQUENCE_TAG (contentInfoBody cfg sid csr sig)).bytes
      = pre ++ csr.bytes ++ post ∧ pre.length = csrOffset cfg sid := by
  refine ⟨[SEQUENCE_TAG] ++ lengthField (contentInfoBody cfg sid csr sig).size
    ++ (prim OID_TAG ID_SIGNED_DATA_OID).bytes
    ++ [CONTEXT_SPECIFIC ||| CONSTRUCTED ||| 0x0]
    ++ lengthField (sized SEQUENCE_TAG (signedDataBody cfg sid csr sig)).size
    ++ [SEQUENCE_TAG] ++ lengthField (signedDataBody cfg sid csr sig).size
    ++ (cmsVersionTree sid).bytes
    ++ (node SET_OF_TAG (getHashAlgIdSize cfg.profile true)
        (hashAlgIdTree cfg.profile)).bytes
    ++ encapsulatedHeader csr,
    (node SET_OF_TAG (getSignerInfoSize cfg.profile sig sid true)
      (signerInfoTree cfg sig sid)).bytes, ?_, ?_⟩
  · rw [sized_bytes]
    simp only [contentInfoBody, bytes_all_cons, bytes_all_nil, sized_bytes,
      List.append_assoc, List.append_nil]
    simp only [signedDataBody, bytes_all_cons, bytes_all_nil,
      encapsulatedTree_bytes, List.append_assoc, List.append_nil]
  · simp only [List.length_append, lengthField_length, length_bytes,
      henc.length_header, csrOffset, List.length_cons, List.length_nil]
    rw [wide_sized h.whole, wide_sized h.content, wide_sized h.signedData]
    omega

end CertWriter

/-! ## The specification -/

namespace Message

variable {cfg : CertConfig} {first : TciNodeData b} {nodes : List (TciNodeData b)}
  {chain : List (Context b)} {signCb : SignCallback σ}

/-- A message that is one signed structure. -/
theorem done_of_signed {m : Message b} {payload : SignedPayload b} {s s' : Enc σ}
    {n : Nat} {sig : Signature} {env : σ} {c : SignCall}
    (htree : ∀ csrSig sig, m.tree cfg first nodes csrSig sig
      = CertWriter.signedTree cfg first nodes payload sig)
    (hparts : ∀ csrSig, m.parts cfg first nodes csrSig
      = [⟨CertWriter.SignedPayload.isCsr payload, 4,
          CertWriter.payloadTree cfg first nodes payload⟩])
    (hcan : ∀ a (s : Enc σ), m.Can cfg first nodes signCb a s
      ↔ CertWriter.CanSign signCb cfg payload first nodes a.sig a.env s)
    (hmeasurements : m.measurements = CertWriter.payloadMeasurements payload)
    (hfits : Fits n s)
    (h : CertWriter.SignedAppended signCb cfg payload first nodes s n sig env c s') :
    m.Done cfg first nodes signCb s n ⟨sig, env, sig, env⟩ [c] s' where
  size := h.size.trans (congrArg Tlv.size (htree sig sig).symm)
  fits := hfits
  grew := by
    rw [htree]
    exact h.grew
  made := ⟨env, h.signs.made, rfl⟩
  handed := by
    rw [hparts]
    exact .cons h.signs.handed .nil
  answer := congrArg some h.signs.answer_eq
  valid := by
    rw [hmeasurements]
    exact h.sound.valid
  split := by
    intro p hp
    rw [hparts] at hp
    rw [List.mem_singleton.mp hp, htree]
    exact CertWriter.signedTree_split h.wide
  unique := by
    intro a' ha'
    rw [htree, htree, (h.signs.unique ((hcan a' s).mp ha').answers).1]
  again := by
    intro hbytes r
    refine (hcan _ _).mpr ⟨h.sound, ⟨h.ready.saved, h.ready.room⟩, h.wide, ?_⟩
    exact h.signs.answers hbytes

/-- **ENCODING** one of the three messages. -/
theorem encode_spec (m : Message b)
    (h : m.measurements.tciNodes.Valid →
      Walks m.measurements.tciNodes first chain) (s : Enc σ) (a : Replies σ) :
    Post (m.encode cfg signCb) s
      (fun n s' => ∃ a calls, m.Done cfg first (nodesOf chain) signCb s n a calls s')
      (fun e s' => Lost
        (Called signCb (m.HandedPart cfg first (nodesOf chain) s))
        (m.Can cfg first (nodesOf chain) signCb a s)
        (Fits (m.tree cfg first (nodesOf chain) a.csrSig a.sig).size s) e s s') := by
  cases m with
  | certificate serialNumber issuerName subjectName pubkey measurements validity =>
      refine (CertWriter.encodeCertificate_spec h serialNumber issuerName subjectName
        pubkey validity s a.sig a.env).mono ?_ ?_
      · rintro n s' ⟨hfits, sig, env, c, happended⟩
        exact ⟨_, _, done_of_signed (fun _ _ => rfl) (fun _ => rfl)
          (fun _ _ => Iff.rfl) rfl hfits happended⟩
      · intro e s' hlost
        refine hlost.after (.refl s) (fun hcalled => ?_) id fun _ => id
        exact hcalled.mono fun c hc =>
          ⟨a.csrSig, _, List.mem_singleton_self _, hc⟩
  | csr pubKey subjectName measurements =>
      refine (CertWriter.encodeCsr_spec h pubKey subjectName s a.sig a.env).mono
        ?_ ?_
      · rintro n s' ⟨hfits, sig, env, c, happended⟩
        exact ⟨_, _, done_of_signed (fun _ _ => rfl) (fun _ => rfl)
          (fun _ _ => Iff.rfl) rfl hfits happended⟩
      · intro e s' hlost
        refine hlost.after (.refl s) (fun hcalled => ?_) id fun _ => id
        exact hcalled.mono fun c hc =>
          ⟨a.csrSig, _, List.mem_singleton_self _, hc⟩
  | cms pubKey subjectName measurements sid =>
      have hwalks : measurements.tciNodes.Valid →
          Walks measurements.tciNodes first chain := h
      refine (CertWriter.encodeCms_spec hwalks pubKey subjectName sid s a.csrSig a.csrEnv
        a.sig a.env).mono ?_ ?_
      · rintro n s' ⟨csrSig, env1, c1, sig, env2, c2, hm⟩
        refine ⟨⟨csrSig, env1, sig, env2⟩, [c1, c2], hm.size, hm.fits, hm.grew,
          ⟨env1, hm.csrSigns.made, env2, hm.signs.made, rfl⟩, ?_,
          congrArg some hm.csrSigns.answer_eq, hm.sound.info.valid, ?_, ?_, ?_⟩
        · exact .cons (by
            have hc := hm.csrSigns.handed
            rw [Nat.add_assoc] at hc
            exact hc) (.cons hm.signs.handed .nil)
        · have hcsr := CertWriter.contentInfo_split hm.sound.encapsulated
            hm.sound.wide
          intro p hp
          rcases List.mem_cons.mp hp with rfl | hp
          · -- the info lies in the CSR
            obtain ⟨pre, post, hbytes, hpre⟩ := hcsr
            obtain ⟨pre', post', hbytes', hpre'⟩ :=
              CertWriter.signedTree_split hm.sound.csr
            refine ⟨pre ++ pre', post' ++ post, ?_, ?_⟩
            · refine hbytes.trans ?_
              rw [CertWriter.csrTree, hbytes']
              simp only [List.append_assoc]
              rfl
            · rw [List.length_append, hpre, hpre']
          · rw [List.mem_singleton.mp hp]
            exact hcsr
        · intro a' ha'
          have hcsr := (hm.csrSigns.unique ha'.csrAnswers).1
          have henv := (hm.csrSigns.unique ha'.csrAnswers).2
          have ha := ha'.answers
          rw [← hcsr, ← henv] at ha
          rw [← hcsr, (hm.signs.unique ha).1]
        · intro hbytes r
          exact ⟨hm.sound, hm.saved, hm.empty, hm.csrSigns.answers hbytes,
            hm.signs.answers hbytes⟩
      · intro e s' hlost
        refine hlost.after (.refl s) (fun hcalled => ?_) id fun _ => id
        refine hcalled.mono fun c hc => ?_
        rcases hc with hc | ⟨csrSig, hc⟩
        · refine ⟨a.csrSig, _, List.mem_cons_self .., ?_⟩
          unfold CertWriter.HandedInfo at hc
          rw [Nat.add_assoc] at hc
          exact hc
        · exact ⟨csrSig, _, List.mem_cons_of_mem _ (List.mem_singleton_self _), hc⟩

/-- Every message is one structure. -/
theorem tree_pos (m : Message b) (csrSig sig : Signature) :
    0 < (m.tree cfg first nodes csrSig sig).size := by
  cases m <;>
    simp [tree, CertWriter.signedTree, CertWriter.cmsTree, CertWriter.sized]

/-- A call is matched with its own part. -/
theorem Done.handedPart {m : Message b} {s s' : Enc σ} {n : Nat} {a : Replies σ}
    {calls : List SignCall}
    (h : m.Done cfg first nodes signCb s n a calls s') {c : SignCall}
    (hc : c ∈ calls) : m.HandedPart cfg first nodes s c := by
  obtain ⟨hlength, hget⟩ := List.forall₂_iff_get.mp h.handed
  obtain ⟨i, hi, rfl⟩ := List.getElem_of_mem hc
  exact ⟨a.csrSig, _, List.get_mem _ ⟨i, hlength ▸ hi⟩, hget i hi (hlength ▸ hi)⟩

/-- The bytes of a finished message, read back. -/
theorem Done.output {m : Message b} {s s' : Enc σ} {n : Nat} {a : Replies σ}
    {calls : List SignCall}
    (h : m.Done cfg first nodes signCb s n a calls s') :
    s'.writer.certificate.readRange s.writer.offset (s.writer.offset + n)
      = .ok (m.tree cfg first nodes a.csrSig a.sig).bytes := by
  have hlen := length_bytes (m.tree cfg first nodes a.csrSig a.sig)
  have hpos : 0 < (m.tree cfg first nodes a.csrSig a.sig).size :=
    m.tree_pos a.csrSig a.sig
  have hreads := h.grew.reads_all (by rw [hlen, ← h.size]; exact h.fits)
    (by rw [hlen]; exact hpos)
  rw [hlen, ← h.size] at hreads
  exact hreads

/-- **AN ENCODER RETURNS** when nothing is missing, not even room. -/
theorem encode_returns {m : Message b} {s : Enc σ} {a : Replies σ}
    (h : m.measurements.tciNodes.Valid →
      Walks m.measurements.tciNodes first chain)
    (hcan : m.Can cfg first (nodesOf chain) signCb a s)
    (hfits : Fits (m.tree cfg first (nodesOf chain) a.csrSig a.sig).size s) :
    ∃ a' calls s', m.encode cfg signCb s
        = .ok (m.tree cfg first (nodesOf chain) a.csrSig a.sig).size s' ∧
      m.Done cfg first (nodesOf chain) signCb s
        (m.tree cfg first (nodesOf chain) a.csrSig a.sig).size a' calls s' := by
  have hspec : Post (m.encode cfg signCb) s _ _ := m.encode_spec h s a
  cases hrun : m.encode cfg signCb s with
  | ok n s' =>
      obtain ⟨a', calls, hdone⟩ := hspec.of_ok hrun
      rw [hdone.unique a hcan, ← hdone.size]
      exact ⟨a', calls, s', rfl, hdone⟩
  | error e s' => exact absurd hfits ((hspec.of_error hrun).blame hcan).1

end Message

end Dpe
