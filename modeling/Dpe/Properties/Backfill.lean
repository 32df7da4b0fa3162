import Dpe.Proofs.Backfill
import Dpe.Properties.SignedBytes

/-! # Backfilled lengths

    The encoders one after the other: each counts what it appends, fills in
    every length that it has left open, and fills in the number of the
    bytes behind the field. -/

namespace Dpe

open Der Tlv Prog

variable {b : Build} {σ α β : Type}

/-! ## Small programs -/

theorem Tallies.emit {e : Encode} {bs : Bytes} (h : Emits e bs) :
    Tallies (EncM.emit e : EncM σ Nat) := by
  intro s n s' hrun
  obtain ⟨hn, hwrote, hidle⟩ := h s.writer
  cases hrun
  refine ⟨?_, hidle.backtracks, fun h0 => h0.append hwrote hidle⟩
  rw [hn]
  exact hwrote.offset

theorem Tallies.pure : Tallies (pure 0 : EncM σ Nat) :=
  fun s => (Midway.refl s).finish rfl

theorem Tallies.throw (e : Stop) : Tallies (throw e : EncM σ Nat) := by
  intro s n s' hrun
  cases hrun

namespace Idles

theorem pure (a : α) : Idles (pure a : EncM σ α) := by
  intro s x s' hrun
  cases hrun
  exact ⟨_, rfl⟩

theorem throw (e : Stop) : Idles (throw e : EncM σ α) := by
  intro s x s' hrun
  cases hrun

theorem get : Idles (MonadState.get : EncM σ (Enc σ)) := by
  intro s x s' hrun
  cases hrun
  exact ⟨_, rfl⟩

theorem reject (c : Bool) (e : DpeErrorCode) :
    Idles (EncM.reject c e : EncM σ PUnit) := by
  cases c with
  | true => exact throw (.err e)
  | false => exact pure _

theorem orFail (r : Except DpeErrorCode α) :
    Idles (EncM.orFail r : EncM σ α) := by
  cases r with
  | ok a => exact pure a
  | error e => exact throw (.err e)

theorem sign (signCb : SignCallback σ) (start stop : Nat) (useDerived : Bool) :
    Idles (EncM.sign signCb start stop useDerived) := by
  intro s x s' hrun
  unfold EncM.sign at hrun
  split at hrun
  · cases hrun
    exact ⟨_, rfl⟩
  · cases hrun

theorem setRange (range : Option (Nat × Nat)) :
    Idles (EncM.setWriter fun w => { w with csrRange := range }
      : EncM σ PUnit) := by
  intro s x s' hrun
  cases hrun
  exact ⟨range, rfl⟩

theorem zeroize : Idles (modifyGet fun s : Enc σ =>
    ((⟨⟩ : PUnit), { s with sig := s.sig.zeroize })) := by
  intro s x s' hrun
  cases hrun
  exact ⟨_, rfl⟩

theorem bind {m : EncM σ α} {f : α → EncM σ β} (hm : Idles m)
    (hf : ∀ a, Idles (f a)) : Idles (m >>= f) := by
  intro s x s' hrun
  obtain ⟨a, s1, hrunm, hrunf⟩ := run_bind hrun
  obtain ⟨range, hwriter⟩ := hm s a s1 hrunm
  obtain ⟨range', hwriter'⟩ := hf a s1 x s' hrunf
  rw [hwriter] at hwriter'
  exact ⟨range', hwriter'⟩

theorem checkNotTruncated : Idles (EncM.checkNotTruncated : EncM σ PUnit) :=
  bind get fun _ => reject _ _

theorem getCsrRange : Idles (CertWriter.getCsrRange : EncM σ (Nat × Nat)) := by
  refine bind get fun s => ?_
  split
  · exact throw _
  · exact pure _

end Idles

namespace CertWriter

variable {cfg : CertConfig} {measurements : MeasurementData b}
  {signCb : SignCallback σ}

/-! ## Encoders without open lengths -/

theorem tallies_encodeRdn (name : Name) : Tallies (encodeRdn name : EncM σ Nat) := by
  intro s
  refine (Midway.refl s).tally (.emit (emits_rdn name)) fun n s1 h1 => ?_
  refine h1.idle .checkNotTruncated fun _ s2 _ h2 => ?_
  exact h2.finish (Nat.zero_add n).symm

theorem tallies_encodePubKeyInfo (pubKey : PubKey) :
    Tallies (encodePubKeyInfo b cfg pubKey : EncM σ Nat) := by
  have hguard : ∀ {c : Bool} {m : EncM σ Nat} {e : Stop}, Tallies m →
      Tallies (if c then m else throw e) := by
    intro c m e hm
    cases c with
    | true => exact hm
    | false => exact .throw e
  cases pubKey with
  | ecdsa key =>
      cases key with
      | ecdsa256 key => exact hguard (.emit (emits_encodeEcdsaSubjectPubkeyInfo _ _))
      | ecdsa384 key => exact hguard (.emit (emits_encodeEcdsaSubjectPubkeyInfo _ _))
  | mldsa key => exact hguard (.emit (emits_encodeMldsaSubjectPubkeyInfo _ _))

theorem tallies_encodeTcbInfos (profile : DpeProfile) (supportsRecursive : Bool)
    (items : List (Except DpeErrorCode (Context b))) :
    Tallies (encodeTcbInfos profile supportsRecursive items : EncM σ Nat) := by
  induction items with
  | nil => exact .pure
  | cons item items ih =>
      intro s
      refine (Midway.refl s).idle (.orFail item) fun c s1 _ h1 => ?_
      refine h1.tally (.emit (emits_encodeTcbInfo _ _ _)) fun n s2 h2 => ?_
      refine h2.tally ih fun m s3 h3 => ?_
      exact h3.finish (by omega)

theorem tallies_encodeMultiTcbInfo :
    Tallies (encodeMultiTcbInfo cfg measurements : EncM σ Nat) := by
  intro s
  refine (Midway.refl s).idle (.orFail _) fun size s1 _ h1 => ?_
  refine h1.tally (.emit (.cons (emits_encodeExtensionHeader _ _ _)
    (.cons (emits_encodeByte _) (.cons (emits_encodeSizeField _) .nil))))
    fun n1 s2 h2 => ?_
  refine h2.idle (.orFail _) fun it s3 _ h3 => ?_
  refine h3.tally (tallies_encodeTcbInfos _ _ _) fun n2 s4 h4 => ?_
  exact h4.finish (by omega)

theorem tallies_encodeExtensionsTag (isX509 : Bool) :
    Tallies (encodeExtensionsTag cfg measurements isX509 : EncM σ Nat) := by
  cases isX509 with
  | false => exact .pure
  | true =>
      intro s
      refine (Midway.refl s).tally (.emit (emits_encodeByte _))
        fun n1 s1 h1 => ?_
      refine h1.idle (.orFail _) fun size s2 _ h2 => ?_
      refine h2.tally (.emit (emits_encodeSizeField _)) fun n2 s3 h3 => ?_
      exact h3.finish (by omega)

theorem tallies_encodeExtensions (isX509 : Bool) :
    Tallies (encodeExtensions cfg measurements isX509 : EncM σ Nat) := by
  intro s
  refine (Midway.refl s).tally (tallies_encodeExtensionsTag isX509)
    fun n1 s1 h1 => ?_
  refine h1.tally (.emit (emits_encodeByte _)) fun n2 s2 h2 => ?_
  refine h2.idle (.orFail _) fun size s3 _ h3 => ?_
  refine h3.tally (.emit (emits_encodeSizeField _)) fun n3 s4 h4 => ?_
  refine h4.tally tallies_encodeMultiTcbInfo fun n4 s5 h5 => ?_
  refine h5.tally (.emit (emits_encodeOtherExtensions _ _ _))
    fun n5 s6 h6 => ?_
  exact h6.finish (by omega)

theorem tallies_encodeAttributes :
    Tallies (encodeAttributes cfg measurements : EncM σ Nat) := by
  intro s
  refine (Midway.refl s).tally (.emit (emits_encodeByte _))
    fun n1 s1 h1 => ?_
  refine h1.idle (.orFail _) fun size2 s2 _ h2 => ?_
  refine h2.tally (.emit (emits_encodeSizeField _)) fun n2 s3 h3 => ?_
  refine h3.tally (.emit (emits_encodeTagField _)) fun n3 s4 h4 => ?_
  refine h4.idle (.orFail _) fun size4 s5 _ h5 => ?_
  refine h5.tally (.emit (emits_encodeSizeField _)) fun n4 s6 h6 => ?_
  refine h6.tally (.emit (emits_encodeOid _)) fun n5 s7 h7 => ?_
  refine h7.tally (.emit (emits_encodeTagField _)) fun n6 s8 h8 => ?_
  refine h8.idle (.orFail _) fun size7 s9 _ h9 => ?_
  refine h9.tally (.emit (emits_encodeSizeField _)) fun n7 s10 h10 => ?_
  refine h10.tally (tallies_encodeExtensions false) fun n8 s11 h11 => ?_
  exact h11.finish (by omega)

theorem tallies_encodeSignerInfo (sig : Signature) (sid : SignerIdentifier b) :
    Tallies (encodeSignerInfo cfg sig sid : EncM σ Nat) := by
  intro s
  refine (Midway.refl s).tally (.emit (emits_signerInfo cfg sig sid))
    fun n s1 h1 => ?_
  refine h1.idle .checkNotTruncated fun _ s2 _ h2 => ?_
  exact h2.finish (Nat.zero_add n).symm

/-! ## Encoders that leave lengths open -/

/-- One open length, with everything behind it counted. -/
theorem patch_one {s s1 : Enc σ} {k n o : Nat} {gs : List (Nat × Nat)}
    {f : Nat → EncM σ Nat}
    (h : Midway s k ((o, o + 3) :: gs) s1)
    (hexact : s.writer.offset + k = o + 3 + n)
    (hf : ∀ s2, Midway s k gs s2 → Finishes s (f 3) s2) :
    Finishes s (EncM.backtrackAndEncodeSize [n] >>= f) s1 := by
  have h' : Midway s k ([(o, o + 3)] ++ gs) s1 := h
  refine h'.patch rfl ?_ (fun _ => .cons hexact .nil) fun s2 _ h2 => hf s2 h2
  intro g hg
  rw [List.mem_singleton.mp hg]

/-- Two open lengths. -/
theorem patch_two {s s1 : Enc σ} {k n1 n2 o1 o2 : Nat} {gs : List (Nat × Nat)}
    {f : Nat → EncM σ Nat}
    (h : Midway s k ((o1, o1 + 3) :: (o2, o2 + 3) :: gs) s1)
    (hexact : lengthWidth n1 = 3 → lengthWidth n2 = 3 →
      s.writer.offset + k = o1 + 3 + n1 ∧ s.writer.offset + k = o2 + 3 + n2)
    (hf : ∀ s2, Midway s k gs s2 → Finishes s (f 6) s2) :
    Finishes s (EncM.backtrackAndEncodeSize [n1, n2] >>= f) s1 := by
  have h' : Midway s k ([(o1, o1 + 3), (o2, o2 + 3)] ++ gs) s1 := h
  refine h'.patch rfl ?_ ?_ fun s2 _ h2 => hf s2 h2
  · simp
  · intro hwide
    obtain ⟨h1, h2⟩ := hexact (hwide n1 (by simp)) (hwide n2 (by simp))
    exact .cons h1 (.cons h2 .nil)

/-- Three open lengths. -/
theorem patch_three {s s1 : Enc σ} {k n1 n2 n3 o1 o2 o3 : Nat}
    {gs : List (Nat × Nat)} {f : Nat → EncM σ Nat}
    (h : Midway s k ((o1, o1 + 3) :: (o2, o2 + 3) :: (o3, o3 + 3) :: gs) s1)
    (hexact : s.writer.offset + k = o1 + 3 + n1 ∧
      s.writer.offset + k = o2 + 3 + n2 ∧ s.writer.offset + k = o3 + 3 + n3)
    (hf : ∀ s2, Midway s k gs s2 → Finishes s (f 9) s2) :
    Finishes s (EncM.backtrackAndEncodeSize [n1, n2, n3] >>= f) s1 := by
  have h' : Midway s k
      ([(o1, o1 + 3), (o2, o2 + 3), (o3, o3 + 3)] ++ gs) s1 := h
  obtain ⟨h1, h2, h3⟩ := hexact
  refine h'.patch rfl ?_ (fun _ => .cons h1 (.cons h2 (.cons h3 .nil)))
    fun s2 _ h2 => hf s2 h2
  simp

/-- **A PAYLOAD** counts what it appends. -/
theorem tallies_payload {head : Encode} {tail : EncM σ Nat} {hs : Bytes}
    (subjectName : Name) (pubKey : PubKey) (hhead : Emits head hs)
    (htail : Tallies tail) :
    Tallies (do
      let prefixBytes ← EncM.emit (encodeTagField SEQUENCE_TAG)
      let _ ← EncM.pushBacktrack SIZE_TAG_OFFSET
      let n1 ← EncM.emit head
      let n2 ← encodeRdn subjectName
      let n3 ← encodePubKeyInfo b cfg pubKey
      let n4 ← tail
      let bytesWritten := n1 + n2 + n3 + n4
      let sizeBytes ← EncM.backtrackAndEncodeSize [bytesWritten]
      EncM.checkNotTruncated
      pure (prefixBytes + sizeBytes + bytesWritten) : EncM σ Nat) := by
  intro s
  refine (Midway.refl s).tally (.emit (emits_encodeTagField _))
    fun n0 s1 h1 => ?_
  refine h1.reserve fun off s2 _ h2 => ?_
  refine h2.tally (.emit hhead) fun n1 s3 h3 => ?_
  refine h3.tally (tallies_encodeRdn subjectName) fun n2 s4 h4 => ?_
  refine h4.tally (tallies_encodePubKeyInfo pubKey) fun n3 s5 h5 => ?_
  refine h5.tally htail fun n4 s6 h6 => ?_
  refine patch_one h6 (by omega) fun s7 h7 => ?_
  refine h7.idle .checkNotTruncated fun _ s8 _ h8 => ?_
  exact h8.finish (by omega)

theorem tallies_encodePayload (payload : SignedPayload b) :
    Tallies (encodePayload cfg payload : EncM σ Nat) := by
  cases payload with
  | tbs serialNumber issuerName subjectName pubkey measurements validity =>
      exact tallies_payload subjectName pubkey (.cons emits_encodeVersion
        (.cons (emits_encodeIntegerBytes _) (.cons (emits_encodeSigAlgId _)
          (.cons (emits_encodeBytes _) (.cons (emits_encodeValidity _) .nil)))))
        (tallies_encodeExtensions true)
  | certReqInfo pubKey subjectName measurements =>
      exact tallies_payload subjectName pubKey
        (emits_encodeIntegerBytes (toBeBytes64 CSR_V0)) tallies_encodeAttributes

/-- **A SIGNED STRUCTURE** counts what it appends. -/
theorem tallies_encodeSignedPayload (payload : SignedPayload b) :
    Tallies (encodeSignedPayload cfg signCb payload) := by
  intro s
  refine (Midway.refl s).tally (.emit (emits_encodeTagField _))
    fun n0 s1 h1 => ?_
  refine h1.reserve fun off s2 _ h2 => ?_
  refine h2.tally (tallies_encodePayload payload) fun n1 s3 h3 => ?_
  refine h3.idle (.sign _ _ _ _) fun _ s4 _ h4 => ?_
  refine h4.idle .get fun t s5 _ h5 => ?_
  refine h5.tally (.emit (emits_encodeSignatureBitString _ _))
    fun n2 s6 h6 => ?_
  refine h6.idle .zeroize fun _ s7 _ h7 => ?_
  refine patch_one h7 (by omega) fun s8 h8 => ?_
  exact h8.finish (by omega)

/-- A last look at the offset. -/
theorem tallies_checked {m : EncM σ Nat} (hm : Tallies m) :
    Tallies (do
      let bytesWritten ← m
      EncM.checkNotTruncated
      pure bytesWritten : EncM σ Nat) := by
  intro s
  refine (Midway.refl s).tally hm fun n s1 h1 => ?_
  refine h1.idle .checkNotTruncated fun _ s2 _ h2 => ?_
  exact h2.finish (Nat.zero_add n).symm

/-- **THE CSR IN ITS OCTET STRING**: three lengths are left open around
    it; two of them are filled in at once. -/
theorem tallies_encodeEncapsulatedContentInfo (pubKey : PubKey)
    (subjectName : Name) : Tallies (encodeEncapsulatedContentInfo cfg signCb
      pubKey subjectName measurements) := by
  intro s
  refine (Midway.refl s).tally (.emit (emits_encodeByte _))
    fun n0 s1 h1 => ?_
  refine h1.reserve fun _ s2 _ h2 => ?_
  refine h2.tally (.emit (.cons (emits_encodeOid ID_DATA_OID)
    (.cons (emits_encodeByte _) .nil))) fun n1 s3 h3 => ?_
  refine h3.reserve fun _ s4 _ h4 => ?_
  refine h4.emit (emits_encodeByte OCTET_STRING_TAG) fun s5 h5 => ?_
  refine h5.reserve fun _ s6 _ h6 => ?_
  refine h6.tally (tallies_checked (tallies_encodeSignedPayload _))
    fun csrBytes s7 h7 => ?_
  refine h7.idle (.setRange _) fun _ s8 _ h8 => ?_
  rw [econtent_inner]
  refine patch_two h8 ?_ fun s9 h9 => ?_
  · intro hwide _
    have hsize : getEcontentSize csrBytes true false = 1 + 3 + csrBytes := by
      show getStructureSize csrBytes true = _
      rw [getStructureSize_tagged, hwide]
    rw [hsize]
    exact ⟨by omega, by simp only [List.length_singleton]; omega⟩
  · refine patch_one h9 ?_ fun s10 h10 => ?_
    · simp only [List.length_singleton]
      omega
    · refine h10.finish ?_
      simp only [List.length_singleton]
      omega

/-- **A CMS MESSAGE**: three more lengths are left open around the CSR,
    and filled in at once. -/
theorem tallies_encodeCms (pubKey : PubKey) (subjectName : Name)
    (sid : SignerIdentifier b) : Tallies (encodeCms cfg signCb pubKey subjectName
      measurements sid) := by
  intro s
  refine (Midway.refl s).emit (emits_encodeByte SEQUENCE_TAG) fun s1 h1 => ?_
  refine h1.reserve fun _ s2 _ h2 => ?_
  refine h2.tally (.emit (.cons (emits_encodeOid ID_SIGNED_DATA_OID)
    (.cons (emits_encodeByte _) .nil))) fun n1 s3 h3 => ?_
  refine h3.reserve fun _ s4 _ h4 => ?_
  refine h4.tally (.emit (emits_encodeTagField _)) fun tag1 s5 h5 => ?_
  refine h5.reserve fun _ s6 _ h6 => ?_
  refine h6.tally (.emit (.cons (emits_encodeCmsVersion sid)
    (.cons (emits_encodeTagField _) (.cons (emits_encodeSizeField _)
      (.cons (emits_encodeHashAlgId _) .nil))))) fun n2 s7 h7 => ?_
  refine h7.tally (tallies_encodeEncapsulatedContentInfo pubKey subjectName)
    fun n3 s8 h8 => ?_
  refine h8.idle .getCsrRange fun range s9 _ h9 => ?_
  refine h9.idle (.sign _ _ _ _) fun _ s10 _ h10 => ?_
  refine h10.idle .get fun t s11 _ h11 => ?_
  refine h11.tally (.emit (.cons (emits_encodeTagField _)
    (.cons (emits_encodeSizeField _) .nil))) fun n4 s12 h12 => ?_
  refine h12.tally (tallies_encodeSignerInfo _ sid) fun n5 s13 h13 => ?_
  refine h13.idle .zeroize fun _ s14 _ h14 => ?_
  refine patch_three h14 ?_ fun s15 h15 => ?_
  · simp only [List.length_singleton, SIZE_TAG_OFFSET]
    exact ⟨by omega, by omega, by omega⟩
  refine h15.idle .get fun _ s16 _ h16 => ?_
  refine h16.idle (.reject _ _) fun _ s17 _ h17 => ?_
  refine h17.idle .checkNotTruncated fun _ s18 _ h18 => ?_
  refine h18.finish ?_
  simp only [List.length_singleton, SIZE_TAG_OFFSET]
  omega

end CertWriter

/-! ## The four encoders -/

open CertWriter

/-- What one of the encoders that leave lengths open is given. -/
inductive LengthEncoder (b : Build) where
  | tbs (serialNumber issuerName : Bytes) (subjectName : Name) (pubkey : PubKey)
      (measurements : MeasurementData b) (validity : CertValidity)
  | message (m : Message b)

namespace LengthEncoder

def encode (cfg : CertConfig) (signCb : SignCallback σ) :
    LengthEncoder b → EncM σ Nat
  | tbs serialNumber issuerName subjectName pubkey measurements validity =>
      encodeTbs cfg serialNumber issuerName subjectName pubkey measurements
        validity
  | message m => m.encode cfg signCb

def measurements : LengthEncoder b → MeasurementData b
  | tbs _ _ _ _ measurements _ => measurements
  | message m => m.measurements

section Trees

variable (cfg : CertConfig) (first : TciNodeData b) (nodes : List (TciNodeData b))

/-- All that is written. -/
def tree (csrSig sig : Signature) : LengthEncoder b → Tlv
  | tbs serialNumber issuerName subjectName pubkey measurements validity =>
      tbsTree cfg serialNumber issuerName subjectName pubkey measurements
        validity first nodes
  | message m => m.tree cfg first nodes csrSig sig

/-- The structures whose lengths are left open, from the outside in. -/
def structures (csrSig sig : Signature) : LengthEncoder b → List Tlv
  | tbs serialNumber issuerName subjectName pubkey measurements validity =>
      [tbsTree cfg serialNumber issuerName subjectName pubkey measurements
        validity first nodes]
  | message (.certificate serialNumber issuerName subjectName pubkey measurements
      validity) =>
      let payload := .tbs serialNumber issuerName subjectName pubkey measurements
        validity
      [signedTree cfg first nodes payload sig, payloadTree cfg first nodes payload]
  | message (.csr pubKey subjectName measurements) =>
      let payload := .certReqInfo pubKey subjectName measurements
      [signedTree cfg first nodes payload sig, payloadTree cfg first nodes payload]
  | message (.cms pubKey subjectName measurements sid) =>
      let csr := csrTree cfg pubKey subjectName measurements first nodes csrSig
      let signedData := sized SEQUENCE_TAG (signedDataBody cfg sid csr sig)
      let octets := sized OCTET_STRING_TAG csr
      [sized SEQUENCE_TAG (contentInfoBody cfg sid csr sig),
        sized (CONTEXT_SPECIFIC ||| CONSTRUCTED ||| 0x0) signedData, signedData,
        encapsulatedTree csr,
        sized (CONTEXT_SPECIFIC ||| CONSTRUCTED ||| 0x0) octets, octets, csr,
        certReqInfoTree cfg pubKey subjectName measurements first nodes]

/-- The callback answers what the encoder asks it with the signatures in
    `a`. -/
def Answered (signCb : SignCallback σ) (a : Replies σ) (s : Enc σ) :
    LengthEncoder b → Prop
  | tbs .. => True
  | message (.certificate serialNumber issuerName subjectName pubkey measurements
      validity) =>
      Answers signCb false (s.writer.offset + 4) (tbsTree cfg serialNumber
        issuerName subjectName pubkey measurements validity first nodes).bytes
        s.sig s.env a.sig a.env
  | message (.csr pubKey subjectName measurements) =>
      Answers signCb true (s.writer.offset + 4) (certReqInfoTree cfg pubKey
        subjectName measurements first nodes).bytes s.sig s.env a.sig a.env
  | message (.cms pubKey subjectName measurements sid) =>
      Answers signCb true (s.writer.offset + csrOffset cfg sid + 4)
          (certReqInfoTree cfg pubKey subjectName measurements first nodes).bytes
          s.sig s.env a.csrSig a.csrEnv ∧
        Answers signCb false (s.writer.offset + csrOffset cfg sid)
          (csrTree cfg pubKey subjectName measurements first nodes a.csrSig).bytes
          a.csrSig.zeroize a.csrEnv a.sig a.env

end Trees

variable {cfg : CertConfig} {first : TciNodeData b} {nodes : List (TciNodeData b)}
  {chain : List (Context b)} {signCb : SignCallback σ}

theorem tallies (x : LengthEncoder b) : Tallies (x.encode cfg signCb) := by
  cases x with
  | tbs serialNumber issuerName subjectName pubkey measurements validity =>
      exact tallies_encodePayload (.tbs serialNumber issuerName subjectName pubkey
        measurements validity)
  | message m =>
      cases m with
      | certificate => exact tallies_checked (tallies_encodeSignedPayload _)
      | csr => exact tallies_checked (tallies_encodeSignedPayload _)
      | cms pubKey subjectName measurements sid =>
          exact tallies_encodeCms pubKey subjectName sid

/-- What a run that returns has written. -/
theorem written (x : LengthEncoder b)
    (hwalks : x.measurements.tciNodes.Valid →
      Walks x.measurements.tciNodes first chain) {s s' : Enc σ} {n : Nat}
    (hrun : x.encode cfg signCb s = .ok n s') :
    x.measurements.tciNodes.Valid ∧
    s.writer.offset + n ≤ s'.writer.certificate.capacity ∧
    ∃ csrSig sig, n = (x.tree cfg first (nodesOf chain) csrSig sig).size ∧
      s'.writer.certificate.readRange s.writer.offset (s.writer.offset + n)
        = .ok (x.tree cfg first (nodesOf chain) csrSig sig).bytes := by
  cases x with
  | tbs serialNumber issuerName subjectName pubkey measurements validity =>
      have hspec : Appends _ _ (encodePayload cfg (.tbs serialNumber issuerName
        subjectName pubkey measurements validity) : EncM σ Nat) _ _ :=
        appends_encodePayload hwalks
      obtain ⟨hsound, hfits, rfl, hgrew⟩ := (hspec s).of_ok hrun
      have hcap := hgrew.opened.capacity
      refine ⟨hsound.1.valid, hcap ▸ hfits, s.sig, s.sig, rfl, ?_⟩
      exact hgrew.reads_all hfits (payloadTree_pos _ _)
  | message m =>
      have hspec : Post (m.encode cfg signCb) s _ _ :=
        m.encode_spec hwalks s ⟨s.sig, s.env, s.sig, s.env⟩
      obtain ⟨a, calls, hdone⟩ := hspec.of_ok hrun
      have hcap : s'.writer.certificate.capacity
          = s.writer.certificate.capacity := hdone.grew.opened.capacity
      exact ⟨hdone.valid, hcap ▸ hdone.fits, a.csrSig, a.sig, hdone.size,
        hdone.output⟩

/-- All lengths of a run that returns are three bytes wide. -/
theorem wide (x : LengthEncoder b)
    (hwalks : x.measurements.tciNodes.Valid →
      Walks x.measurements.tciNodes first chain) {s s' : Enc σ} {n : Nat}
    {a : Replies σ} (ha : x.Answered cfg first (nodesOf chain) signCb a s)
    (hrun : x.encode cfg signCb s = .ok n s') :
    ∀ t ∈ x.structures cfg first (nodesOf chain) a.csrSig a.sig, Wide t := by
  cases x with
  | tbs serialNumber issuerName subjectName pubkey measurements validity =>
      have hspec : Appends _ _ (encodePayload cfg (.tbs serialNumber issuerName
        subjectName pubkey measurements validity) : EncM σ Nat) _ _ :=
        appends_encodePayload hwalks
      obtain ⟨hsound, -⟩ := (hspec s).of_ok hrun
      intro t ht
      rw [List.mem_singleton.mp ht]
      exact hsound.1.wide
  | message m =>
      cases m with
      | certificate serialNumber issuerName subjectName pubkey measurements
          validity =>
          obtain ⟨-, sig, env, c, h⟩ := (encodeCertificate_spec hwalks serialNumber
            issuerName subjectName pubkey validity s s.sig s.env).of_ok hrun
          obtain ⟨rfl, rfl⟩ := h.signs.unique ha
          intro t ht
          rcases List.mem_cons.mp ht with rfl | ht
          · exact h.wide
          · rw [List.mem_singleton.mp ht]
            exact h.sound.wide
      | csr pubKey subjectName measurements =>
          obtain ⟨-, sig, env, c, h⟩ := (encodeCsr_spec hwalks pubKey subjectName
            s s.sig s.env).of_ok hrun
          obtain ⟨rfl, rfl⟩ := h.signs.unique ha
          intro t ht
          rcases List.mem_cons.mp ht with rfl | ht
          · exact h.wide
          · rw [List.mem_singleton.mp ht]
            exact h.sound.wide
      | cms pubKey subjectName measurements sid =>
          have hwalks' : measurements.tciNodes.Valid →
              Walks measurements.tciNodes first chain := hwalks
          obtain ⟨csrSig, env1, c1, sig, env2, c2, h⟩ := (encodeCms_spec hwalks'
            pubKey subjectName sid s s.sig s.env s.sig s.env).of_ok hrun
          obtain ⟨hcsr, hsig⟩ := ha
          obtain ⟨rfl, rfl⟩ := h.csrSigns.unique hcsr
          obtain ⟨rfl, rfl⟩ := h.signs.unique hsig
          have hsound := h.sound
          simp only [structures, List.forall_mem_cons, List.not_mem_nil,
            false_implies, implies_true, and_true]
          exact ⟨hsound.wide.whole, hsound.wide.content, hsound.wide.signedData,
            hsound.encapsulated.whole, hsound.encapsulated.eContent,
            hsound.encapsulated.octets, hsound.csr, hsound.info.wide⟩

end LengthEncoder

/-- A length field of three bytes. -/
theorem lengthWidth_three {n : Nat} : lengthWidth n = 3 ↔ 256 ≤ n ∧ n ≤ 65535 := by
  unfold lengthWidth
  repeat' split
  all_goals omega

/-- **ALL LENGTHS ARE FILLED IN**: by the trace of the writer, the lengths
    that were left open and those that were filled in match like brackets;
    every length that was left open was filled in with the number of bytes
    from behind its field to the place where the writer was then, and this
    is what the field holds in the end. -/
structure Backfilled (n : Nat) (w : CertWriter) : Prop where
  nested : replay w.trace [] = some []
  filled : ∀ o, .reserved o ∈ w.trace → ∃ k, .patched o k (o + 3 + k) ∈ w.trace ∧
    256 ≤ k ∧ k ≤ 65535 ∧ o + 3 + k ≤ n ∧
    w.certificate.readRange o (o + 3) = .ok (lengthField k)
  closed : w.backtracks = [] ∧ w.savedOffset = none
  offset : w.offset = n

/-- A program that counts, run on a fresh writer with room for its
    output. -/
theorem Tallies.backfilled {m : EncM σ Nat} (hm : Tallies m) {s s' : Enc σ}
    {r : ResponseBuffer} {n : Nat} (hfresh : s.writer = .new r)
    (hrun : m s = .ok n s') (hcap : n ≤ s'.writer.certificate.capacity) :
    Backfilled n s'.writer := by
  have hmid := hm s n s' hrun
  have hsettled : Settled s'.writer := by
    refine hmid.settled ?_
    rw [hfresh]
    exact .new r
  have hoff : s'.writer.offset = n := by
    rw [hmid.offset, hfresh]
    exact Nat.zero_add n
  have hstack : s'.writer.backtracks = [] := by
    rw [hmid.stack, hfresh]
    rfl
  have hnested : replay s'.writer.trace [] = some [] := by
    rw [hsettled.nested, hstack]
    rfl
  refine ⟨hnested, ?_, ⟨hstack, hsettled.saved⟩, hoff⟩
  intro o ho
  obtain ⟨k, stop, hpatched⟩ := patched_of_replay hnested (.inr ho)
  obtain ⟨rfl, hwide, hend, -, hfield⟩ := hsettled.filled o k stop hpatched
  obtain ⟨hlow, hhigh⟩ := lengthWidth_three.mp hwide
  refine ⟨k, hpatched, hlow, hhigh, hoff ▸ hend, ?_⟩
  rw [hoff] at hend hfield
  rw [ResponseBuffer.readRange_eq (by omega) (by omega) (by omega),
    Nat.add_sub_cancel_left]
  exact congrArg Except.ok (hfield hcap)

/-- **BACKFILLED LENGTHS ARE RIGHT**: a run of one of the encoders on a
    fresh writer that returns `n` has filled in all its lengths and
    written `n` bytes, those of its tree; and where the contents of one of
    the structures whose length is left open would be shorter than 256 or
    longer than 65535 bytes, the encoder fails. -/
theorem lengths_backfilled (x : LengthEncoder b) (cfg : CertConfig)
    (signCb : SignCallback σ) (r : ResponseBuffer) (sig : Signature) (env : σ) :
    (∀ n s', x.encode cfg signCb ⟨.new r, sig, env⟩ = .ok n s' →
      Backfilled n s'.writer ∧
      ∃ first chain csrSig sig', Walks x.measurements.tciNodes first chain ∧
        n = (x.tree cfg first (nodesOf chain) csrSig sig').size ∧
        s'.writer.certificate.readRange 0 n
          = .ok (x.tree cfg first (nodesOf chain) csrSig sig').bytes) ∧
    ∀ first chain a, Walks x.measurements.tciNodes first chain →
      x.Answered cfg first (nodesOf chain) signCb a ⟨.new r, sig, env⟩ →
      (∃ t ∈ x.structures cfg first (nodesOf chain) a.csrSig a.sig,
        t.declared < 256 ∨ 65535 < t.declared) →
      ∃ e s', x.encode cfg signCb ⟨.new r, sig, env⟩ = .error e s' := by
  refine ⟨?_, ?_⟩
  · intro n s' hrun
    obtain ⟨first, chain, hwalks⟩ := x.measurements.tciNodes.exists_walks
    obtain ⟨hvalid, hcap, csrSig, sig', hsize, hread⟩ := x.written hwalks hrun
    have hcap' : n ≤ s'.writer.certificate.capacity := by
      have hzero : 0 + n ≤ s'.writer.certificate.capacity := hcap
      omega
    have hread' : s'.writer.certificate.readRange 0 (0 + n) = _ := hread
    rw [Nat.zero_add] at hread'
    exact ⟨x.tallies.backfilled rfl hrun hcap', first, chain, csrSig, sig',
      hwalks hvalid, hsize, hread'⟩
  · rintro first chain a hwalks ha ⟨t, ht, hout⟩
    cases hrun : x.encode cfg signCb ⟨.new r, sig, env⟩ with
    | ok n s' =>
        have hwide : lengthWidth t.declared = 3 :=
          x.wide (fun _ => hwalks) ha hrun t ht
        have hin := lengthWidth_three.mp hwide
        omega
    | error e s' => exact ⟨e, s', rfl⟩

/-- A CMS message of 758 bytes, with eight lengths left open. -/
theorem lengths_backfilled_cms : ∃ s',
    sampleCms.encode sampleConfig sampleCallback (sampleEncoder 800) = .ok 758 s' ∧
    Backfilled 758 s'.writer := by
  obtain ⟨s', hrun⟩ := sampleCms_returns (show 758 ≤ 800 by decide)
  obtain ⟨hfilled, -⟩ := lengths_backfilled (.message sampleCms) sampleConfig
    sampleCallback (.slice (.replicate 800 0)) (.zeroed (.ecdsa .bit384)) ()
  exact ⟨s', hrun, (hfilled 758 s' hrun).1⟩

end Dpe
