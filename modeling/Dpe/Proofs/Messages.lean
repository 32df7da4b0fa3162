import Dpe.Proofs.Certificates

/-! # Certificates and CSRs

    The encoders that reserve lengths and sign.  Each of them returns
    just where its input is sound, the callback answers and the output
    fits.  It has then appended the bytes of the tree of its message: the
    signature in the tree is the one the callback returned, and the span
    it was handed is that of the payload in front of it. -/

namespace Dpe

open Der Tlv Prog

namespace CertWriter

variable {b : Build} {σ β : Type} {cfg : CertConfig}
  {measurements : MeasurementData b} {first : TciNodeData b}
  {chain : List (Context b)}

/-! ## Lengths that are filled in -/

/-- The length field of a structure fills the gap that is left for it. -/
def Wide (t : Tlv) : Prop := lengthWidth t.declared = 3

instance (t : Tlv) : Decidable (Wide t) :=
  inferInstanceAs (Decidable (lengthWidth t.declared = 3))

theorem wide_sized {tag : UInt8} {body : Tlv} (h : Wide (sized tag body)) :
    lengthWidth body.size = 3 := h

/-- The size of a structure whose length field is three bytes wide. -/
theorem size_sized {tag : UInt8} {body : Tlv} (h : Wide (sized tag body)) :
    (sized tag body).size = 4 + body.size := by
  rw [sized, size_node, wide_sized h]

theorem sized_bytes (tag : UInt8) (body : Tlv) :
    (sized tag body).bytes = [tag] ++ lengthField body.size ++ body.bytes := rfl

/-- Filling in the length of a structure that has been appended. -/
theorem close_sized {R : σ → σ → Prop} {P Q : Prop} (tag : UInt8) (body : Tlv)
    {gap xs : Bytes} {n : Nat} {gs : List (Nat × Nat)} {f : Nat → EncM σ β}
    {s s1 : Enc σ} {ok : β → Enc σ → Prop} (hgap : gap.length = 3)
    (hg : Grew s xs ((s.writer.offset + 1, s.writer.offset + 1 + 3) :: gs) s1)
    (hxs : xs = [tag] ++ gap ++ body.bytes) (hn : n = body.size)
    (hR : ∀ env, R env env)
    (hO : P → s.writer.savedOffset = none ∧ Wide (sized tag body))
    (hf : ∀ s2, s.writer.savedOffset = none → Wide (sized tag body) →
      s2.writer.csrRange = s1.writer.csrRange →
      Grew s (sized tag body).bytes gs s2 →
      Post (f 3) s2 ok (fun e s' => Lost R P Q e s s')) :
    Post (EncM.backtrackAndEncodeSize [n] >>= f) s1 ok
      (fun e s' => Lost R P Q e s s') := by
  rw [hn]
  have hfill : Fill s.writer.offset ([tag] ++ gap ++ body.bytes)
      [(s.writer.offset + 1, s.writer.offset + 1 + 3)] [body.size]
      (sized tag body).bytes := .gap hgap (.done _)
  refine (hg.cast hxs).fill hfill hR ?_ ?_
  · intro hP
    obtain ⟨hsaved, hwide⟩ := hO hP
    exact ⟨hsaved, fun m hm => List.mem_singleton.mp hm ▸ hwide⟩
  · intro s2 hsaved hw hrange h2
    exact hf s2 hsaved (hw _ (List.mem_cons_self ..)) hrange h2

/-! ## Payloads -/

/-- **A PAYLOAD**: a SEQUENCE of a head that cannot fail, a name, a key
    and a tail for which `tciNodes` must be valid. -/
theorem appends_payload {head : Encode} {tail : EncM σ Nat} {hs ts : Bytes}
    {m : Nat} {valid : Prop} {body : Tlv} (subjectName : Name) (pubKey : PubKey)
    (hhead : Emits head hs)
    (htail : Appends (fun _ => valid) (fun _ => True) tail ts m)
    (hm : m = ts.length)
    (hbody : body.bytes = hs ++ (rdnTree subjectName).bytes
      ++ (pubKeyInfoTree cfg pubKey).bytes ++ ts) :
    Appends (fun s => (valid ∧ pubKey.compiled b = true ∧
        Wide (sized SEQUENCE_TAG body)) ∧ Ready 1 s)
      (Fits (sized SEQUENCE_TAG body).size)
      (do
        let prefixBytes ← EncM.emit (encodeTagField SEQUENCE_TAG)
        let _ ← EncM.pushBacktrack SIZE_TAG_OFFSET
        let n1 ← EncM.emit head
        let n2 ← encodeRdn subjectName
        let n3 ← encodePubKeyInfo b cfg pubKey
        let n4 ← tail
        let bytesWritten := n1 + n2 + n3 + n4
        let sizeBytes ← EncM.backtrackAndEncodeSize [bytesWritten]
        EncM.checkNotTruncated
        pure (prefixBytes + sizeBytes + bytesWritten))
      (sized SEQUENCE_TAG body).bytes (sized SEQUENCE_TAG body).size := by
  intro s
  have hsize : body.size = hs.length + (rdnTree subjectName).size
      + (pubKeyInfoTree cfg pubKey).size + ts.length := by
    rw [← length_bytes body, hbody]
    simp only [List.length_append, length_bytes]
  refine (Grew.refl s).step (.emit (emits_encodeTagField _)) fun s1 h1 => ?_
  refine h1.push (fun _ => rfl) ?_ fun gap s2 hgap hroom h2 => ?_
  · rintro ⟨-, hready⟩
    exact hready.room
  refine h2.step (.emit hhead) fun s3 h3 => ?_
  refine h3.attempt (appends_encodeRdn subjectName) (fun _ => rfl)
    (fun _ => trivial) ?_ fun s4 _ _ h4 => ?_
  · rintro ⟨⟨-, -, hwide⟩, -⟩ hfits
    rw [h3.fits_iff]
    refine hfits.mono ?_
    rw [size_sized hwide, hsize]
    simp only [List.length_append, List.length_cons, List.length_nil, hgap]
    omega
  refine h4.attempt (appends_encodePubKeyInfo pubKey) (fun _ => rfl)
    (fun h => h.1.2.1) (fun _ _ => trivial) fun s5 hkey _ h5 => ?_
  refine h5.attempt htail (fun _ => rfl) (fun h => h.1.1) (fun _ _ => trivial)
    fun s6 hvalid _ h6 => ?_
  refine close_sized SEQUENCE_TAG body hgap h6 ?_ ?_ (fun _ => rfl)
    (fun h => ⟨h.2.saved, h.1.2.2⟩) fun s7 hsaved hwide _ h7 => ?_
  · simp only [hbody, List.append_assoc, List.nil_append]
  · rw [hsize, hm]
  · have hfits : Fits 0 s7 ↔ Fits (sized SEQUENCE_TAG body).size s := by
      rw [h7.fits_iff, length_bytes, Nat.add_zero]
    refine h7.attempt .checkNotTruncated (fun _ => rfl) (fun _ => trivial)
      (fun _ => hfits.mpr) fun s8 _ hcap h8 => ?_
    refine h8.done ⟨⟨hvalid, hkey, hwide⟩, hsaved, ?_⟩ (hfits.mp hcap) ?_
      (List.append_nil _)
    · exact hroom
    · rw [size_sized hwide, hsize, hm]
      simp only [List.length_cons, List.length_nil]

def payloadKey : SignedPayload b → PubKey
  | .tbs _ _ _ pubkey _ _ => pubkey
  | .certReqInfo pubKey _ _ => pubKey

/-- What a payload must be like to be written. -/
structure SoundPayload (cfg : CertConfig) (first : TciNodeData b)
    (nodes : List (TciNodeData b)) (payload : SignedPayload b) : Prop where
  valid : (payloadMeasurements payload).tciNodes.Valid
  key : (payloadKey payload).compiled b = true
  wide : Wide (payloadTree cfg first nodes payload)

theorem appends_encodePayload {payload : SignedPayload b}
    (h : (payloadMeasurements payload).tciNodes.Valid →
      Walks (payloadMeasurements payload).tciNodes first chain) :
    Appends (fun s => SoundPayload cfg first (nodesOf chain) payload ∧ Ready 1 s)
      (Fits (payloadTree cfg first (nodesOf chain) payload).size)
      (encodePayload cfg payload : EncM σ Nat)
      (payloadTree cfg first (nodesOf chain) payload).bytes
      (payloadTree cfg first (nodesOf chain) payload).size := by
  have hsound : ∀ s : Enc σ,
      ((payloadMeasurements payload).tciNodes.Valid ∧
        (payloadKey payload).compiled b = true ∧
        Wide (payloadTree cfg first (nodesOf chain) payload)) ∧ Ready 1 s
      ↔ SoundPayload cfg first (nodesOf chain) payload ∧ Ready 1 s :=
    fun s => and_congr_left' ⟨fun h => ⟨h.1, h.2.1, h.2.2⟩,
      fun h => ⟨h.valid, h.key, h.wide⟩⟩
  rw [← funext fun s => propext (hsound s)]
  cases payload with
  | tbs serialNumber issuerName subjectName pubkey measurements validity =>
      exact appends_payload subjectName pubkey (.cons emits_encodeVersion
        (.cons (emits_encodeIntegerBytes _) (.cons (emits_encodeSigAlgId _)
          (.cons (emits_encodeBytes _) (.cons (emits_encodeValidity _) .nil)))))
        (appends_encodeExtensions h true) (length_bytes _).symm
        (by simp [payloadMeasurements])
  | certReqInfo pubKey subjectName measurements =>
      exact appends_payload subjectName pubKey
        (emits_encodeIntegerBytes (toBeBytes64 CSR_V0))
        (appends_encodeAttributes h) (length_bytes _).symm
        (by simp [payloadMeasurements])

theorem payloadTree_pos (payload : SignedPayload b)
    (nodes : List (TciNodeData b)) :
    0 < (payloadTree cfg first nodes payload).size := by
  cases payload with
  | tbs => simp only [payloadTree, tbsTree, sized, size_node]; omega
  | certReqInfo => simp only [payloadTree, certReqInfoTree, sized, size_node]; omega

/-! ## Signed structures -/

/-- The signing callback keeps what it should. -/
def CallbackKeeps {φ : Type} (κ : σ → φ) (signCb : SignCallback σ) : Prop :=
  ∀ buf start stop useDerived out, Keeps κ (signCb buf start stop useDerived out)

variable {signCb : SignCallback σ}

/-- The callback signs the payload of an encoder that starts in `s`: the
    span begins behind the tag and the length of the whole. -/
def SignsPayload (signCb : SignCallback σ) (cfg : CertConfig)
    (payload : SignedPayload b) (first : TciNodeData b)
    (nodes : List (TciNodeData b)) (s : Enc σ) (sig : Signature) (env : σ)
    (c : SignCall) : Prop :=
  Signed signCb s.writer.certificate (SignedPayload.isCsr payload)
    (s.writer.offset + 4) (payloadTree cfg first nodes payload).bytes s.sig s.env
    sig env c

/-- The callback is handed the payload of an encoder that starts in `s`. -/
def HandedPayload (cfg : CertConfig) (payload : SignedPayload b)
    (first : TciNodeData b) (nodes : List (TciNodeData b)) (s : Enc σ) :
    SignCall → Prop :=
  Handed s.writer.certificate (SignedPayload.isCsr payload)
    (s.writer.offset + 4) (payloadTree cfg first nodes payload).bytes

/-- Nothing but the room for the output is missing: the payload is sound
    and the callback answers with `sig`. -/
structure CanSign (signCb : SignCallback σ) (cfg : CertConfig)
    (payload : SignedPayload b) (first : TciNodeData b)
    (nodes : List (TciNodeData b)) (sig : Signature) (env : σ) (s : Enc σ) :
    Prop where
  sound : SoundPayload cfg first nodes payload
  ready : Ready 2 s
  wide : Wide (signedTree cfg first nodes payload sig)
  answers : Answers signCb (SignedPayload.isCsr payload) (s.writer.offset + 4)
    (payloadTree cfg first nodes payload).bytes s.sig s.env sig env

/-- What an encoder of a signed payload that returns has done: the bytes
    of the signed tree are behind what was there, and the one call that
    was made signs the payload. -/
structure SignedAppended (signCb : SignCallback σ) (cfg : CertConfig)
    (payload : SignedPayload b) (first : TciNodeData b)
    (nodes : List (TciNodeData b)) (s : Enc σ) (n : Nat) (sig : Signature)
    (env : σ) (c : SignCall) (s' : Enc σ) : Prop where
  size : n = (signedTree cfg first nodes payload sig).size
  sound : SoundPayload cfg first nodes payload
  ready : Ready 2 s
  wide : Wide (signedTree cfg first nodes payload sig)
  signs : SignsPayload signCb cfg payload first nodes s sig env c
  grew : Grew { s with sig := sig.zeroize, env := env }
    (signedTree cfg first nodes payload sig).bytes [] s'

theorem size_signedTree {payload : SignedPayload b} {sig : Signature}
    {nodes : List (TciNodeData b)}
    (h : Wide (signedTree cfg first nodes payload sig)) :
    (signedTree cfg first nodes payload sig).size
      = 4 + (payloadTree cfg first nodes payload).size
        + (signatureBitStringTree cfg.profile sig).size := by
  rw [signedTree, size_sized h]
  simp only [size_all_cons, size_all_nil]
  omega

/-- **A SIGNED STRUCTURE**. -/
theorem encodeSignedPayload_spec (payload : SignedPayload b)
    (h : (payloadMeasurements payload).tciNodes.Valid →
      Walks (payloadMeasurements payload).tciNodes first chain) (s : Enc σ)
    (sig' : Signature) (env' : σ) :
    Post (encodeSignedPayload cfg signCb payload) s
      (fun n s' => ∃ sig env c, SignedAppended signCb cfg payload first
        (nodesOf chain) s n sig env c s')
      (fun e s' => Lost
        (Called signCb (HandedPayload cfg payload first (nodesOf chain) s))
        (CanSign signCb cfg payload first (nodesOf chain) sig' env' s)
        (Fits (signedTree cfg first (nodesOf chain) payload sig').size s) e s s') := by
  refine (Grew.refl s).step (.emit (emits_encodeTagField _)) fun s1 h1 => ?_
  refine h1.push Called.refl (fun o => Nat.lt_of_succ_lt o.ready.room)
    fun gap s2 hgap hroom h2 => ?_
  refine h2.attempt (appends_encodePayload h) Called.refl ?_ ?_
    fun s3 hpayload hfits h3 => ?_
  · intro o
    exact ⟨o.sound, h2.ready o.ready⟩
  · intro o hfits
    rw [h2.fits_iff]
    refine hfits.mono ?_
    rw [size_signedTree o.wide]
    simp only [List.length_append, List.length_cons, List.length_nil, hgap]
    omega
  have hfits3 : Fits 0 s3 := by
    rw [h2.fits_iff] at hfits
    rw [h3.fits_iff]
    refine hfits.mono ?_
    simp only [List.length_append, length_bytes]
    omega
  refine h3.sign sig' env' hfits3 ?_ rfl
    (payloadTree_pos payload _) (fun _ hc => hc) ?_
    fun c sig env s4 hsigned h4 => ?_
  · simp [hgap]
  · intro o
    simpa [hgap] using o.answers
  refine Post.get_bind ?_
  refine h4.step (.emit (emits_encodeSignatureBitString cfg.profile s4.sig))
    fun s5 h5 => ?_
  refine h5.zeroize fun s6 h6 => ?_
  have hsig : s4.sig = sig := h4.sig
  rw [hsig] at h6 ⊢
  refine close_sized SEQUENCE_TAG (all [payloadTree cfg first (nodesOf chain)
    payload, signatureBitStringTree cfg.profile sig]) hgap h6 ?_ ?_ Called.refl ?_
    fun s7 hsaved hwide _ h7 => ?_
  · simp
  · simp [length_bytes]
  · intro o
    -- the answer is the one under which the structure is wide
    obtain ⟨rfl, rfl⟩ := hsigned.unique (by simpa [hgap] using o.answers)
    exact ⟨o.ready.saved, o.wide⟩
  · have hroom2 := hpayload.2.room
    rw [h2.opened.backtracks, List.length_append, List.length_singleton] at hroom2
    refine Post.pure ⟨sig, env, c, ?_, hpayload.1, ⟨hsaved, by omega⟩, hwide, ?_,
      h7⟩
    · rw [size_signedTree hwide]
      simp [length_bytes]
      omega
    · simpa [SignsPayload, hgap] using hsigned

/-- **BEHIND ITS LAST CHECK** a signed structure is inside the buffer. -/
theorem checked_signed {payload : SignedPayload b} {m : EncM σ Nat} {s : Enc σ}
    {nodes : List (TciNodeData b)} {sig' : Signature} {env' : σ}
    (hm : Post m s
      (fun n s' => ∃ sig env c, SignedAppended signCb cfg payload first nodes s n
        sig env c s')
      (fun e s' => Lost (Called signCb (HandedPayload cfg payload first nodes s))
        (CanSign signCb cfg payload first nodes sig' env' s)
        (Fits (signedTree cfg first nodes payload sig').size s) e s s')) :
    Post (do let bytesWritten ← m; EncM.checkNotTruncated; pure bytesWritten) s
      (fun n s' => Fits n s ∧ ∃ sig env c, SignedAppended signCb cfg payload first
        nodes s n sig env c s')
      (fun e s' => Lost (Called signCb (HandedPayload cfg payload first nodes s))
        (CanSign signCb cfg payload first nodes sig' env' s)
        (Fits (signedTree cfg first nodes payload sig').size s) e s s') := by
  refine Post.bind hm ?_
  rintro n s1 ⟨sig, env, c, hsig⟩
  have hg := hsig.grew
  have hfits : Fits 0 s1 ↔ Fits n s := by
    rw [hg.fits_iff, length_bytes, Nat.add_zero, hsig.size]
    rfl
  refine rebase _ (.single hsig.signs.made hsig.signs.handed)
    (hg.attempt .checkNotTruncated Called.refl (fun _ => trivial) ?_
      fun s2 _ hcap h2 => ?_)
  · intro o f
    obtain ⟨rfl, rfl⟩ := hsig.signs.unique o.answers
    rw [hfits, hsig.size]
    exact f
  · exact Post.pure ⟨hfits.mp hcap, sig, env, c, hsig.size, hsig.sound,
      hsig.ready, hsig.wide, hsig.signs, h2.cast (List.append_nil _)⟩

/-- **A CERTIFICATE**. -/
theorem encodeCertificate_spec
    (h : measurements.tciNodes.Valid → Walks measurements.tciNodes first chain)
    (serialNumber issuerName : Bytes) (subjectName : Name) (pubkey : PubKey)
    (validity : CertValidity) (s : Enc σ) (sig' : Signature) (env' : σ) :
    let payload := SignedPayload.tbs serialNumber issuerName subjectName pubkey
      measurements validity
    Post (encodeCertificate cfg signCb serialNumber issuerName subjectName
        pubkey measurements validity) s
      (fun n s' => Fits n s ∧ ∃ sig env c, SignedAppended signCb cfg payload first
        (nodesOf chain) s n sig env c s')
      (fun e s' => Lost
        (Called signCb (HandedPayload cfg payload first (nodesOf chain) s))
        (CanSign signCb cfg payload first (nodesOf chain) sig' env' s)
        (Fits (signedTree cfg first (nodesOf chain) payload sig').size s) e s s') :=
  checked_signed (encodeSignedPayload_spec (.tbs serialNumber issuerName subjectName
    pubkey measurements validity) h s sig' env')

/-- **A CSR**. -/
theorem encodeCsr_spec
    (h : measurements.tciNodes.Valid → Walks measurements.tciNodes first chain)
    (pubKey : PubKey) (subjectName : Name) (s : Enc σ) (sig' : Signature)
    (env' : σ) :
    let payload := SignedPayload.certReqInfo pubKey subjectName measurements
    Post (encodeCsr cfg signCb pubKey subjectName measurements) s
      (fun n s' => Fits n s ∧ ∃ sig env c, SignedAppended signCb cfg payload first
        (nodesOf chain) s n sig env c s')
      (fun e s' => Lost
        (Called signCb (HandedPayload cfg payload first (nodesOf chain) s))
        (CanSign signCb cfg payload first (nodesOf chain) sig' env' s)
        (Fits (signedTree cfg first (nodesOf chain) payload sig').size s) e s s') :=
  checked_signed (encodeSignedPayload_spec
    (.certReqInfo pubKey subjectName measurements) h s sig' env')

end CertWriter

end Dpe
