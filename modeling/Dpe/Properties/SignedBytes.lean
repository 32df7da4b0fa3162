import Dpe.Proofs.Encoding
import Dpe.Proofs.Sample

/-! # What is signed is what is written

    Lengths are left open while a message is written and filled in
    afterwards.  No length inside a part that is signed is still open
    when the callback is handed the part: what it reads there is what the
    finished message holds there. -/

namespace Dpe

open Der Prog

variable {b : Build} {σ : Type}

/-- The call hands over the part `p` of a message that was written from
    `s` to `s'`, and the part reads the same in the end. -/
structure SignsFinal (s s' : Enc σ) (c : SignCall) (p : Part) : Prop where
  key : c.useDerived = p.useDerived
  span : c.start = s.writer.offset + p.start ∧ c.stop = c.start + p.tree.size
  complete : ∃ body, p.tree = CertWriter.sized CertWriter.SEQUENCE_TAG body
  handed : c.buf.readRange c.start c.stop = .ok p.tree.bytes
  written : c.stop ≤ s'.writer.offset ∧
    s'.writer.offset ≤ s'.writer.certificate.capacity
  final : s'.writer.certificate.readRange c.start c.stop = .ok p.tree.bytes

/-- A part of a finished message, read back. -/
theorem Message.Done.final {m : Message b} {cfg : CertConfig}
    {first : TciNodeData b} {nodes : List (TciNodeData b)}
    {signCb : SignCallback σ} {s s' : Enc σ} {n : Nat} {a : Replies σ}
    {calls : List SignCall} (h : m.Done cfg first nodes signCb s n a calls s')
    {c : SignCall} {p : Part} (hp : p ∈ m.parts cfg first nodes a.csrSig)
    (hc : Handed s.writer.certificate p.useDerived (s.writer.offset + p.start)
      p.tree.bytes c) : SignsFinal s s' c p := by
  obtain ⟨pre, post, hbytes, hpre⟩ := h.split p hp
  obtain ⟨body, hbody⟩ := parts_sized hp
  have hgrew := h.grew.cast hbytes
  have hoff := hgrew.opened.offset
  have hcap : s'.writer.certificate.capacity = s.writer.certificate.capacity :=
    h.grew.opened.capacity
  have hfits : Fits (pre ++ p.tree.bytes ++ post).length s := by
    rw [← hbytes, Tlv.length_bytes, ← h.size]
    exact h.fits
  have hpos : 0 < p.tree.bytes.length := by
    rw [hbody, CertWriter.sized_bytes]
    simp
  have hreads := hgrew.reads hfits hpos
  have hstart : c.start = s.writer.offset + p.start := hc.start_eq
  have hstop := hc.stop_eq
  refine ⟨hc.key_eq, ⟨hstart, hstop.trans (by rw [hstart]; rfl)⟩, ⟨body, hbody⟩,
    hc.reads, ⟨?_, ?_⟩, ?_⟩
  · simp only [List.length_append] at hoff
    show c.stop ≤ _
    rw [hstop, hoff, ← hpre]
    show s.writer.offset + _ + _ ≤ s.writer.offset + _
    omega
  · rw [hcap, hoff]
    exact hfits
  · rw [hstop, hstart, ← hpre]
    exact hreads

/-- **SIGNED BYTES ARE THE FINAL BYTES**: a certificate, a CSR or a CMS
    message that has been written was signed by one call for each of its
    parts that are signed, in their order; each call was handed the span
    of one finished structure, and this is what the span holds in the
    end.  The CSR that a message signs is the one whose signature is the
    answer of the first call. -/
theorem signed_bytes_final {m : Message b} {cfg : CertConfig}
    {signCb : SignCallback σ} {s s' : Enc σ} {n : Nat}
    (hrun : m.encode cfg signCb s = .ok n s') :
    ∃ first chain csrSig calls,
      Walks m.measurements.tciNodes first chain ∧
      Calls signCb calls s.env s'.env ∧
      calls.head?.map (·.answer) = some (.ok csrSig) ∧
      List.Forall₂ (SignsFinal s s') calls
        (m.parts cfg first (nodesOf chain) csrSig) := by
  obtain ⟨first, chain, hwalks⟩ := m.measurements.tciNodes.exists_walks
  have hspec : Post (m.encode cfg signCb) s _ _ :=
    m.encode_spec hwalks s ⟨s.sig, s.env, s.sig, s.env⟩
  obtain ⟨a, calls, hdone⟩ := hspec.of_ok hrun
  refine ⟨first, chain, a.csrSig, calls, hwalks hdone.valid, ?_, hdone.answer, ?_⟩
  · rw [hdone.grew.env]
    exact hdone.made
  · -- each call hands over its own part
    have hmem : ∀ p ∈ m.parts cfg first (nodesOf chain) a.csrSig, ∀ c,
        Handed s.writer.certificate p.useDerived (s.writer.offset + p.start)
          p.tree.bytes c → SignsFinal s s' c p :=
      fun p hp c hc => hdone.final hp hc
    have hhanded := hdone.handed
    generalize m.parts cfg first (nodesOf chain) a.csrSig = parts at hmem hhanded
    clear hdone
    induction hhanded with
    | nil => exact .nil
    | cons hc _ ih =>
        exact .cons (hmem _ (List.mem_cons_self ..) _ hc)
          (ih fun p hp => hmem p (List.mem_cons_of_mem _ hp))

/-! ## A message to look at -/

/-- A root, active. -/
def sampleRoot : Context sampleBuild :=
  { Context.new sampleBuild with state := .active }

def sampleMeasurements : MeasurementData sampleBuild where
  tciNodes := ⟨0, [sampleRoot]⟩
  label := [1, 2, 3]
  isCa := false
  supportsRecursive := true
  subjectKeyIdentifier := .replicate 20 0
  authorityKeyIdentifier := .replicate 20 0
  subjectAltName := none

def sampleKey : PubKey := .ecdsa (.ecdsa384 ⟨.replicate 48 1, .replicate 48 2⟩)

def sampleSignature (x : UInt8) : Signature :=
  .ecdsa (.ecdsa384 ⟨.replicate 48 x, .replicate 48 x⟩)

theorem length_sampleSki :
    ([1, 2, 3] : Bytes).length ≤ MAX_KEY_IDENTIFIER_SIZE := by decide

/-- A CMS message about the root. -/
def sampleCms : Message sampleBuild :=
  .cms sampleKey ⟨.printableString [0x41], .printableString [0x42]⟩
    sampleMeasurements (.subjectKeyIdentifier ⟨[1, 2, 3], length_sampleSki⟩)

/-- A callback that answers with a fixed signature for each of the keys. -/
def sampleCallback : SignCallback Unit := fun _ _ _ useDerived _ =>
  pure (sampleSignature (if useDerived then 1 else 2))

def sampleEncoder (room : Nat) : Enc Unit :=
  { writer := .new (.slice (List.replicate room 0))
    sig := .zeroed (.ecdsa .bit384)
    env := () }

def sampleConfig : CertConfig := ⟨.p384Sha384, true⟩

theorem sampleCms_walks :
    Walks sampleCms.measurements.tciNodes sampleRoot.tci [sampleRoot] :=
  ⟨by simp, ⟨[sampleRoot], [0]⟩, rfl, rfl, rfl, sampleRoot, rfl, rfl⟩

def sampleReplies : Replies Unit := ⟨sampleSignature 1, (), sampleSignature 2, ()⟩

theorem sampleCallback_answers {useDerived : Bool} {start : Nat} {bs : Bytes}
    {out : Signature} : Answers sampleCallback useDerived start bs out ()
      (sampleSignature (if useDerived then 1 else 2)) () := fun _ _ => rfl

/-- All lengths of the sample message are three bytes wide. -/
theorem sampleCms_sound : CertWriter.SoundMessage sampleConfig sampleKey
    ⟨.printableString [0x41], .printableString [0x42]⟩ sampleMeasurements
    (.subjectKeyIdentifier ⟨[1, 2, 3], by decide⟩) sampleRoot.tci
    (nodesOf [sampleRoot]) (sampleSignature 1) (sampleSignature 2) where
  info := ⟨sampleCms_walks.valid, rfl, by decide +kernel⟩
  csr := by decide +kernel
  encapsulated := ⟨by decide +kernel, by decide +kernel, by decide +kernel⟩
  wide := ⟨by decide +kernel, by decide +kernel, by decide +kernel⟩

theorem sampleCms_can (room : Nat) : sampleCms.Can sampleConfig sampleRoot.tci
    (nodesOf [sampleRoot]) sampleCallback sampleReplies (sampleEncoder room) where
  sound := sampleCms_sound
  saved := rfl
  empty := rfl
  csrAnswers := sampleCallback_answers
  answers := sampleCallback_answers

/-- The sample message is written to any buffer of its size. -/
theorem sampleCms_returns {room : Nat} (h : 758 ≤ room) :
    ∃ s', sampleCms.encode sampleConfig sampleCallback (sampleEncoder room)
      = .ok 758 s' := by
  have hsize : (sampleCms.tree sampleConfig sampleRoot.tci (nodesOf [sampleRoot])
      (sampleSignature 1) (sampleSignature 2)).size = 758 := by decide +kernel
  have hfits : Fits 758 (sampleEncoder room) := by
    show 0 + 758 ≤ (List.replicate room (0 : UInt8)).length
    rw [List.length_replicate]
    omega
  rw [← hsize] at hfits
  obtain ⟨a, calls, s', hrun, -⟩ := Message.encode_returns (fun _ => sampleCms_walks)
    (sampleCms_can room) hfits
  rw [show (sampleCms.tree sampleConfig sampleRoot.tci (nodesOf [sampleRoot])
    sampleReplies.csrSig sampleReplies.sig).size = 758 from hsize] at hrun
  exact ⟨s', hrun⟩

/-- A CMS message that is written. -/
theorem signed_bytes_final_cms : ∃ s',
    sampleCms.encode sampleConfig sampleCallback (sampleEncoder 800) = .ok 758 s' ∧
    ∃ first chain csrSig calls,
      Walks sampleCms.measurements.tciNodes first chain ∧
      Calls sampleCallback calls (sampleEncoder 800).env s'.env ∧
      calls.head?.map (·.answer) = some (.ok csrSig) ∧
      List.Forall₂ (SignsFinal (sampleEncoder 800) s') calls
        (sampleCms.parts sampleConfig first (nodesOf chain) csrSig) := by
  obtain ⟨s', hrun⟩ := sampleCms_returns (show 758 ≤ 800 by decide)
  exact ⟨s', hrun, signed_bytes_final hrun⟩

end Dpe
