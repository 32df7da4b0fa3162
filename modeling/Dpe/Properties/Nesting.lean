import Dpe.Proofs.Certified

/-! # Nesting — the length fields of certificates

    The MultiTcbInfo declares the size of the first slot's TcbInfo once
    for each context of the path.  A certificate is well nested exactly
    if the TcbInfos of the path take that many bytes together. -/

namespace Dpe

open Der

variable {b : Build} {W : Type} {d : Deps b W} {dpe : DpeInstance b}
  {locality : UInt32} {env env' : Env b W} {n : Nat} {cmd : Command b}
  {certType : CertificateType} {format : CertificateFormat}
  {idx : Fin b.maxHandles} {l : List (Fin b.maxHandles)} {digest : Digest}
  {pubKey : PubKey} {tree : Tlv}

/-- The TcbInfos of the path take the bytes that the code declares for
    them: the size of the TcbInfo of slot 0, once for each context. -/
def State.EvenPath (s : State b) (profile : DpeProfile)
    (certType : CertificateType) (l : List (Fin b.maxHandles)) : Prop :=
  CertWriter.Uniform profile (certType.showsCumulative s.support) s.first.tci
    (nodesOf (s.chain l))

instance (s : State b) (profile : DpeProfile) (certType : CertificateType)
    (l : List (Fin b.maxHandles)) : Decidable (s.EvenPath profile certType l) :=
  inferInstanceAs (Decidable (_ = _))

/-- The tree of a certificate is well nested if its path is even. -/
theorem Certified.nested_iff (h : Certified d dpe locality env n env' cmd certType
    format idx l digest pubKey tree) :
    tree.WellNested ↔ env.state.EvenPath dpe.profile certType l := by
  obtain ⟨base, args, r, handle, measurements, window, hcreated, -⟩ := h.created
  have hsize : tree.size < 2 ^ 32 := by
    rw [← hcreated.size]
    exact r.certSize.toNat_lt
  rw [Tlv.wellNested_iff hsize, hcreated.issued.exact_iff, hcreated.recursive]
  rfl

/-- **WELL-FORMED DER**: the certificate or CSR in the answer of a command
    is well nested exactly if the TcbInfos of the path are as long as
    declared. -/
theorem well_nested_iff
    (hrun : cmd.executeSerialized d dpe locality env = .ok n env')
    (hreach : Reachable env.state) (hcertifies : cmd.certifies = true) :
    ∃ certType format idx l digest pubKey tree,
      Certified d dpe locality env n env' cmd certType format idx l digest pubKey
        tree ∧
      (tree.WellNested ↔ env.state.EvenPath dpe.profile certType l) := by
  obtain ⟨certType, format, idx, l, digest, pubKey, tree, h⟩ :=
    Command.certified hrun hreach.wellFormed hcertifies
  exact ⟨certType, format, idx, l, digest, pubKey, tree, h, h.nested_iff⟩

/-- The certificate of a child. -/
theorem well_nested_iff_sample :
    ∃ certType format idx l digest pubKey tree,
      Certified sampleDeps sampleDpe 1 (sampleEnv sampleChain [] 913) 913
        (ending sampleCertificate) sampleCertifyKey certType format idx l digest
        pubKey tree ∧
      (tree.WellNested ↔ sampleChain.EvenPath .p384Sha384 certType l) :=
  well_nested_iff sampleCertificate_returns sampleChain_reachable rfl

/-- Its TcbInfo is a byte longer than that of slot 0, and the MultiTcbInfo
    a byte longer than declared. -/
theorem not_well_nested :
    Reachable sampleChain ∧
    sampleCertificate = .ok 913 (ending sampleCertificate) ∧
    ∃ certType format idx l digest pubKey tree,
      Certified sampleDeps sampleDpe 1 (sampleEnv sampleChain [] 913) 913
        (ending sampleCertificate) sampleCertifyKey certType format idx l digest
        pubKey tree ∧ ¬ tree.WellNested := by
  refine ⟨sampleChain_reachable, sampleCertificate_returns, ?_⟩
  obtain ⟨certType, format, idx, l, digest, pubKey, tree, h⟩ :=
    Command.certified sampleCertificate_returns sampleChain_reachable.wellFormed rfl
  refine ⟨certType, format, idx, l, digest, pubKey, tree, h, ?_⟩
  rw [h.nested_iff]
  cases h with
  | leaf h =>
      cases (sampleChain_path idx h.resolves).unique h.path
      decide +kernel

end Dpe
