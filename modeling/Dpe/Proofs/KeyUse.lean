import Dpe.Proofs.Certified

/-! # The key of a context — one digest, one key pair

    Sign and CertifyKey reach the key pair of a context through different
    code.  A use of a key says what both come to: the digest of the path,
    the label, and the key pair that a signature was made with or that was
    certified.  Where the crypto suite computes functions, two uses that
    were fed the same bytes are uses of one key pair. -/

namespace Dpe

open Der Forest Prog

variable {b : Build} {W : Type}

/-! ## Crypto that computes functions -/

/-- What a method may return is determined by its arguments. -/
def Functional {ε α : Type} (f : W → Except ε α × W) : Prop :=
  ∀ a a', Returned f a → Returned f a' → a = a'

/-- The hash and the derivations of a key are functions, whatever the world
    is. -/
structure CryptoSuite.Deterministic (crypto : CryptoSuite W) : Prop where
  hasherFinish : ∀ bs, Functional (crypto.hasherFinish bs)
  deriveCdi : ∀ measurement info, Functional (crypto.deriveCdi measurement info)
  deriveKeyPair : ∀ cdi label info,
    Functional (crypto.deriveKeyPair cdi label info)
  publicKey : ∀ signer out, Functional (crypto.publicKey signer out)

/-! ## What the hash of a path depends on -/

/-- The part of a context that its key depends on. -/
def Context.imprint (c : Context b) : TciNodeData b × Bool × Bool × Bool :=
  (c.tci, c.allowX509, c.usesInternalInputInfo, c.usesInternalInputDice)

section Chains

variable {chain chain' : List (Context b)}

/-- A function of the imprints of a chain. -/
theorem map_of_imprints {α : Type} (h : chain.map Context.imprint
    = chain'.map Context.imprint) (f : TciNodeData b × Bool × Bool × Bool → α) :
    chain.map (fun c => f c.imprint) = chain'.map fun c => f c.imprint := by
  have hmap := congrArg (List.map f) h
  rw [List.map_map, List.map_map] at hmap
  exact hmap

theorem chainInput_congr (h : chain.map Context.imprint
    = chain'.map Context.imprint) : chainInput chain = chainInput chain' :=
  congrArg List.flatten
    (map_of_imprints h fun p => p.1.asBytes ++ [if p.2.1 then 1 else 0])

theorem any_of_imprints (h : chain.map Context.imprint
    = chain'.map Context.imprint) (f : TciNodeData b × Bool × Bool × Bool → Bool) :
    chain.any (fun c => f c.imprint) = chain'.any fun c => f c.imprint := by
  have hany : ∀ chain : List (Context b), chain.any (fun c => f c.imprint)
      = (chain.map fun c => f c.imprint).any id := by
    intro chain
    rw [List.any_map]
    rfl
  rw [hany, hany, map_of_imprints h]

end Chains

variable (d : Deps b W) (dpe : DpeInstance b)

/-- `digest` is the hash of a chain: of its node data, and of the answers
    `info` and `dice` of the platform, each empty unless a context of the
    chain asks for it. -/
structure Hashed (support : Support) (chain : List (Context b))
    (info dice : Bytes) (digest : Digest) : Prop where
  asked : InfoInput d dpe support (chain.any (·.usesInternalInputInfo)
    && !b.disabled.internalInfo) info
  read : DiceInput d (chain.any (·.usesInternalInputDice)
    && !b.disabled.internalDice) dice
  returned : Returned (d.crypto.hasherFinish (chainInput chain ++ info ++ dice)) digest

section Unique

variable {d dpe} {support support' : Support} {chain chain' : List (Context b)}
  {info dice label : Bytes} {digest digest' : Digest}
  {signer signer' : d.crypto.Signer}

theorem Hashed.of_transcript {bs : Bytes}
    (h : Transcript d dpe support chain bs)
    (hdigest : Returned (d.crypto.hasherFinish bs) digest) :
    ∃ info dice, Hashed d dpe support chain info dice digest := by
  obtain ⟨info, dice, hinfo, hdice, rfl⟩ := h
  exact ⟨info, dice, hinfo, hdice, hdigest⟩

/-- One hash for all chains with the same imprints. -/
theorem Hashed.unique (hcrypto : d.crypto.Deterministic)
    (h : Hashed d dpe support chain info dice digest)
    (h' : Hashed d dpe support' chain' info dice digest')
    (hsame : chain.map Context.imprint = chain'.map Context.imprint) :
    digest = digest' := by
  have hdigest := h.returned
  rw [chainInput_congr hsame] at hdigest
  exact hcrypto.hasherFinish _ _ _ hdigest h'.returned

/-- One key pair for a digest and a label. -/
theorem Derives.unique {cdiInfo context : Bytes} (hcrypto : d.crypto.Deterministic)
    (h : Derives d cdiInfo label context digest signer)
    (h' : Derives d cdiInfo label context digest signer') : signer = signer' := by
  obtain ⟨cdi, hcdi, hsigner⟩ := h
  obtain ⟨cdi', hcdi', hsigner'⟩ := h'
  cases hcrypto.deriveCdi _ _ _ _ hcdi hcdi'
  exact hcrypto.deriveKeyPair _ _ _ _ _ hsigner hsigner'

end Unique

/-! ## Uses of a key -/

/-- The CSR in the message `tree` is signed by `signer`. -/
def SelfSigned (signer : d.crypto.Signer) (tree : Tlv) : Prop :=
  ∃ cfg pubKey subjectName, ∃ measurements : MeasurementData b,
    ∃ sid first nodes csrSig sig buf start stop out,
      tree = CertWriter.cmsTree cfg pubKey subjectName measurements sid first nodes
        csrSig sig ∧
      buf.readRange start stop = .ok (CertWriter.certReqInfoTree cfg pubKey
        subjectName measurements first nodes).bytes ∧
      Returned (d.crypto.sign signer (.responseBuffer buf start stop) out) csrSig

/-- The context and the label whose key a command uses. -/
def Command.keyed : Command b → Option (ContextHandle × Bytes)
  | certifyKey cmd => some (cmd.handle, cmd.label)
  | sign cmd => some (cmd.handle, cmd.label)
  | getProfile _ | initCtx _ | deriveContext _ | rotateCtx _ | destroyCtx _
  | getCertificateChain _ | updateContextMeasurement _ => none

/-- A command that returned has used a key pair: its public key is in the
    certificate or CSR of the answer, and it has signed the CSR; or the
    signature of the answer was made with it. -/
inductive KeyUse (locality : UInt32) (env : Env b W) (n : Nat) (env' : Env b W) :
    Command b → Fin b.maxHandles → Digest → d.crypto.Signer → Prop where
  | certificate {cmd : CertifyKeyCommand} {format : CertificateFormat}
      {idx : Fin b.maxHandles} {l : List (Fin b.maxHandles)} {digest : Digest}
      {pubKey : PubKey} {tree : Tlv} {signer : d.crypto.Signer}
      (certified : Certified d dpe locality env n env' (.certifyKey cmd) .leaf format
        idx l digest pubKey tree)
      (certifiedKey : Returned (d.crypto.publicKey signer (.zeroed dpe.profile)) pubKey)
      (selfSigned : format = .csr → SelfSigned d signer tree) :
      KeyUse locality env n env' (.certifyKey cmd) idx digest signer
  | signature {cmd : SignCommand} {idx : Fin b.maxHandles}
      {l : List (Fin b.maxHandles)} {draws : List (Vector UInt8 16)}
      {handle : ContextHandle} {sig : Signature} {bytes : Bytes} {data : SignData}
      {out : Signature} {digest : Digest} {signer : d.crypto.Signer}
      (signs : SignCommand.Signs d dpe locality env cmd n env' idx l draws handle
        sig bytes)
      (asked : cmd.data = .ok data)
      (signed : Returned (d.crypto.sign signer data out) sig) :
      KeyUse locality env n env' (.sign cmd) idx digest signer

/-- The key pair `signer` is derived from the hash of the path of `idx`. -/
structure KeyOf (s : State b) (idx : Fin b.maxHandles)
    (l : List (Fin b.maxHandles)) (label info dice : Bytes) (digest : Digest)
    (signer : d.crypto.Signer) : Prop where
  path : Path s.up idx l
  hashed : Hashed d dpe s.support (s.chain l) info dice digest
  derives : Derives d cdiLabel label dpe.profile.keyContext digest signer

variable {d dpe} {locality : UInt32} {env env' : Env b W} {n : Nat}
  {cmd : Command b} {handle : ContextHandle} {label : Bytes}

/-- **EVERY KEY THAT IS USED** is derived from the hash of the path of the
    context that the handle names. -/
theorem Command.keyUse (hcrypto : d.crypto.Deterministic)
    (hrun : cmd.executeSerialized d dpe locality env = .ok n env')
    (h : env.state.WellFormed) (hkeyed : cmd.keyed = some (handle, label)) :
    ∃ idx l info dice digest signer,
      env.state.getActiveContextPos handle locality = .ok idx ∧
      KeyUse d dpe locality env n env' cmd idx digest signer ∧
      KeyOf d dpe env.state idx l label info dice digest signer := by
  cases cmd with
  | certifyKey cmd =>
      cases hkeyed
      obtain ⟨idx, l, draws, handle, format, r, digest, measurements, tree, pubkey,
        hcert⟩ := (cmd.executeSerialized_spec d dpe locality env h).of_ok hrun
      obtain ⟨exportedCdi, window, hcreated⟩ := hcert.created
      obtain ⟨bs, htranscript, hdigest⟩ := hcreated.hashed
      obtain ⟨info, dice, hhashed⟩ := Hashed.of_transcript htranscript hdigest
      have hkey := hcreated.key
      have hissued := hcreated.issued
      cases hkey with
      | @leaf signer _ hsigner hpublic =>
          refine ⟨idx, l, info, dice, digest, signer, hcert.resolves,
            .certificate (.leaf hcert) hpublic ?_, hcert.path, hhashed, hsigner⟩
          rintro rfl
          generalize nodesOf _ = nodes at hissued
          cases hissued with
          | csr csrSigned =>
              obtain ⟨signer', buf, start, stop, out, hsigner', hread, hsig⟩ :=
                signedOver_derived d csrSigned
              cases hsigner.unique hcrypto hsigner'
              exact ⟨_, _, _, _, _, _, _, _, _, buf, start, stop, out, rfl, hread,
                hsig⟩
  | sign cmd =>
      cases hkeyed
      obtain ⟨idx, l, draws, handle, sig, bytes, hsigns⟩ :=
        (cmd.executeSerialized_spec d dpe locality env h).of_ok hrun
      obtain ⟨bs, digest, signer, data, out, htranscript, hdigest, hsigner, hdata,
        hsig⟩ := hsigns.signed
      obtain ⟨info, dice, hhashed⟩ := Hashed.of_transcript htranscript hdigest
      exact ⟨idx, l, info, dice, digest, signer, hsigns.resolves,
        .signature hsigns hdata hsig, hsigns.path, hhashed, hsigner⟩
  | getProfile | initCtx | deriveContext | rotateCtx | destroyCtx
  | getCertificateChain | updateContextMeasurement => cases hkeyed

/-- **ONE KEY PAIR** for paths with the same imprints, a label and the same
    answers of the platform. -/
theorem KeyOf.unique (hcrypto : d.crypto.Deterministic) {s s' : State b}
    {idx idx' : Fin b.maxHandles} {l l' : List (Fin b.maxHandles)}
    {info dice : Bytes} {digest digest' : Digest} {signer signer' : d.crypto.Signer}
    (h : KeyOf d dpe s idx l label info dice digest signer)
    (h' : KeyOf d dpe s' idx' l' label info dice digest' signer')
    (hsame : (s.chain l).map Context.imprint = (s'.chain l').map Context.imprint) :
    digest = digest' ∧ signer = signer' := by
  have hdigest := h.hashed.unique hcrypto h'.hashed hsame
  have hderives := h.derives
  rw [hdigest] at hderives
  exact ⟨hdigest, hderives.unique hcrypto h'.derives⟩

end Dpe
