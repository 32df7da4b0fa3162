import Dpe.Proofs.Software
import Dpe.Properties.Failures
import Dpe.Properties.Stability
import Dpe.Properties.Responses
import Dpe.Properties.Termination

/-! # The software suite — what is asked of a suite holds of it

    Results on digests, keys and signatures ask that the crypto suite
    computes functions, and that keys and signatures are of the kind that
    is asked for.  The software suite does: its digests are a hash of what
    was fed, and a key is derived from a CDI and nothing else that the suite
    holds.  The default platform gives the same answers in every world. -/

namespace Dpe

open Prog

variable {b : Build} {V ε α β : Type} {c : RustCrates} {algs : RustCryptoAlgs}

/-- What follows a value that was computed. -/
theorem bind_ok_inv {x : Except ε α} {f : α → Except ε β} {r : β}
    (h : (x >>= f) = .ok r) : ∃ a, x = .ok a ∧ f a = .ok r := by
  cases x with
  | error => cases h
  | ok a => exact ⟨a, rfl, h⟩

/-- A method of the first of two worlds returns what it returns there. -/
theorem Returned.first {U : Type} {f : U → Except ε α × U} {a : α}
    (h : Returned (onFirst f : U × V → _) a) : Returned f a := by
  obtain ⟨w, w', hrun⟩ := h
  exact ⟨w.1, (f w.1).2, Prod.ext (congrArg (·.1) hrun) rfl⟩

/-! ## Kinds -/

theorem readMldsaSignature_alg {bytes : Bytes} {sig : Signature}
    (h : readMldsaSignature bytes = .ok sig) : sig.alg = .mldsa := by
  unfold readMldsaSignature at h
  split at h
  · cases h
    rfl
  · cases h

theorem mldsaSignDataInner_alg {key : c.mldsa.SigningKey} {data : SignData}
    {sig : Signature} (h : mldsaSignDataInner c key data = .ok sig) :
    sig.alg = .mldsa := by
  unfold mldsaSignDataInner at h
  cases data with
  | mu mu => exact readMldsaSignature_alg h
  | raw raw => exact readMldsaSignature_alg h
  | digest => cases h
  | responseBuffer buf start stop =>
      dsimp only at h
      split at h
      · cases h
      · exact readMldsaSignature_alg h

namespace RustCryptoSigner

variable {signer : RustCryptoSigner}

/-- A signature is of the algorithm of its key. -/
theorem sign_alg {data : SignData} {sig : Signature} (h : signer.sign c data = .ok sig) :
    sig.alg = signer.signatureAlg := by
  unfold sign at h
  split at h
  · rename_i halg
    obtain ⟨_, -, h⟩ := bind_ok_inv h
    obtain ⟨_, -, h⟩ := bind_ok_inv h
    cases h
    exact halg.symm
  · rename_i halg
    obtain ⟨_, -, h⟩ := bind_ok_inv h
    obtain ⟨_, -, h⟩ := bind_ok_inv h
    cases h
    exact halg.symm
  · rename_i halg
    obtain ⟨_, -, h⟩ := bind_ok_inv h
    exact (mldsaSignDataInner_alg h).trans halg.symm

/-- A public key is of the kind of the buffer that it is written to. -/
theorem publicKey_alg {out key : PubKey} (h : signer.publicKey c out = .ok key) :
    key.alg = out.alg := by
  unfold publicKey at h
  split at h
  · obtain ⟨_, -, h⟩ := bind_ok_inv h
    dsimp only at h
    split at h
    · obtain ⟨_, -, h⟩ := bind_ok_inv h
      obtain ⟨_, -, h⟩ := bind_ok_inv h
      cases h
      rfl
    · cases h
  · obtain ⟨_, -, h⟩ := bind_ok_inv h
    dsimp only at h
    split at h
    · obtain ⟨_, -, h⟩ := bind_ok_inv h
      obtain ⟨_, -, h⟩ := bind_ok_inv h
      cases h
      rfl
    · cases h
  · obtain ⟨_, -, h⟩ := bind_ok_inv h
    split at h
    · cases h
      rfl
    · cases h

end RustCryptoSigner

/-! ## What the methods return -/

namespace RustCryptoImpl

theorem hasherFinish_returned {bytes : Bytes} {digest : Digest}
    (h : Returned ((suite c algs).hasherFinish bytes) digest) :
    digest = c.digest algs.digestAlg bytes := by
  obtain ⟨w, w', hrun⟩ := h
  have hdigest : ((w.hasher.fed bytes).finish c).1 = .ok digest := congrArg (·.1) hrun
  unfold RustCryptoHasher.fed RustCryptoHasher.finish at hdigest
  cases hrunning : w.hasher.hasher with
  | none =>
      rw [hrunning] at hdigest
      cases hdigest
  | some fed =>
      rw [hrunning] at hdigest
      exact (Except.ok.inj hdigest).symm

theorem deriveCdi_returned {measurement : Digest} {info cdi : Bytes}
    (h : Returned ((suite c algs).deriveCdi measurement info) cdi) :
    hkdfDeriveCdi c algs.signatureAlg measurement info = .ok cdi := by
  obtain ⟨w, w', hrun⟩ := h
  have hcdi : (w.deriveCdi measurement info).1 = .ok cdi := congrArg (·.1) hrun
  unfold deriveCdi at hcdi
  split at hcdi
  · cases hcdi
  · rename_i hkdf
    cases hcdi
    exact hkdf

theorem deriveKeyPair_returned {cdi label info : Bytes} {signer : RustCryptoSigner}
    (h : Returned ((suite c algs).deriveKeyPair cdi label info) signer) :
    hkdfGetPrivKey c algs.signatureAlg cdi label info = .ok signer.privKey ∧
      signer.signatureAlg = algs.signatureAlg := by
  obtain ⟨w, w', hrun⟩ := h
  have hkey : ((w.withCdi cdi).deriveKeyPair label info).1 = .ok signer :=
    congrArg (·.1) hrun
  dsimp only [deriveKeyPair, RustCryptoCdi.deriveKeyPair, withCdi] at hkey
  split at hkey
  · cases hkey
  · rename_i hkdf
    cases hkey
    exact ⟨hkdf, rfl⟩

theorem publicKey_returned {signer : RustCryptoSigner} {out key : PubKey}
    (h : Returned ((suite c algs).publicKey signer out) key) :
    signer.publicKey c out = .ok key := by
  obtain ⟨w, w', hrun⟩ := h
  exact congrArg (·.1) hrun

end RustCryptoImpl

/-! ## Beside a platform -/

section Machine

open RustCryptoImpl

variable (c) (algs) (platform : Platform b V) (fuel : Nat)

/-- **THE HASHER** computes the hash of the algorithm of the suite. -/
theorem software_hashesBy :
    (Deps.software c algs platform fuel).crypto.HashesBy (c.digest algs.digestAlg) :=
  fun _ w _ w' hrun => hasherFinish_returned (Returned.first ⟨w, w', hrun⟩)

/-- **THE SOFTWARE SUITE COMPUTES FUNCTIONS**: a digest, a CDI, a key pair
    and a public key are determined by the arguments that they are computed
    from. -/
theorem software_deterministic :
    (Deps.software c algs platform fuel).crypto.Deterministic where
  hasherFinish _ _ _ h h' :=
    (hasherFinish_returned h.first).trans (hasherFinish_returned h'.first).symm
  deriveCdi _ _ _ _ h h' := by
    have hcdi := deriveCdi_returned h.first
    rw [deriveCdi_returned h'.first] at hcdi
    exact (Except.ok.inj hcdi).symm
  deriveKeyPair _ _ _ signer signer' h h' := by
    obtain ⟨hkey, halg⟩ := deriveKeyPair_returned h.first
    obtain ⟨hkey', halg'⟩ := deriveKeyPair_returned h'.first
    rw [hkey'] at hkey
    cases signer
    cases signer'
    cases hkey
    cases halg
    cases halg'
    rfl
  publicKey _ _ _ _ h h' := by
    have hkey := publicKey_returned h.first
    rw [publicKey_returned h'.first] at hkey
    exact (Except.ok.inj hkey).symm

theorem software_keepsVariant :
    (Deps.software c algs platform fuel).crypto.KeepsVariant :=
  fun _ _ _ h => RustCryptoSigner.publicKey_alg (publicKey_returned h.first)

theorem software_signsInKind (w : RustCryptoImpl c algs × V) :
    (Deps.software c algs platform fuel).SignsInKind w := by
  intro w₁ cdi label info signer w₂ data sig w₃ _ hpair hsig
  obtain ⟨-, halg⟩ := deriveKeyPair_returned (Returned.first ⟨w₁, w₂, hpair⟩)
  have hsign : RustCryptoSigner.sign c signer data = .ok sig := congrArg (·.1) hsig
  exact (RustCryptoSigner.sign_alg hsign).trans halg

/-- A hasher that runs takes any bytes. -/
theorem software_hashes :
    (Deps.software c algs platform fuel).crypto.Hashes
      (fun w => w.1.hasher.hasher.isSome = true) fun _ => False where
  updates bytes w hready := by
    obtain ⟨fed, hfed⟩ := Option.isSome_iff_exists.mp hready
    have hupdate : w.1.hasher.update bytes = (.ok (), ⟨some (fed ++ bytes)⟩) := by
      unfold RustCryptoHasher.update
      rw [hfed]
    exact ⟨congrArg (·.1) hupdate, by
      show (w.1.hasher.update bytes).2.hasher.isSome = true
      rw [hupdate]
      rfl⟩
  spares _ _ := Iff.rfl

/-- **THE DEFAULT PLATFORM** gives the same answers in every world. -/
theorem DefaultPlatform.steady (p : DefaultPlatform) :
    (Deps.software c algs (p.toPlatform : Platform b V) fuel).platform.Steady where
  vendorId _ _ := rfl
  vendorSku _ _ := rfl
  certificateChain _ _ _ _ _ := rfl

/-- **THE SOFTWARE MACHINE** hashes the whole chain of the default platform,
    and its client reads it exactly if the last chunk is not full. -/
theorem software_recovers (p : DefaultPlatform) (dpe : DpeInstance b) (locality : UInt32)
    {env : Env b (RustCryptoImpl c algs × V)}
    (hready : env.world.1.hasher.hasher.isSome = true) :
    HashLoopRecovers (.software c algs p.toPlatform fuel) (fun _ => False) p.certChain
        env ∧
      (ClientRecovers (.software c algs p.toPlatform fuel) dpe locality (fun _ => False)
        p.certChain env ↔ p.certChain.length % 2048 ≠ 0) := by
  have hserves := p.serves (b := b) (V := V) c algs fuel
  have hlen : chainLen p.certChain = p.certChain.length :=
    Nat.mod_eq_of_lt (p.certChain_le.trans_lt (by decide))
  refine ⟨hashLoop_recovers hserves (software_hashes c algs _ fuel) hready id
    p.certChain_le, fun hclient hfull => ?_, fun hshort =>
    client_recovers hserves id hshort p.certChain_le⟩
  exact not_client_recovers hserves (hlen.le.trans p.certChain_le) (hlen ▸ hfull) hclient

end Machine

end Dpe
