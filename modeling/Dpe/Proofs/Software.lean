import Dpe.Model.Software
import Dpe.Proofs.Exporting

/-! # The slots of the exported CDIs

    What the methods of the software crypto suite do to the slots of the
    exported CDIs: one of them fills a slot, the others leave them alone.
    A handle leads to the CDI in its slot, and so to the keys that are
    derived from it, whatever else the suite holds. -/

namespace Dpe

open Prog

variable {b : Build} {V ε α : Type} {c : RustCrates} {algs : RustCryptoAlgs}

namespace RustCryptoImpl

/-- The slots are the same. -/
def SameSlots (w w' : RustCryptoImpl c algs) : Prop :=
  w'.exportCdiSlots = w.exportCdiSlots

theorem SameSlots.refl (w : RustCryptoImpl c algs) : SameSlots w w := rfl

theorem SameSlots.trans {w w' w'' : RustCryptoImpl c algs}
    (h : SameSlots w w') (h' : SameSlots w' w'') : SameSlots w w'' := Eq.trans h' h

instance : IsPreorder (RustCryptoImpl c algs) SameSlots where
  refl := SameSlots.refl
  trans _ _ _ := SameSlots.trans

variable (w : RustCryptoImpl c algs) (measurement : Digest)
  (label info : Bytes)

theorem deriveCdi_slots : SameSlots w (w.deriveCdi measurement info).2 := by
  unfold deriveCdi
  split <;> rfl

theorem deriveKeyPairExported_slots (handle : ExportedCdiHandle) :
    SameSlots w (w.deriveKeyPairExported handle label info).2 := by
  unfold deriveKeyPairExported
  split <;> rfl

variable {w measurement info}

/-- A refused export leaves the suite as it is. -/
theorem deriveExportedCdi_error {e : CryptoError}
    {w' : RustCryptoImpl c algs}
    (h : w.deriveExportedCdi measurement info = (.error e, w')) : w' = w := by
  unfold deriveExportedCdi at h
  split at h
  · exact ((Prod.mk.inj h).2).symm
  · split at h
    · exact ((Prod.mk.inj h).2).symm
    · split at h
      · exact ((Prod.mk.inj h).2).symm
      · cases (Prod.mk.inj h).1

/-- **AN EXPORT** fills a slot that was free. -/
theorem deriveExportedCdi_ok {handle : ExportedCdiHandle}
    {w' : RustCryptoImpl c algs}
    (h : w.deriveExportedCdi measurement info = (.ok handle, w')) :
    ∃ cdi, hkdfDeriveCdi c algs.signatureAlg measurement info = .ok cdi ∧
      w.exportCdiSlots.length < MAX_CDI_HANDLES ∧
      w'.exportCdiSlots = w.exportCdiSlots ++ [(cdi, handle)] := by
  unfold deriveExportedCdi at h
  split at h
  · cases (Prod.mk.inj h).1
  · rename_i cdi hcdi
    split at h
    · cases (Prod.mk.inj h).1
    · split at h
      · cases (Prod.mk.inj h).1
      · rename_i hfull
        obtain ⟨hhandle, hw⟩ := Prod.mk.inj h
        cases hhandle
        exact ⟨cdi, hcdi, Nat.lt_of_not_le hfull, by rw [← hw]⟩

/-! ## Keys of a handle -/

/-- The public key that the user of a handle gets. -/
def exportedPublicKey (w : RustCryptoImpl c algs) (handle : ExportedCdiHandle)
    (label info : Bytes) (out : PubKey) : Except CryptoError PubKey :=
  match w.deriveKeyPairExported handle label info with
  | (.error e, _) => .error e
  | (.ok signer, _) => signer.publicKey c out

/-- **A HANDLE** leads to the keys of the CDI in its slot, whatever CDI and
    key the suite holds. -/
theorem exportedPublicKey_eq {w : RustCryptoImpl c algs}
    {handle : ExportedCdiHandle} {slot : Bytes × ExportedCdiHandle}
    (h : w.exportCdiSlots.find? (fun slot => slot.2 == handle) = some slot)
    (label info : Bytes) (out : PubKey) :
    w.exportedPublicKey handle label info out
      = (hkdfGetPrivKey c algs.signatureAlg slot.1 label info).bind fun privKey =>
          (RustCryptoSigner.mk privKey algs.signatureAlg).publicKey c out := by
  unfold exportedPublicKey deriveKeyPairExported
  rw [h]
  dsimp only [deriveKeyPair, RustCryptoCdi.deriveKeyPair, withCdi]
  cases hkdfGetPrivKey c algs.signatureAlg slot.1 label info with
  | error e => rfl
  | ok privKey => rfl

/-- The keys of a handle do not change while the slots do not. -/
theorem SameSlots.exportedPublicKey {w w' : RustCryptoImpl c algs}
    (h : SameSlots w w') (handle : ExportedCdiHandle) (label info : Bytes) (out : PubKey) :
    w.exportedPublicKey handle label info out
      = w'.exportedPublicKey handle label info out := by
  cases hslot : w.exportCdiSlots.find? (fun slot => slot.2 == handle) with
  | some slot =>
      have hslot' : w'.exportCdiSlots.find? (fun slot => slot.2 == handle)
          = some slot := (congrArg _ h).trans hslot
      rw [exportedPublicKey_eq hslot, exportedPublicKey_eq hslot']
  | none =>
      unfold RustCryptoImpl.exportedPublicKey deriveKeyPairExported
      unfold SameSlots at h
      rw [h, hslot]

end RustCryptoImpl

/-! ## Beside a platform -/

/-- The first of two worlds has moved. -/
def FirstMoves {U : Type} (R : U → U → Prop) (w w' : U × V) : Prop := R w.1 w'.1

instance {U : Type} {R : U → U → Prop} [IsPreorder U R] :
    IsPreorder (U × V) (FirstMoves R) where
  refl w := refl_of R w.1
  trans _ _ _ h h' := trans_of R h h'

theorem shifts_onFirst {U : Type} {R : U → U → Prop} {f : U → Except ε α × U}
    (h : ∀ w, R w (f w).2) : Shifts (FirstMoves R) (onFirst f : U × V → _) :=
  fun w => h w.1

theorem shifts_onSecond {U : Type} {R : U → U → Prop} [IsPreorder U R]
    (f : V → Except ε α × V) : Shifts (FirstMoves R) (onSecond f : U × V → _) :=
  fun w => refl_of R w.1

open RustCryptoImpl

instance (platform : Platform b V) (fuel : Nat) :
    (Deps.software c algs platform fuel).Within (FirstMoves SameSlots) where
  randBytes _ := shifts_onFirst fun _ => rfl
  hasher := shifts_onFirst fun _ => rfl
  hasherInitialize := shifts_onFirst fun _ => rfl
  hasherUpdate _ := shifts_onFirst fun _ => rfl
  hasherFinish _ := shifts_onFirst fun _ => rfl
  deriveCdi _ _ := shifts_onFirst fun _ => deriveCdi_slots _ _ _
  deriveKeyPair _ _ _ := shifts_onFirst fun _ => rfl
  deriveKeyPairExported _ _ _ := shifts_onFirst fun _ => deriveKeyPairExported_slots _ _ _ _
  sign _ _ _ := shifts_onFirst fun _ => rfl
  publicKey _ _ := shifts_onFirst fun _ => rfl
  signWithAlias _ _ := shifts_onFirst fun _ => rfl
  getCertificateChain _ _ _ := shifts_onSecond _
  getIssuerName _ := shifts_onSecond _
  getSignerIdentifier := shifts_onSecond _
  getIssuerKeyIdentifier _ := shifts_onSecond _
  getVendorId := shifts_onSecond _
  getVendorSku := shifts_onSecond _
  getAutoInitLocality := shifts_onSecond _
  getCertValidity := shifts_onSecond _
  getSubjectAlternativeName := shifts_onSecond _
  getUeid := shifts_onSecond _

section Software

variable {platform : Platform b V} {fuel : Nat}
  {w w' : RustCryptoImpl c algs × V}

theorem software_refuses (platform : Platform b V) (fuel : Nat) :
    RefusesWithin (Deps.software c algs platform fuel) (FirstMoves SameSlots) := by
  intro digest info w e w' h
  have hcall : w.1.deriveExportedCdi digest info = (.error e, w'.1) :=
    Prod.ext (congrArg (·.1) h) (congrArg (·.2.1) h)
  show SameSlots w.1 w'.1
  rw [deriveExportedCdi_error hcall]
  exact SameSlots.refl w.1

/-- The one slot has been filled on the way from `w` to `w'`. -/
structure Fills (w w' : RustCryptoImpl c algs) (cdi : Bytes)
    (handle : ExportedCdiHandle) : Prop where
  free : w.exportCdiSlots = []
  slots : w'.exportCdiSlots = [(cdi, handle)]

/-- **HANDING OUT** a CDI fills the one slot. -/
theorem HandsOut.fills {info : Bytes} {handle : ExportedCdiHandle}
    (h : HandsOut (Deps.software c algs platform fuel) (FirstMoves SameSlots) info w
      handle w') :
    ∃ cdi, Fills w.1 w'.1 cdi handle := by
  cases h with
  | @intro digest w1 w2 before call after =>
      have hcall : w1.1.deriveExportedCdi digest info = (.ok handle, w2.1) :=
        Prod.ext (congrArg (·.1) call) (congrArg (·.2.1) call)
      obtain ⟨cdi, -, hfree, hslots⟩ := deriveExportedCdi_ok hcall
      have hbefore : SameSlots w.1 w1.1 := before
      have hafter : SameSlots w2.1 w'.1 := after
      have hempty : w1.1.exportCdiSlots = [] := by
        refine List.eq_nil_of_length_eq_zero ?_
        unfold MAX_CDI_HANDLES at hfree
        omega
      refine ⟨cdi, Eq.trans (Eq.symm hbefore) hempty, Eq.trans hafter ?_⟩
      rw [hslots, hempty]
      rfl

/-- **THE CERTIFIED KEY** is the one that the handle leads to. -/
theorem Hands.publicKey {dpe : DpeInstance b} {args : CreateDpeCertArgs}
    {handle : ExportedCdiHandle} {pubKey : PubKey}
    (h : Hands (Deps.software c algs platform fuel) dpe (FirstMoves SameSlots) args w handle
      pubKey w') :
    w'.1.exportedPublicKey handle args.keyLabel args.context (.zeroed dpe.profile)
      = .ok pubKey := by
  cases h with
  | @intro digest signer w1 w2 w3 w4 before call pair key after =>
      have hpair : w2.1.deriveKeyPairExported handle args.keyLabel args.context
          = (.ok signer, w3.1) :=
        Prod.ext (congrArg (·.1) pair) (congrArg (·.2.1) pair)
      have hkey : RustCryptoSigner.publicKey c signer (.zeroed dpe.profile)
          = .ok pubKey := congrArg (·.1) key
      have hnow : w2.1.exportedPublicKey handle args.keyLabel args.context
          (.zeroed dpe.profile) = .ok pubKey := by
        unfold exportedPublicKey
        rw [hpair]
        exact hkey
      have h3 : SameSlots w2.1 w3.1 := by
        have hsame := deriveKeyPairExported_slots w2.1 args.keyLabel args.context handle
        rw [hpair] at hsame
        exact hsame
      have h4 : SameSlots w3.1 w4.1 := by
        rw [← show w3.1 = w4.1 from congrArg (·.2.1) key]
        exact SameSlots.refl w3.1
      have h5 : SameSlots w4.1 w'.1 := after
      rw [← ((h3.trans h4).trans h5).exportedPublicKey]
      exact hnow

end Software

end Dpe
