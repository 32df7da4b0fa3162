import Dpe.Model.Traits

/-! # The software crypto suite

    `RustCryptoImpl`, the crypto suite that the simulator runs on.  What it
    takes from other crates (hashes, HKDF, signatures, a random number
    generator) is a parameter; what it adds to them is here: the keys and
    CDIs that it holds, the hasher that has to be initialized, and the
    slots of the exported CDIs.  The algorithms of a suite are chosen when it
    is made and stay, so they are parameters of its type.  A reference into
    the suite leads to its one CDI or to the signer of that CDI, and is alone
    with the suite while it lives; so it is what is read through it, the
    bytes of the CDI or the signer. -/

namespace Dpe

/-! ## Other crates -/

/-- The signing keys of a curve. -/
structure EcdsaCrate (k : Nat) where
  SigningKey : Type
  /-- `SigningKey::from_slice` -/
  fromSlice : Bytes → Option SigningKey
  /-- `SigningKey::from_sec1_pem` of the alias key of the test artifacts -/
  fromSec1Pem : Option SigningKey
  /-- `PrehashSigner::sign_prehash` -/
  signPrehash : SigningKey → Bytes → Option (EcdsaSig k)
  /-- the coordinates of `to_encoded_point(false)` of the verifying key -/
  encodedPoint : SigningKey → Option (Vector UInt8 k) × Option (Vector UInt8 k)

/-- The signing keys of ML-DSA-87. -/
structure MldsaCrate where
  SigningKey : Type
  /-- `MlDsa87::from_seed` -/
  fromSeed : Vector UInt8 32 → SigningKey
  /-- `SigningKey::from_pkcs8_pem` of the alias key of the test artifacts -/
  fromPkcs8Pem : Option SigningKey
  /-- `sign_mu_deterministic`, encoded -/
  signMu : SigningKey → Vector UInt8 64 → Bytes
  /-- `sign`, encoded -/
  sign : SigningKey → Bytes → Bytes
  /-- `verifying_key`, encoded -/
  verifyingKey : SigningKey → Vector UInt8 2592

structure RustCrates where
  StdRng : Type
  fillBytes : (n : Nat) → StdRng → Vector UInt8 n × StdRng
  sha256 : Bytes → Vector UInt8 32
  sha384 : Bytes → Vector UInt8 48
  /-- `Hkdf::<Sha256>::new(Some(salt), ikm)`, then `expand(info)` to `n`
      bytes -/
  hkdf256 : (salt ikm info : Bytes) → (n : Nat) → Option (Vector UInt8 n)
  hkdf384 : (salt ikm info : Bytes) → (n : Nat) → Option (Vector UInt8 n)
  p256 : EcdsaCrate 32
  p384 : EcdsaCrate 48
  mldsa : MldsaCrate

def RUSTCRYPTO_ECDSA_ERROR : CryptoError := .cryptoLibError 1
def RUSTCRYPTO_SEC_ERROR : CryptoError := .cryptoLibError 2
def RUSTCRYPTO_ML_DSA_ERROR : CryptoError := .cryptoLibError 3

/-- `ok_or(e)?`, or a `?` that converts the error to `e`. -/
def orCrypto {α : Type} (o : Option α) (e : CryptoError) : Except CryptoError α :=
  match o with
  | some a => .ok a
  | none => .error e

variable (c : RustCrates)

/-! ## HKDF -/

def hkdfDeriveCdi (algs : SignatureAlgorithm) (measurement : Digest) (info : Bytes) :
    Except CryptoError Bytes :=
  let m := measurement.asSlice
  match algs with
  | .ecdsa .bit256 => do
      let cdi ← orCrypto (c.hkdf256 info m m 32) (.hashError 0)
      pure cdi.toList
  | .ecdsa .bit384 => do
      let cdi ← orCrypto (c.hkdf384 info m m 48) (.hashError 0)
      pure cdi.toList
  | .mldsa => do
      let cdi ← orCrypto (c.hkdf256 info m m 32) (.hashError 0)
      pure cdi.toList

def hkdfGetPrivKey (algs : SignatureAlgorithm) (cdi label info : Bytes) :
    Except CryptoError Bytes :=
  match algs with
  | .ecdsa .bit256 => do
      let privKey ← orCrypto (c.hkdf256 info cdi label 32) (.hashError 0)
      pure privKey.toList
  | .ecdsa .bit384 => do
      let privKey ← orCrypto (c.hkdf384 info cdi label 48) (.hashError 0)
      pure privKey.toList
  | .mldsa => do
      let privKey ← orCrypto (c.hkdf256 info cdi label 32) (.hashError 0)
      pure privKey.toList

/-! ## Signing -/

/-- The hash that goes with a curve. -/
def ecdsaDigest (alg : SignatureAlgorithm) (raw : Bytes) : Except CryptoError Bytes :=
  match alg with
  | .ecdsa .bit256 => .ok (c.sha256 raw).toList
  | .ecdsa .bit384 => .ok (c.sha384 raw).toList
  | .mldsa => .error .mismatchedAlgorithm

def ecdsaSignDataInner {k : Nat} (crate : EcdsaCrate k) (key : crate.SigningKey)
    (data : SignData) (alg : SignatureAlgorithm) : Except CryptoError (EcdsaSig k) :=
  match data with
  | .digest dig => orCrypto (crate.signPrehash key dig.asSlice) RUSTCRYPTO_ECDSA_ERROR
  | .responseBuffer buf start stop =>
      match buf.readRange start stop with
      | .error _ => .error .size
      | .ok raw => do
          let digestBytes ← ecdsaDigest c alg raw
          orCrypto (crate.signPrehash key digestBytes) RUSTCRYPTO_ECDSA_ERROR
  | .raw raw => do
      let digestBytes ← ecdsaDigest c alg raw
      orCrypto (crate.signPrehash key digestBytes) RUSTCRYPTO_ECDSA_ERROR
  | .mu _ => .error .mismatchedAlgorithm

/-- `MldsaSignature::read_from_bytes`. -/
def readMldsaSignature (sig : Bytes) : Except CryptoError Signature :=
  if h : sig.length = 4627 then .ok (.mldsa ⟨sig.toArray, by simpa using h⟩)
  else .error RUSTCRYPTO_ML_DSA_ERROR

def mldsaSignDataInner (key : c.mldsa.SigningKey) (data : SignData) :
    Except CryptoError Signature :=
  match data with
  | .mu mu => readMldsaSignature (c.mldsa.signMu key mu)
  | .responseBuffer buf start stop =>
      match buf.readRange start stop with
      | .error _ => .error .size
      | .ok raw => readMldsaSignature (c.mldsa.sign key raw)
  | .raw raw => readMldsaSignature (c.mldsa.sign key raw)
  | .digest _ => .error .mismatchedAlgorithm

/-! ## The hasher -/

/-- The hash of an algorithm. -/
def RustCrates.digest (alg : DigestAlgorithm) (bytes : Bytes) : Digest :=
  match alg with
  | .sha256 => .sha256 (c.sha256 bytes)
  | .sha384 => .sha384 (c.sha384 bytes)

/-- The running hash is what it has been fed. -/
structure RustCryptoHasher (alg : DigestAlgorithm) where
  hasher : Option Bytes

namespace RustCryptoHasher

variable {alg : DigestAlgorithm}

def new (alg : DigestAlgorithm) : RustCryptoHasher alg := ⟨some []⟩

def hasherInitialize (_ : RustCryptoHasher alg) : RustCryptoHasher alg := ⟨some []⟩

def update (h : RustCryptoHasher alg) (bytes : Bytes) :
    Except CryptoError Unit × RustCryptoHasher alg :=
  match h.hasher with
  | none => (.error (.hashError 0), h)
  | some fed => (.ok (), ⟨some (fed ++ bytes)⟩)

/-- A hasher that runs has been fed these bytes. -/
def fed (h : RustCryptoHasher alg) (bytes : Bytes) : RustCryptoHasher alg :=
  ⟨h.hasher.map fun _ => bytes⟩

/-- The running hash is taken out of the hasher. -/
def finish (h : RustCryptoHasher alg) :
    Except CryptoError Digest × RustCryptoHasher alg :=
  match h.hasher with
  | none => (.error (.hashError 1), h)
  | some fed => (.ok (c.digest alg fed), ⟨none⟩)

end RustCryptoHasher

/-! ## Signers and CDIs -/

structure RustCryptoSigner where
  privKey : Bytes
  signatureAlg : SignatureAlgorithm

/-- The private key as the seed of an ML-DSA key. -/
def RustCryptoSigner.seed (s : RustCryptoSigner) :
    Except CryptoError (Vector UInt8 32) :=
  if h : s.privKey.length = 32 then .ok ⟨s.privKey.toArray, by simpa using h⟩
  else .error RUSTCRYPTO_ML_DSA_ERROR

def RustCryptoSigner.sign (s : RustCryptoSigner) (data : SignData) :
    Except CryptoError Signature :=
  match s.signatureAlg with
  | .ecdsa .bit256 => do
      let signing ← orCrypto (c.p256.fromSlice s.privKey) RUSTCRYPTO_ECDSA_ERROR
      let sig ← ecdsaSignDataInner c c.p256 signing data s.signatureAlg
      pure (.ecdsa (.ecdsa256 sig))
  | .ecdsa .bit384 => do
      let signing ← orCrypto (c.p384.fromSlice s.privKey) RUSTCRYPTO_ECDSA_ERROR
      let sig ← ecdsaSignDataInner c c.p384 signing data s.signatureAlg
      pure (.ecdsa (.ecdsa384 sig))
  | .mldsa => do
      let seed ← s.seed
      mldsaSignDataInner c (c.mldsa.fromSeed seed) data

/-- The public key, if `out` has room for one of its kind. -/
def RustCryptoSigner.publicKey (s : RustCryptoSigner) (out : PubKey) :
    Except CryptoError PubKey :=
  match s.signatureAlg with
  | .ecdsa .bit256 => do
      let signing ← orCrypto (c.p256.fromSlice s.privKey) RUSTCRYPTO_ECDSA_ERROR
      let point := c.p256.encodedPoint signing
      match out with
      | .ecdsa (.ecdsa256 _) => do
          let x ← orCrypto point.1 RUSTCRYPTO_ECDSA_ERROR
          let y ← orCrypto point.2 RUSTCRYPTO_ECDSA_ERROR
          pure (.ecdsa (.ecdsa256 ⟨x, y⟩))
      | _ => .error .mismatchedAlgorithm
  | .ecdsa .bit384 => do
      let signing ← orCrypto (c.p384.fromSlice s.privKey) RUSTCRYPTO_ECDSA_ERROR
      let point := c.p384.encodedPoint signing
      match out with
      | .ecdsa (.ecdsa384 _) => do
          let x ← orCrypto point.1 RUSTCRYPTO_ECDSA_ERROR
          let y ← orCrypto point.2 RUSTCRYPTO_ECDSA_ERROR
          pure (.ecdsa (.ecdsa384 ⟨x, y⟩))
      | _ => .error .mismatchedAlgorithm
  | .mldsa => do
      let seed ← s.seed
      match out with
      | .mldsa _ => .ok (.mldsa (c.mldsa.verifyingKey (c.mldsa.fromSeed seed)))
      | _ => .error .mismatchedAlgorithm

structure RustCryptoCdi (signatureAlg : SignatureAlgorithm) where
  cdi : Bytes
  signer : RustCryptoSigner

/-- The signer keeps its key if no other can be derived. -/
def RustCryptoCdi.deriveKeyPair {signatureAlg : SignatureAlgorithm}
    (k : RustCryptoCdi signatureAlg) (label info : Bytes) :
    Except CryptoError RustCryptoSigner × RustCryptoCdi signatureAlg :=
  match hkdfGetPrivKey c signatureAlg k.cdi label info with
  | .error e => (.error e, k)
  | .ok privKey =>
      let signer : RustCryptoSigner := ⟨privKey, signatureAlg⟩
      (.ok signer, { k with signer := signer })

/-! ## The suite -/

abbrev MAX_EXPORTED_CDI_SIZE : Nat := 32

/-- Only one CDI handle is supported. -/
def MAX_CDI_HANDLES : Nat := 1

/-- The algorithms that a suite is made for. -/
structure RustCryptoAlgs where
  signatureAlg : SignatureAlgorithm
  digestAlg : DigestAlgorithm

structure RustCryptoImpl (algs : RustCryptoAlgs) where
  rng : c.StdRng
  exportCdiSlots : List (Bytes × ExportedCdiHandle)
  hasher : RustCryptoHasher algs.digestAlg
  cdi : RustCryptoCdi algs.signatureAlg

namespace RustCryptoImpl

variable {c} {algs : RustCryptoAlgs}

def new (rng : c.StdRng) (algs : RustCryptoAlgs) : RustCryptoImpl c algs where
  rng := rng
  exportCdiSlots := []
  hasher := .new algs.digestAlg
  cdi := ⟨[], ⟨[], algs.signatureAlg⟩⟩

def newEcc256 (rng : c.StdRng) : RustCryptoImpl c ⟨.ecdsa .bit256, .sha256⟩ := new rng _
def newEcc384 (rng : c.StdRng) : RustCryptoImpl c ⟨.ecdsa .bit384, .sha384⟩ := new rng _
def newMldsa87 (rng : c.StdRng) : RustCryptoImpl c ⟨.mldsa, .sha384⟩ := new rng _

variable (w : RustCryptoImpl c algs)

def randBytes (n : Nat) : Except CryptoError (Vector UInt8 n) × RustCryptoImpl c algs :=
  (.ok (c.fillBytes n w.rng).1, { w with rng := (c.fillBytes n w.rng).2 })

/-- The suite with these bytes in its CDI. -/
def withCdi (cdi : Bytes) : RustCryptoImpl c algs :=
  { w with cdi := { w.cdi with cdi := cdi } }

def deriveCdi (measurement : Digest) (info : Bytes) :
    Except CryptoError Bytes × RustCryptoImpl c algs :=
  match hkdfDeriveCdi c algs.signatureAlg measurement info with
  | .error e => (.error e, w)
  | .ok cdiKey => (.ok cdiKey, w.withCdi cdiKey)

def deriveKeyPair (label info : Bytes) :
    Except CryptoError RustCryptoSigner × RustCryptoImpl c algs :=
  let r := w.cdi.deriveKeyPair c label info
  (r.1, { w with cdi := r.2 })

def deriveExportedCdi (measurement : Digest) (info : Bytes) :
    Except CryptoError ExportedCdiHandle × RustCryptoImpl c algs :=
  match hkdfDeriveCdi c algs.signatureAlg measurement info with
  | .error e => (.error e, w)
  | .ok cdi =>
      if w.exportCdiSlots.any (fun slot => slot.1 == cdi) then
        (.error .exportedCdiHandleDuplicateCdi, w)
      else if MAX_CDI_HANDLES ≤ w.exportCdiSlots.length then
        (.error .exportedCdiHandleLimitExceeded, w)
      else
        match w.randBytes MAX_EXPORTED_CDI_SIZE with
        | (.error e, w) => (.error e, w)
        | (.ok handle, w) =>
            (.ok handle,
              { w with exportCdiSlots := w.exportCdiSlots ++ [(cdi, handle)] })

def deriveKeyPairExported (exportedHandle : ExportedCdiHandle) (label info : Bytes) :
    Except CryptoError RustCryptoSigner × RustCryptoImpl c algs :=
  match w.exportCdiSlots.find? (fun slot => slot.2 == exportedHandle) with
  | none => (.error .invalidExportedCdiHandle, w)
  | some (cdi, _) => (w.withCdi cdi).deriveKeyPair label info

/-- Sign with the alias key of the test artifacts. -/
def signWithAlias (c : RustCrates) (signatureAlg : SignatureAlgorithm)
    (data : SignData) : Except CryptoError Signature :=
  match signatureAlg with
  | .ecdsa .bit256 => do
      let signingKey ← orCrypto c.p256.fromSec1Pem RUSTCRYPTO_SEC_ERROR
      let sig ← ecdsaSignDataInner c c.p256 signingKey data signatureAlg
      pure (.ecdsa (.ecdsa256 sig))
  | .ecdsa .bit384 => do
      let signingKey ← orCrypto c.p384.fromSec1Pem RUSTCRYPTO_SEC_ERROR
      let sig ← ecdsaSignDataInner c c.p384 signingKey data signatureAlg
      pure (.ecdsa (.ecdsa384 sig))
  | .mldsa => do
      let mldsaSecret ← orCrypto c.mldsa.fromPkcs8Pem RUSTCRYPTO_ML_DSA_ERROR
      mldsaSignDataInner c mldsaSecret data

/-- The implementations of `Crypto`, `Hasher`, `CdiManager` and `Signer`.
    What a method is handed for a reference, or for what the hasher has been
    fed, is what the suite holds. -/
def suite (c : RustCrates) (algs : RustCryptoAlgs) :
    CryptoSuite (RustCryptoImpl c algs) where
  Cdi := Bytes
  Signer := RustCryptoSigner
  signatureAlgorithm _ := algs.signatureAlg
  digestAlgorithm _ := algs.digestAlg
  randBytes n w := w.randBytes n
  hasher w := (.ok (), w)
  hasherInitialize w := (.ok (), { w with hasher := w.hasher.hasherInitialize })
  hasherUpdate bytes w := ((w.hasher.update bytes).1,
    { w with hasher := (w.hasher.update bytes).2 })
  hasherFinish bytes w := (((w.hasher.fed bytes).finish c).1,
    { w with hasher := ((w.hasher.fed bytes).finish c).2 })
  deriveCdi measurement info w := w.deriveCdi measurement info
  deriveExportedCdi measurement info w := w.deriveExportedCdi measurement info
  deriveKeyPair cdi label info w := (w.withCdi cdi).deriveKeyPair label info
  deriveKeyPairExported handle label info w := w.deriveKeyPairExported handle label info
  sign signer data _ w := (signer.sign c data, w)
  publicKey signer out w := (signer.publicKey c out, w)
  signWithAlias data _ w := (signWithAlias c algs.signatureAlg data, w)

end RustCryptoImpl

end Dpe
