import Dpe.Model.Build
import Dpe.Model.Error

/-! # The crypto suite, the platform and the response buffer

    The library runs over three traits.  The crypto suite and the
    platform are implemented elsewhere: each of their methods is a
    function of the arguments and of a world of arbitrary type, and may
    fail with any error and leave any world behind.  A response buffer is
    a byte slice or a window of one. -/

namespace Dpe

/-! ## Digests, keys and signatures -/

inductive DigestAlgorithm where
  | sha256
  | sha384
  deriving DecidableEq, Repr

def DigestAlgorithm.size : DigestAlgorithm → Nat
  | sha256 => 32
  | sha384 => 48

inductive Digest where
  | sha256 (d : Vector UInt8 32)
  | sha384 (d : Vector UInt8 48)
  deriving DecidableEq

def Digest.asSlice : Digest → Bytes
  | sha256 d => d.toList
  | sha384 d => d.toList

inductive EcdsaAlgorithm where
  | bit256
  | bit384
  deriving DecidableEq, Repr

inductive SignatureAlgorithm where
  | ecdsa (alg : EcdsaAlgorithm)
  | mldsa
  deriving DecidableEq, Repr

/-- The signature algorithm of a profile. -/
def DpeProfile.alg : DpeProfile → SignatureAlgorithm
  | p256Sha256 => .ecdsa .bit256
  | p384Sha384 => .ecdsa .bit384
  | mldsa87 => .mldsa

structure EcdsaPub (k : Nat) where
  x : Vector UInt8 k
  y : Vector UInt8 k
  deriving DecidableEq

structure EcdsaSig (k : Nat) where
  r : Vector UInt8 k
  s : Vector UInt8 k
  deriving DecidableEq

inductive EcdsaPubKey where
  | ecdsa256 (key : EcdsaPub 32)
  | ecdsa384 (key : EcdsaPub 48)
  deriving DecidableEq

inductive EcdsaSignature where
  | ecdsa256 (sig : EcdsaSig 32)
  | ecdsa384 (sig : EcdsaSig 48)
  deriving DecidableEq

inductive PubKey where
  | ecdsa (key : EcdsaPubKey)
  | mldsa (key : Vector UInt8 2592)
  deriving DecidableEq

inductive Signature where
  | ecdsa (sig : EcdsaSignature)
  | mldsa (sig : Vector UInt8 4627)
  deriving DecidableEq

def EcdsaPubKey.asSlice : EcdsaPubKey → Bytes × Bytes
  | ecdsa256 key => (key.x.toList, key.y.toList)
  | ecdsa384 key => (key.x.toList, key.y.toList)

def EcdsaPubKey.curveSize : EcdsaPubKey → Nat
  | ecdsa256 _ => 32
  | ecdsa384 _ => 48

def EcdsaSignature.asSlice : EcdsaSignature → Bytes × Bytes
  | ecdsa256 sig => (sig.r.toList, sig.s.toList)
  | ecdsa384 sig => (sig.r.toList, sig.s.toList)

def EcdsaSignature.curveSize : EcdsaSignature → Nat
  | ecdsa256 _ => 32
  | ecdsa384 _ => 48

/-- Zero-initialized signature of the given ECDSA curve. -/
def EcdsaSignature.zeroed : EcdsaAlgorithm → EcdsaSignature
  | .bit256 => .ecdsa256 ⟨.replicate 32 0, .replicate 32 0⟩
  | .bit384 => .ecdsa384 ⟨.replicate 48 0, .replicate 48 0⟩

/-- Zero-initialized signature of the given algorithm. -/
def Signature.zeroed : SignatureAlgorithm → Signature
  | .ecdsa alg => .ecdsa (.zeroed alg)
  | .mldsa => .mldsa (.replicate 4627 0)

/-- The algorithm a public key belongs to. -/
def PubKey.alg : PubKey → SignatureAlgorithm
  | ecdsa (.ecdsa256 _) => .ecdsa .bit256
  | ecdsa (.ecdsa384 _) => .ecdsa .bit384
  | mldsa _ => .mldsa

abbrev ExportedCdiHandle := Vector UInt8 32

/-! ## Response buffers -/

inductive ResponseBufError where
  | overflow
  deriving DecidableEq, Repr

/-- `SliceResponseBuffer`, or an `OffsetResponseBuffer` over another
    buffer. -/
inductive ResponseBuffer where
  | slice (buf : Bytes)
  | offset (inner : ResponseBuffer) (base : Nat)
  deriving DecidableEq

namespace ResponseBuffer

def capacity : ResponseBuffer → Nat
  | slice buf => buf.length
  | offset inner base => inner.capacity - base

/-- The buffer a window looks into. -/
def inner : ResponseBuffer → ResponseBuffer
  | slice buf => slice buf
  | offset inner _ => inner

/-- Write `bytes` starting at `offset`.  No slice reaches `usize::MAX`,
    so the checked additions fail only where the range check does. -/
def writeAt : ResponseBuffer → Nat → Bytes →
    Except ResponseBufError ResponseBuffer
  | slice buf, off, bytes =>
      if off + bytes.length ≤ buf.length then
        .ok (slice (buf.take off ++ bytes ++ buf.drop (off + bytes.length)))
      else .error .overflow
  | offset inner base, off, bytes =>
      match inner.writeAt (base + off) bytes with
      | .ok inner' => .ok (offset inner' base)
      | .error e => .error e

/-- Read back the bytes from `start` up to `stop`. -/
def readRange : ResponseBuffer → Nat → Nat → Except ResponseBufError Bytes
  | slice buf, start, stop =>
      if start ≤ stop ∧ stop ≤ buf.length then
        .ok ((buf.drop start).take (stop - start))
      else .error .overflow
  | offset inner base, start, stop =>
      inner.readRange (base + start) (base + stop)

/-- The bytes seen through the windows of a buffer. -/
def bytes : ResponseBuffer → Bytes
  | slice buf => buf
  | offset inner base => inner.bytes.drop base

end ResponseBuffer

/-- What a signer is asked to sign. -/
inductive SignData where
  | digest (d : Digest)
  | mu (mu : Vector UInt8 64)
  | responseBuffer (buf : ResponseBuffer) (start stop : Nat)
  | raw (bytes : Bytes)
  deriving DecidableEq

/-! ## The crypto suite -/

/-- The required methods of `CryptoSuite`, `Crypto`, `Hasher`,
    `CdiManager` and `Signer`.  A method that returns a reference into
    the suite (a CDI, a key pair) returns a name for what it refers to.
    `hasherFinish` is handed the bytes that were fed to the running hash since
    it was initialized. -/
structure CryptoSuite (W : Type) where
  Cdi : Type
  Signer : Type
  signatureAlgorithm : W → SignatureAlgorithm
  digestAlgorithm : W → DigestAlgorithm
  randBytes : (n : Nat) → W → Except CryptoError (Vector UInt8 n) × W
  hasher : W → Except CryptoError Unit × W
  hasherInitialize : W → Except CryptoError Unit × W
  hasherUpdate : Bytes → W → Except CryptoError Unit × W
  hasherFinish : Bytes → W → Except CryptoError Digest × W
  deriveCdi : Digest → Bytes → W → Except CryptoError Cdi × W
  deriveExportedCdi : Digest → Bytes → W →
    Except CryptoError ExportedCdiHandle × W
  deriveKeyPair : Cdi → Bytes → Bytes → W → Except CryptoError Signer × W
  deriveKeyPairExported : ExportedCdiHandle → Bytes → Bytes → W →
    Except CryptoError Signer × W
  sign : Signer → SignData → Signature → W →
    Except CryptoError Signature × W
  publicKey : Signer → PubKey → W → Except CryptoError PubKey × W
  signWithAlias : SignData → Signature → W →
    Except CryptoError Signature × W

/-! ## The platform -/

def MAX_CHUNK_SIZE : Nat := 2048
def MAX_SN_SIZE : Nat := 20
def MAX_KEY_IDENTIFIER_SIZE : Nat := 20
def MAX_VALIDITY_SIZE : Nat := 24
def MAX_OTHER_NAME_SIZE : Nat := 128
def MAX_UEID_SIZE : Nat := 48

/-- `ArrayVec<u8, n>`: at most `n` bytes. -/
abbrev ArrayVec (n : Nat) := { l : Bytes // l.length ≤ n }

structure Ueid where
  buf : Vector UInt8 MAX_UEID_SIZE
  bufSize : UInt32

/-- The filled part of the buffer. -/
def Ueid.get (u : Ueid) : Except PlatformError Bytes :=
  if u.bufSize.toNat ≤ MAX_UEID_SIZE then
    .ok (u.buf.toList.take u.bufSize.toNat)
  else .error .invalidUeidError

inductive SignerIdentifier (b : Build) where
  | issuerAndSerialNumber (issuerName : ArrayVec b.maxIssuerNameSize)
      (serialNumber : ArrayVec MAX_SN_SIZE)
  | subjectKeyIdentifier (ski : ArrayVec MAX_KEY_IDENTIFIER_SIZE)

structure OtherName where
  oid : Bytes
  otherName : ArrayVec MAX_OTHER_NAME_SIZE

structure CertValidity where
  notBefore : ArrayVec MAX_VALIDITY_SIZE
  notAfter : ArrayVec MAX_VALIDITY_SIZE

/-- The platform trait.  A method with an output buffer is given its
    contents and returns them as it leaves them. -/
structure Platform (b : Build) (W : Type) where
  getCertificateChain : UInt32 → UInt32 → Vector UInt8 MAX_CHUNK_SIZE → W →
    Except PlatformError (UInt32 × Vector UInt8 MAX_CHUNK_SIZE) × W
  getIssuerName : Vector UInt8 b.maxIssuerNameSize → W →
    Except PlatformError (Nat × Vector UInt8 b.maxIssuerNameSize) × W
  getSignerIdentifier : W → Except PlatformError (SignerIdentifier b) × W
  getIssuerKeyIdentifier : Vector UInt8 MAX_KEY_IDENTIFIER_SIZE → W →
    Except PlatformError (Vector UInt8 MAX_KEY_IDENTIFIER_SIZE) × W
  getVendorId : W → Except PlatformError UInt32 × W
  getVendorSku : W → Except PlatformError UInt32 × W
  getAutoInitLocality : W → Except PlatformError UInt32 × W
  getCertValidity : W → Except PlatformError CertValidity × W
  getSubjectAlternativeName : W → Except PlatformError OtherName × W
  getUeid : W → Except PlatformError Ueid × W

end Dpe
