import Dpe.Model.ChainReaders
import Dpe.Model.RustCrypto

/-! # A machine in software

    A crypto suite and a platform that do not share anything run side by
    side, each over a world of its own.  The simulator puts
    `RustCryptoImpl` beside `DefaultPlatform`, a platform without a
    world. -/

namespace Dpe

variable {b : Build} {U V ε α : Type}

/-! ## Side by side -/

/-- A method over the first of two worlds. -/
def onFirst (f : U → Except ε α × U) (w : U × V) : Except ε α × (U × V) :=
  ((f w.1).1, ((f w.1).2, w.2))

/-- A method over the second of two worlds. -/
def onSecond (f : V → Except ε α × V) (w : U × V) : Except ε α × (U × V) :=
  ((f w.2).1, (w.1, (f w.2).2))

def CryptoSuite.onFirst (crypto : CryptoSuite U) (V : Type) : CryptoSuite (U × V) where
  Cdi := crypto.Cdi
  Signer := crypto.Signer
  signatureAlgorithm w := crypto.signatureAlgorithm w.1
  digestAlgorithm w := crypto.digestAlgorithm w.1
  randBytes n := Dpe.onFirst (crypto.randBytes n)
  hasher := Dpe.onFirst crypto.hasher
  hasherInitialize := Dpe.onFirst crypto.hasherInitialize
  hasherUpdate bytes := Dpe.onFirst (crypto.hasherUpdate bytes)
  hasherFinish bytes := Dpe.onFirst (crypto.hasherFinish bytes)
  deriveCdi measurement info := Dpe.onFirst (crypto.deriveCdi measurement info)
  deriveExportedCdi measurement info :=
    Dpe.onFirst (crypto.deriveExportedCdi measurement info)
  deriveKeyPair cdi label info := Dpe.onFirst (crypto.deriveKeyPair cdi label info)
  deriveKeyPairExported handle label info :=
    Dpe.onFirst (crypto.deriveKeyPairExported handle label info)
  sign signer data out := Dpe.onFirst (crypto.sign signer data out)
  publicKey signer out := Dpe.onFirst (crypto.publicKey signer out)
  signWithAlias data out := Dpe.onFirst (crypto.signWithAlias data out)

def Platform.onSecond (platform : Platform b V) (U : Type) : Platform b (U × V) where
  getCertificateChain offset size out :=
    Dpe.onSecond (platform.getCertificateChain offset size out)
  getIssuerName out := Dpe.onSecond (platform.getIssuerName out)
  getSignerIdentifier := Dpe.onSecond platform.getSignerIdentifier
  getIssuerKeyIdentifier out := Dpe.onSecond (platform.getIssuerKeyIdentifier out)
  getVendorId := Dpe.onSecond platform.getVendorId
  getVendorSku := Dpe.onSecond platform.getVendorSku
  getAutoInitLocality := Dpe.onSecond platform.getAutoInitLocality
  getCertValidity := Dpe.onSecond platform.getCertValidity
  getSubjectAlternativeName := Dpe.onSecond platform.getSubjectAlternativeName
  getUeid := Dpe.onSecond platform.getUeid

/-- The software crypto suite beside a platform. -/
def Deps.software (c : RustCrates) (algs : RustCryptoAlgs) (platform : Platform b V)
    (fuel : Nat) : Deps b (RustCryptoImpl c algs × V) where
  crypto := (RustCryptoImpl.suite c algs).onFirst V
  platform := platform.onSecond _
  fuel := fuel

/-! ## The default platform -/

def AUTO_INIT_LOCALITY : UInt32 := 0
def VENDOR_ID : UInt32 := 0
def VENDOR_SKU : UInt32 := 0

/-- `b"20230227000000Z"` -/
def NOT_BEFORE : Bytes :=
  [0x32, 0x30, 0x32, 0x33, 0x30, 0x32, 0x32, 0x37, 0x30, 0x30, 0x30, 0x30, 0x30, 0x30,
    0x5A]

/-- `b"99991231235959Z"` -/
def NOT_AFTER : Bytes :=
  [0x39, 0x39, 0x39, 0x39, 0x31, 0x32, 0x33, 0x31, 0x32, 0x33, 0x35, 0x39, 0x35, 0x39,
    0x5A]

def TEST_UEID : Vector UInt8 17 := .replicate 17 0xA

/-- `out[..bytes.len()].copy_from_slice(bytes)`. -/
def copyInto {n : Nat} (out : Vector UInt8 n) (bytes : Bytes) : Vector UInt8 n :=
  .ofFn fun i => bytes.getD i.val out[i]

/-- `ArrayVec::try_extend_from_slice` on an empty vector. -/
def tryExtendFromSlice (n : Nat) (bytes : Bytes) (e : PlatformError) :
    Except PlatformError (ArrayVec n) :=
  if h : bytes.length ≤ n then .ok ⟨bytes, h⟩ else .error e

/-- The test artifacts of a profile: its certificate chain, and what is
    parsed out of its certificate.  The chain is a slice in memory that ends
    below the last full chunk of the offsets. -/
structure DefaultPlatform where
  certChain : Bytes
  issuerName : Bytes
  issuerSn : Bytes
  keyIdentifier : Bytes
  certChain_le : certChain.length ≤ 2 ^ 32 - MAX_CHUNK_SIZE

namespace DefaultPlatform

variable (p : DefaultPlatform)

def getIssuerName (out : Vector UInt8 b.maxIssuerNameSize) :
    Except PlatformError (Nat × Vector UInt8 b.maxIssuerNameSize) :=
  if b.maxIssuerNameSize < p.issuerName.length then .error (.issuerNameError 0)
  else .ok (p.issuerName.length, copyInto out p.issuerName)

def getSignerIdentifier : Except PlatformError (SignerIdentifier b) := do
  let issuerName ← p.getIssuerName (.replicate b.maxIssuerNameSize 0)
  let issuerNameVec ← tryExtendFromSlice b.maxIssuerNameSize
    (issuerName.2.toList.take issuerName.1) (.issuerNameError 0)
  let serialNumberVec ← tryExtendFromSlice MAX_SN_SIZE p.issuerSn (.serialNumberError 0)
  pure (.issuerAndSerialNumber issuerNameVec serialNumberVec)

def getIssuerKeyIdentifier (out : Vector UInt8 MAX_KEY_IDENTIFIER_SIZE) :
    Except PlatformError (Vector UInt8 MAX_KEY_IDENTIFIER_SIZE) :=
  if p.keyIdentifier.length < MAX_KEY_IDENTIFIER_SIZE then
    .error (.issuerKeyIdentifierError 0)
  else .ok (copyInto out (p.keyIdentifier.take MAX_KEY_IDENTIFIER_SIZE))

def getCertValidity : Except PlatformError CertValidity := do
  let notBeforeVec ← tryExtendFromSlice MAX_VALIDITY_SIZE NOT_BEFORE (.certValidityError 0)
  let notAfterVec ← tryExtendFromSlice MAX_VALIDITY_SIZE NOT_AFTER (.certValidityError 0)
  pure ⟨notBeforeVec, notAfterVec⟩

def getUeid : Ueid where
  buf := copyInto (.replicate MAX_UEID_SIZE 0) TEST_UEID.toList
  bufSize := 17

/-- `impl Platform for DefaultPlatform`.  The library never asks for more
    than a chunk, so reading the chain never panics. -/
def toPlatform : Platform b V where
  getCertificateChain offset size out w :=
    ((getCertificateChain p.certChain offset size out).getD
      (.error .certificateChainError), w)
  getIssuerName out w := (p.getIssuerName out, w)
  getSignerIdentifier w := (p.getSignerIdentifier, w)
  getIssuerKeyIdentifier out w := (p.getIssuerKeyIdentifier out, w)
  getVendorId w := (.ok VENDOR_ID, w)
  getVendorSku w := (.ok VENDOR_SKU, w)
  getAutoInitLocality w := (.ok AUTO_INIT_LOCALITY, w)
  getCertValidity w := (getCertValidity, w)
  getSubjectAlternativeName w := (.error .notImplemented, w)
  getUeid w := (.ok getUeid, w)

end DefaultPlatform

end Dpe
