import Dpe.X509.Certificate

/-! # Creating the certificate of a context

    `create_dpe_cert_or_csr`: the measurement digest of a context, the
    key derived from it, the names and identifiers, and the certificate
    or CSR that is written to the output buffer. -/

namespace Dpe

open Prog

variable {b : Build} {W : Type}

inductive CertificateFormat where
  | x509
  | csr
  deriving DecidableEq

inductive CertificateType where
  | leaf
  | exported
  deriving DecidableEq

/-- Arguments for certificate or CSR creation. -/
structure CreateDpeCertArgs where
  handle : ContextHandle
  locality : UInt32
  /-- info string of the CDI derivation -/
  cdiLabel : Bytes
  /-- label of the key derivation -/
  keyLabel : Bytes
  /-- info string of the key derivation -/
  context : Bytes
  ueid : Bytes
  diceExtensionsAreCritical : Bool

structure CreateDpeCertResult where
  certSize : UInt32
  pubKey : PubKey
  exportedCdiHandle : ExportedCdiHandle

/-- The buffer a public key is written to: the variant of the profile. -/
def PubKey.zeroed : DpeProfile → PubKey
  | .p256Sha256 => .ecdsa (.ecdsa256 ⟨.replicate 32 0, .replicate 32 0⟩)
  | .p384Sha384 => .ecdsa (.ecdsa384 ⟨.replicate 48 0, .replicate 48 0⟩)
  | .mldsa87 => .mldsa (.replicate 2592 0)

variable (d : Deps b W) (dpe : DpeInstance b)

/-! ## Keys -/

/-- `Crypto::derive_pub_key`. -/
def derivePubKey (measurement : Digest) (info label derivedInfo : Bytes)
    (out : PubKey) : M b W PubKey := do
  let cdi ← callCrypto (d.crypto.deriveCdi measurement info)
  let signer ← callCrypto (d.crypto.deriveKeyPair cdi label derivedInfo)
  callCrypto (d.crypto.publicKey signer out)

/-- `Crypto::sign_with_derived`. -/
def signWithDerived (measurement : Digest) (info label derivedInfo : Bytes)
    (data : SignData) (out : Signature) : M b W Signature := do
  let cdi ← callCrypto (d.crypto.deriveCdi measurement info)
  let signer ← callCrypto (d.crypto.deriveKeyPair cdi label derivedInfo)
  callCrypto (d.crypto.sign signer data out)

/-- Sign with a key derived from an exported CDI. -/
def signWithExported (handle : ExportedCdiHandle) (label info : Bytes)
    (data : SignData) (out : Signature) : M b W Signature := do
  let signer ← callCrypto (d.crypto.deriveKeyPairExported handle label info)
  callCrypto (d.crypto.sign signer data out)

/-- The public key to certify, and the handle of the CDI if it is
    exported. -/
def deriveCertKey (args : CreateDpeCertArgs) (certType : CertificateType)
    (digest : Digest) : M b W (PubKey × Option ExportedCdiHandle) :=
  match certType with
  | .exported => do
      let handle ← callCrypto (d.crypto.deriveExportedCdi digest args.cdiLabel)
      let signer ← callCrypto
        (d.crypto.deriveKeyPairExported handle args.keyLabel args.context)
      let pubKey ← callCrypto
        (d.crypto.publicKey signer (.zeroed dpe.profile))
      pure (pubKey, some handle)
  | .leaf => do
      let pubKey ← derivePubKey d digest args.cdiLabel args.keyLabel
        args.context (.zeroed dpe.profile)
      pure (pubKey, none)

/-! ## Names and identifiers -/

/-- The upper case digit of a half byte. -/
def hexChar (x : UInt8) : UInt8 := if x < 10 then 0x30 + x else 0x37 + x

def hexStr : Bytes → Bytes
  | [] => []
  | x :: xs => hexChar (x >>> 4) :: hexChar (x &&& 0xF) :: hexStr xs

/-- The hash of a public key; a point is taken in uncompressed format. -/
def hashPubKey : PubKey → M b W Digest
  | .ecdsa key => hashAll d [[0x04], key.asSlice.1, key.asSlice.2]
  | .mldsa key => hashAll d [key.toList]

/-- `get_pubkey_serial` into a buffer of `len` zero bytes. -/
def getPubkeySerial (pubKey : PubKey) (len : Nat) : M b W Bytes := do
  let env ← get
  reject (decide (len < (d.crypto.digestAlgorithm env.world).size * 2))
    (.crypto .size)
  reject (match d.crypto.signatureAlgorithm env.world, pubKey with
    | .ecdsa _, .ecdsa _ => false
    | .mldsa, .mldsa _ => false
    | _, _ => true) (.crypto .mismatchedAlgorithm)
  let digest ← hashPubKey d pubKey
  let hex := hexStr digest.asSlice
  reject (decide (len < hex.length)) (.crypto .size)
  pure (hex ++ List.replicate (len - hex.length) 0)

/-- `MAX_HASH_SIZE * 2`. -/
def SUBJ_SERIAL_SIZE : Nat := 96

/-- `b"DPE Leaf"` or `b"DPE Exported CDI"`. -/
def commonName : CertificateType → Bytes
  | .leaf => [0x44, 0x50, 0x45, 0x20, 0x4C, 0x65, 0x61, 0x66]
  | .exported =>
      [0x44, 0x50, 0x45, 0x20, 0x45, 0x78, 0x70, 0x6F, 0x72, 0x74, 0x65,
        0x64, 0x20, 0x43, 0x44, 0x49]

/-- The subject's serial number is cut to 64 bytes. -/
def getSubjectName (certType : CertificateType) (pubKey : PubKey) :
    M b W Name := do
  let subjSerial ← getPubkeySerial d pubKey SUBJ_SERIAL_SIZE
  pure {
    cn := .printableString (commonName certType)
    serial := .printableString (subjSerial.take 64) }

/-- The first 20 bytes of the hash of the public key. -/
def getSubjectKeyIdentifier (pubKey : PubKey) :
    M b W (Vector UInt8 MAX_KEY_IDENTIFIER_SIZE) := do
  let hashedPubKey ← hashPubKey d pubKey
  if h : hashedPubKey.asSlice.length < MAX_KEY_IDENTIFIER_SIZE then
    throw (.err InternalErrorCode.keyIdHashTooSmall)
  else
    pure ⟨(hashedPubKey.asSlice.take MAX_KEY_IDENTIFIER_SIZE).toArray, by
      simp; omega⟩

/-- The platform's SubjectAltName, if it implements one. -/
def getSubjectAltName : M b W (Option OtherName) := do
  let r ← tryPlatform d.platform.getSubjectAlternativeName
  match r with
  | .ok san => pure (some san)
  | .error .notImplemented => pure none
  | .error e => throw (.err (.platform e))

/-! ## The certificate -/

/-- The signing callback: the derived key, the key of the exported CDI,
    or the alias key. -/
def certSignCb (args : CreateDpeCertArgs) (digest : Digest)
    (exportedCdiHandle : Option ExportedCdiHandle) :
    SignCallback (Env b W) := fun buf start stop useDerived out =>
  let data := SignData.responseBuffer buf start stop
  if useDerived then
    match exportedCdiHandle with
    | some handle => signWithExported d handle args.keyLabel args.context data out
    | none =>
        signWithDerived d digest args.cdiLabel args.keyLabel args.context data out
  else callCrypto (d.crypto.signWithAlias data out)

/-- Run an encoder on the output buffer. -/
def runEncoder {α : Type} (sig : Signature) (m : EncM (Env b W) α) :
    M b W α := fun env =>
  match m { writer := .new env.out, sig := sig, env := env } with
  | .ok a s => .ok a { s.env with out := s.writer.certificate }
  | .error e s => .error e { s.env with out := s.writer.certificate }

/-- What a certificate needs and a CSR does not, and the other way. -/
inductive CertOrCsrArgs (b : Build) where
  | cert (issuerName : Bytes) (certValidity : CertValidity)
  | csr (signerIdentifier : SignerIdentifier b)

/-- `u32::try_from(n)`. -/
def tryU32 (n : Nat) (e : InternalErrorCode) : M b W UInt32 := do
  reject (decide (2 ^ 32 ≤ n)) e
  pure (UInt32.ofNat n)

def generateCertOrCsr (formatArgs : CertOrCsrArgs b) (cfg : CertConfig)
    (subjectName : Name) (pubKey : PubKey) (measurements : MeasurementData b)
    (signCb : SignCallback (Env b W)) (sig : Signature) : M b W UInt32 :=
  match formatArgs with
  | .cert issuerName certValidity => do
      -- serial number must be truncated to 20 bytes
      reject (decide (subjectName.serial.bytes.length < 20))
        InternalErrorCode.serialNumberSliceOob
      let serialNumber := subjectName.serial.bytes.take 20
      let bytesWritten ← runEncoder sig (CertWriter.encodeCertificate cfg signCb
        serialNumber issuerName subjectName pubKey measurements certValidity)
      tryU32 bytesWritten .certSizeOverflow
  | .csr signerIdentifier => do
      let bytesWritten ← runEncoder sig (CertWriter.encodeCms cfg signCb pubKey
        subjectName measurements signerIdentifier)
      tryU32 bytesWritten .csrSizeOverflow

/-- The issuer name, only as long as the buffer it is written to. -/
def getIssuerName : M b W Bytes := do
  let r ← callPlatform
    (d.platform.getIssuerName (.replicate b.maxIssuerNameSize 0))
  reject (decide (b.maxIssuerNameSize < r.1)) InternalErrorCode.issuerNameTooLong
  pure (r.2.toList.take r.1)

/-- The platform's part of a certificate or a CSR. -/
def getFormatArgs (certFormat : CertificateFormat) :
    M b W (CertOrCsrArgs b) := do
  let certValidity ← callPlatform d.platform.getCertValidity
  let signerIdentifier ← callPlatform d.platform.getSignerIdentifier
  match certFormat with
  | .x509 => do
      let issuerName ← getIssuerName d
      pure (.cert issuerName certValidity)
  | .csr => pure (.csr signerIdentifier)

def getDpeMeasurementDigest (handle : ContextHandle) (locality : UInt32) :
    M b W Digest := do
  let env ← get
  let parentIdx ← orFail (env.state.getActiveContextPos handle locality)
  computeMeasurementHash d dpe parentIdx

/-- What the certificate says about the context. -/
def getMeasurements (args : CreateDpeCertArgs) (certType : CertificateType)
    (pubKey : PubKey) : M b W (MeasurementData b) := do
  let ski ← getSubjectKeyIdentifier d pubKey
  let aki ← callPlatform (d.platform.getIssuerKeyIdentifier (.replicate _ 0))
  let subjectAltName ← getSubjectAltName d
  let env ← get
  let idx ← orFail (env.state.getActiveContextPos args.handle args.locality)
  let tciNodes ← orFail (TciNodes.new idx.val env.state.slice)
  pure {
    tciNodes := tciNodes
    label := args.ueid
    isCa := match certType with
      | .leaf => false
      | .exported => true
    supportsRecursive := match certType with
      | .leaf => env.state.support.recursive
      | .exported => false
    subjectKeyIdentifier := ski
    authorityKeyIdentifier := aki
    subjectAltName := subjectAltName }

def createDpeCertOrCsr (args : CreateDpeCertArgs)
    (certFormat : CertificateFormat) (certType : CertificateType) :
    M b W CreateDpeCertResult := do
  let digest ← getDpeMeasurementDigest d dpe args.handle args.locality
  let key ← deriveCertKey d dpe args certType digest
  let subjectName ← getSubjectName d certType key.1
  let measurements ← getMeasurements d args certType key.1
  let env ← get
  let sig := Signature.zeroed (d.crypto.signatureAlgorithm env.world)
  let formatArgs ← getFormatArgs d certFormat
  let cfg : CertConfig :=
    { profile := dpe.profile, critDice := args.diceExtensionsAreCritical }
  let certSize ← generateCertOrCsr formatArgs cfg subjectName key.1
    measurements (certSignCb d args digest key.2) sig
  pure {
    certSize := certSize
    pubKey := key.1
    exportedCdiHandle := key.2.getD (.replicate 32 0) }

def createExportedDpeCert (args : CreateDpeCertArgs) :
    M b W CreateDpeCertResult := createDpeCertOrCsr d dpe args .x509 .exported

def createDpeCert (args : CreateDpeCertArgs) : M b W CreateDpeCertResult :=
  createDpeCertOrCsr d dpe args .x509 .leaf

def createDpeCsr (args : CreateDpeCertArgs) : M b W CreateDpeCertResult :=
  createDpeCertOrCsr d dpe args .csr .leaf

end Dpe
