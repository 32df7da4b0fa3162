import Dpe.Commands.Context
import Dpe.X509.Create

/-! # Sign and CertifyKey

    Both derive the key of a context from its measurement hash.  They
    differ in what they do with it, in the order in which they commit the
    rolled handle and write the response, and in how the key is
    reached. -/

namespace Dpe

open Prog

variable {b : Build} {W : Type} (d : Deps b W) (dpe : DpeInstance b)

/-- `b"DPE"`. -/
def cdiLabel : Bytes := [0x44, 0x50, 0x45]

/-! ## Sign -/

/-- The raw variant holds at most 1024 bytes of data. -/
def MLDSA87_RAW_MAX_SIZE : Nat := 1024

inductive SignCommand where
  | p256 (handle : ContextHandle) (label : Vector UInt8 32) (flags : UInt32)
      (digest : Vector UInt8 32)
  | p384 (handle : ContextHandle) (label : Vector UInt8 48) (flags : UInt32)
      (digest : Vector UInt8 48)
  | mldsa87 (handle : ContextHandle) (label : Vector UInt8 48) (flags : UInt32)
      (digest : Vector UInt8 64)
  | mldsa87Raw (handle : ContextHandle) (label : Vector UInt8 48)
      (flags : UInt32) (size : UInt32)
      (rawData : Vector UInt8 MLDSA87_RAW_MAX_SIZE)

namespace SignCommand

def handle : SignCommand → ContextHandle
  | p256 handle .. => handle
  | p384 handle .. => handle
  | mldsa87 handle .. => handle
  | mldsa87Raw handle .. => handle

def label : SignCommand → Bytes
  | p256 _ label .. => label.toList
  | p384 _ label .. => label.toList
  | mldsa87 _ label .. => label.toList
  | mldsa87Raw _ label .. => label.toList

/-- What is to be signed. -/
def data : SignCommand → Except DpeErrorCode SignData
  | p256 _ _ _ digest => .ok (.digest (.sha256 digest))
  | p384 _ _ _ digest => .ok (.digest (.sha384 digest))
  | mldsa87 _ _ _ digest => .ok (.mu digest)
  | mldsa87Raw _ _ _ size rawData =>
      if size.toNat ≤ MLDSA87_RAW_MAX_SIZE then
        .ok (.raw (rawData.toList.take size.toNat))
      else .error .invalidArgument

/-- The profile whose instance decodes to this variant. -/
def profile : SignCommand → DpeProfile
  | p256 .. => .p256Sha256
  | p384 .. => .p384Sha384
  | mldsa87 .. => .mldsa87
  | mldsa87Raw .. => .mldsa87

/-- Signs with the key derived from the measurement hash of the
    context. -/
def sign (idx : Fin b.maxHandles) (label : Bytes) (data : SignData) :
    M b W Signature := do
  let env ← get
  let sig := Signature.zeroed (d.crypto.signatureAlgorithm env.world)
  let cdiDigest ← computeMeasurementHash d dpe idx
  let cdi ← callCrypto (d.crypto.deriveCdi cdiDigest cdiLabel)
  let signer ← callCrypto
    (d.crypto.deriveKeyPair cdi label dpe.profile.keyContext)
  callCrypto (d.crypto.sign signer data sig)

/-- The signature as the response of its algorithm carries it, if that
    algorithm is compiled in. -/
def sigBytes (b : Build) : Signature → Except DpeErrorCode Bytes
  | .ecdsa (.ecdsa256 sig) =>
      if b.p256 then .ok (sig.r.toList ++ sig.s.toList)
      else .error .invalidArgument
  | .ecdsa (.ecdsa384 sig) =>
      if b.p384 then .ok (sig.r.toList ++ sig.s.toList)
      else .error .invalidArgument
  | .mldsa sig =>
      -- one byte of padding
      if b.mlDsa then .ok (sig.toList ++ [0]) else .error .invalidArgument

def writeResponse (sig : Signature) (handle : ContextHandle) : M b W Nat := do
  let sig ← orFail (sigBytes b sig)
  respond (SignResp.asBytes
    { respHdr := dpe.responseHdr .noError
      newContextHandle := handle
      sig := sig })

/-- The rolled handle is committed only if the response was written. -/
def executeSerialized (cmd : SignCommand) (locality : UInt32) :
    M b W Nat := do
  let data ← orFail cmd.data
  let env ← get
  let idx ← orFail (env.state.getActiveContextPos cmd.handle locality)
  reject ((env.state.contexts idx).contextType == .simulation) .invalidArgument
  let sig ← sign d dpe idx cmd.label data
  let env ← get
  let ctx ← rollOnetimeUseHandle d (env.state.contexts idx)
  let result ← writeResponse dpe sig ctx.handle
  setContext idx ctx
  pure result

end SignCommand

/-! ## CertifyKey -/

structure CertifyKeyCmd (labelSize : Nat) where
  handle : ContextHandle
  flags : UInt32
  format : UInt32
  label : Vector UInt8 labelSize

inductive CertifyKeyCommand where
  | p256 (cmd : CertifyKeyCmd 32)
  | p384 (cmd : CertifyKeyCmd 48)
  | mldsa87 (cmd : CertifyKeyCmd 48)

namespace CertifyKeyCommand

def FORMAT_X509 : UInt32 := 0
def FORMAT_CSR : UInt32 := 1

def handle : CertifyKeyCommand → ContextHandle
  | p256 cmd => cmd.handle
  | p384 cmd => cmd.handle
  | mldsa87 cmd => cmd.handle

def format : CertifyKeyCommand → UInt32
  | p256 cmd => cmd.format
  | p384 cmd => cmd.format
  | mldsa87 cmd => cmd.format

def label : CertifyKeyCommand → Bytes
  | p256 cmd => cmd.label.toList
  | p384 cmd => cmd.label.toList
  | mldsa87 cmd => cmd.label.toList

/-- The profile whose instance decodes to this variant; it decides the
    response header. -/
def profile : CertifyKeyCommand → DpeProfile
  | p256 .. => .p256Sha256
  | p384 .. => .p384Sha384
  | mldsa87 .. => .mldsa87

/-- `CertifyKeyResponseHeader::hdr_size`. -/
def hdrSize : DpeProfile → Nat
  | .p256Sha256 => 96
  | .p384Sha384 => 128
  | .mldsa87 => 2624

/-- The public key of a response header, if it is of the algorithm of the
    header. -/
def headerKey : DpeProfile → PubKey → Except DpeErrorCode Bytes
  | .p256Sha256, .ecdsa (.ecdsa256 pk) => .ok (pk.x.toList ++ pk.y.toList)
  | .p384Sha384, .ecdsa (.ecdsa384 pk) => .ok (pk.x.toList ++ pk.y.toList)
  | .mldsa87, .mldsa pk => .ok pk.toList
  | _, _ => .error .invalidArgument

/-- Write the header in front of the certificate.  The ML-DSA header is
    written field by field in the source, at the offsets of its fields. -/
def writeHeader (profile : DpeProfile) (result : CreateDpeCertResult)
    (newHandle : ContextHandle) : M b W Nat := do
  let pubkey ← orFail (headerKey profile result.pubKey)
  writeAt 0 (CertifyKeyRespHdr.asBytes
    { respHdr := dpe.responseHdr .noError
      newContextHandle := newHandle
      pubkey := pubkey
      certSize := result.certSize }) .invalidResponseBuf
  pure (hdrSize profile + result.certSize.toNat)

def runCertFormat (format : UInt32) (args : CreateDpeCertArgs) :
    M b W CreateDpeCertResult :=
  if format = FORMAT_X509 then
    if b.disabled.x509 then throw (.err .argumentNotSupported)
    else createDpeCert d dpe args
  else if format = FORMAT_CSR then
    if b.disabled.csr then throw (.err .argumentNotSupported)
    else createDpeCsr d dpe args
  else throw (.err .invalidArgument)

/-- The format is not supported by the instance. -/
def formatUnsupported (format : UInt32) (support : Support) : Bool :=
  (format == FORMAT_X509 && !support.x509)
    || (format == FORMAT_CSR && !support.csr)

def certArgs (cmd : CertifyKeyCommand) (s : State b) (locality : UInt32) :
    CreateDpeCertArgs where
  handle := cmd.handle
  locality := locality
  cdiLabel := Dpe.cdiLabel
  keyLabel := cmd.label
  context := dpe.profile.keyContext
  ueid := cmd.label
  diceExtensionsAreCritical := s.flags.markDiceExtensionsCritical

/-- Roll the handle of a context in place; returns the handle. -/
def rollInPlace (idx : Fin b.maxHandles) : M b W ContextHandle := do
  let env ← get
  let ctx ← rollOnetimeUseHandle d (env.state.contexts idx)
  setContext idx ctx
  pure ctx.handle

/-- The certificate is written first, behind the place of the header;
    then the handle is rolled, and the header is written. -/
def executeSerialized (cmd : CertifyKeyCommand) (locality : UInt32) :
    M b W Nat := do
  let env ← get
  let idx ← orFail (env.state.getActiveContextPos cmd.handle locality)
  let context := env.state.contexts idx
  reject (formatUnsupported cmd.format env.state.support) .argumentNotSupported
  reject (cmd.format == FORMAT_X509 && !context.allowX509) .invalidArgument
  reject (context.locality != locality) .invalidLocality
  let result ← withOffset (hdrSize cmd.profile)
    (runCertFormat d dpe cmd.format (certArgs dpe cmd env.state locality))
  let newHandle ← rollInPlace d idx
  writeHeader dpe cmd.profile result newHandle

end CertifyKeyCommand

end Dpe
