import Dpe.Commands.Serve
import Dpe.Model.ChainReaders

/-! # The client

    `verification/client`: the structures of the commands and responses as
    the client lays them out, `execCommand`, and a method for each command.
    `encoding/binary` writes the fields of a structure one behind the
    other, little endian, and reads them back; so the layouts here have no
    alignment, and each bit pattern is a value. -/

namespace Dpe

open Layout Prog

variable {b : Build} {W : Type}

namespace Client

/-! ## Profiles -/

def ProfileMinP256SHA256 : UInt32 := 1
def ProfileMinP384SHA384 : UInt32 := 2
def ProfileP256SHA256 : UInt32 := 3
def ProfileP384SHA384 : UInt32 := 4
def ProfileMldsa87 : UInt32 := 5

/-- `NISTP256Parameter`, `NISTP384Parameter` and `Mldsa87Parameter`. -/
inductive Curve where
  | nistP256
  | nistP384
  | mldsa87
  deriving DecidableEq

def Curve.intLen : Curve → Nat
  | nistP256 => 32
  | nistP384 => 48
  | mldsa87 => 2592

/-- `SHA256Digest`, `SHA384Digest` and `MldsaDigest`. -/
inductive DigestAlgorithm where
  | sha256
  | sha384
  | mldsa
  deriving DecidableEq

def DigestAlgorithm.digestLen : DigestAlgorithm → Nat
  | sha256 => 32
  | sha384 => 48
  | mldsa => 64

/-- `DPEMinCertificate`, `DPEFullCertificate` and `DPEMldsaCertificate`. -/
inductive DPECertificate where
  | min
  | full
  | mldsa
  deriving DecidableEq

def DPECertificate.certLen : DPECertificate → Nat
  | min => 2048
  | full => 11 * 1024
  | mldsa => 22 * 1024

/-- `ECDSASignature[Digest]` and `Mldsa87Signature`. -/
inductive SignatureType where
  | ecdsa (digest : DigestAlgorithm)
  | mldsa87
  deriving DecidableEq

/-- The type parameters of `DPEABI`. -/
structure Params where
  curve : Curve
  digest : DigestAlgorithm
  cert : DPECertificate
  signData : DigestAlgorithm
  signature : SignatureType
  deriving DecidableEq

def DPEABI256Min : Params := ⟨.nistP256, .sha256, .min, .sha256, .ecdsa .sha256⟩
def DPEABI384Min : Params := ⟨.nistP384, .sha384, .min, .sha384, .ecdsa .sha384⟩
def DPEABI256 : Params := ⟨.nistP256, .sha256, .full, .sha256, .ecdsa .sha256⟩
def DPEABI384 : Params := ⟨.nistP384, .sha384, .full, .sha384, .ecdsa .sha384⟩
def DPEABIMldsa87 : Params := ⟨.mldsa87, .sha384, .mldsa, .mldsa, .mldsa87⟩

/-! ## Errors -/

/-- The errors of the methods; `wire` are those of `execCommand`. -/
inductive CallError where
  | wire (e : Error)
  | invalidLabelLength
  | invalidDigestLength
  | invalidToBeSignedLength
  | rawDataTooLarge
  | signRawNotImplemented
  | certTooLarge (size : UInt32)
  | invalidSignatureType
  | invalidProfile
  | expectedProfile (target got : UInt32)
  | unknownVersion (major minor : UInt16)
  | cannotCreate (profile : UInt32)

/-- The profile that the type parameters belong to, and whether it is the
    one that the instance has. -/
def dpeProfileImplementsTypeConstraints (t : Params) (profile : UInt32) :
    Except CallError Unit :=
  let isP256 := t.curve == .nistP256
  let isSHA256 := t.digest == .sha256
  let isP384 := t.curve == .nistP384
  let isSHA384 := t.digest == .sha384
  let isMldsa87Param := t.curve == .mldsa87
  let isMin := t.cert == .min
  let isMldsaCert := t.cert == .mldsa
  let isSHA256SignData := t.signData == .sha256
  let isSHA384SignData := t.signData == .sha384
  let isMldsaSignData := t.signData == .mldsa
  let isEcdsa256Sig := t.signature == .ecdsa .sha256
  let isEcdsa384Sig := t.signature == .ecdsa .sha384
  let isMldsa87Sig := t.signature == .mldsa87
  let targetProfile :=
    if isP256 && isSHA256 && isMin && isEcdsa256Sig && isSHA256SignData then
      some ProfileMinP256SHA256
    else if isP384 && isSHA384 && isMin && isEcdsa384Sig && isSHA384SignData then
      some ProfileMinP384SHA384
    else if isP256 && isSHA256 && !isMin && isEcdsa256Sig && isSHA256SignData then
      some ProfileP256SHA256
    else if isP384 && isSHA384 && !isMin && isEcdsa384Sig && isSHA384SignData then
      some ProfileP384SHA384
    else if isMldsa87Param && isSHA384 && isMldsaCert && isMldsa87Sig
        && isMldsaSignData then some ProfileMldsa87
    else none
  match targetProfile with
  | none => .error .invalidProfile
  | some target =>
      if profile ≠ target then .error (.expectedProfile target profile) else .ok ()

/-! ## Command codes -/

structure ProfileCommandCodes where
  getProfile : UInt32
  initializeContext : UInt32
  deriveContext : UInt32
  certifyKey : UInt32
  sign : UInt32
  rotateContextHandle : UInt32
  destroyContext : UInt32
  getCertificateChain : UInt32
  updateContextMeasurement : UInt32
  deriving DecidableEq

def getProfileInfoV08 : ProfileCommandCodes where
  getProfile := 0x1
  initializeContext := 0x5
  deriveContext := 0x6
  certifyKey := 0x7
  sign := 0x8
  rotateContextHandle := 0xE
  destroyContext := 0xF
  getCertificateChain := 0x80
  updateContextMeasurement := 0x80000000

def getProfileInfoV09 : ProfileCommandCodes where
  getProfile := 0x1
  initializeContext := 0x7
  deriveContext := 0x8
  certifyKey := 0x9
  sign := 0xA
  rotateContextHandle := 0xE
  destroyContext := 0xF
  getCertificateChain := 0x10
  updateContextMeasurement := 0x80000000

/-! ## Headers -/

def CmdMagic : UInt32 := 0x44504543

/-- `binary.Write` of a `CommandHdr`. -/
def commandHdr (cmd profile : UInt32) : Bytes :=
  toLeBytes CmdMagic ++ toLeBytes cmd ++ toLeBytes profile

structure RespHdr where
  magic : UInt32
  status : UInt32
  profile : UInt32

def RespHdr.layout : Layout RespHdr :=
  (word32.seq (word32.seq word32)).view (fun h => (h.magic, h.status, h.profile))
    (fun (magic, status, profile) => some ⟨magic, status, profile⟩)
    fun _ _ => ⟨fun h => by cases h; rfl, fun h => by cases h; rfl⟩

/-- `binary.Read`: the value, and what is left. -/
def binaryRead {α : Type} (l : Layout α) (r : Bytes) : Except Error (α × Bytes) :=
  match l.ofBytes r with
  | some a => .ok (a, r.drop l.size)
  | none => .error .unexpectedEof

/-- The part of `execCommand` behind the transport. -/
def readResponse {α : Type} (rsp : Layout α) (resp : Bytes) :
    Except Error (RespHdr × α × Bytes) := do
  let (respHdr, r) ← binaryRead RespHdr.layout resp
  checkRespHdr respHdr.magic respHdr.status
  let (rsp, r) ← binaryRead rsp r
  pure (respHdr, rsp, r)

/-- What a method makes of the response, or the error of the wire. -/
def onResponse {α β : Type} (r : Except Error (RespHdr × α × Bytes))
    (f : RespHdr → α → Bytes → Except CallError β) : Except CallError β :=
  match r with
  | .error e => .error (.wire e)
  | .ok (respHdr, rsp, rest) => f respHdr rsp rest

end Client

/-- A connection to an instance: its profile, and what the client has
    learned about it. -/
structure DPEABI where
  params : Client.Params
  codes : Client.ProfileCommandCodes
  profile : UInt32
  majorVersion : UInt16
  minorVersion : UInt16
  vendorId : UInt32
  vendorSku : UInt32
  maxTciNodes : UInt32
  flags : UInt32

end Dpe
