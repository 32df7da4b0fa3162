import Dpe.Model.Context
import Dpe.Model.Traits

/-! # Responses and their bytes

    The `repr(C)` structures a command writes to its output buffer, with
    their `IntoBytes` images: fields in order, integers little endian. -/

namespace Dpe

/-- `b"DPER"`, big endian. -/
def DPE_RESPONSE_MAGIC : UInt32 := 0x44504552

def CURRENT_PROFILE_MAJOR_VERSION : UInt16 := 0
def CURRENT_PROFILE_MINOR_VERSION : UInt16 := 13

structure ResponseHdr where
  magic : UInt32
  status : UInt32
  profile : DpeProfile

namespace ResponseHdr

def new (profile : DpeProfile) (errorCode : DpeErrorCode) : ResponseHdr where
  magic := DPE_RESPONSE_MAGIC
  status := errorCode.getErrorCode
  profile := profile

def asBytes (r : ResponseHdr) : Bytes :=
  toLeBytes r.magic ++ toLeBytes r.status ++ toLeBytes r.profile.toU32

@[simp] theorem asBytes_length (r : ResponseHdr) : r.asBytes.length = 12 := rfl

end ResponseHdr

structure GetProfileResp where
  respHdr : ResponseHdr
  majorVersion : UInt16
  minorVersion : UInt16
  vendorId : UInt32
  vendorSku : UInt32
  maxTciNodes : UInt32
  flags : UInt32

namespace GetProfileResp

def new (b : Build) (profile : DpeProfile) (flags vendorId vendorSku : UInt32) :
    GetProfileResp where
  majorVersion := CURRENT_PROFILE_MAJOR_VERSION
  minorVersion := CURRENT_PROFILE_MINOR_VERSION
  vendorId := vendorId
  vendorSku := vendorSku
  maxTciNodes := UInt32.ofNat b.maxHandles
  flags := flags
  respHdr := { magic := DPE_RESPONSE_MAGIC, status := 0, profile := profile }

def asBytes (r : GetProfileResp) : Bytes :=
  r.respHdr.asBytes ++ toLeBytes16 r.majorVersion ++ toLeBytes16 r.minorVersion
    ++ toLeBytes r.vendorId ++ toLeBytes r.vendorSku
    ++ toLeBytes r.maxTciNodes ++ toLeBytes r.flags

@[simp] theorem asBytes_length (r : GetProfileResp) :
    r.asBytes.length = 32 := rfl

end GetProfileResp

structure NewHandleResp where
  respHdr : ResponseHdr
  handle : ContextHandle

def NewHandleResp.asBytes (r : NewHandleResp) : Bytes :=
  r.respHdr.asBytes ++ r.handle.asBytes

structure DeriveContextResp where
  respHdr : ResponseHdr
  handle : ContextHandle
  parentHandle : ContextHandle

def DeriveContextResp.asBytes (r : DeriveContextResp) : Bytes :=
  r.respHdr.asBytes ++ r.handle.asBytes ++ r.parentHandle.asBytes

structure UpdateContextMeasurementResp where
  respHdr : ResponseHdr
  newContextHandle : ContextHandle
  newParentContextHandle : ContextHandle

def UpdateContextMeasurementResp.asBytes
    (r : UpdateContextMeasurementResp) : Bytes :=
  r.respHdr.asBytes ++ r.newContextHandle.asBytes
    ++ r.newParentContextHandle.asBytes

structure DeriveContextExportedCdiRespHdr where
  respHdr : ResponseHdr
  handle : ContextHandle
  parentHandle : ContextHandle
  exportedCdi : ExportedCdiHandle
  certificateSize : UInt32

def DeriveContextExportedCdiRespHdr.asBytes
    (r : DeriveContextExportedCdiRespHdr) : Bytes :=
  r.respHdr.asBytes ++ r.handle.asBytes ++ r.parentHandle.asBytes
    ++ r.exportedCdi.toList ++ toLeBytes r.certificateSize

structure GetCertificateChainResp where
  respHdr : ResponseHdr
  certificateSize : UInt32
  certificateChain : Vector UInt8 MAX_CHUNK_SIZE

def GetCertificateChainResp.asBytes (r : GetCertificateChainResp) : Bytes :=
  r.respHdr.asBytes ++ toLeBytes r.certificateSize
    ++ r.certificateChain.toList

/-- `CertifyKeyP256RespHdr`, `CertifyKeyP384RespHdr` and
    `CertifyKeyMldsa87RespHdr`: the three differ in the public key. -/
structure CertifyKeyRespHdr where
  respHdr : ResponseHdr
  newContextHandle : ContextHandle
  pubkey : Bytes
  certSize : UInt32

def CertifyKeyRespHdr.asBytes (r : CertifyKeyRespHdr) : Bytes :=
  r.respHdr.asBytes ++ r.newContextHandle.asBytes ++ r.pubkey
    ++ toLeBytes r.certSize

/-- `SignP256Resp`, `SignP384Resp` and `SignMlDsaResp`: the three differ
    in the signature; that of ML-DSA is followed by a padding byte. -/
structure SignResp where
  respHdr : ResponseHdr
  newContextHandle : ContextHandle
  sig : Bytes

def SignResp.asBytes (r : SignResp) : Bytes :=
  r.respHdr.asBytes ++ r.newContextHandle.asBytes ++ r.sig

/-! ## Sizes -/

@[simp] theorem NewHandleResp.asBytes_length (r : NewHandleResp) :
    r.asBytes.length = 28 := by
  simp [NewHandleResp.asBytes]

@[simp] theorem DeriveContextResp.asBytes_length (r : DeriveContextResp) :
    r.asBytes.length = 44 := by
  simp [DeriveContextResp.asBytes]

@[simp] theorem UpdateContextMeasurementResp.asBytes_length
    (r : UpdateContextMeasurementResp) : r.asBytes.length = 44 := by
  simp [UpdateContextMeasurementResp.asBytes]

@[simp] theorem DeriveContextExportedCdiRespHdr.asBytes_length
    (r : DeriveContextExportedCdiRespHdr) : r.asBytes.length = 80 := by
  simp [DeriveContextExportedCdiRespHdr.asBytes]

@[simp] theorem GetCertificateChainResp.asBytes_length
    (r : GetCertificateChainResp) : r.asBytes.length = 2064 := by
  have hchain : r.certificateChain.toList.length = 2048 :=
    r.certificateChain.length_toList
  simp [GetCertificateChainResp.asBytes, hchain]

@[simp] theorem CertifyKeyRespHdr.asBytes_length (r : CertifyKeyRespHdr) :
    r.asBytes.length = 32 + r.pubkey.length := by
  simp [CertifyKeyRespHdr.asBytes]
  omega

@[simp] theorem SignResp.asBytes_length (r : SignResp) :
    r.asBytes.length = 28 + r.sig.length := by
  simp [SignResp.asBytes]
  omega

end Dpe
