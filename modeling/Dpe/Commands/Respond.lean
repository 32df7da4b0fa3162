import Dpe.Commands.Decode

/-! # Responses as values

    `CommandExecution::execute` runs a command on a buffer of the size of
    its response and reads the response out of it.  `Response` has its
    bytes, trimmed or not, and `try_read_from_bytes` reads it back for the
    command that it answers. -/

namespace Dpe

open Layout Prog

variable {b : Build} {W : Type}

/-! ## Sizes -/

/-- `MAX_CERT_SIZE`: a base and a part for each handle, by profile, rounded
    up to a multiple of 4. -/
def Build.maxCertSize (b : Build) : Nat :=
  let size := if b.mlDsa then 12307 + 158 * b.maxHandles
    else if b.p256 then 643 + 126 * b.maxHandles
    else 756 + 159 * b.maxHandles
  (size + 3) / 4 * 4

/-- Width of the public key in a CertifyKey response. -/
def DpeProfile.pubkeySize : DpeProfile → Nat
  | p256Sha256 => 64
  | p384Sha384 => 96
  | mldsa87 => 2592

/-- Width of the signature in a Sign response, with its padding. -/
def DpeProfile.sigSize : DpeProfile → Nat
  | p256Sha256 => 64
  | p384Sha384 => 96
  | mldsa87 => 4628

/-! ## Response structures -/

structure DeriveContextExportedCdiResp (b : Build) where
  header : DeriveContextExportedCdiRespHdr
  newCertificate : Vector UInt8 b.maxCertSize

/-- `CertifyKeyP256Resp`, `CertifyKeyP384Resp` and
    `CertifyKeyMldsa87Resp`. -/
structure CertifyKeyBody (b : Build) where
  header : CertifyKeyRespHdr
  cert : Vector UInt8 b.maxCertSize

/-- `CertifyKeyResp`. -/
inductive CertifyKeyResp (b : Build) where
  | p256 (resp : CertifyKeyBody b)
  | p384 (resp : CertifyKeyBody b)
  | mldsa87 (resp : CertifyKeyBody b)

/-- `SignResp`. -/
inductive SignResponse where
  | p256 (resp : SignResp)
  | p384 (resp : SignResp)
  | mldsa87 (resp : SignResp)

inductive Response (b : Build) where
  | getProfile (res : GetProfileResp)
  | initCtx (res : NewHandleResp)
  | deriveContext (res : DeriveContextResp)
  | deriveContextExportedCdi (res : DeriveContextExportedCdiResp b)
  | rotateCtx (res : NewHandleResp)
  | certifyKey (res : CertifyKeyResp b)
  | sign (res : SignResponse)
  | destroyCtx (res : ResponseHdr)
  | getCertificateChain (res : GetCertificateChainResp)
  | updateContextMeasurement (res : UpdateContextMeasurementResp)
  | error (res : ResponseHdr)

/-! ## Layouts -/

def DpeProfile.ofU32 (x : UInt32) : Option DpeProfile :=
  if x = 3 then some .p256Sha256
  else if x = 4 then some .p384Sha384
  else if x = 5 then some .mldsa87
  else none

theorem DpeProfile.ofU32_iff (x : UInt32) (p : DpeProfile) :
    ofU32 x = some p ↔ p.toU32 = x := by
  unfold ofU32
  constructor
  · intro h
    split at h
    · rename_i hx
      cases h
      exact hx.symm
    split at h
    · rename_i hx
      cases h
      exact hx.symm
    split at h
    · rename_i hx
      cases h
      exact hx.symm
    cases h
  · rintro rfl
    cases p <;> rfl

/-- A profile is a word that names one of the profiles compiled in. -/
def DpeProfile.layout (b : Build) : Layout DpeProfile :=
  (word32.view DpeProfile.toU32 ofU32 ofU32_iff).only b.has

def ResponseHdr.layout (b : Build) : Layout ResponseHdr :=
  .aligned 4 <| (word32.seq (word32.seq (DpeProfile.layout b))).view
    (fun r => (r.magic, r.status, r.profile))
    (fun (magic, status, profile) => some ⟨magic, status, profile⟩)
    fun _ _ => ⟨fun h => by cases h; rfl, fun h => by cases h; rfl⟩

def GetProfileResp.layout (b : Build) : Layout GetProfileResp :=
  .aligned 4 <| ((ResponseHdr.layout b).seq (word16.seq (word16.seq (word32.seq
      (word32.seq (word32.seq word32)))))).view
    (fun r => (r.respHdr, r.majorVersion, r.minorVersion, r.vendorId, r.vendorSku,
      r.maxTciNodes, r.flags))
    (fun (respHdr, majorVersion, minorVersion, vendorId, vendorSku, maxTciNodes,
      flags) => some ⟨respHdr, majorVersion, minorVersion, vendorId, vendorSku,
        maxTciNodes, flags⟩)
    fun _ _ => ⟨fun h => by cases h; rfl, fun h => by cases h; rfl⟩

def NewHandleResp.layout (b : Build) : Layout NewHandleResp :=
  .aligned 4 <| ((ResponseHdr.layout b).seq ContextHandle.layout).view
    (fun r => (r.respHdr, r.handle))
    (fun (respHdr, handle) => some ⟨respHdr, handle⟩)
    fun _ _ => ⟨fun h => by cases h; rfl, fun h => by cases h; rfl⟩

def DeriveContextResp.layout (b : Build) : Layout DeriveContextResp :=
  .aligned 4 <| ((ResponseHdr.layout b).seq (ContextHandle.layout.seq
      ContextHandle.layout)).view
    (fun r => (r.respHdr, r.handle, r.parentHandle))
    (fun (respHdr, handle, parentHandle) => some ⟨respHdr, handle, parentHandle⟩)
    fun _ _ => ⟨fun h => by cases h; rfl, fun h => by cases h; rfl⟩

def UpdateContextMeasurementResp.layout (b : Build) :
    Layout UpdateContextMeasurementResp :=
  .aligned 4 <| ((ResponseHdr.layout b).seq (ContextHandle.layout.seq
      ContextHandle.layout)).view
    (fun r => (r.respHdr, r.newContextHandle, r.newParentContextHandle))
    (fun (respHdr, newContextHandle, newParentContextHandle) =>
      some ⟨respHdr, newContextHandle, newParentContextHandle⟩)
    fun _ _ => ⟨fun h => by cases h; rfl, fun h => by cases h; rfl⟩

def DeriveContextExportedCdiRespHdr.layout (b : Build) :
    Layout DeriveContextExportedCdiRespHdr :=
  .aligned 4 <| ((ResponseHdr.layout b).seq (ContextHandle.layout.seq
      (ContextHandle.layout.seq ((bytes 32).seq word32)))).view
    (fun r => (r.respHdr, r.handle, r.parentHandle, r.exportedCdi, r.certificateSize))
    (fun (respHdr, handle, parentHandle, exportedCdi, certificateSize) =>
      some ⟨respHdr, handle, parentHandle, exportedCdi, certificateSize⟩)
    fun _ _ => ⟨fun h => by cases h; rfl, fun h => by cases h; rfl⟩

def DeriveContextExportedCdiResp.layout (b : Build) :
    Layout (DeriveContextExportedCdiResp b) :=
  .aligned 4 <| ((DeriveContextExportedCdiRespHdr.layout b).seq
      (bytes b.maxCertSize)).view
    (fun r => (r.header, r.newCertificate))
    (fun (header, newCertificate) => some ⟨header, newCertificate⟩)
    fun _ _ => ⟨fun h => by cases h; rfl, fun h => by cases h; rfl⟩

def GetCertificateChainResp.layout (b : Build) : Layout GetCertificateChainResp :=
  .aligned 4 <| ((ResponseHdr.layout b).seq (word32.seq (bytes MAX_CHUNK_SIZE))).view
    (fun r => (r.respHdr, r.certificateSize, r.certificateChain))
    (fun (respHdr, certificateSize, certificateChain) =>
      some ⟨respHdr, certificateSize, certificateChain⟩)
    fun _ _ => ⟨fun h => by cases h; rfl, fun h => by cases h; rfl⟩

/-- The header of the profile: the width of the public key is fixed. -/
def CertifyKeyRespHdr.layout (b : Build) (profile : DpeProfile) :
    Layout CertifyKeyRespHdr :=
  .aligned 4 <| ((ResponseHdr.layout b).seq (ContextHandle.layout.seq
      ((list profile.pubkeySize).seq word32))).view
    (fun r => (r.respHdr, r.newContextHandle, r.pubkey, r.certSize))
    (fun (respHdr, newContextHandle, pubkey, certSize) =>
      some ⟨respHdr, newContextHandle, pubkey, certSize⟩)
    fun _ _ => ⟨fun h => by cases h; rfl, fun h => by cases h; rfl⟩

def CertifyKeyBody.layout (b : Build) (profile : DpeProfile) :
    Layout (CertifyKeyBody b) :=
  .aligned 4 <| ((CertifyKeyRespHdr.layout b profile).seq (bytes b.maxCertSize)).view
    (fun r => (r.header, r.cert)) (fun (header, cert) => some ⟨header, cert⟩)
    fun _ _ => ⟨fun h => by cases h; rfl, fun h => by cases h; rfl⟩

/-- The response of the profile: the width of the signature is fixed. -/
def SignResp.layout (b : Build) (profile : DpeProfile) : Layout SignResp :=
  .aligned 4 <| ((ResponseHdr.layout b).seq (ContextHandle.layout.seq
      (list profile.sigSize))).view
    (fun r => (r.respHdr, r.newContextHandle, r.sig))
    (fun (respHdr, newContextHandle, sig) => some ⟨respHdr, newContextHandle, sig⟩)
    fun _ _ => ⟨fun h => by cases h; rfl, fun h => by cases h; rfl⟩

/-! ## Bytes -/

def DeriveContextExportedCdiResp.asBytes (r : DeriveContextExportedCdiResp b) : Bytes :=
  r.header.asBytes ++ r.newCertificate.toList

def CertifyKeyBody.asBytes (r : CertifyKeyBody b) : Bytes :=
  r.header.asBytes ++ r.cert.toList

/-- The bytes up to the end of the certificate: `get(..len)`, where `len`
    is the size of the structure without its certificate and the size of
    the certificate that is in it. -/
def partialBytes (b : Build) (bytes : Bytes) (size certSize : Nat)
    (e : InternalErrorCode) : Except DpeErrorCode Bytes :=
  let len := size - b.maxCertSize + certSize
  if len ≤ bytes.length then .ok (bytes.take len) else .error (.internalError e)

def DeriveContextExportedCdiResp.asBytesPartial (r : DeriveContextExportedCdiResp b) :
    Except DpeErrorCode Bytes :=
  partialBytes b r.asBytes (layout b).size r.header.certificateSize.toNat
    .deriveCtxRespSliceOob

def CertifyKeyResp.asBytes : CertifyKeyResp b → Bytes
  | p256 resp => resp.asBytes
  | p384 resp => resp.asBytes
  | mldsa87 resp => resp.asBytes

def CertifyKeyResp.asBytesPartial : CertifyKeyResp b → Except DpeErrorCode Bytes
  | p256 resp =>
      partialBytes b resp.asBytes (CertifyKeyBody.layout b .p256Sha256).size
        resp.header.certSize.toNat .certifyKeyP256RespSliceOob
  | p384 resp =>
      partialBytes b resp.asBytes (CertifyKeyBody.layout b .p384Sha384).size
        resp.header.certSize.toNat .certifyKeyP384RespSliceOob
  | mldsa87 resp =>
      partialBytes b resp.asBytes (CertifyKeyBody.layout b .mldsa87).size
        resp.header.certSize.toNat .certifyKeyMldsa87RespSliceOob

def SignResponse.asBytes : SignResponse → Bytes
  | p256 resp => resp.asBytes
  | p384 resp => resp.asBytes
  | mldsa87 resp => resp.asBytes

namespace Response

def asBytesPartial : Response b → Except DpeErrorCode Bytes
  | getProfile res => .ok res.asBytes
  | initCtx res => .ok res.asBytes
  | deriveContext res => .ok res.asBytes
  | deriveContextExportedCdi res => res.asBytesPartial
  | rotateCtx res => .ok res.asBytes
  | certifyKey res => res.asBytesPartial
  | sign res => .ok res.asBytes
  | destroyCtx res => .ok res.asBytes
  | getCertificateChain res => .ok res.asBytes
  | updateContextMeasurement res => .ok res.asBytes
  | error res => .ok res.asBytes

/-! ## Reading back -/

/-- Room for each of the variants; nothing is read behind the one that is
    asked for. -/
def size (b : Build) : Nat :=
  [(GetProfileResp.layout b).size, (NewHandleResp.layout b).size,
    (DeriveContextResp.layout b).size, (DeriveContextExportedCdiResp.layout b).size,
    (CertifyKeyBody.layout b .p256Sha256).size,
    (CertifyKeyBody.layout b .p384Sha384).size,
    (CertifyKeyBody.layout b .mldsa87).size, (SignResp.layout b .p256Sha256).size,
    (SignResp.layout b .p384Sha384).size, (SignResp.layout b .mldsa87).size,
    (ResponseHdr.layout b).size, (GetCertificateChainResp.layout b).size,
    (UpdateContextMeasurementResp.layout b).size].foldr max 0

/-- The bytes in an aligned buffer: cut off at its end, or followed by
    zeros. -/
def buffer (b : Build) (bytes : Bytes) : Bytes :=
  bytes.take (size b) ++ .replicate (size b - bytes.length) 0

def readAs {α : Type} (l : Layout α) (build : α → Response b) (bytes : Bytes) :
    Except DpeErrorCode (Response b) :=
  match l.ofBytes bytes with
  | some r => .ok (build r)
  | none => .error .invalidArgument

/-- `Response::try_read_from_bytes`. -/
def tryReadFromBytes (cmd : Command b) (bytes : Bytes) :
    Except DpeErrorCode (Response b) :=
  let bytes := buffer b bytes
  match cmd with
  | .certifyKey (.p256 _) =>
      readAs (CertifyKeyBody.layout b .p256Sha256) (certifyKey <| .p256 ·) bytes
  | .certifyKey (.p384 _) =>
      readAs (CertifyKeyBody.layout b .p384Sha384) (certifyKey <| .p384 ·) bytes
  | .certifyKey (.mldsa87 _) =>
      readAs (CertifyKeyBody.layout b .mldsa87) (certifyKey <| .mldsa87 ·) bytes
  | .deriveContext cmd =>
      if cmd.flags.exportsCdi then
        readAs (DeriveContextExportedCdiResp.layout b) deriveContextExportedCdi bytes
      else readAs (DeriveContextResp.layout b) deriveContext bytes
  | .getCertificateChain _ =>
      readAs (GetCertificateChainResp.layout b) getCertificateChain bytes
  | .destroyCtx _ => readAs (ResponseHdr.layout b) destroyCtx bytes
  | .getProfile _ => readAs (GetProfileResp.layout b) getProfile bytes
  | .initCtx _ => readAs (NewHandleResp.layout b) initCtx bytes
  | .rotateCtx _ => readAs (NewHandleResp.layout b) rotateCtx bytes
  | .sign (.p256 ..) => readAs (SignResp.layout b .p256Sha256) (sign <| .p256 ·) bytes
  | .sign (.p384 ..) => readAs (SignResp.layout b .p384Sha384) (sign <| .p384 ·) bytes
  | .sign (.mldsa87 ..) =>
      readAs (SignResp.layout b .mldsa87) (sign <| .mldsa87 ·) bytes
  | .sign (.mldsa87Raw ..) =>
      readAs (SignResp.layout b .mldsa87) (sign <| .mldsa87 ·) bytes
  | .updateContextMeasurement _ =>
      readAs (UpdateContextMeasurementResp.layout b) updateContextMeasurement bytes

end Response

/-! ## Executing -/

/-- A zeroed buffer of whole words that holds a value of the size. -/
def wordBuffer (size : Nat) : Bytes := .replicate ((size + 3) / 4 * 4) 0

/-- `exec!`: run on a buffer of the size of the response, and read the
    response out of it. -/
def exec {α : Type} (l : Layout α) (build : α → Response b) (run : M b W Nat) :
    M b W (Response b) := do
  let (_, out) ← withBuffer (wordBuffer l.size) run
  match l.tryReadFromBytes out.bytes with
  | some r => pure (build r)
  | none => throw (.err (.internalError .responseDeserializationFailed))

/-- `CommandExecution::execute`. -/
def Command.execute (d : Deps b W) (dpe : DpeInstance b) (locality : UInt32)
    (cmd : Command b) : M b W (Response b) :=
  let run := cmd.executeSerialized d dpe locality
  match cmd with
  | .getProfile _ => exec (GetProfileResp.layout b) .getProfile run
  | .initCtx _ => exec (NewHandleResp.layout b) .initCtx run
  | .deriveContext cmd =>
      if cmd.flags.exportsCdi then
        exec (DeriveContextExportedCdiResp.layout b) .deriveContextExportedCdi run
      else exec (DeriveContextResp.layout b) .deriveContext run
  | .certifyKey (.p384 _) =>
      exec (CertifyKeyBody.layout b .p384Sha384) (.certifyKey <| .p384 ·) run
  | .certifyKey (.p256 _) =>
      exec (CertifyKeyBody.layout b .p256Sha256) (.certifyKey <| .p256 ·) run
  | .certifyKey (.mldsa87 _) =>
      exec (CertifyKeyBody.layout b .mldsa87) (.certifyKey <| .mldsa87 ·) run
  | .sign (.p384 ..) => exec (SignResp.layout b .p384Sha384) (.sign <| .p384 ·) run
  | .sign (.p256 ..) => exec (SignResp.layout b .p256Sha256) (.sign <| .p256 ·) run
  | .sign (.mldsa87 ..) => exec (SignResp.layout b .mldsa87) (.sign <| .mldsa87 ·) run
  | .sign (.mldsa87Raw ..) =>
      exec (SignResp.layout b .mldsa87) (.sign <| .mldsa87 ·) run
  | .destroyCtx _ => exec (ResponseHdr.layout b) .destroyCtx run
  | .getCertificateChain _ =>
      exec (GetCertificateChainResp.layout b) .getCertificateChain run
  | .rotateCtx _ => exec (NewHandleResp.layout b) .rotateCtx run
  | .updateContextMeasurement _ =>
      exec (UpdateContextMeasurementResp.layout b) .updateContextMeasurement run

end Dpe
