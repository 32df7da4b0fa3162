import Dpe.Client.Abi

/-! # The methods of the client

    Each method checks its arguments, writes its command, and makes its
    result out of the response; `GetCertificateChain` does so until it has
    the whole chain.  `call` is the interface `DPEClient`. -/

namespace Dpe

open Layout Prog

variable {b : Build} {W : Type}

namespace Client

/-! ## Requests and results -/

/-- A call of a method. -/
inductive Request where
  | initializeContext (flags : UInt32)
  | getProfile
  | certifyKey (handle : ContextHandle) (label : Bytes) (format flags : UInt32)
  | getCertificateChain
  | destroyContext (handle : ContextHandle)
  | deriveContext (handle : ContextHandle) (inputData : Bytes)
      (flags tciType targetLocality : UInt32)
  | rotateContextHandle (handle : ContextHandle) (flags : UInt32)
  | sign (handle : ContextHandle) (label : Bytes) (flags : UInt32) (toBeSigned : Bytes)
  | signRaw (handle : ContextHandle) (label rawData : Bytes)
  | updateContextMeasurement (parentHandle : ContextHandle) (inputData : Bytes)
      (tciType : UInt32)

structure GetProfileResp where
  profile : UInt32
  majorVersion : UInt16
  minorVersion : UInt16
  vendorId : UInt32
  vendorSku : UInt32
  maxTciNodes : UInt32
  flags : UInt32

/-- What a method returns; `chunk` is what a round of the loop over the
    certificate chain has read. -/
inductive Result where
  | handle (handle : ContextHandle)
  | profile (resp : GetProfileResp)
  | certified (handle : ContextHandle) (x y certificate : Bytes)
  | chunk (certificateSize : UInt32) (certificateChain : Bytes)
  | certificateChain (certs : Bytes)
  | destroyed
  | derived (newContextHandle parentContextHandle : ContextHandle)
      (exportedCdi : Bytes) (certificateSize : UInt32) (newCertificate : Bytes)
  | signedEcdsa (handle : ContextHandle) (r s : Bytes)
  | signedMldsa (handle : ContextHandle) (signature : Bytes)
  | updated (newContextHandle newParentContextHandle : ContextHandle)

def SignRawMaxSize : Nat := 1024
def SignFlagIsRaw : UInt32 := flagBit 0
def CdiExport : UInt32 := flagBit 23

/-- `SendCmd`: bytes there, and bytes back. -/
abbrev Transport (b : Build) (W : Type) := Bytes → M b W Bytes

/-- `execCommand`, for a command that is already bytes. -/
def execCmd {α : Type} (t : Transport b W) (code profile : UInt32) (cmd : Bytes)
    (rsp : Layout α) : M b W (Except Error (RespHdr × α × Bytes)) := do
  let resp ← t (commandHdr code profile ++ cmd)
  pure (readResponse rsp resp)

/-- `getProfile`; its code is 1 in all revisions, and the profile of the
    command is 0. -/
def getProfile (t : Transport b W) : M b W (Except CallError GetProfileResp) := do
  let r ← execCmd t 0x1 0 []
    (word16.seq (word16.seq (word32.seq (word32.seq (word32.seq word32)))))
  pure <| onResponse r
    fun respHdr (majorVersion, minorVersion, vendorId, vendorSku, maxTciNodes, flags) _ =>
      .ok {
        profile := respHdr.profile
        majorVersion := majorVersion
        minorVersion := minorVersion
        vendorId := vendorId
        vendorSku := vendorSku
        maxTciNodes := maxTciNodes
        flags := flags }

/-- `newDPEABI`.  The number of TCI nodes is not copied. -/
def newDPEABI (params : Params) (t : Transport b W) :
    M b W (Except CallError DPEABI) := do
  let rsp ← Client.getProfile t
  match rsp with
  | .error e => pure (.error e)
  | .ok rsp =>
      match dpeProfileImplementsTypeConstraints params rsp.profile with
      | .error e => pure (.error e)
      | .ok () =>
          let connection (codes : ProfileCommandCodes) : DPEABI :=
            { params := params
              codes := codes
              profile := rsp.profile
              majorVersion := rsp.majorVersion
              minorVersion := rsp.minorVersion
              vendorId := rsp.vendorId
              vendorSku := rsp.vendorSku
              maxTciNodes := 0
              flags := rsp.flags }
          if rsp.majorVersion == 0 && rsp.minorVersion == 8 then
            pure (.ok (connection getProfileInfoV08))
          else if rsp.majorVersion == 0 && decide (9 ≤ rsp.minorVersion) then
            pure (.ok (connection getProfileInfoV09))
          else pure (.error (.unknownVersion rsp.majorVersion rsp.minorVersion))

/-- `NewClient`. -/
def newClient (t : Transport b W) (p : UInt32) : M b W (Except CallError DPEABI) :=
  if p = ProfileMinP256SHA256 then newDPEABI DPEABI256Min t
  else if p = ProfileMinP384SHA384 then newDPEABI DPEABI384Min t
  else if p = ProfileP256SHA256 then newDPEABI DPEABI256 t
  else if p = ProfileP384SHA384 then newDPEABI DPEABI384 t
  else if p = ProfileMldsa87 then newDPEABI DPEABIMldsa87 t
  else pure (.error (.cannotCreate p))

/-- A certificate of the size that was reported, if that makes sense. -/
def readCert (params : Params) (certificateSize : UInt32) (r : Bytes) :
    Except CallError Bytes :=
  if params.cert.certLen < certificateSize.toNat then
    .error (.certTooLarge certificateSize)
  else
    match binaryRead (list certificateSize.toNat) r with
    | .error e => .error (.wire e)
    | .ok (cert, _) => .ok cert

/-- What reading the chain has come to. -/
def chainResult : Except Error Bytes → Except CallError Result
  | .error e => .error (.wire e)
  | .ok certs => .ok (.certificateChain certs)

end Client

namespace DPEABI

open Client

variable (c : DPEABI) (t : Transport b W)

/-! ## Methods -/

def initializeContext (flags : UInt32) : M b W (Except CallError Result) := do
  let r ← execCmd t c.codes.initializeContext c.profile (toLeBytes flags)
    ContextHandle.layout
  pure <| onResponse r fun _ handle _ => .ok (.handle handle)

/-- `CertifyKey` and `CertifyKeyABI`: the public key of ML-DSA is one
    number, that of the curves is two. -/
def certifyKey (handle : ContextHandle) (label : Bytes) (format flags : UInt32) :
    M b W (Except CallError Result) :=
  if label.length ≠ c.params.digest.digestLen then pure (.error .invalidLabelLength)
  else
    let cmd := handle.asBytes ++ toLeBytes flags ++ toLeBytes format ++ label
    if c.profile = ProfileMldsa87 then do
      let r ← execCmd t c.codes.certifyKey c.profile cmd
        (ContextHandle.layout.seq ((list c.params.curve.intLen).seq word32))
      pure <| onResponse r
        fun _ (newContextHandle, derivedPublicKey, certificateSize) rest => do
          let certificate ← readCert c.params certificateSize rest
          .ok (.certified newContextHandle derivedPublicKey
            (.replicate c.params.curve.intLen 0) certificate)
    else do
      let r ← execCmd t c.codes.certifyKey c.profile cmd
        (ContextHandle.layout.seq ((list c.params.curve.intLen).seq
          ((list c.params.curve.intLen).seq word32)))
      pure <| onResponse r
        fun _ (newContextHandle, x, y, certificateSize) rest => do
          let certificate ← readCert c.params certificateSize rest
          .ok (.certified newContextHandle x y certificate)

/-- A round of the loop of `GetCertificateChainABI`. -/
def getCertificateChunk (offset : UInt32) : M b W (Except Error (UInt32 × Bytes)) := do
  let r ← execCmd t c.codes.getCertificateChain c.profile
    (toLeBytes offset ++ toLeBytes MaxChunkSize) (word32.seq (list 2048))
  pure (r.map fun (_, chunk, _) => chunk)

/-- `GetCertificateChain` and `GetCertificateChainABI`, for so many rounds
    of its loop. -/
def getCertificateChain (rounds : Nat) : M b W (Except CallError Result) := do
  let certs ← readChain (c.getCertificateChunk t) rounds 0 []
  pure (chainResult certs)

def destroyContext (handle : ContextHandle) : M b W (Except CallError Result) := do
  let r ← execCmd t c.codes.destroyContext c.profile handle.asBytes
    (Layout.unit () fun _ => rfl)
  pure <| onResponse r fun _ _ _ => .ok .destroyed

/-- `DeriveContext` and `DeriveContextABI`: the shape of the response
    changes if a CDI is exported. -/
def deriveContext (handle : ContextHandle) (inputData : Bytes)
    (flags tciType targetLocality : UInt32) : M b W (Except CallError Result) :=
  if inputData.length ≠ c.params.digest.digestLen then pure (.error .invalidDigestLength)
  else
    let cmd := handle.asBytes ++ inputData ++ toLeBytes flags ++ toLeBytes tciType
      ++ toLeBytes targetLocality ++ toLeBytes 0
    if contains flags CdiExport then do
      let r ← execCmd t c.codes.deriveContext c.profile cmd
        (ContextHandle.layout.seq (ContextHandle.layout.seq ((list 32).seq word32)))
      pure <| onResponse r
        fun _ (newContextHandle, parentContextHandle, exportedCdi, certificateSize) rest =>
          match binaryRead (list certificateSize.toNat) rest with
          | .error e => .error (.wire e)
          | .ok (cert, _) =>
              .ok (.derived newContextHandle parentContextHandle exportedCdi
                certificateSize cert)
    else do
      let r ← execCmd t c.codes.deriveContext c.profile cmd
        (ContextHandle.layout.seq ContextHandle.layout)
      pure <| onResponse r
        fun _ (newContextHandle, parentContextHandle) _ =>
          .ok (.derived newContextHandle parentContextHandle (.replicate 32 0) 0 [])

def rotateContextHandle (handle : ContextHandle) (flags : UInt32) :
    M b W (Except CallError Result) := do
  let r ← execCmd t c.codes.rotateContextHandle c.profile
    (handle.asBytes ++ toLeBytes flags) ContextHandle.layout
  pure <| onResponse r fun _ newContextHandle _ => .ok (.handle newContextHandle)

/-- `Sign` and `SignABI`: the response is read as a signature of the type
    parameter, and taken for one of the profile. -/
def sign (handle : ContextHandle) (label : Bytes) (flags : UInt32)
    (toBeSigned : Bytes) : M b W (Except CallError Result) :=
  if label.length ≠ c.params.digest.digestLen then pure (.error .invalidLabelLength)
  else if toBeSigned.length ≠ c.params.signData.digestLen then
    pure (.error .invalidToBeSignedLength)
  else
    let cmd := handle.asBytes ++ label ++ toLeBytes flags ++ toBeSigned
    match c.params.signature with
    | .mldsa87 => do
        let r ← execCmd t c.codes.sign c.profile cmd
          (ContextHandle.layout.seq (list 4627))
        pure <| onResponse r fun _ (newContextHandle, signature) _ =>
          if c.profile = ProfileMldsa87 then
            .ok (.signedMldsa newContextHandle signature)
          else .error .invalidSignatureType
    | .ecdsa digest => do
        let r ← execCmd t c.codes.sign c.profile cmd
          (ContextHandle.layout.seq ((list digest.digestLen).seq
            (list digest.digestLen)))
        pure <| onResponse r fun _ (newContextHandle, r, s) _ =>
          if c.profile ≠ ProfileMldsa87 ∧ digest = c.params.digest then
            .ok (.signedEcdsa newContextHandle r s)
          else .error .invalidSignatureType

/-- `SignRaw`: the data is filled up with zeros. -/
def signRaw (handle : ContextHandle) (label rawData : Bytes) :
    M b W (Except CallError Result) :=
  if c.profile ≠ ProfileMldsa87 then pure (.error .signRawNotImplemented)
  else if label.length ≠ c.params.digest.digestLen then
    pure (.error .invalidLabelLength)
  else if SignRawMaxSize < rawData.length then pure (.error .rawDataTooLarge)
  else do
    let rawBuf := rawData ++ .replicate (SignRawMaxSize - rawData.length) 0
    let cmd := handle.asBytes ++ label ++ toLeBytes SignFlagIsRaw
      ++ toLeBytes (UInt32.ofNat rawData.length) ++ rawBuf
    let r ← execCmd t c.codes.sign c.profile cmd
      (ContextHandle.layout.seq ((list 4627).seq (list 1)))
    pure <| onResponse r fun _ (newContextHandle, signature, _) _ =>
      .ok (.signedMldsa newContextHandle signature)

def updateContextMeasurement (parentHandle : ContextHandle) (inputData : Bytes)
    (tciType : UInt32) : M b W (Except CallError Result) :=
  if inputData.length ≠ c.params.digest.digestLen then pure (.error .invalidDigestLength)
  else do
    let cmd := parentHandle.asBytes ++ inputData ++ toLeBytes 0 ++ toLeBytes tciType
      ++ toLeBytes 0
    let r ← execCmd t c.codes.updateContextMeasurement c.profile cmd
      (ContextHandle.layout.seq ContextHandle.layout)
    pure <| onResponse r fun _ (newContextHandle, newParentContextHandle) _ =>
      .ok (.updated newContextHandle newParentContextHandle)

/-- `DPEClient`. -/
def call (rounds : Nat) : Request → M b W (Except CallError Result)
  | .initializeContext flags => c.initializeContext t flags
  | .getProfile => do
      let r ← Client.getProfile t
      pure (r.map .profile)
  | .certifyKey handle label format flags => c.certifyKey t handle label format flags
  | .getCertificateChain => c.getCertificateChain t rounds
  | .destroyContext handle => c.destroyContext t handle
  | .deriveContext handle inputData flags tciType targetLocality =>
      c.deriveContext t handle inputData flags tciType targetLocality
  | .rotateContextHandle handle flags => c.rotateContextHandle t handle flags
  | .sign handle label flags toBeSigned => c.sign t handle label flags toBeSigned
  | .signRaw handle label rawData => c.signRaw t handle label rawData
  | .updateContextMeasurement parentHandle inputData tciType =>
      c.updateContextMeasurement t parentHandle inputData tciType

end DPEABI

namespace Client

/-- `DpeSimulator.SendCmd`: the locality goes before the command.  A
    simulator that panics closes the connection, and there is nothing to
    read. -/
def sendCmd (d : Deps b W) (dpe : DpeInstance b) (address : Nat)
    (currentLocality : UInt32) : Transport b W := fun buf => do
  let resp ← Simulator.handleRequest d dpe address (toLeBytes currentLocality ++ buf)
  pure (resp.getD [])

end Client

end Dpe
