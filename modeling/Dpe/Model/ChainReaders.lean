import Dpe.Commands.Context

/-! # Readers of the certificate chain

    The rule by which the default platform serves its certificate chain,
    what an instance answers to GetCertificateChain over the wire, and
    the loop of the client that reads the chain back. -/

namespace Dpe

variable {b : Build} {W : Type}

/-! ## The default platform -/

/-- `core::cmp::min`. -/
def cmpMin (a c : UInt32) : UInt32 := if a ≤ c then a else c

/-- `out[..n].copy_from_slice(&certChain[offset..offset + n])`. -/
def copyFromChain (certChain : Bytes) (offset n : Nat)
    (out : Vector UInt8 MAX_CHUNK_SIZE) : Vector UInt8 MAX_CHUNK_SIZE :=
  .ofFn fun i => if i.val < n then certChain.getD (offset + i.val) 0 else out[i]

/-- `DefaultPlatform::get_certificate_chain`, with overflow checked; `none`
    is a panic.  Where overflow is not checked, a sum that overflows makes
    the range of the copy end before it starts, which panics too, if `size`
    is at most a chunk; a larger `size` is then a `CertificateChainError`.
    No reader asks for more than a chunk. -/
def DefaultPlatform.getCertificateChain (certChain : Bytes) (offset size : UInt32)
    (out : Vector UInt8 MAX_CHUNK_SIZE) :
    Option (Except PlatformError (UInt32 × Vector UInt8 MAX_CHUNK_SIZE)) :=
  let len := UInt32.ofNat certChain.length
  if len ≤ offset then some (.error .certificateChainError)
  else if 2 ^ 32 ≤ offset.toNat + size.toNat then none
  else
    let certChunkRangeEnd := cmpMin (offset + size) len
    let bytesWritten := certChunkRangeEnd - offset
    if MAX_CHUNK_SIZE < bytesWritten.toNat then some (.error .certificateChainError)
    else
      some (.ok (bytesWritten,
        copyFromChain certChain offset.toNat bytesWritten.toNat out))

/-! ## Over the wire -/

/-- The bytes that an instance answers with to GetCertificateChain: the
    response, or a header with the code of an error. -/
def GetCertificateChainCmd.answer (d : Deps b W) (dpe : DpeInstance b)
    (cmd : GetCertificateChainCmd) (locality : UInt32) : M b W Bytes := fun env =>
  match withBuffer (List.replicate 2064 0) (cmd.executeSerialized d dpe locality) env with
  | .ok (_, buf) env' => .ok buf.bytes env'
  | .error (.err e) env' => .ok (dpe.responseHdr e).asBytes env'
  | .error .noReturn env' => .error .noReturn env'

namespace Client

def RespMagic : UInt32 := 0x44504552
def StatusInvalidArgument : UInt32 := 0x3
def MaxChunkSize : UInt32 := 2048

/-- The errors of the client; `sliceOutOfRange` is a run-time panic. -/
inductive Error where
  | unexpectedEof
  | invalidRespMagic
  | status (s : UInt32)
  | emptyCertificateChain
  | sliceOutOfRange
  deriving DecidableEq, Repr

/-- `binary.Read` of a little-endian `uint32`, and what is left. -/
def readUint32 : Bytes → Except Error (UInt32 × Bytes)
  | b0 :: b1 :: b2 :: b3 :: r =>
      .ok (.ofNat (b0.toNat + b1.toNat * 2 ^ 8 + b2.toNat * 2 ^ 16 + b3.toNat * 2 ^ 24), r)
  | _ => .error .unexpectedEof

/-- `binary.Read` of an array of `n` bytes. -/
def readArray (n : Nat) (r : Bytes) : Except Error Bytes :=
  if r.length < n then .error .unexpectedEof else .ok (r.take n)

/-- Check that the response header has all expected values and did not
    indicate an error. -/
def checkRespHdr (magic status : UInt32) : Except Error Unit :=
  if magic != RespMagic then .error .invalidRespMagic
  else if status != 0 then .error (.status status)
  else .ok ()

/-- What `execCommand` makes of a response to GetCertificateChain: the
    certificate size and the 2048 bytes of the chunk. -/
def execCommand (resp : Bytes) : Except Error (UInt32 × Bytes) := do
  let (magic, r) ← readUint32 resp
  let (status, r) ← readUint32 r
  let (_, r) ← readUint32 r
  checkRespHdr magic status
  let (certificateSize, r) ← readUint32 r
  let certificateChain ← readArray 2048 r
  pure (certificateSize, certificateChain)

/-- What the loop returns once it has stopped. -/
def finish (certs : Bytes) : Except Error Bytes :=
  if certs.isEmpty then .error .emptyCertificateChain else .ok certs

/-- The loop of `GetCertificateChainABI`, for so many rounds; `round` asks
    for the chunk at an offset. -/
def readChain (round : UInt32 → M b W (Except Error (UInt32 × Bytes))) :
    (rounds : Nat) → (offset : UInt32) → (certs : Bytes) → M b W (Except Error Bytes)
  | 0, _, _ => throw .noReturn
  | rounds + 1, offset, certs => do
      let r ← round offset
      match r with
      | .error (.status s) =>
          -- no more bytes to be read in the certificate chain
          if s == StatusInvalidArgument then pure (finish certs)
          else pure (.error (.status s))
      | .error e => pure (.error e)
      | .ok (certificateSize, certificateChain) =>
          if 2048 < certificateSize.toNat then pure (.error .sliceOutOfRange)
          else
            let certs := certs ++ certificateChain.take certificateSize.toNat
            if certificateSize < MaxChunkSize then pure (finish certs)
            else readChain round rounds (offset + MaxChunkSize) certs

/-- `GetCertificateChainABI`, on the bytes that the instance answers with. -/
def getCertificateChainABI (d : Deps b W) (dpe : DpeInstance b) (locality : UInt32) :
    (rounds : Nat) → (offset : UInt32) → (certs : Bytes) → M b W (Except Error Bytes) :=
  readChain fun offset => do
    let resp ← GetCertificateChainCmd.answer d dpe ⟨offset, MaxChunkSize⟩ locality
    pure (execCommand resp)

end Client

end Dpe
