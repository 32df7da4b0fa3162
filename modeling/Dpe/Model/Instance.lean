import Dpe.Model.Env
import Dpe.Model.Response

/-! # The DPE instance — handles, measurements, the measurement hash

    The functions of `dpe_instance.rs` that the commands share, and the
    walk from a context to the root of its tree. -/

namespace Dpe

open Prog

variable {b : Build} {W : Type}

/-- An instance runs one of the profiles it was compiled with. -/
structure DpeInstance (b : Build) where
  profile : DpeProfile
  enabled : b.has profile = true

/-! ## From the root to a context -/

/-- The slots as a slice. -/
def State.slice (s : State b) : List (Context b) := List.ofFn s.contexts

/-- An iterator that traverses the nodes along a root-to-leaf path.  The
    path is stored from the leaf to the root. -/
structure RootToChildIter (b : Build) where
  contexts : List (Context b)
  path : List Nat

namespace RootToChildIter

/-- Get the context at index `idx` and validate it. -/
def getContext (contexts : List (Context b)) (idx : Nat) :
    Except DpeErrorCode (Context b) :=
  match contexts[idx]? with
  | none => .error InternalErrorCode.contextIndexOob
  | some context =>
      let validParentIdx := context.parentIdx.toNat ≤ b.maxHandles - 1
        || context.parentIdx == Context.ROOT_INDEX
      if !validParentIdx || context.state == .inactive then
        .error .invalidHandle
      else .ok context

/-- The indices from `currIdx` to the root, with room for `room` of
    them. -/
def walk (contexts : List (Context b)) :
    (room : Nat) → (currIdx : Nat) → Except DpeErrorCode (List Nat)
  | room, currIdx =>
      match getContext contexts currIdx with
      | .error e => .error e
      | .ok context =>
          match room with
          | 0 => .error InternalErrorCode.tciNodeCountExceeded
          | room + 1 =>
              if context.parentIdx == Context.ROOT_INDEX then .ok [currIdx]
              else
                match walk contexts room context.parentIdx.toNat with
                | .error e => .error e
                | .ok path => .ok (currIdx :: path)

def new (leafIdx : Nat) (contexts : List (Context b)) :
    Except DpeErrorCode (RootToChildIter b) :=
  match walk contexts b.maxHandles leafIdx with
  | .error e => .error e
  | .ok path => .ok { contexts := contexts, path := path }

def numNodes (it : RootToChildIter b) : Nat := it.path.length

/-- The first context of the slice. -/
def firstNode (it : RootToChildIter b) : Except DpeErrorCode (Context b) :=
  match it.contexts.head? with
  | none => .error InternalErrorCode.contextIndexOob
  | some context => .ok context

/-- What `next` yields for the indices left: each node is validated
    again, and nothing follows an error. -/
def yields (contexts : List (Context b)) :
    List Nat → List (Except DpeErrorCode (Context b))
  | [] => []
  | idx :: rest =>
      match getContext contexts idx with
      | .error e => [.error e]
      | .ok context => .ok context :: yields contexts rest

/-- The nodes from the root to the leaf. -/
def items (it : RootToChildIter b) : List (Except DpeErrorCode (Context b)) :=
  yields it.contexts it.path.reverse

end RootToChildIter

/-- The iterator as it is stepped: the index into the path, and whether
    all items have been produced. -/
structure RootToChildCursor (b : Build) where
  contexts : List (Context b)
  pathIdx : UInt64
  path : List UInt8
  done : Bool

/-- The iterator that `new` returns. -/
def RootToChildIter.cursor (it : RootToChildIter b) : RootToChildCursor b where
  contexts := it.contexts
  pathIdx := UInt64.ofNat it.path.length - 1
  path := it.path.map UInt8.ofNat
  done := false

namespace RootToChildCursor

def next (it : RootToChildCursor b) :
    Option (Except DpeErrorCode (Context b)) × RootToChildCursor b :=
  if it.done then (none, it)
  else
    match it.path[it.pathIdx.toNat]? with
    | none => (some (.error InternalErrorCode.childIndexOob), { it with done := true })
    | some idx =>
        match RootToChildIter.getContext it.contexts idx.toNat with
        | .error e => (some (.error e), { it with done := true })
        | .ok context =>
            if it.pathIdx == 0 then (some (.ok context), { it with done := true })
            else (some (.ok context), { it with pathIdx := it.pathIdx - 1 })

/-- What the next `n` calls of `next` return. -/
def nexts : Nat → RootToChildCursor b → List (Option (Except DpeErrorCode (Context b)))
  | 0, _ => []
  | n + 1, it => it.next.1 :: nexts n it.next.2

end RootToChildCursor

/-! ## Handles -/

def MAX_NEW_HANDLE_ATTEMPTS : Nat := 8

variable (d : Deps b W)

/-- The attempts left of `generateNewHandle`. -/
def newHandleAttempts : Nat → M b W ContextHandle
  | 0 => throw (.err InternalErrorCode.handleGenerationExhausted)
  | attempts + 1 => do
      let bytes ← randBytes d
      let handle : ContextHandle := ⟨bytes⟩
      let env ← get
      if !handle.isDefault
          && !env.state.slice.any (fun c => c.handle == handle) then
        pure handle
      else newHandleAttempts attempts

/-- Generates a random context handle that is unique from all other
    context handles. -/
def generateNewHandle : M b W ContextHandle :=
  newHandleAttempts d MAX_NEW_HANDLE_ATTEMPTS

/-- Rolls the context handle if the context is not the default
    context. -/
def rollOnetimeUseHandle (context : Context b) : M b W (Context b) :=
  if !context.handle.isDefault then do
    let handle ← generateNewHandle d
    pure { context with handle := handle }
  else pure context

/-! ## Measurements -/

/-- `digest_bytes.len() != tci_cumulative.len()`, then the copy. -/
def measurementOfDigest (b : Build) (digest : Digest) :
    Except DpeErrorCode (TciMeasurement b) :=
  if h : digest.asSlice.length = b.tciSize then
    .ok ⟨digest.asSlice.toArray, by simpa using h⟩
  else .error InternalErrorCode.digestLengthMismatch

/-- Adds `measurement` to `context`: the current TCI is the measurement
    and the cumulative TCI is the hash of the old one and the
    measurement. -/
def addTciMeasurement (context : Context b) (measurement : TciMeasurement b)
    (locality : UInt32) : M b W (Context b) := do
  reject (context.state != .active) .invalidHandle
  reject (context.locality != locality) .invalidLocality
  let digest ← hashAll d [context.tci.tciCumulative.toList, measurement.toList]
  let cumulative ← orFail (measurementOfDigest b digest)
  pure { context with
    tci := { context.tci with
      tciCumulative := cumulative, tciCurrent := measurement } }

/-! ## The measurement hash -/

variable (dpe : DpeInstance b)

def getProfile (support : Support) : M b W GetProfileResp := do
  let vendorId ← callPlatform d.platform.getVendorId
  let vendorSku ← callPlatform d.platform.getVendorSku
  pure (.new b dpe.profile support.bits vendorId vendorSku)

/-- The profile response and the profile, as bytes. -/
def serializeInternalInputInfo (support : Support) : M b W Bytes := do
  let profile ← getProfile d dpe support
  pure (profile.asBytes ++ toLeBytes dpe.profile.toU32)

/-- Hash each node of the path, and find out whether one of them uses
    internal inputs. -/
def hashNodes (info dice : Bool) :
    List (Except DpeErrorCode (Context b)) → M b W (Bool × Bool)
  | [] => pure (info, dice)
  | status :: rest => do
      let context ← orFail status
      updateHash d context.tci.asBytes
      updateHash d [if context.allowX509 then 1 else 0]
      hashNodes (info || context.usesInternalInputInfo)
        (dice || context.usesInternalInputDice) rest

/-- Hash the platform's certificate chain chunk by chunk, until the
    platform reports an error.  The chunk buffer is reused. -/
def hashCertificateChain : Nat → UInt32 → Vector UInt8 MAX_CHUNK_SIZE →
    M b W PUnit
  | 0, _, _ => throw .noReturn
  | fuel + 1, offset, certChunk => do
      let r ← tryPlatform (d.platform.getCertificateChain offset
        (UInt32.ofNat MAX_CHUNK_SIZE) certChunk)
      match r with
      | .error _ => pure ⟨⟩
      | .ok (len, chunk) => do
          reject (decide (MAX_CHUNK_SIZE < len.toNat))
            InternalErrorCode.certChainChunkSliceOob
          updateHash d (chunk.toList.take len.toNat)
          hashCertificateChain fuel (offset + len) chunk

/-- Add internal input info to the hash. -/
def hashInternalInfo (support : Support) (info : Bool) : M b W PUnit :=
  if info && !b.disabled.internalInfo then do
    let internalInputInfo ← serializeInternalInputInfo d dpe support
    updateHash d internalInputInfo
  else pure ⟨⟩

/-- Add internal input dice to the hash. -/
def hashInternalDice (dice : Bool) : M b W PUnit :=
  if dice && !b.disabled.internalDice then
    hashCertificateChain d d.fuel 0 (.replicate MAX_CHUNK_SIZE 0)
  else pure ⟨⟩

/-- Compute the measurement hash of a context: the hash of the nodes from
    the root of its tree down to it, and of the internal inputs. -/
def computeMeasurementHash (startIdx : Nat) : M b W Digest := do
  startHash d
  let env ← get
  let iter ← orFail (RootToChildIter.new startIdx env.state.slice)
  let inputs ← hashNodes d false false iter.items
  hashInternalInfo d dpe env.state.support inputs.1
  hashInternalDice d inputs.2
  finishHash d

end Dpe
