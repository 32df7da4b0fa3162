import Dpe.Model.Instance

/-! # Commands on contexts

    `InitializeContext`, `RotateContextHandle`, `DestroyContext`,
    `UpdateContextMeasurement`, `GetProfile` and `GetCertificateChain`.
    Each is its `execute_serialized`: a program that ends in the number of
    bytes written to the output buffer. -/

namespace Dpe

open Prog

variable {b : Build} {W : Type} (d : Deps b W) (dpe : DpeInstance b)

def DpeInstance.responseHdr (dpe : DpeInstance b) (e : DpeErrorCode) :
    ResponseHdr := .new dpe.profile e

/-- Write the whole response at the start of the output buffer. -/
def respond (bytes : Bytes) : M b W Nat := do
  writeAt 0 bytes .invalidResponseBuf
  pure bytes.length

/-- `env.state().contexts[idx] = c`. -/
def setContext (idx : Fin b.maxHandles) (c : Context b) : M b W PUnit :=
  modify fun env => { env with state := env.state.set idx c }

/-! ## InitializeContext -/

structure InitCtxCmd where
  bits : UInt32

namespace InitCtxCmd

def SIMULATION_FLAG_MASK : UInt32 := flagBit 31
def DEFAULT_FLAG_MASK : UInt32 := flagBit 30

def newUseDefault : InitCtxCmd := ⟨DEFAULT_FLAG_MASK⟩
def newSimulation : InitCtxCmd := ⟨SIMULATION_FLAG_MASK⟩

def flagIsSimulation (cmd : InitCtxCmd) : Bool :=
  contains cmd.bits SIMULATION_FLAG_MASK
def flagIsDefault (cmd : InitCtxCmd) : Bool :=
  contains cmd.bits DEFAULT_FLAG_MASK

/-- The type and the handle of the new context.  The default context can
    be made only once. -/
def newContext (cmd : InitCtxCmd) : M b W (ContextType × ContextHandle) :=
  if cmd.flagIsDefault then do
    modify fun env =>
      { env with state := { env.state with hasInitialized := true } }
    pure (.normal, .default)
  else do
    let handle ← generateNewHandle d
    pure (.simulation, handle)

/-- The arguments a root is activated with. -/
def activeContextArgs (cmd : InitCtxCmd) (contextType : ContextType)
    (handle : ContextHandle) (locality : UInt32) : ActiveContextArgs where
  contextType := contextType
  locality := locality
  handle := handle
  tciType := 0
  parentIdx := Context.ROOT_INDEX
  allowX509 := true
  usesInternalInputInfo := false
  usesInternalInputDice := false
  allowExportCdi := true
  svn := 0
  allowRecursive := cmd.flagIsDefault

def executeSerialized (cmd : InitCtxCmd) (locality : UInt32) : M b W Nat := do
  let env ← get
  reject ((cmd.flagIsDefault && env.state.hasInitialized)
    || (cmd.flagIsSimulation && !env.state.support.simulation))
    .argumentNotSupported
  -- a flag must be set, but it cannot be both flags
  reject (!(cmd.flagIsDefault ^^ cmd.flagIsSimulation)) .invalidArgument
  let idx ← okOr env.state.getNextInactiveContextPos .maxTcis
  let new ← newContext d cmd
  let env ← get
  setContext idx ((env.state.contexts idx).activate
    (cmd.activeContextArgs new.1 new.2 locality))
  respond (NewHandleResp.asBytes
    { handle := new.2, respHdr := dpe.responseHdr .noError })

end InitCtxCmd

/-! ## RotateContextHandle -/

structure RotateCtxCmd where
  handle : ContextHandle
  flags : UInt32

namespace RotateCtxCmd

def usesTargetIsDefault (cmd : RotateCtxCmd) : Bool :=
  contains cmd.flags (flagBit 31)

/-- Whether there are non-default handles in `locality` other than that
    of `targetIdx`. -/
def nonDefaultValidHandlesExist (s : State b) (locality : UInt32)
    (targetIdx : Fin b.maxHandles) : Bool :=
  (List.finRange b.maxHandles).any fun idx =>
    (s.contexts idx).state == .active && (s.contexts idx).locality == locality
      && !(s.contexts idx).handle.isDefault && idx != targetIdx

/-- The caller's locality must not already have a default context, nor
    other contexts beside the new default one. -/
def targetIsTaken (s : State b) (locality : UInt32)
    (idx : Fin b.maxHandles) : Bool :=
  (s.getActiveContextPos .default locality).isOk
    || nonDefaultValidHandlesExist s locality idx

def newHandle (cmd : RotateCtxCmd) : M b W ContextHandle :=
  if cmd.usesTargetIsDefault then pure .default else generateNewHandle d

def executeSerialized (cmd : RotateCtxCmd) (locality : UInt32) :
    M b W Nat := do
  let env ← get
  reject (!env.state.support.rotateContext) .invalidCommand
  let idx ← orFail (env.state.getActiveContextPos cmd.handle locality)
  reject (cmd.usesTargetIsDefault && targetIsTaken env.state locality idx)
    .invalidArgument
  let handle ← cmd.newHandle d
  let env ← get
  setContext idx { env.state.contexts idx with handle := handle }
  respond (NewHandleResp.asBytes
    { handle := handle, respHdr := dpe.responseHdr .noError })

end RotateCtxCmd

/-! ## DestroyContext -/

/-- Mark consecutive retired parents without other children.  The loop is
    given `MAX_HANDLES + 1` rounds, which only a cycle can use up. -/
def retiredParents (s : State b) :
    Nat → (parentIdx : Nat) → Children → Except Stop Children
  | 0, _, _ => .error .noReturn
  | fuel + 1, parentIdx, retiredContexts =>
      if parentIdx == Context.ROOT_INDEX.toNat then .ok retiredContexts
      else
        match s.get? parentIdx with
        | none => .error InternalErrorCode.destroyParentIndexOob
        | some parentContext =>
            if parentContext.state == .retired
                && (parentContext.children.iter b).length == 1 then
              match retiredContexts.addChild b parentIdx with
              | .error e => .error (.err e)
              | .ok retiredContexts =>
                  retiredParents s fuel parentContext.parentIdx.toNat
                    retiredContexts
            else .ok retiredContexts

/-- The bitmask of the context, all its descendants and its consecutive
    retired parents. -/
def toDestroy (s : State b) (idx : Fin b.maxHandles) :
    Except Stop Children := do
  let context := s.contexts idx
  let retiredContexts ← retiredParents s (b.maxHandles + 1)
    context.parentIdx.toNat .empty
  let descendants ← s.getDescendants (b.maxHandles + 1) context
  match descendants.addChild b idx with
  | .error e => .error (.err e)
  | .ok marked => .ok (marked.addChildren retiredContexts)

/-- Clear the bits of `marked` in the children of every context, and
    destroy the contexts marked. -/
def State.destroyAll (s : State b) (marked : Children) : State b :=
  { s with
    contexts := fun i =>
      let c := { s.contexts i with
        children := (s.contexts i).children.removeChildren marked }
      if marked.hasChild b i then c.destroy else c }

def destroyContext (s : State b) (handle : ContextHandle)
    (locality : UInt32) : Except Stop (State b) :=
  match s.getActiveContextPos handle locality with
  | .error e => .error (.err e)
  | .ok idx =>
      if (s.contexts idx).locality != locality then
        .error (.err .invalidLocality)
      else
        match toDestroy s idx with
        | .error e => .error e
        | .ok marked => .ok (s.destroyAll marked)

/-- `destroy_context` on the state of the environment. -/
def destroyInPlace (handle : ContextHandle) (locality : UInt32) :
    M b W PUnit := do
  let env ← get
  let state ← orThrow (destroyContext env.state handle locality)
  modify fun env => { env with state := state }

structure DestroyCtxCmd where
  handle : ContextHandle

def DestroyCtxCmd.executeSerialized (cmd : DestroyCtxCmd)
    (locality : UInt32) : M b W Nat := do
  destroyInPlace cmd.handle locality
  respond (dpe.responseHdr .noError).asBytes

/-! ## UpdateContextMeasurement -/

structure UpdateContextMeasurementCmd (b : Build) where
  parentHandle : ContextHandle
  data : TciMeasurement b
  reserved : UInt32
  tciType : UInt32
  reservedSvn : UInt32

namespace UpdateContextMeasurementCmd

/-- The active child of the parent with the type of the command. -/
def findChild (cmd : UpdateContextMeasurementCmd b) (s : State b)
    (parentIdx : Fin b.maxHandles) : Option (Fin b.maxHandles) :=
  ((s.contexts parentIdx).children.iter b).find? fun idx =>
    (s.contexts idx).state == .active
      && (s.contexts idx).tci.tciType == cmd.tciType

def executeSerialized (cmd : UpdateContextMeasurementCmd b)
    (locality : UInt32) : M b W Nat := do
  reject cmd.parentHandle.isDefault .invalidArgument
  let env ← get
  let parentIdx ← orFail
    ((env.state.getActiveContextPos cmd.parentHandle locality).mapError
      fun _ => .invalidParentLocality)
  let childIdx ← okOr (cmd.findChild env.state parentIdx) .invalidArgument
  let tmpChild := env.state.contexts childIdx
  -- the child's locality authorizes the TCI update
  let tmpChild ← addTciMeasurement d tmpChild cmd.data tmpChild.locality
  let env ← get
  let tmpParent ← rollOnetimeUseHandle d (env.state.contexts parentIdx)
  setContext parentIdx tmpParent
  let tmpChild ← rollOnetimeUseHandle d tmpChild
  setContext childIdx tmpChild
  respond (UpdateContextMeasurementResp.asBytes
    { respHdr := dpe.responseHdr .noError
      newContextHandle := tmpChild.handle
      newParentContextHandle := tmpParent.handle })

end UpdateContextMeasurementCmd

/-! ## GetProfile, GetCertificateChain -/

structure GetProfileCmd where

def GetProfileCmd.executeSerialized (_ : GetProfileCmd) (_ : UInt32) :
    M b W Nat := do
  let env ← get
  let resp ← getProfile d dpe env.state.support
  respond resp.asBytes

structure GetCertificateChainCmd where
  offset : UInt32
  size : UInt32

def GetCertificateChainCmd.executeSerialized (cmd : GetCertificateChainCmd)
    (_ : UInt32) : M b W Nat := do
  reject (decide (MAX_CHUNK_SIZE < cmd.size.toNat)) .invalidArgument
  let r ← callPlatform (d.platform.getCertificateChain cmd.offset cmd.size
    (.replicate MAX_CHUNK_SIZE 0))
  respond (GetCertificateChainResp.asBytes
    { certificateChain := r.2
      certificateSize := r.1
      respHdr := dpe.responseHdr .noError })

end Dpe
