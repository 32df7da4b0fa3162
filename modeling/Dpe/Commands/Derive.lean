import Dpe.Commands.Context
import Dpe.X509.Create

/-! # DeriveContext

    One command with three outcomes: it measures into the context itself
    (recursive), it certifies a key of an exported CDI, or it makes a
    child.  All three start from the same checks. -/

namespace Dpe

open Prog

variable {b : Build} {W : Type}

structure DeriveContextFlags where
  bits : UInt32

namespace DeriveContextFlags

def INTERNAL_INPUT_INFO : UInt32 := flagBit 31
def INTERNAL_INPUT_DICE : UInt32 := flagBit 30
def RETAIN_PARENT_CONTEXT : UInt32 := flagBit 29
def MAKE_DEFAULT : UInt32 := flagBit 28
def CHANGE_LOCALITY : UInt32 := flagBit 27
def ALLOW_NEW_CONTEXT_TO_EXPORT : UInt32 := flagBit 26
def INPUT_ALLOW_X509 : UInt32 := flagBit 25
def RECURSIVE : UInt32 := flagBit 24
def EXPORT_CDI : UInt32 := flagBit 23
def CREATE_CERTIFICATE : UInt32 := flagBit 22
def ALLOW_RECURSIVE : UInt32 := flagBit 21

def usesInternalInfoInput (f : DeriveContextFlags) : Bool :=
  contains f.bits INTERNAL_INPUT_INFO
def usesInternalDiceInput (f : DeriveContextFlags) : Bool :=
  contains f.bits INTERNAL_INPUT_DICE
def retainsParent (f : DeriveContextFlags) : Bool :=
  contains f.bits RETAIN_PARENT_CONTEXT
def makesDefault (f : DeriveContextFlags) : Bool := contains f.bits MAKE_DEFAULT
def changesLocality (f : DeriveContextFlags) : Bool :=
  contains f.bits CHANGE_LOCALITY
def allowsX509 (f : DeriveContextFlags) : Bool :=
  contains f.bits INPUT_ALLOW_X509
def isRecursive (f : DeriveContextFlags) : Bool := contains f.bits RECURSIVE
def exportsCdi (f : DeriveContextFlags) : Bool := contains f.bits EXPORT_CDI
def createsCertificate (f : DeriveContextFlags) : Bool :=
  contains f.bits CREATE_CERTIFICATE
def allowsNewContextToExport (f : DeriveContextFlags) : Bool :=
  contains f.bits ALLOW_NEW_CONTEXT_TO_EXPORT
def allowsRecursive (f : DeriveContextFlags) : Bool :=
  contains f.bits ALLOW_RECURSIVE

end DeriveContextFlags

structure DeriveContextCmd (b : Build) where
  handle : ContextHandle
  data : TciMeasurement b
  flags : DeriveContextFlags
  tciType : UInt32
  targetLocality : UInt32
  svn : UInt32

namespace DeriveContextCmd

variable (d : Deps b W) (dpe : DpeInstance b) (cmd : DeriveContextCmd b)

/-! ## Checks -/

/-- The operation needs something the instance does not support. -/
def unsupported (support : Support) : Bool :=
  (!support.internalInfo && cmd.flags.usesInternalInfoInput)
    || (!support.internalDice && cmd.flags.usesInternalDiceInput)
    || (!support.retainParentContext && cmd.flags.retainsParent)
    || (!support.x509 && cmd.flags.allowsX509)
    || (!support.cdiExport
      && (cmd.flags.createsCertificate || cmd.flags.exportsCdi))
    || (!support.recursive && cmd.flags.isRecursive)

/-- The flags contradict each other, or the parent lacks a permission. -/
def invalid (parentCtx : Context b) : Bool :=
  (!parentCtx.allowX509 && cmd.flags.allowsX509)
    || (cmd.flags.exportsCdi && !cmd.flags.createsCertificate)
    || (cmd.flags.exportsCdi && cmd.flags.isRecursive)
    || (cmd.flags.exportsCdi && cmd.flags.changesLocality)
    || (cmd.flags.exportsCdi && parentCtx.contextType == .simulation)
    || (cmd.flags.exportsCdi && !parentCtx.allowExportCdi)
    || (cmd.flags.isRecursive && cmd.flags.retainsParent)
    || (cmd.flags.allowsRecursive && cmd.flags.isRecursive)
    || (!parentCtx.allowRecursive && cmd.flags.isRecursive)

/-- Whether it is okay to make a default context: it must be the only
    context in its locality, a parent about to be retired apart. -/
def safeToMakeDefault (parentIdx : Fin b.maxHandles)
    (defaultContextIdx : Option (Fin b.maxHandles))
    (numContextsInLocality : Nat) : Bool :=
  match numContextsInLocality, defaultContextIdx with
  | 0, none => true
  | 1, some defaultIdx =>
      if defaultIdx = parentIdx then !cmd.flags.retainsParent else false
  | _, _ => false

/-- Whether it is okay to make a non-default context: its locality must
    have no default context, a parent about to be retired apart. -/
def safeToMakeNonDefault (parentIdx : Fin b.maxHandles)
    (defaultContextIdx : Option (Fin b.maxHandles)) : Bool :=
  match defaultContextIdx with
  | none => true
  | some defaultIdx =>
      if defaultIdx = parentIdx then !cmd.flags.retainsParent else false

/-- Whether the type is unique among the direct children of the parent. -/
def tciTypeIsUniqueAmongChildren (s : State b) (parentCtx : Context b)
    (tciType : UInt32) : Bool :=
  (parentCtx.children.iter b).all fun idx =>
    (s.contexts idx).tci.tciType != tciType

/-- Whether it is okay to create a child in the target locality. -/
def safeToMakeChild (s : State b) (parentIdx : Fin b.maxHandles)
    (targetLocality : UInt32) : Bool :=
  let defaultContextIdx :=
    (s.getActiveContextPos .default targetLocality).toOption
  let numContextsInLocality := s.countContexts fun c =>
    c.state == .active && c.locality == targetLocality
  if cmd.flags.makesDefault then
    cmd.safeToMakeDefault parentIdx defaultContextIdx numContextsInLocality
  else cmd.safeToMakeNonDefault parentIdx defaultContextIdx

/-- The locality of the new context. -/
def childLocality (locality : UInt32) : UInt32 :=
  if cmd.flags.changesLocality then cmd.targetLocality else locality

/-! ## Recursive derivation -/

/-- Measure into the context itself. -/
def deriveRecursive (parentIdx : Fin b.maxHandles) (targetLocality : UInt32) :
    M b W Nat := do
  reject b.disabled.recursive .argumentNotSupported
  let env ← get
  let tmpContext := env.state.contexts parentIdx
  reject (tmpContext.tci.tciType != cmd.tciType) .invalidArgument
  let tmpContext ← addTciMeasurement d tmpContext cmd.data targetLocality
  let tmpContext ← rollOnetimeUseHandle d tmpContext
  setContext parentIdx tmpContext
  respond (DeriveContextResp.asBytes
    { handle := tmpContext.handle
      -- the parent is not retained
      parentHandle := .default
      respHdr := dpe.responseHdr .noError })

/-! ## The parent -/

/-- The parent as the command leaves it: retained under a new handle, or
    retired. -/
def parentAfter (parentCtx : Context b) : M b W (Context b) :=
  if cmd.flags.retainsParent then
    if !parentCtx.handle.isDefault then do
      let handle ← generateNewHandle d
      pure { parentCtx with handle := handle }
    else pure parentCtx
  else pure { parentCtx with state := .retired, handle := .newInvalid }

/-! ## Exporting a CDI -/

/-- `b"Exported CDI"`. -/
def exportedCdiLabel : Bytes :=
  [0x45, 0x78, 0x70, 0x6F, 0x72, 0x74, 0x65, 0x64, 0x20, 0x43, 0x44, 0x49]

/-- `b"Exported ECC"` or `b"Exported ML-DSA"`. -/
def profileDescriptor : DpeProfile → Bytes
  | .p256Sha256 =>
      [0x45, 0x78, 0x70, 0x6F, 0x72, 0x74, 0x65, 0x64, 0x20, 0x45, 0x43, 0x43]
  | .p384Sha384 =>
      [0x45, 0x78, 0x70, 0x6F, 0x72, 0x74, 0x65, 0x64, 0x20, 0x45, 0x43, 0x43]
  | .mldsa87 =>
      [0x45, 0x78, 0x70, 0x6F, 0x72, 0x74, 0x65, 0x64, 0x20, 0x4D, 0x4C, 0x2D,
        0x44, 0x53, 0x41]

/-- `size_of::<DeriveContextExportedCdiRespHdr>()`. -/
def exportedHdrSize : Nat := 80

def getUeid : M b W Bytes := do
  let ueid ← callPlatform d.platform.getUeid
  orFail (ueid.get.mapError .platform)

/-- The arguments of the exported certificate. -/
def exportedCertArgs (s : State b) (locality : UInt32) (ueid : Bytes) :
    CreateDpeCertArgs where
  handle := cmd.handle
  locality := locality
  cdiLabel := exportedCdiLabel
  keyLabel := profileDescriptor dpe.profile
  context := profileDescriptor dpe.profile
  ueid := ueid
  diceExtensionsAreCritical := s.flags.markDiceExtensionsCritical

/-- A parent that is not retained and has no children is destroyed;
    otherwise it becomes what the command leaves of it. -/
def settleParent (parentIdx : Fin b.maxHandles) (tmpParent : Context b)
    (locality : UInt32) : M b W PUnit := do
  let env ← get
  if !cmd.flags.retainsParent
      && !(env.state.contexts parentIdx).hasChildren then
    destroyInPlace cmd.handle locality
  else setContext parentIdx tmpParent

/-- Certify a key of an exported CDI.  The certificate is written behind
    the place of the response header. -/
def deriveExported (parentIdx : Fin b.maxHandles) (tmpParent : Context b)
    (locality : UInt32) : M b W Nat := do
  reject b.disabled.cdiExport .argumentNotSupported
  let ueid ← getUeid d
  let env ← get
  let result ← withOffset exportedHdrSize (createExportedDpeCert d dpe
    (cmd.exportedCertArgs dpe env.state locality ueid))
  cmd.settleParent parentIdx tmpParent locality
  let env ← get
  writeAt 0 (DeriveContextExportedCdiRespHdr.asBytes
    { respHdr := dpe.responseHdr .noError
      handle := .newInvalid
      parentHandle := (env.state.contexts parentIdx).handle
      exportedCdi := result.exportedCdiHandle
      certificateSize := result.certSize }) .invalidResponseBuf
  pure (exportedHdrSize + result.certSize.toNat)

/-! ## Making a child -/

def childHandle : M b W ContextHandle :=
  if cmd.flags.makesDefault then pure .default else generateNewHandle d

/-- The arguments a child is activated with. -/
def activeContextArgs (contextType : ContextType) (tmpParent : Context b)
    (parentIdx : Fin b.maxHandles) (handle : ContextHandle)
    (targetLocality : UInt32) : ActiveContextArgs where
  contextType := contextType
  locality := targetLocality
  handle := handle
  tciType := cmd.tciType
  parentIdx := UInt8.ofNat parentIdx.val
  allowX509 := cmd.flags.allowsX509
  usesInternalInputInfo := cmd.flags.usesInternalInfoInput
  usesInternalInputDice := cmd.flags.usesInternalDiceInput
  allowExportCdi :=
    cmd.flags.allowsNewContextToExport && tmpParent.allowExportCdi
  svn := cmd.svn
  allowRecursive := cmd.flags.allowsRecursive && tmpParent.allowRecursive

/-- Make a child of the context. -/
def deriveChild (parentIdx : Fin b.maxHandles) (tmpParent : Context b)
    (targetLocality : UInt32) : M b W Nat := do
  let env ← get
  let childIdx ← okOr env.state.getNextInactiveContextPos .maxTcis
  reject (!cmd.safeToMakeChild env.state parentIdx targetLocality)
    .invalidArgument
  let handle ← cmd.childHandle d
  let env ← get
  let tmpChild := (Context.new b).activate (cmd.activeContextArgs
    (env.state.contexts parentIdx).contextType tmpParent parentIdx handle
    targetLocality)
  let tmpChild ← addTciMeasurement d tmpChild cmd.data targetLocality
  let children ← orFail (tmpParent.addChild childIdx.val)
  let tmpParent := { tmpParent with children := children }
  -- no error is possible any more
  setContext childIdx tmpChild
  setContext parentIdx tmpParent
  respond (DeriveContextResp.asBytes
    { handle := handle
      parentHandle := tmpParent.handle
      respHdr := dpe.responseHdr .noError })

/-! ## The command -/

/-- The two outcomes that need the parent: export or child. -/
def deriveFromParent (parentIdx : Fin b.maxHandles) (parentCtx : Context b)
    (locality : UInt32) : M b W Nat := do
  let env ← get
  reject (!tciTypeIsUniqueAmongChildren env.state parentCtx cmd.tciType)
    .invalidArgument
  let tmpParent ← cmd.parentAfter d (env.state.contexts parentIdx)
  if cmd.flags.createsCertificate && cmd.flags.exportsCdi then
    cmd.deriveExported d dpe parentIdx tmpParent locality
  else
    cmd.deriveChild d dpe parentIdx tmpParent (cmd.childLocality locality)

def executeSerialized (locality : UInt32) : M b W Nat := do
  let env ← get
  reject (cmd.unsupported env.state.support) .argumentNotSupported
  let parentIdx ← orFail (env.state.getActiveContextPos cmd.handle locality)
  let parentCtx := env.state.contexts parentIdx
  reject (cmd.invalid parentCtx) .invalidArgument
  if cmd.flags.isRecursive then
    cmd.deriveRecursive d dpe parentIdx (cmd.childLocality locality)
  else cmd.deriveFromParent d dpe parentIdx parentCtx locality

end DeriveContextCmd

end Dpe
