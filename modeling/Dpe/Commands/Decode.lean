import Dpe.Lib.Layout
import Dpe.Commands.Execute

/-! # Decoding commands

    The `repr(C)` structures of the commands and `Command::deserialize`.
    The structures are all of `FromBytes`: every bit pattern is a value,
    so all that can go wrong is that a payload is too short or that its
    address is not a multiple of the alignment. -/

namespace Dpe

open Layout

variable {b : Build}

/-! ## Structures -/

def ContextHandle.layout : Layout ContextHandle :=
  (Layout.bytes 16).view ContextHandle.bytes (fun v => some ⟨v⟩) fun _ _ =>
    ⟨fun h => by cases h; rfl, fun h => by cases h; rfl⟩

structure CommandHdr where
  magic : UInt32
  cmdId : UInt32
  profile : UInt32
  deriving DecidableEq

namespace CommandHdr

/-- `b"DPEC"`, big endian. -/
def DPE_COMMAND_MAGIC : UInt32 := 0x44504543

def layout : Layout CommandHdr :=
  .aligned 4 <| (word32.seq (word32.seq word32)).view
    (fun h => (h.magic, h.cmdId, h.profile)) (fun (m, c, p) => some ⟨m, c, p⟩)
    fun _ _ => ⟨fun h => by cases h; rfl, fun h => by cases h; rfl⟩

def asBytes (h : CommandHdr) : Bytes := layout.toBytes h

def new (profile : DpeProfile) (cmdId : UInt32) : CommandHdr where
  magic := DPE_COMMAND_MAGIC
  cmdId := cmdId
  profile := profile.toU32

end CommandHdr

def GetProfileCmd.layout : Layout GetProfileCmd :=
  .aligned 4 <| unit ⟨⟩ fun _ => rfl

def InitCtxCmd.layout : Layout InitCtxCmd :=
  .aligned 4 <| word32.view InitCtxCmd.bits (fun x => some ⟨x⟩) fun _ _ =>
    ⟨fun h => by cases h; rfl, fun h => by cases h; rfl⟩

def DeriveContextFlags.layout : Layout DeriveContextFlags :=
  word32.view DeriveContextFlags.bits (fun x => some ⟨x⟩) fun _ _ =>
    ⟨fun h => by cases h; rfl, fun h => by cases h; rfl⟩

def DeriveContextCmd.layout : Layout (DeriveContextCmd b) :=
  .aligned 4 <| (ContextHandle.layout.seq ((bytes b.tciSize).seq
      (DeriveContextFlags.layout.seq (word32.seq (word32.seq word32))))).view
    (fun c => (c.handle, c.data, c.flags, c.tciType, c.targetLocality, c.svn))
    (fun (handle, data, flags, tciType, targetLocality, svn) =>
      some ⟨handle, data, flags, tciType, targetLocality, svn⟩)
    fun _ _ => ⟨fun h => by cases h; rfl, fun h => by cases h; rfl⟩

def RotateCtxCmd.layout : Layout RotateCtxCmd :=
  .aligned 4 <| (ContextHandle.layout.seq word32).view (fun c => (c.handle, c.flags))
    (fun (handle, flags) => some ⟨handle, flags⟩)
    fun _ _ => ⟨fun h => by cases h; rfl, fun h => by cases h; rfl⟩

/-- The one structure without an alignment of its own. -/
def DestroyCtxCmd.layout : Layout DestroyCtxCmd :=
  ContextHandle.layout.view DestroyCtxCmd.handle (fun handle => some ⟨handle⟩)
    fun _ _ => ⟨fun h => by cases h; rfl, fun h => by cases h; rfl⟩

def GetCertificateChainCmd.layout : Layout GetCertificateChainCmd :=
  .aligned 4 <| (word32.seq word32).view (fun c => (c.offset, c.size))
    (fun (offset, size) => some ⟨offset, size⟩)
    fun _ _ => ⟨fun h => by cases h; rfl, fun h => by cases h; rfl⟩

def UpdateContextMeasurementCmd.layout : Layout (UpdateContextMeasurementCmd b) :=
  .aligned 4 <| (ContextHandle.layout.seq ((bytes b.tciSize).seq
      (word32.seq (word32.seq word32)))).view
    (fun c => (c.parentHandle, c.data, c.reserved, c.tciType, c.reservedSvn))
    (fun (parentHandle, data, reserved, tciType, reservedSvn) =>
      some ⟨parentHandle, data, reserved, tciType, reservedSvn⟩)
    fun _ _ => ⟨fun h => by cases h; rfl, fun h => by cases h; rfl⟩

/-- `CertifyKeyP256Cmd`, `CertifyKeyP384Cmd` and `CertifyKeyMldsa87Cmd`. -/
def CertifyKeyCmd.layout (labelSize : Nat) : Layout (CertifyKeyCmd labelSize) :=
  .aligned 4 <| (ContextHandle.layout.seq (word32.seq (word32.seq
      (bytes labelSize)))).view
    (fun c => (c.handle, c.flags, c.format, c.label))
    (fun (handle, flags, format, label) => some ⟨handle, flags, format, label⟩)
    fun _ _ => ⟨fun h => by cases h; rfl, fun h => by cases h; rfl⟩

namespace SignCommand

/-- `SignFlags::IS_RAW`. -/
def IS_RAW : UInt32 := flagBit 0

/-- `SignP256Cmd`, `SignP384Cmd` and `SignMldsa87Cmd`: the handle, the
    label, the flags and the digest. -/
def digestLayout (labelSize digestSize : Nat) :
    Layout (ContextHandle × Vector UInt8 labelSize × UInt32 × Vector UInt8 digestSize) :=
  .aligned 4 <| ContextHandle.layout.seq ((bytes labelSize).seq
    (word32.seq (bytes digestSize)))

/-- `SignMldsa87Header`. -/
def headerLayout : Layout (ContextHandle × Vector UInt8 48 × UInt32) :=
  .aligned 4 <| ContextHandle.layout.seq ((bytes 48).seq word32)

/-- `SignMldsa87RawCmd`: the size and the data follow the flags. -/
def rawLayout : Layout (ContextHandle × Vector UInt8 48 × UInt32 × UInt32
    × Vector UInt8 MLDSA87_RAW_MAX_SIZE) :=
  .aligned 4 <| ContextHandle.layout.seq ((bytes 48).seq (word32.seq
    (word32.seq (bytes MLDSA87_RAW_MAX_SIZE))))

def asBytes : SignCommand → Bytes
  | p256 handle label flags digest =>
      (digestLayout 32 32).toBytes (handle, label, flags, digest)
  | p384 handle label flags digest =>
      (digestLayout 48 48).toBytes (handle, label, flags, digest)
  | mldsa87 handle label flags digest =>
      (digestLayout 48 64).toBytes (handle, label, flags, digest)
  | mldsa87Raw handle label flags size rawData =>
      rawLayout.toBytes (handle, label, flags, size, rawData)

end SignCommand

def CertifyKeyCommand.asBytes : CertifyKeyCommand → Bytes
  | p256 cmd => (CertifyKeyCmd.layout 32).toBytes cmd
  | p384 cmd => (CertifyKeyCmd.layout 48).toBytes cmd
  | mldsa87 cmd => (CertifyKeyCmd.layout 48).toBytes cmd

namespace Command

def GET_PROFILE : UInt32 := 0x01
def INITIALIZE_CONTEXT : UInt32 := 0x07
def DERIVE_CONTEXT : UInt32 := 0x08
def CERTIFY_KEY : UInt32 := 0x09
def SIGN : UInt32 := 0x0A
def ROTATE_CONTEXT_HANDLE : UInt32 := 0x0E
def DESTROY_CONTEXT : UInt32 := 0x0F
def GET_CERTIFICATE_CHAIN : UInt32 := 0x10
def UPDATE_CONTEXT_MEASUREMENT : UInt32 := 0x80000000

def id : Command b → UInt32
  | getProfile _ => GET_PROFILE
  | initCtx _ => INITIALIZE_CONTEXT
  | deriveContext _ => DERIVE_CONTEXT
  | certifyKey _ => CERTIFY_KEY
  | sign _ => SIGN
  | rotateCtx _ => ROTATE_CONTEXT_HANDLE
  | destroyCtx _ => DESTROY_CONTEXT
  | getCertificateChain _ => GET_CERTIFICATE_CHAIN
  | updateContextMeasurement _ => UPDATE_CONTEXT_MEASUREMENT

def asBytes : Command b → Bytes
  | certifyKey cmd => cmd.asBytes
  | deriveContext cmd => DeriveContextCmd.layout.toBytes cmd
  | getCertificateChain cmd => GetCertificateChainCmd.layout.toBytes cmd
  | destroyCtx cmd => DestroyCtxCmd.layout.toBytes cmd
  | getProfile cmd => GetProfileCmd.layout.toBytes cmd
  | initCtx cmd => InitCtxCmd.layout.toBytes cmd
  | rotateCtx cmd => RotateCtxCmd.layout.toBytes cmd
  | sign cmd => cmd.asBytes
  | updateContextMeasurement cmd => UpdateContextMeasurementCmd.layout.toBytes cmd

end Command

/-! ## Parsing -/

/-- `parse_command`: the payload `bytes`, at `address`, starts with a
    command.  What the payload holds behind it does not matter. -/
def parseCommand {α β : Type} (l : Layout α) (build : α → β) (address : Nat)
    (bytes : Bytes) : Except DpeErrorCode β :=
  match l.refFromPrefix address bytes with
  | some cmd => .ok (build cmd)
  | none => .error .invalidArgument

def CertifyKeyCommand.deserialize (profile : DpeProfile) (address : Nat)
    (bytes : Bytes) : Except DpeErrorCode CertifyKeyCommand :=
  match profile with
  | .p256Sha256 => parseCommand (CertifyKeyCmd.layout 32) .p256 address bytes
  | .p384Sha384 => parseCommand (CertifyKeyCmd.layout 48) .p384 address bytes
  | .mldsa87 => parseCommand (CertifyKeyCmd.layout 48) .mldsa87 address bytes

namespace SignCommand

/-- Only the front of the payload is needed to inspect the flags. -/
def deserializeMldsa87 (address : Nat) (bytes : Bytes) :
    Except DpeErrorCode SignCommand :=
  match headerLayout.refFromPrefix address bytes with
  | none => .error .invalidArgument
  | some (_, _, flags) =>
      if contains flags IS_RAW then
        if bytes.length < rawLayout.size then .error .invalidArgument
        else
          match rawLayout.refFromPrefix address bytes with
          | none => .error .invalidArgument
          | some (handle, label, flags, size, rawData) =>
              if MLDSA87_RAW_MAX_SIZE < size.toNat then .error .invalidArgument
              else .ok (.mldsa87Raw handle label flags size rawData)
      else
        parseCommand (digestLayout 48 64)
          (fun (handle, label, flags, digest) => .mldsa87 handle label flags digest)
          address bytes

def deserialize (profile : DpeProfile) (address : Nat) (bytes : Bytes) :
    Except DpeErrorCode SignCommand :=
  match profile with
  | .p256Sha256 =>
      parseCommand (digestLayout 32 32)
        (fun (handle, label, flags, digest) => .p256 handle label flags digest)
        address bytes
  | .p384Sha384 =>
      parseCommand (digestLayout 48 48)
        (fun (handle, label, flags, digest) => .p384 handle label flags digest)
        address bytes
  | .mldsa87 => deserializeMldsa87 address bytes

end SignCommand

/-! ## The command -/

/-- `TryFrom<&[u8]>`: the header is copied, so any address will do. -/
def CommandHdr.tryFrom (raw : Bytes) : Except DpeErrorCode CommandHdr :=
  match layout.ofBytes raw with
  | none => .error .invalidCommand
  | some header =>
      if header.magic ≠ DPE_COMMAND_MAGIC then .error .invalidCommand
      else .ok header

/-- The client does not know the profile when it calls `GetProfile`. -/
def CommandHdr.tryFromWithProfile (profile : DpeProfile) (raw : Bytes) :
    Except DpeErrorCode CommandHdr := do
  let header ← tryFrom raw
  if header.cmdId ≠ Command.GET_PROFILE ∧ header.profile ≠ profile.toU32 then
    .error .invalidCommand
  else .ok header

/-- The payload of a command with the given id. -/
def Command.deserializePayload (profile : DpeProfile) (cmdId : UInt32) (address : Nat)
    (bytes : Bytes) : Except DpeErrorCode (Command b) :=
  if cmdId = GET_PROFILE then
    parseCommand GetProfileCmd.layout getProfile address bytes
  else if cmdId = INITIALIZE_CONTEXT then
    parseCommand InitCtxCmd.layout initCtx address bytes
  else if cmdId = DERIVE_CONTEXT then
    parseCommand DeriveContextCmd.layout deriveContext address bytes
  else if cmdId = CERTIFY_KEY then do
    let cmd ← CertifyKeyCommand.deserialize profile address bytes
    .ok (certifyKey cmd)
  else if cmdId = SIGN then do
    let cmd ← SignCommand.deserialize profile address bytes
    .ok (sign cmd)
  else if cmdId = ROTATE_CONTEXT_HANDLE ∧ b.disabled.rotateContext = false then
    parseCommand RotateCtxCmd.layout rotateCtx address bytes
  else if cmdId = DESTROY_CONTEXT then
    parseCommand DestroyCtxCmd.layout destroyCtx address bytes
  else if cmdId = GET_CERTIFICATE_CHAIN then
    parseCommand GetCertificateChainCmd.layout getCertificateChain address bytes
  else if cmdId = UPDATE_CONTEXT_MEASUREMENT then
    parseCommand UpdateContextMeasurementCmd.layout updateContextMeasurement address
      bytes
  else .error .invalidCommand

/-- `Command::deserialize` of the bytes at `address`. -/
def Command.deserialize (profile : DpeProfile) (address : Nat) (raw : Bytes) :
    Except DpeErrorCode (Command b) := do
  let header ← CommandHdr.tryFromWithProfile profile raw
  if raw.length < CommandHdr.layout.size then .error .invalidCommand
  else
    deserializePayload profile header.cmdId (address + CommandHdr.layout.size)
      (raw.drop CommandHdr.layout.size)

end Dpe
