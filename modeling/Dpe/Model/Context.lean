import Dpe.Model.Build
import Dpe.Model.Error
import Mathlib.Data.List.FinRange

/-! # Contexts — one node of the derivation forest

    A context carries its handle, its TCI data and its links: the index
    of its parent and a bitmap of its children.  The operations below are
    those of the source; none of them touches another context. -/

namespace Dpe

variable {b : Build}

/-! ## TCI data -/

/-- A measurement, as wide as the build's largest hash. -/
abbrev TciMeasurement (b : Build) := Vector UInt8 b.tciSize

/-- `TciMeasurement::default()`: all zero. -/
def TciMeasurement.zero (b : Build) : TciMeasurement b :=
  Vector.replicate b.tciSize 0

/-- What a context records of the component it stands for. -/
structure TciNodeData (b : Build) where
  tciType : UInt32
  tciCumulative : TciMeasurement b
  tciCurrent : TciMeasurement b
  locality : UInt32
  svn : UInt32
  deriving DecidableEq

namespace TciNodeData

/-- The zero node data. -/
def new (b : Build) : TciNodeData b where
  tciType := 0
  tciCumulative := .zero b
  tciCurrent := .zero b
  locality := 0
  svn := 0

/-- `IntoBytes` of the `repr(C)` structure: the fields in order, integers
    little endian. -/
def asBytes (t : TciNodeData b) : Bytes :=
  toLeBytes t.tciType ++ t.tciCumulative.toList ++ t.tciCurrent.toList
    ++ toLeBytes t.locality ++ toLeBytes t.svn

theorem asBytes_length (t : TciNodeData b) :
    t.asBytes.length = 12 + 2 * b.tciSize := by
  simp only [asBytes, List.length_append, toLeBytes_length, Vector.length_toList]
  omega

/-- The bytes determine the node data. -/
theorem asBytes_inj {t t' : TciNodeData b} (h : t.asBytes = t'.asBytes) : t = t' := by
  unfold asBytes at h
  obtain ⟨h, hsvn⟩ := List.append_inj h (by simp)
  obtain ⟨h, hlocality⟩ := List.append_inj h (by simp)
  obtain ⟨h, hcurrent⟩ := List.append_inj h (by simp)
  obtain ⟨htype, hcumulative⟩ := List.append_inj h (by simp)
  have htype := toLeBytes_inj htype
  have hcumulative := Vector.toList_inj.mp hcumulative
  have hcurrent := Vector.toList_inj.mp hcurrent
  have hlocality := toLeBytes_inj hlocality
  have hsvn := toLeBytes_inj hsvn
  cases t
  cases t'
  simp only at htype hcumulative hcurrent hlocality hsvn
  rw [htype, hcumulative, hcurrent, hlocality, hsvn]

end TciNodeData

/-! ## Handles -/

/-- The name by which a client refers to a context. -/
structure ContextHandle where
  bytes : Vector UInt8 16
  deriving DecidableEq

namespace ContextHandle

/-- The default context handle: all zero. -/
def default : ContextHandle := ⟨Vector.replicate 16 0⟩

/-- The handle of a context that cannot be addressed: all ones. -/
def newInvalid : ContextHandle := ⟨Vector.replicate 16 0xFF⟩

/-- Whether the handle is the default context handle. -/
def isDefault (h : ContextHandle) : Bool := h == default

def asBytes (h : ContextHandle) : Bytes := h.bytes.toList

@[simp] theorem isDefault_iff (h : ContextHandle) :
    h.isDefault = true ↔ h = default := by
  simp [isDefault]

@[simp] theorem asBytes_length (h : ContextHandle) : h.asBytes.length = 16 :=
  h.bytes.length_toList

theorem asBytes_inj {h h' : ContextHandle} (he : h.asBytes = h'.asBytes) :
    h = h' := by
  cases h
  cases h'
  exact congrArg ContextHandle.mk (Vector.toList_inj.mp he)

end ContextHandle

/-! ## Children -/

/-- The bits set in `flags`, lowest first, among the first `max`. -/
def flagsIter (flags : BitVec 64) (max : Nat) : List (Fin max) :=
  (List.finRange max).filter fun i => flags.getLsbD i

/-- Bitmap of node indices. -/
structure Children where
  bits : BitVec 64
  deriving DecidableEq

namespace Children

def empty : Children := ⟨0⟩

/-- Add a child to the bitmap. -/
def addChild (b : Build) (c : Children) (idx : Nat) :
    Except DpeErrorCode Children :=
  if idx ≥ b.maxHandles then .error InternalErrorCode.childrenBitmapIndexOob
  else .ok ⟨c.bits ||| 1#64 <<< idx⟩

def isEmpty (c : Children) : Bool := c == empty

def hasChildren (c : Children) : Bool := !c.isEmpty

/-- Whether there is a child at bit position `idx`. -/
def hasChild (b : Build) (c : Children) (idx : Nat) : Bool :=
  if idx ≥ b.maxHandles then false else c.bits &&& 1#64 <<< idx != 0

/-- Union of two children bitmaps. -/
def addChildren (c other : Children) : Children := ⟨c.bits ||| other.bits⟩

/-- Remove all children in `other`. -/
def removeChildren (c other : Children) : Children :=
  ⟨c.bits &&& ~~~other.bits⟩

/-- The children, lowest index first. -/
def iter (b : Build) (c : Children) : List (Fin b.maxHandles) :=
  flagsIter c.bits b.maxHandles

end Children

/-! ## Contexts -/

/-- The life of a context.  A retired one is kept for its TCI data until
    all of its children have been destroyed; its handle is not valid any
    more. -/
inductive ContextState where
  | inactive
  | active
  | retired
  deriving DecidableEq, Repr

inductive ContextType where
  | normal
  | simulation
  deriving DecidableEq, Repr

/-- One slot of a DPE instance. -/
structure Context (b : Build) where
  handle : ContextHandle
  tci : TciNodeData b
  children : Children
  locality : UInt32
  parentIdx : UInt8
  contextType : ContextType
  state : ContextState
  usesInternalInputInfo : Bool
  usesInternalInputDice : Bool
  allowX509 : Bool
  allowExportCdi : Bool
  allowRecursive : Bool
  deriving DecidableEq

/-- The arguments of `activate`. -/
structure ActiveContextArgs where
  contextType : ContextType
  locality : UInt32
  handle : ContextHandle
  tciType : UInt32
  parentIdx : UInt8
  allowX509 : Bool
  usesInternalInputInfo : Bool
  usesInternalInputDice : Bool
  allowExportCdi : Bool
  svn : UInt32
  allowRecursive : Bool

namespace Context

/-- The parent index of a root. -/
def ROOT_INDEX : UInt8 := 0xff

def new (b : Build) : Context b where
  handle := .default
  tci := .new b
  children := .empty
  locality := 0
  parentIdx := ROOT_INDEX
  contextType := .normal
  state := .inactive
  usesInternalInputInfo := false
  usesInternalInputDice := false
  allowX509 := false
  -- the root context needs this permission or it is never enabled
  allowExportCdi := true
  allowRecursive := false

/-- Sets all values to an initialized state according to the
    arguments. -/
def activate (_ : Context b) (args : ActiveContextArgs) : Context b where
  handle := args.handle
  tci := { TciNodeData.new b with
    tciType := args.tciType, locality := args.locality, svn := args.svn }
  children := .empty
  parentIdx := args.parentIdx
  contextType := args.contextType
  state := .active
  locality := args.locality
  allowX509 := args.allowX509
  usesInternalInputInfo := args.usesInternalInputInfo
  usesInternalInputDice := args.usesInternalInputDice
  allowExportCdi := args.allowExportCdi
  allowRecursive := args.allowRecursive

/-- Destroy this context so it can no longer be used until it is
    re-initialized.  The type and the export permission stay. -/
def destroy (c : Context b) : Context b :=
  { c with
    tci := .new b
    state := .inactive
    usesInternalInputInfo := false
    usesInternalInputDice := false
    allowX509 := false
    parentIdx := ROOT_INDEX
    locality := 0
    children := .empty
    handle := .newInvalid
    allowRecursive := false }

/-- The children of the context with `idx` added. -/
def addChild (c : Context b) (idx : Nat) : Except DpeErrorCode Children :=
  if idx ≥ b.maxHandles then .error InternalErrorCode.childIndexOob
  else c.children.addChild b idx

def hasChildren (c : Context b) : Bool := c.children.hasChildren

end Context

end Dpe
