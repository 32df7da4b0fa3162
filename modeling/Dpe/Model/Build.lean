import Mathlib.Algebra.Group.Nat.Defs
import Mathlib.Logic.Basic

/-! # Build configuration, profiles and bit flags

    What is fixed when the library is compiled: the number of context
    slots, the enabled profiles, the disabled functions and the size of
    the issuer name buffer.  The rest of the model is written over an
    arbitrary `Build`, so what is proved holds of every configuration. -/

namespace Dpe

/-- Byte strings. -/
abbrev Bytes := List UInt8

/-- `1u32 << i`. -/
def flagBit (i : UInt32) : UInt32 := 1 <<< i

/-- `self.contains(other)` of the source's bit flags. -/
def contains (bits flag : UInt32) : Bool := bits &&& flag == flag

/-- Optional functionality of an instance. -/
structure Support where
  bits : UInt32
  deriving DecidableEq, Repr

namespace Support

def SIMULATION : UInt32 := flagBit 31
def RECURSIVE : UInt32 := flagBit 30
def AUTO_INIT : UInt32 := flagBit 29
def ROTATE_CONTEXT : UInt32 := flagBit 27
def X509 : UInt32 := flagBit 26
def CSR : UInt32 := flagBit 25
def INTERNAL_INFO : UInt32 := flagBit 22
def INTERNAL_DICE : UInt32 := flagBit 21
def RETAIN_PARENT_CONTEXT : UInt32 := flagBit 19
def CDI_EXPORT : UInt32 := flagBit 18

def simulation (s : Support) : Bool := contains s.bits SIMULATION
def recursive (s : Support) : Bool := contains s.bits RECURSIVE
def autoInit (s : Support) : Bool := contains s.bits AUTO_INIT
def rotateContext (s : Support) : Bool := contains s.bits ROTATE_CONTEXT
def x509 (s : Support) : Bool := contains s.bits X509
def csr (s : Support) : Bool := contains s.bits CSR
def internalInfo (s : Support) : Bool := contains s.bits INTERNAL_INFO
def internalDice (s : Support) : Bool := contains s.bits INTERNAL_DICE
def retainParentContext (s : Support) : Bool :=
  contains s.bits RETAIN_PARENT_CONTEXT
def cdiExport (s : Support) : Bool := contains s.bits CDI_EXPORT

end Support

/-- The profiles of this implementation. -/
inductive DpeProfile where
  | p256Sha256
  | p384Sha384
  | mldsa87
  deriving DecidableEq, Repr

/-- The compile-time configuration.  `disabled` collects the `disable_*`
    features under the support bits they switch off. -/
structure Build where
  maxHandles : Nat
  maxHandles_pos : 0 < maxHandles
  maxHandles_le : maxHandles ≤ 64
  p256 : Bool
  p384 : Bool
  mlDsa : Bool
  disabled : Support
  maxIssuerNameSize : Nat
  deriving DecidableEq

/-- Whether a profile is compiled in. -/
def Build.has (b : Build) : DpeProfile → Bool
  | .p256Sha256 => b.p256
  | .p384Sha384 => b.p384
  | .mldsa87 => b.mlDsa

/-- Size of a TCI measurement. -/
def Build.tciSize (b : Build) : Nat := if b.p384 || b.mlDsa then 48 else 32

/-- The configuration without extra features: P-384 and 64 slots. -/
def Build.default : Build where
  maxHandles := 64
  maxHandles_pos := by decide
  maxHandles_le := by decide
  p256 := false
  p384 := true
  mlDsa := false
  disabled := ⟨0⟩
  maxIssuerNameSize := 128

/-- Disables supported features based on compilation features. -/
def Support.preprocessSupport (b : Build) (s : Support) : Support :=
  ⟨s.bits &&& ~~~b.disabled.bits⟩

namespace DpeProfile

def toU32 : DpeProfile → UInt32
  | p256Sha256 => 3
  | p384Sha384 => 4
  | mldsa87 => 5

def tciSize : DpeProfile → Nat
  | p256Sha256 => 32
  | p384Sha384 => 48
  | mldsa87 => 48

/-- `b"ECC"` or `b"MLDSA"`. -/
def keyContext : DpeProfile → Bytes
  | p256Sha256 => [0x45, 0x43, 0x43]
  | p384Sha384 => [0x45, 0x43, 0x43]
  | mldsa87 => [0x4D, 0x4C, 0x44, 0x53, 0x41]

end DpeProfile

/-- A `u32` in little-endian order. -/
def toLeBytes (x : UInt32) : Bytes :=
  [x.toUInt8, (x >>> 8).toUInt8, (x >>> 16).toUInt8, (x >>> 24).toUInt8]

/-- A `u16` in little-endian order. -/
def toLeBytes16 (x : UInt16) : Bytes := [x.toUInt8, (x >>> 8).toUInt8]

@[simp] theorem toLeBytes_length (x : UInt32) : (toLeBytes x).length = 4 := rfl

@[simp] theorem toLeBytes16_length (x : UInt16) :
    (toLeBytes16 x).length = 2 := rfl

theorem toNat_byte (x n : UInt32) :
    (x >>> n).toUInt8.toNat = x.toNat / 2 ^ (n.toNat % 32) % 256 := by
  rw [UInt32.toNat_toUInt8, UInt32.toNat_shiftRight, Nat.shiftRight_eq_div_pow]

theorem toLeBytes_inj {x y : UInt32} (h : toLeBytes x = toLeBytes y) : x = y := by
  simp only [toLeBytes, List.cons.injEq, and_true] at h
  obtain ⟨h0, h1, h2, h3⟩ := h
  have h0 := congrArg UInt8.toNat h0
  have h1 := congrArg UInt8.toNat h1
  have h2 := congrArg UInt8.toNat h2
  have h3 := congrArg UInt8.toNat h3
  rw [UInt32.toNat_toUInt8, UInt32.toNat_toUInt8] at h0
  rw [toNat_byte, toNat_byte] at h1 h2 h3
  simp only [UInt32.reduceToNat, Nat.reduceMod, Nat.reducePow] at h0 h1 h2 h3
  have hx := x.toNat_lt
  have hy := y.toNat_lt
  exact UInt32.toNat_inj.mp (by omega)

/-- Flags of a DPE state. -/
structure DpeFlags where
  bits : UInt16
  deriving DecidableEq, Repr

/-- Mark DICE extensions as critical in certificates. -/
def DpeFlags.markDiceExtensionsCritical (f : DpeFlags) : Bool :=
  f.bits &&& 0x8000 == 0x8000

end Dpe
