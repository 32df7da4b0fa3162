import Dpe.Model.Env

/-! # The certificate writer — primitives

    The writer appends bytes to a response buffer at a running offset.  A
    write that does not fit is dropped while the offset still advances,
    so an offset past the capacity tells at the end that output was lost.
    A length that is not known yet is skipped and filled in later; the
    skipped places are kept on a stack.

    The profile and the criticality of the DICE extensions are fixed for
    a writer; here they are passed as a `CertConfig`. -/

namespace Dpe

open Prog

/-- The fields of a certificate writer that never change. -/
structure CertConfig where
  profile : DpeProfile
  critDice : Bool

/-- An entry of the trace of a writer. -/
inductive Event where
  /-- a length is left open at `offset` -/
  | reserved (offset : Nat)
  /-- the length `size` is written at `offset`, with the end of the output
      at `stop` -/
  | patched (offset size stop : Nat)
  deriving DecidableEq

/-- The trace is a ghost: it lists the lengths that have been left open and
    those that have been filled in, in their order, and nothing reads
    it. -/
structure CertWriter where
  certificate : ResponseBuffer
  offset : Nat
  csrRange : Option (Nat × Nat)
  backtracks : List (Nat × Nat)
  savedOffset : Option Nat
  trace : List Event

/-- Max amount of backtracks during encoding. -/
def MAX_BACKTRACKS : Nat := 10

/-- The bytes reserved for a length. -/
def SIZE_TAG_OFFSET : Nat := 3

namespace CertWriter

def BOOL_TAG : UInt8 := 0x1
def INTEGER_TAG : UInt8 := 0x2
def BIT_STRING_TAG : UInt8 := 0x3
def OCTET_STRING_TAG : UInt8 := 0x4
def OID_TAG : UInt8 := 0x6
def UTF8_STRING_TAG : UInt8 := 0xC
def PRINTABLE_STRING_TAG : UInt8 := 0x13
def GENERALIZE_TIME_TAG : UInt8 := 0x18
def SEQUENCE_TAG : UInt8 := 0x30
def SEQUENCE_OF_TAG : UInt8 := 0x30
def SET_OF_TAG : UInt8 := 0x31
def BOOL_SIZE : Nat := 1
def CONTEXT_SPECIFIC : UInt8 := 0x80
def CONSTRUCTED : UInt8 := 0x20

def new (cert : ResponseBuffer) : CertWriter where
  certificate := cert
  offset := 0
  csrRange := none
  backtracks := []
  savedOffset := none
  trace := []

/-! ## Sizes -/

/-- The number of bytes the ASN.1 size field will be. -/
def getSizeWidth (size : Nat) : Nat :=
  if size < 128 then 1
  else if size < 256 then 2
  else if size < 65536 then 3
  else if size < 16777216 then 4
  else 5

/-- The size of an ASN.1 structure.  If tagged, includes the tag and
    size. -/
def getStructureSize (dataSize : Nat) (tagged : Bool) : Nat :=
  if tagged then 1 + getSizeWidth dataSize + dataSize else dataSize

/-- The loop of `getIntegerBytesSize`: leading zeros are not counted, and
    a first byte with its high bit set needs one byte more. -/
def integerLenLoop (len : Nat) : Bytes → Nat
  | [] => len
  | byte :: rest =>
      if byte == 0 && !rest.isEmpty then integerLenLoop (len - 1) rest
      else if byte &&& 0x80 != 0 then len + 1
      else len

/-- The number of bytes the ASN.1 INTEGER will be. -/
def getIntegerBytesSize (integer : Bytes) (tagged : Bool) : Nat :=
  getStructureSize (integerLenLoop integer.length integer) tagged

/-- A `u64` in big-endian order. -/
def toBeBytes64 (x : UInt64) : Bytes :=
  [(x >>> 56).toUInt8, (x >>> 48).toUInt8, (x >>> 40).toUInt8,
    (x >>> 32).toUInt8, (x >>> 24).toUInt8, (x >>> 16).toUInt8,
    (x >>> 8).toUInt8, x.toUInt8]

/-- The number of bytes the ASN.1 INTEGER will be. -/
def getIntegerSize (integer : UInt64) (tagged : Bool) : Nat :=
  getIntegerBytesSize (toBeBytes64 integer) tagged

/-- The number of bytes an ASN.1 raw bytes field will be. -/
def getBytesSize (bytes : Bytes) (tagged : Bool) : Nat :=
  getStructureSize bytes.length tagged

end CertWriter

/-! ## Writing -/

/-- An encoder appends to the certificate and returns the number of bytes
    it has written. -/
abbrev Encode := StateM CertWriter Nat

/-- Run encoders in order; `bytes_written` is the sum. -/
def Encode.all : List Encode → Encode
  | [] => pure 0
  | e :: es => do
      let n ← e
      let m ← Encode.all es
      pure (n + m)

namespace CertWriter

/-- Write all of `bytes` to the certificate buffer.  The offset advances
    regardless of whether the write occurred. -/
def encodeBytes (bytes : Bytes) : Encode := fun w =>
  (bytes.length,
    { w with
      certificate :=
        match w.certificate.writeAt w.offset bytes with
        | .ok certificate => certificate
        | .error _ => w.certificate
      offset := w.offset + bytes.length })

/-- Write a single byte to the certificate buffer. -/
def encodeByte (byte : UInt8) : Encode := encodeBytes [byte]

def encodeTagField (tag : UInt8) : Encode := encodeByte tag

/-- The big-endian bytes `(size >> (i * 8)) as u8` for `i` below `n`. -/
def sizeBytes (size : Nat) : Nat → Bytes
  | 0 => []
  | n + 1 => UInt8.ofNat (size >>> (n * 8)) :: sizeBytes size n

/-- DER-encodes the size field of an ASN.1 type. -/
def encodeSizeField (size : Nat) : Encode :=
  let sizeWidth := getSizeWidth size
  if sizeWidth == 1 then do
    let _ ← encodeByte (UInt8.ofNat size)
    pure sizeWidth
  else do
    let rem := sizeWidth - 1
    let _ ← encodeByte (0x80 ||| UInt8.ofNat rem)
    let _ ← Encode.all ((sizeBytes size rem).map encodeByte)
    pure sizeWidth

/-- DER-encodes a big-endian integer buffer as an ASN.1 INTEGER. -/
def encodeIntegerBytes (integer : Bytes) (tagged : Bool) : Encode :=
  let size := getIntegerBytesSize integer false
  let integerOffset := integer.length - size
  .all [
    if tagged then encodeTagField INTEGER_TAG else pure 0,
    encodeSizeField size,
    -- a longer size means that a null byte needs to be prepended
    if size > integer.length then encodeByte 0 else pure 0,
    encodeBytes (integer.drop integerOffset)]

/-- DER-encodes `integer` as an ASN.1 INTEGER. -/
def encodeInteger (integer : UInt64) (tagged : Bool) : Encode :=
  encodeIntegerBytes (toBeBytes64 integer) tagged

/-- DER-encode a primitive: a tag, a size field and the value. -/
def encodeTlv (tag : UInt8) (val : Bytes) : Encode :=
  .all [encodeTagField tag, encodeSizeField val.length, encodeBytes val]

/-- DER-encodes `oid` as an ASN.1 ObjectIdentifier. -/
def encodeOid (oid : Bytes) : Encode := encodeTlv OID_TAG oid

end CertWriter

/-! ## Encoders that can fail -/

/-- What an encoder that can fail runs over: the writer, the signature
    buffer, and the environment of the signing callback. -/
structure Enc (σ : Type) where
  writer : CertWriter
  sig : Signature
  env : σ

abbrev EncM (σ : Type) := EStateM Stop (Enc σ)

/-- Signing callback: the buffer, the span to sign, whether to use the
    derived key, and the signature buffer. -/
abbrev SignCallback (σ : Type) :=
  ResponseBuffer → Nat → Nat → Bool → Signature → EStateM Stop σ Signature

namespace EncM

variable {σ : Type}

/-- Run an encoder that cannot fail. -/
def emit (e : Encode) : EncM σ Nat := fun s =>
  let r := e.run s.writer
  .ok r.1 { s with writer := r.2 }

/-- Invoke the callback on a span of the certificate. -/
def sign (signCb : SignCallback σ) (start stop : Nat) (useDerived : Bool) :
    EncM σ PUnit := fun s =>
  match signCb s.writer.certificate start stop useDerived s.sig s.env with
  | .ok sig env => .ok ⟨⟩ { s with sig := sig, env := env }
  | .error e env => .error e { s with env := env }

/-- An error when the guard is up. -/
def reject (c : Bool) (e : DpeErrorCode) : EncM σ PUnit := rejectIf c (.err e)

def orFail {α : Type} (r : Except DpeErrorCode α) : EncM σ α :=
  match r with
  | .ok a => pure a
  | .error e => throw (.err e)

def setWriter (f : CertWriter → CertWriter) : EncM σ PUnit :=
  modify fun s => { s with writer := f s.writer }

/-- Fails when the offset is past the end of the buffer. -/
def checkNotTruncated : EncM σ PUnit := do
  let s ← get
  reject (decide (s.writer.certificate.capacity < s.writer.offset))
    InternalErrorCode.certSizeOverflow

/-- Moves the offset forward by `skip` bytes and remembers the gap.
    Returns the new offset. -/
def pushBacktrack (skip : Nat) : EncM σ Nat := do
  let s ← get
  reject (decide (MAX_BACKTRACKS ≤ s.writer.backtracks.length))
    .x509SkipsExhausted
  setWriter fun w =>
    { w with
      backtracks := (w.offset, w.offset + skip) :: w.backtracks
      offset := w.offset + skip
      trace := w.trace ++ [.reserved w.offset] }
  pure (s.writer.offset + skip)

/-- Goes back to the last gap. -/
def popBacktrack (expectedWidth : Nat) : EncM σ PUnit := do
  let s ← get
  reject s.writer.savedOffset.isNone .x509InvalidState
  match s.writer.backtracks with
  | [] => throw (.err .x509InvalidState)
  | range :: backtracks => do
      setWriter fun w => { w with backtracks := backtracks }
      reject (range.2 - range.1 != expectedWidth) .x509InvalidWidth
      setWriter fun w => { w with offset := range.1 }

/-- Saves the current offset to begin a backtrack sequence. -/
def startBacktrack : EncM σ PUnit := do
  let s ← get
  reject s.writer.savedOffset.isSome .x509InvalidState
  setWriter fun w => { w with savedOffset := some w.offset }

/-- Restores the offset to where it was before the pop sequence. -/
def endBacktrack : EncM σ PUnit := do
  let s ← get
  match s.writer.savedOffset with
  | none => throw (.err .x509InvalidState)
  | some offset =>
      setWriter fun w => { w with offset := offset, savedOffset := none }

/-- The size that is about to be written, for the trace. -/
def tracePatch (size : Nat) : EncM σ PUnit :=
  setWriter fun w =>
    { w with
      trace := w.trace ++ [.patched w.offset size (w.savedOffset.getD w.offset)] }

/-- Fill the gaps, the last one first, with the sizes. -/
def encodeSizes : List Nat → EncM σ Nat
  | [] => pure 0
  | size :: sizes => do
      popBacktrack (CertWriter.getSizeWidth size)
      tracePatch size
      let n ← emit (CertWriter.encodeSizeField size)
      let m ← encodeSizes sizes
      pure (n + m)

/-- Returns the bytes written, which the caller may add to its count. -/
def backtrackAndEncodeSize (sizes : List Nat) : EncM σ Nat := do
  startBacktrack
  let bytesWritten ← encodeSizes sizes
  endBacktrack
  pure bytesWritten

end EncM

end Dpe
