import Dpe.Lib.Prog
import Dpe.Model.State
import Dpe.Model.Traits

/-! # The environment of a command

    A command runs over the DPE state, the world of the crypto suite and
    the platform, and an output buffer.  `hashed` is the input of the
    running hash.  `drawn` is a ghost: the values the random number
    generator has returned, oldest first; no code reads it. -/

namespace Dpe

open Prog

/-- What the commands run over, fixed for one call: the two traits and a
    bound on the chunks the measurement hash reads from the platform's
    certificate chain.  That loop ends only when the platform reports an
    error, so a run that uses up the bound counts as one that never
    returns; nothing is assumed about the bound. -/
structure Deps (b : Build) (W : Type) where
  crypto : CryptoSuite W
  platform : Platform b W
  fuel : Nat

structure Env (b : Build) (W : Type) where
  state : State b
  world : W
  out : ResponseBuffer
  hashed : Bytes
  drawn : List (Vector UInt8 16)

/-- Programs of the library: stateful, with errors that do not undo. -/
abbrev M (b : Build) (W : Type) := EStateM Stop (Env b W)

variable {b : Build} {W : Type} {α : Type}

/-! ## Calls into the two traits -/

/-- Call a crypto method. -/
def callCrypto (f : W → Except CryptoError α × W) : M b W α := fun env =>
  match f env.world with
  | (.ok a, w) => .ok a { env with world := w }
  | (.error e, w) => .error (.err (.crypto e)) { env with world := w }

/-- Call a platform method. -/
def callPlatform (f : W → Except PlatformError α × W) : M b W α := fun env =>
  match f env.world with
  | (.ok a, w) => .ok a { env with world := w }
  | (.error e, w) => .error (.err (.platform e)) { env with world := w }

/-- Call a platform method and look at its result. -/
def tryPlatform (f : W → Except PlatformError α × W) :
    M b W (Except PlatformError α) := fun env =>
  .ok (f env.world).1 { env with world := (f env.world).2 }

/-- A result that may be an error code. -/
def orFail (r : Except DpeErrorCode α) : M b W α :=
  match r with
  | .ok a => pure a
  | .error e => throw (.err e)

/-- `ok_or(e)?`. -/
def okOr (o : Option α) (e : DpeErrorCode) : M b W α :=
  match o with
  | some a => pure a
  | none => throw (.err e)

/-- `return Err(e)` when the guard is up. -/
def reject (c : Bool) (e : DpeErrorCode) : M b W PUnit := rejectIf c (.err e)

/-! ## Hashing and random bytes -/

variable (d : Deps b W)

/-- `crypto.hasher()?; hasher.initialize()?`. -/
def startHash : M b W PUnit := do
  callCrypto d.crypto.hasher
  callCrypto d.crypto.hasherInitialize
  modify fun env => { env with hashed := [] }

def updateHash (bytes : Bytes) : M b W PUnit := do
  callCrypto (d.crypto.hasherUpdate bytes)
  modify fun env => { env with hashed := env.hashed ++ bytes }

def finishHash : M b W Digest := do
  let env ← get
  callCrypto (d.crypto.hasherFinish env.hashed)

/-- Feed the buffers to the running hash in order. -/
def updateAll : List Bytes → M b W PUnit
  | [] => pure ⟨⟩
  | v :: vals => do
      updateHash d v
      updateAll vals

/-- `Crypto::hash_all`. -/
def hashAll (vals : List Bytes) : M b W Digest := do
  startHash d
  updateAll d vals
  finishHash d

/-- `Crypto::rand_bytes` into a buffer of handle size. -/
def randBytes : M b W (Vector UInt8 16) := do
  let v ← callCrypto (d.crypto.randBytes 16)
  modify fun env => { env with drawn := env.drawn ++ [v] }
  pure v

/-! ## The output buffer -/

/-- `out.write_at(off, bytes)`, with the error the caller maps an
    overflow to. -/
def writeAt (off : Nat) (bytes : Bytes) (e : DpeErrorCode) : M b W PUnit :=
  fun env =>
    match env.out.writeAt off bytes with
    | .ok out => .ok ⟨⟩ { env with out := out }
    | .error _ => .error (.err e) env

/-- Run `m` on a window of the output buffer that starts at `base`. -/
def withOffset (base : Nat) (m : M b W α) : M b W α := fun env =>
  match m { env with out := .offset env.out base } with
  | .ok a env' => .ok a { env' with out := env'.out.inner }
  | .error e env' => .error e { env' with out := env'.out.inner }

/-- Run `m` on a buffer of its own. -/
def withBuffer (buf : Bytes) (m : M b W α) : M b W (α × ResponseBuffer) :=
  fun env =>
    match m { env with out := .slice buf } with
    | .ok a env' => .ok (a, env'.out) { env' with out := env.out }
    | .error e env' => .error e { env' with out := env.out }

end Dpe
