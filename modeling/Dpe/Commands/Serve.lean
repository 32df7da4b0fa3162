import Dpe.Commands.Respond

/-! # Serving requests

    `execute_serialized_command` decodes a request and runs it, and the
    simulator does so for one request after the other that comes in over a
    socket. -/

namespace Dpe

open Layout Prog

variable {b : Build} {W : Type}

/-- A failure as a value. -/
def attempt {α : Type} (m : M b W α) : M b W (Except DpeErrorCode α) := fun env =>
  match m env with
  | .ok a env' => .ok (.ok a) env'
  | .error (.err e) env' => .ok (.error e) env'
  | .error .noReturn env' => .error .noReturn env'

/-- `DpeInstance::deserialize_command`. -/
def DpeInstance.deserializeCommand (dpe : DpeInstance b) (address : Nat)
    (cmd : Bytes) : Except DpeErrorCode (Command b) :=
  Command.deserialize dpe.profile address cmd

/-- `DpeInstance::execute_serialized_command`: what cannot be decoded is an
    error of the call, a command that fails is answered with a header. -/
def DpeInstance.executeSerializedCommand (d : Deps b W) (dpe : DpeInstance b)
    (address : Nat) (locality : UInt32) (cmd : Bytes) :
    M b W (Except DpeErrorCode (Response b)) :=
  match dpe.deserializeCommand address cmd with
  | .error e => pure (.error e)
  | .ok command => do
      let resp ← attempt (command.execute d dpe locality)
      match resp with
      | .ok resp => pure (.ok resp)
      | .error errCode => pure (.ok (.error (dpe.responseHdr errCode)))

namespace Simulator

/-- The requests that the simulator reads are not longer. -/
def BUF_SIZE : Nat := 4096

/-- `handle_request`, with its buffer at `address`; `none` is a panic.  It
    panics on a request that has no locality, and unwraps the two results
    that it gets from the library. -/
def handleRequest (d : Deps b W) (dpe : DpeInstance b) (address : Nat)
    (stream : Bytes) : M b W (Option Bytes) :=
  let buf := stream.take BUF_SIZE
  match word32.ofBytes buf with
  | none => pure none
  | some locality => do
      let response ← dpe.executeSerializedCommand d (address + 4) locality (buf.drop 4)
      match response with
      | .error _ => pure none
      | .ok response =>
          match response.asBytesPartial with
          | .error _ => pure none
          | .ok bytes => pure (some bytes)

/-- What a simulator has done by the end of a run of requests. -/
structure Served (b : Build) (W : Type) where
  answers : List Bytes
  env : Env b W

/-- The loop of `main` over a sequence of requests; `none` if the process
    panics or hangs in one of them. -/
def serve (d : Deps b W) (dpe : DpeInstance b) (address : Nat) :
    List Bytes → Env b W → Option (Served b W)
  | [], env => some ⟨[], env⟩
  | stream :: streams, env =>
      match handleRequest d dpe address stream env with
      | .ok (some answer) env' =>
          (serve d dpe address streams env').map fun served =>
            { served with answers := answer :: served.answers }
      | .ok none _ => none
      | .error .. => none

end Simulator

end Dpe
