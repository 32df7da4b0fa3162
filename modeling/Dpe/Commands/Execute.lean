import Dpe.Lib.Runs
import Dpe.Commands.Derive
import Dpe.Commands.Keys

/-! # Executing commands, creating instances, reachable states

    A call is one use of the library by its environment: creating an
    instance, with or without a first measurement, or executing a
    command.  A state is reachable if a sequence of calls that return
    leads to it from a new state; every call may come with a crypto suite,
    a platform, a world and an output buffer of its own. -/

namespace Dpe

open Prog Runs

variable {b : Build} {W : Type}

inductive Command (b : Build) where
  | getProfile (cmd : GetProfileCmd)
  | initCtx (cmd : InitCtxCmd)
  | deriveContext (cmd : DeriveContextCmd b)
  | certifyKey (cmd : CertifyKeyCommand)
  | sign (cmd : SignCommand)
  | rotateCtx (cmd : RotateCtxCmd)
  | destroyCtx (cmd : DestroyCtxCmd)
  | getCertificateChain (cmd : GetCertificateChainCmd)
  | updateContextMeasurement (cmd : UpdateContextMeasurementCmd b)

/-- `CommandExecution for Command`. -/
def Command.executeSerialized (d : Deps b W) (dpe : DpeInstance b)
    (locality : UInt32) : Command b → M b W Nat
  | getProfile cmd => cmd.executeSerialized d dpe locality
  | initCtx cmd => cmd.executeSerialized d dpe locality
  | deriveContext cmd => cmd.executeSerialized d dpe locality
  | certifyKey cmd => cmd.executeSerialized d dpe locality
  | sign cmd => cmd.executeSerialized d dpe locality
  | rotateCtx cmd => cmd.executeSerialized d dpe locality
  | destroyCtx cmd => cmd.executeSerialized dpe locality
  | getCertificateChain cmd => cmd.executeSerialized d dpe locality
  | updateContextMeasurement cmd => cmd.executeSerialized d dpe locality

/-! ## Instances -/

/-- `DpeInstance::new`: an instance with auto-init support starts with a
    default context. -/
def DpeInstance.new (d : Deps b W) (dpe : DpeInstance b) : M b W PUnit := do
  let env ← get
  if env.state.support.autoInit then do
    let locality ← callPlatform d.platform.getAutoInitLocality
    let _ ← withBuffer (List.replicate 28 0)
      (InitCtxCmd.newUseDefault.executeSerialized d dpe locality)
    pure ⟨⟩
  else pure ⟨⟩

/-- `DpeInstance::new_auto_init`: an instance whose default context
    carries a measurement. -/
def DpeInstance.newAutoInit (d : Deps b W) (dpe : DpeInstance b)
    (tciType : UInt32) (autoInitMeasurement : TciMeasurement b) :
    M b W PUnit := do
  let env ← get
  reject (!env.state.support.autoInit) .argumentNotSupported
  DpeInstance.new d dpe
  let locality ← callPlatform d.platform.getAutoInitLocality
  let env ← get
  let idx ← orFail (env.state.getActiveContextPos .default locality)
  let context ← addTciMeasurement d (env.state.contexts idx)
    autoInitMeasurement locality
  setContext idx { context with tci := { context.tci with tciType := tciType } }

/-! ## Calls and runs -/

inductive Call (b : Build) where
  | new
  | newAutoInit (tciType : UInt32) (measurement : TciMeasurement b)
  | command (locality : UInt32) (cmd : Command b)

def Call.run (d : Deps b W) (dpe : DpeInstance b) : Call b → M b W PUnit
  | new => DpeInstance.new d dpe
  | newAutoInit tciType measurement => dpe.newAutoInit d tciType measurement
  | command locality cmd => do
      let _ ← cmd.executeSerialized d dpe locality
      pure ⟨⟩

/-- A call with everything it runs over. -/
structure Exec (b : Build) where
  W : Type
  deps : Deps b W
  dpe : DpeInstance b
  call : Call b
  env : Env b W

/-- The call starts in `s` and returns, with a result or an error code,
    in `s'`. -/
def Exec.Step (s : State b) (x : Exec b) (s' : State b) : Prop :=
  x.env.state = s ∧
    ((∃ env', x.call.run x.deps x.dpe x.env = .ok ⟨⟩ env' ∧ env'.state = s')
      ∨ ∃ e env', x.call.run x.deps x.dpe x.env = .error (.err e) env'
        ∧ env'.state = s')

/-- The states reached from a new state by any finite sequence of
    calls. -/
def Reachable (s : State b) : Prop :=
  ∃ support flags xs, Run Exec.Step (State.new b support flags) xs s

end Dpe
