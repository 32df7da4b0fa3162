import Dpe.Proofs.Refinement

/-! # A concrete instance

    A build with four slots, a crypto suite whose random values are read
    off a script, and a platform.  A sequence of calls on it is played
    from a new state; what it leads to is a reachable state. -/

namespace Dpe

open Prog Runs

/-- The hybrid build, with four slots. -/
def sampleBuild : Build :=
  { Build.default with
    mlDsa := true
    maxHandles := 4
    maxHandles_pos := by decide
    maxHandles_le := by decide }

def sampleSlot (i : Fin 4) : Fin sampleBuild.maxHandles := i

/-- The world is the script of random values: each byte fills a buffer.
    The hash tells apart the lengths of its inputs, and a CDI is the digest
    that it was derived from. -/
def sampleCrypto : CryptoSuite (List UInt8) where
  Cdi := Digest
  Signer := Unit
  signatureAlgorithm _ := .ecdsa .bit384
  digestAlgorithm _ := .sha384
  randBytes n w := (.ok (.replicate n (w.headD 1)), w.tail)
  hasher w := (.ok ⟨⟩, w)
  hasherInitialize w := (.ok ⟨⟩, w)
  hasherUpdate _ w := (.ok ⟨⟩, w)
  hasherFinish bs w := (.ok (.sha384 (.replicate 48 (UInt8.ofNat bs.length))), w)
  deriveCdi digest _ w := (.ok digest, w)
  deriveExportedCdi _ _ w := (.ok (.replicate 32 7), w)
  deriveKeyPair _ _ _ w := (.ok (), w)
  deriveKeyPairExported _ _ _ w := (.ok (), w)
  sign _ _ sig w := (.ok sig, w)
  publicKey _ key w := (.ok key, w)
  signWithAlias _ sig w := (.ok sig, w)

def samplePlatform : Platform sampleBuild (List UInt8) where
  getCertificateChain _ _ _ w := (.error .certificateChainError, w)
  getIssuerName buf w := (.ok (2, buf), w)
  getSignerIdentifier w := (.ok (.subjectKeyIdentifier ⟨[1, 2, 3], by decide⟩), w)
  getIssuerKeyIdentifier buf w := (.ok buf, w)
  getVendorId w := (.ok 1, w)
  getVendorSku w := (.ok 1, w)
  getAutoInitLocality w := (.ok 1, w)
  getCertValidity w := (.ok ⟨⟨[0x30], by decide⟩, ⟨[0x31], by decide⟩⟩, w)
  getSubjectAlternativeName w := (.error .notImplemented, w)
  getUeid w := (.ok ⟨.replicate 48 0, 3⟩, w)

def sampleDeps : Deps sampleBuild (List UInt8) :=
  ⟨sampleCrypto, samplePlatform, 8⟩

def sampleDpe : DpeInstance sampleBuild := ⟨.p384Sha384, rfl⟩

/-- All that an instance can support. -/
def sampleNew : State sampleBuild := .new sampleBuild ⟨0xFFFFFFFF⟩ ⟨0⟩

/-! ## Playing calls -/

/-- A call, its random values and the size of its output buffer. -/
structure SampleCall where
  call : Call sampleBuild
  random : List UInt8
  room : Nat

def sampleEnv (s : State sampleBuild) (random : List UInt8) (room : Nat) :
    Env sampleBuild (List UInt8) :=
  ⟨s, random, .slice (List.replicate room 0), [], []⟩

@[simp] theorem sampleEnv_state (s : State sampleBuild) (random : List UInt8)
    (room : Nat) : (sampleEnv s random room).state = s := rfl

def SampleCall.exec (c : SampleCall) (s : State sampleBuild) :
    Exec sampleBuild :=
  ⟨List UInt8, sampleDeps, sampleDpe, c.call, sampleEnv s c.random c.room⟩

/-- The state in which a call ends, if it ends. -/
def Exec.after {b : Build} (x : Exec b) : Option (State b) :=
  match x.call.run x.deps x.dpe x.env with
  | .ok _ env' => some env'.state
  | .error (.err _) env' => some env'.state
  | .error .noReturn _ => none

theorem Exec.step_after {b : Build} {x : Exec b} {s' : State b}
    (h : x.after = some s') : Exec.Step x.env.state x s' := by
  refine ⟨rfl, ?_⟩
  unfold after at h
  split at h
  · rename_i env' hr
    cases h
    exact .inl ⟨env', hr, rfl⟩
  · rename_i e env' hr
    cases h
    exact .inr ⟨e, env', hr, rfl⟩
  · cases h

def play (s : State sampleBuild) : List SampleCall → Option (State sampleBuild)
  | [] => some s
  | c :: cs =>
      match (c.exec s).after with
      | some s' => play s' cs
      | none => none

theorem play_run {s s' : State sampleBuild} {cs : List SampleCall}
    (h : play s cs = some s') :
    ∃ xs, Run Exec.Step s xs s' ∧ xs.map Exec.call = cs.map SampleCall.call := by
  induction cs generalizing s with
  | nil =>
      cases h
      exact ⟨[], .nil _, rfl⟩
  | cons c cs ih =>
      unfold play at h
      split at h
      · rename_i s1 hafter
        obtain ⟨xs, hrun, hcalls⟩ := ih h
        exact ⟨_, .cons (Exec.step_after hafter) hrun,
          congrArg (c.call :: ·) hcalls⟩
      · cases h

/-- The state that a sequence of calls leads to from a new state. -/
def played (cs : List SampleCall) : State sampleBuild :=
  (play sampleNew cs).getD sampleNew

/-- The calls that are played are a run. -/
theorem run_played {cs : List SampleCall}
    (h : (play sampleNew cs).isSome = true) :
    ∃ xs, Run Exec.Step sampleNew xs (played cs) ∧
      xs.map Exec.call = cs.map SampleCall.call := by
  have hplay : play sampleNew cs = some (played cs) := by
    unfold played
    cases hp : play sampleNew cs with
    | none =>
        rw [hp] at h
        cases h
    | some s => rfl
  exact play_run hplay

/-- What is played from a new state is reachable. -/
theorem reachable_played {cs : List SampleCall}
    (h : (play sampleNew cs).isSome = true) : Reachable (played cs) := by
  obtain ⟨xs, hrun, -⟩ := run_played h
  exact ⟨_, _, xs, hrun⟩

/-- One more call is a step. -/
theorem step_played {cs : List SampleCall} {c : SampleCall}
    (h : (play sampleNew (cs ++ [c])).isSome = true) :
    Exec.Step (played cs) (c.exec (played cs)) (played (cs ++ [c])) := by
  have hsplit : ∀ (s : State sampleBuild) (cs : List SampleCall),
      play s (cs ++ [c]) = (play s cs).bind fun s' => (c.exec s').after := by
    intro s cs
    induction cs generalizing s with
    | nil =>
        show (match (c.exec s).after with
          | some s' => play s' []
          | none => none) = (c.exec s).after
        cases (c.exec s).after <;> rfl
    | cons c' cs ih =>
        rw [List.cons_append]
        unfold play
        cases (c'.exec s).after with
        | none => rfl
        | some s' => exact ih s'
  unfold played
  rw [hsplit] at h ⊢
  cases hp : play sampleNew cs with
  | none =>
      rw [hp] at h
      cases h
  | some s =>
      rw [hp] at h
      show Exec.Step s (c.exec s) ((c.exec s).after.getD sampleNew)
      cases ha : (c.exec s).after with
      | none =>
          rw [Option.bind_some, ha] at h
          cases h
      | some s' => exact Exec.step_after ha

/-! ## How a run ends -/

section Endings

variable {b : Build} {W : Type}

/-- The environment in which a program ends. -/
def ending (r : EStateM.Result Stop (Env b W) Nat) : Env b W :=
  match r with
  | .ok _ env => env
  | .error _ env => env

/-- The program returns `n`. -/
def returns (r : EStateM.Result Stop (Env b W) Nat) (n : Nat) : Bool :=
  match r with
  | .ok m _ => m == n
  | .error .. => false

theorem ending_of_returns {r : EStateM.Result Stop (Env b W) Nat} {n : Nat}
    (h : returns r n = true) : r = .ok n (ending r) := by
  cases r with
  | ok m env =>
      rw [returns, beq_iff_eq] at h
      rw [h]
      rfl
  | error => cases h

theorem ending_of_ok {r : EStateM.Result Stop (Env b W) Nat} {n : Nat}
    {env : Env b W} (h : r = .ok n env) : r = .ok n (ending r) := by
  subst h
  rfl

/-- The program fails with `e`. -/
def fails (r : EStateM.Result Stop (Env b W) Nat) (e : Stop) : Bool :=
  match r with
  | .ok .. => false
  | .error e' _ => e' == e

theorem ending_of_fails {r : EStateM.Result Stop (Env b W) Nat} {e : Stop}
    (h : fails r e = true) : r = .error e (ending r) := by
  cases r with
  | ok => cases h
  | error e' env =>
      rw [fails, beq_iff_eq] at h
      rw [h]
      rfl

/-- What a run returns, if it does. -/
def outcome {α : Type} (r : EStateM.Result Stop (Env b W) α) : Option (α × Env b W) :=
  match r with
  | .ok a env => some (a, env)
  | .error .. => none

theorem eq_outcome {α : Type} {r : EStateM.Result Stop (Env b W) α}
    (h : (outcome r).isSome = true) :
    r = .ok ((outcome r).get h).1 ((outcome r).get h).2 := by
  cases r with
  | ok a env => rfl
  | error => cases h

end Endings

/-! ## Calls to play -/

/-- The default context in `locality`. -/
def sampleInit (locality : UInt32) : SampleCall :=
  ⟨.command locality (.initCtx .newUseDefault), [], 28⟩

/-- A simulation context in `locality`, under the handle of bytes `h`. -/
def sampleSimulation (locality : UInt32) (h : UInt8) : SampleCall :=
  ⟨.command locality (.initCtx .newSimulation), [h], 28⟩

/-- The handle of bytes `h`. -/
def sampleHandle (h : UInt8) : ContextHandle := ⟨.replicate 16 h⟩

/-- A derivation, from the handle of bytes `h`. -/
def sampleDerive (locality : UInt32) (h : UInt8) (flags tciType target : UInt32)
    (random : List UInt8) (room : Nat) : SampleCall :=
  ⟨.command locality (.deriveContext
    { handle := sampleHandle h
      data := .replicate _ 1
      flags := ⟨flags⟩
      tciType := tciType
      targetLocality := target
      svn := 0 }), random, room⟩

end Dpe
