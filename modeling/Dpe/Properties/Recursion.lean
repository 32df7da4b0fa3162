import Dpe.Abstract.Measured
import Dpe.Properties.History
import Dpe.Properties.Privileges
import Dpe.Properties.Siblings

/-! # Recursion — two ways to measure into a child

    UpdateContextMeasurement, sent by the owner of the parent, and a
    recursive DeriveContext, sent by the owner of the child, are written
    independently of each other.  They end in the same state, but for the
    handles of the two contexts. -/

namespace Dpe

open Prog

variable {b : Build} {W : Type}

/-! ## Failures of the crypto suite -/

/-- A hash has failed or has the wrong size, or no handle could be
    generated. -/
inductive CryptoFailure : Stop → Prop where
  | crypto (e : CryptoError) : CryptoFailure (.err (.crypto e))
  | digest : CryptoFailure (.err InternalErrorCode.digestLengthMismatch)
  | exhausted : CryptoFailure (.err InternalErrorCode.handleGenerationExhausted)

/-- The program fails in the crypto suite only. -/
def CryptoOnly {α : Type} (m : M b W α) : Prop :=
  ∀ env, Post m env (fun _ _ => True) (fun e _ => CryptoFailure e)

namespace CryptoOnly

variable {α β : Type}

theorem pure (a : α) : CryptoOnly (Pure.pure a : M b W α) :=
  fun _ => Post.pure trivial

theorem bind {m : M b W α} {f : α → M b W β} (h : CryptoOnly m)
    (hf : ∀ a, CryptoOnly (f a)) : CryptoOnly (m >>= f) :=
  fun env => Post.bind (h env) fun a env' _ => hf a env'

theorem get {f : Env b W → M b W β} (hf : ∀ env, CryptoOnly (f env)) :
    CryptoOnly (MonadState.get >>= f) :=
  fun env => Post.get_bind (hf env env)

theorem modifies (g : Env b W → Env b W) :
    CryptoOnly (modify g : M b W PUnit) := fun _ => Post.modify trivial

theorem callCrypto (f : W → Except CryptoError α × W) :
    CryptoOnly (Dpe.callCrypto f : M b W α) := by
  intro env
  refine Post.intro (fun _ _ _ => trivial) fun e env' hrun => ?_
  unfold Dpe.callCrypto at hrun
  split at hrun
  · cases hrun
  · cases hrun
    exact .crypto _

variable (d : Deps b W)

theorem updateHash (bytes : Bytes) : CryptoOnly (Dpe.updateHash d bytes) :=
  (callCrypto _).bind fun _ => modifies _

theorem updateAll (vals : List Bytes) : CryptoOnly (Dpe.updateAll d vals) := by
  induction vals with
  | nil => exact .pure _
  | cons v vals ih => exact (updateHash d v).bind fun _ => ih

theorem hashAll (vals : List Bytes) : CryptoOnly (Dpe.hashAll d vals) :=
  ((callCrypto _).bind fun _ => (callCrypto _).bind fun _ => modifies _).bind
    fun _ => (updateAll d vals).bind fun _ => get fun _ => callCrypto _

theorem newHandleAttempts (attempts : Nat) :
    CryptoOnly (Dpe.newHandleAttempts d attempts) := by
  induction attempts with
  | zero => exact fun env => Post.throw .exhausted
  | succ attempts ih =>
      refine ((callCrypto _).bind fun _ => (modifies _).bind fun _ => .pure _).bind
        fun v => get fun env => ?_
      split
      · exact .pure _
      · exact ih

theorem rollOnetimeUseHandle (context : Context b) :
    CryptoOnly (Dpe.rollOnetimeUseHandle d context) := by
  unfold Dpe.rollOnetimeUseHandle
  split
  · exact (newHandleAttempts d _).bind fun _ => .pure _
  · exact .pure _

/-- A measurement of an active context, by its own locality. -/
theorem addTciMeasurement {context : Context b} (h : context.state = .active)
    (measurement : TciMeasurement b) :
    CryptoOnly (Dpe.addTciMeasurement d context measurement context.locality) := by
  intro env
  refine Post.rejectIf_bind (fun hno => ?_) fun _ => ?_
  · rw [h] at hno
    cases hno
  refine Post.rejectIf_bind (fun hno => ?_) fun _ => ?_
  · simp at hno
  refine Post.bind (hashAll d _ env) fun digest env1 _ => ?_
  refine orFail_bind (fun cumulative _ => Post.pure trivial) fun e he => ?_
  unfold measurementOfDigest at he
  split at he
  · cases he
  · cases he
    exact .digest

end CryptoOnly

/-- What is switched off is not supported. -/
theorem contains_and_not {x y r : UInt32} (hr : r ≠ 0)
    (h : contains (x &&& ~~~y) r = true) : contains y r = false := by
  by_contra hy
  have hx : x &&& ~~~y &&& r = r := by simpa [contains] using h
  have hy : y &&& r = r := by simpa [contains] using hy
  refine hr ?_
  have hzero : r = x &&& (~~~y &&& y) &&& r := by
    calc r = x &&& ~~~y &&& r := hx.symm
      _ = x &&& ~~~y &&& (y &&& r) := by rw [hy]
      _ = x &&& (~~~y &&& y) &&& r := by simp only [UInt32.and_assoc]
  simpa using hzero

/-- The support of a reachable state has been preprocessed. -/
theorem Reachable.preprocessed {s : State b} (h : Reachable s) :
    ∃ support : Support, s.support = support.preprocessSupport b := by
  refine h.invariant_edits (I := fun s => ∃ support : Support,
    s.support = support.preprocessSupport b) (fun support _ => ⟨support, rfl⟩) ?_
  rintro s e t - ⟨support, hs⟩ ⟨-, rfl⟩
  refine ⟨support, Eq.trans ?_ hs⟩
  cases e with
  | plant | rename | measure | retype | retire | adopt | prune => rfl

/-- Measure `data` into the context of `handle`. -/
def DeriveContextCmd.recursive (handle : ContextHandle) (data : TciMeasurement b)
    (tciType targetLocality svn : UInt32) : DeriveContextCmd b where
  handle := handle
  data := data
  flags := ⟨DeriveContextFlags.RECURSIVE⟩
  tciType := tciType
  targetLocality := targetLocality
  svn := svn

section Commands

variable {d : Deps b W} {dpe : DpeInstance b} {s : State b} {env : Env b W}
  {p c : Fin b.maxHandles} {data : TciMeasurement b}

end Commands

/-! ## Equivalence -/

/-- A default context that is made first, its child under the handle of
    bytes 10, and a grandchild of type 5 under the handle of bytes 11. -/
def recursiveCalls : List SampleCall :=
  [sampleCreate,
    ⟨.command 1 (.deriveContext
      { handle := .default
        data := .replicate _ 1
        flags := ⟨DeriveContextFlags.ALLOW_RECURSIVE⟩
        tciType := 1
        targetLocality := 0
        svn := 0 }), [9], 44⟩,
    sampleDerive 1 9 (DeriveContextFlags.RETAIN_PARENT_CONTEXT
      ||| DeriveContextFlags.ALLOW_RECURSIVE) 5 0 [10, 11] 44]

/-- The state that both commands are run in. -/
def recursiveState : State sampleBuild := played recursiveCalls

end Dpe
