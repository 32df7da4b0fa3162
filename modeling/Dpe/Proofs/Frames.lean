import Dpe.Model.Instance
import Dpe.Proofs.Buffer

/-! # Frames — hashing, handles, measurements

    What the shared functions of the instance leave alone.  Hashing and
    the calls into the traits keep the state, the output buffer and the
    record of random values; drawing a handle only adds to the record.
    None of them fails as if the response could not be written, so such
    a failure says where in a command it happened. -/

namespace Dpe

open Prog

variable {b : Build} {W α β : Type}

/-- The response could not be written. -/
def Unwritable (e : Stop) : Prop :=
  e = .err .invalidResponseBuf ∨ e = .err InternalErrorCode.certSizeOverflow

instance (e : Stop) : Decidable (Unwritable e) :=
  inferInstanceAs (Decidable (_ ∨ _))

/-- A result that may be an error code in front of a program. -/
theorem orFail_bind {r : Except DpeErrorCode α} {f : α → M b W β}
    {env : Env b W} {ok : β → Env b W → Prop} {err : Stop → Env b W → Prop}
    (hok : ∀ a, r = .ok a → Post (f a) env ok err)
    (herr : ∀ e, r = .error e → err (.err e) env) :
    Post (orFail r >>= f) env ok err := by
  cases r with
  | ok a => exact ⟨(hok a rfl).holds⟩
  | error e => exact ⟨herr e rfl⟩

/-! ## Programs that keep what the library owns -/

/-- `m` keeps the state, the output buffer and the record of random
    values, and does not fail over the response. -/
def Quiet (m : M b W α) : Prop :=
  ∀ env, Post m env (fun _ env' => env'.own = env.own)
    (fun e env' => env'.own = env.own ∧ ¬ Unwritable e)

namespace Quiet

variable {m : M b W α} {f : α → M b W β}

theorem keeps (h : Quiet m) : Keeps Env.own m :=
  fun env => (h env).mono (fun _ _ hk => hk) (fun _ _ hk => hk.1)

theorem pure (a : α) : Quiet (pure a : M b W α) := fun _ => Post.pure rfl

theorem throw {e : Stop} (h : ¬ Unwritable e) : Quiet (throw e : M b W α) :=
  fun _ => Post.throw ⟨rfl, h⟩

theorem get : Quiet (get : M b W (Env b W)) := fun _ => Post.get rfl

theorem modify {g : Env b W → Env b W} (h : ∀ env, (g env).own = env.own) :
    Quiet (modify g : M b W PUnit) := fun env => Post.modify (h env)

theorem crypto (f : W → Except CryptoError α × W) :
    Quiet (callCrypto f : M b W α) := by
  intro env
  refine ⟨?_⟩
  unfold callCrypto
  cases hf : f env.world with
  | mk r w =>
      cases r with
      | ok a => rfl
      | error e => exact ⟨rfl, by simp [Unwritable]⟩

theorem platform (f : W → Except PlatformError α × W) :
    Quiet (callPlatform f : M b W α) := by
  intro env
  refine ⟨?_⟩
  unfold callPlatform
  cases hf : f env.world with
  | mk r w =>
      cases r with
      | ok a => rfl
      | error e => exact ⟨rfl, by simp [Unwritable]⟩

theorem bind (hm : Quiet m) (hf : ∀ a, Quiet (f a)) : Quiet (m >>= f) := by
  intro env
  refine Post.bind (hm env) ?_
  intro a env' henv'
  refine (hf a env').mono ?_ ?_
  · intro b env'' h
    exact h.trans henv'
  · intro e env'' h
    exact ⟨h.1.trans henv', h.2⟩

end Quiet

/-! ## Hashing -/

section Hash

variable (d : Deps b W) (dpe : DpeInstance b)

theorem quiet_startHash : Quiet (startHash d) :=
  (Quiet.crypto _).bind fun _ => (Quiet.crypto _).bind fun _ =>
    .modify fun _ => rfl

theorem quiet_updateHash (bytes : Bytes) : Quiet (updateHash d bytes) :=
  (Quiet.crypto _).bind fun _ => .modify fun _ => rfl

theorem quiet_finishHash : Quiet (finishHash d) :=
  Quiet.get.bind fun _ => .crypto _

theorem quiet_updateAll (vals : List Bytes) : Quiet (updateAll d vals) := by
  induction vals with
  | nil => exact .pure _
  | cons v vals ih => exact (quiet_updateHash d v).bind fun _ => ih

theorem quiet_hashAll (vals : List Bytes) : Quiet (hashAll d vals) :=
  (quiet_startHash d).bind fun _ => (quiet_updateAll d vals).bind fun _ =>
    quiet_finishHash d

theorem keeps_hashNodes (nodes : List (Except DpeErrorCode (Context b)))
    (info dice : Bool) : Keeps Env.own (hashNodes d info dice nodes) := by
  induction nodes generalizing info dice with
  | nil => exact .pure _
  | cons status rest ih =>
      exact (keeps_orFail status).bind fun _ =>
        (quiet_updateHash d _).keeps.bind fun _ =>
          (quiet_updateHash d _).keeps.bind fun _ => ih _ _

theorem keeps_hashCertificateChain (fuel : Nat) (offset : UInt32)
    (certChunk : Vector UInt8 MAX_CHUNK_SIZE) :
    Keeps Env.own (hashCertificateChain d fuel offset certChunk) := by
  induction fuel generalizing offset certChunk with
  | zero => exact .throw _
  | succ fuel ih =>
      refine (keeps_tryPlatform _).bind fun r => ?_
      cases r with
      | error e => exact .pure _
      | ok r =>
          exact (keeps_reject _ _).bind fun _ =>
            (quiet_updateHash d _).keeps.bind fun _ => ih _ _

theorem quiet_getProfile (support : Support) :
    Quiet (getProfile d dpe support) :=
  (Quiet.platform _).bind fun _ => (Quiet.platform _).bind fun _ => .pure _

theorem keeps_hashInternalInfo (support : Support) (info : Bool) :
    Keeps Env.own (hashInternalInfo d dpe support info) := by
  refine .ite ?_ (.pure _)
  exact ((quiet_getProfile d dpe support).keeps.bind fun _ => .pure _).bind
    fun _ => (quiet_updateHash d _).keeps

theorem keeps_hashInternalDice (dice : Bool) :
    Keeps Env.own (hashInternalDice d dice) :=
  .ite (keeps_hashCertificateChain d _ _ _) (.pure _)

/-- **THE MEASUREMENT HASH** changes nothing the library owns. -/
theorem keeps_computeMeasurementHash (startIdx : Nat) :
    Keeps Env.own (computeMeasurementHash d dpe startIdx) :=
  (quiet_startHash d).keeps.bind fun _ => Keeps.get.bind fun _ =>
    (keeps_orFail _).bind fun _ => (keeps_hashNodes d _ _ _).bind fun _ =>
      (keeps_hashInternalInfo d dpe _ _).bind fun _ =>
        (keeps_hashInternalDice d _).bind fun _ => (quiet_finishHash d).keeps

end Hash

end Dpe
