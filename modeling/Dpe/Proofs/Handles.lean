import Dpe.Abstract.Effect
import Dpe.Proofs.Frames

/-! # Handles and measurements — the shared functions of the instance

    One specification for each function that several commands call:
    drawing a handle, rolling one, adding a measurement.  Each says what
    is returned, what has been drawn, and that the state is left as it
    was; the commands store the results themselves. -/

namespace Dpe

open Prog

variable {b : Build} {W : Type}

/-- From `env` to `env'` nothing the library owns has changed, and
    `draws` have been drawn. -/
structure Drew (env : Env b W) (draws : List (Vector UInt8 16))
    (env' : Env b W) : Prop where
  state : env'.state = env.state
  out : env'.out = env.out
  drawn : env'.drawn = env.drawn ++ draws

namespace Drew

variable {env env' env'' : Env b W} {draws draws' : List (Vector UInt8 16)}

theorem of_own (h : env'.own = env.own) : Drew env [] env' where
  state := congrArg (·.1) h
  out := congrArg (·.2.1) h
  drawn := by
    rw [List.append_nil]
    exact congrArg (·.2.2) h

theorem refl (env : Env b W) : Drew env [] env := of_own rfl

theorem trans (h : Drew env draws env') (h' : Drew env' draws' env'') :
    Drew env (draws ++ draws') env'' where
  state := h'.state.trans h.state
  out := h'.out.trans h.out
  drawn := by rw [h'.drawn, h.drawn, List.append_assoc]

end Drew

/-- The failure of a step that has only drawn. -/
structure Gave (env : Env b W) (e : Stop) (env' : Env b W) : Prop where
  state : env'.state = env.state
  out : env'.out = env.out
  drawn : ∃ draws, env'.drawn = env.drawn ++ draws
  early : ¬ Unwritable e

namespace Gave

variable {env env' env'' : Env b W} {draws : List (Vector UInt8 16)} {e : Stop}

theorem of_drew (h : Drew env draws env') (he : ¬ Unwritable e) :
    Gave env e env' := ⟨h.state, h.out, ⟨draws, h.drawn⟩, he⟩

theorem after (h : Drew env draws env') (h' : Gave env' e env'') :
    Gave env e env'' where
  state := h'.state.trans h.state
  out := h'.out.trans h.out
  drawn := by
    obtain ⟨draws', hdrawn⟩ := h'.drawn
    exact ⟨draws ++ draws', by rw [hdrawn, h.drawn, List.append_assoc]⟩
  early := h'.early

end Gave

/-- `m` only draws: what it returns, and after which draws, is described
    by `ok`. -/
def Draws {α : Type} (m : M b W α) (env : Env b W)
    (ok : List (Vector UInt8 16) → α → Prop) : Prop :=
  Post m env (fun a env' => ∃ draws, Drew env draws env' ∧ ok draws a)
    (Gave env)

theorem Quiet.draws {α : Type} {m : M b W α} (h : Quiet m) (env : Env b W) :
    Draws m env fun draws _ => draws = [] :=
  (h env).mono (fun _ _ hown => ⟨[], .of_own hown, rfl⟩)
    (fun _ _ he => .of_drew (.of_own he.1) he.2)

variable (d : Deps b W)

/-! ## Drawing a handle -/

/-- The test of `generate_new_handle`. -/
theorem taken_iff (s : State b) (handle : ContextHandle) :
    (!handle.isDefault && !s.slice.any fun c => c.handle == handle) = true ↔
      ¬ Taken s handle := by
  simp [Taken, State.slice, List.mem_ofFn, ContextHandle.isDefault]

/-- One draw. -/
theorem randBytes_spec (env : Env b W) :
    Draws (randBytes d) env fun draws v => draws = [v] := by
  refine Post.bind ((Quiet.crypto _ env).mono (fun _ _ h => h)
    (fun _ _ h => .of_drew (.of_own h.1) h.2)) ?_
  intro v env1 hown
  have hdrew := Drew.of_own hown
  refine Post.modify_bind (Post.pure ⟨[v], ⟨hdrew.state, hdrew.out, ?_⟩, rfl⟩)
  show env1.drawn ++ [v] = _
  rw [hdrew.drawn, List.append_nil]

theorem newHandleAttempts_spec (attempts : Nat) (env : Env b W) :
    Draws (newHandleAttempts d attempts) env (Fresh env.state) := by
  induction attempts generalizing env with
  | zero => exact Post.throw (.of_drew (.refl env) (by simp [Unwritable]))
  | succ attempts ih =>
      refine Post.bind (randBytes_spec d env) ?_
      rintro v env1 ⟨_, hdrew, rfl⟩
      refine Post.get_bind (Post.ite ?_ ?_)
      · intro htest
        rw [taken_iff, hdrew.state] at htest
        exact Post.pure ⟨[v], hdrew, htest, [], rfl, fun _ hv => by cases hv⟩
      · intro htest
        rw [taken_iff, hdrew.state, not_not] at htest
        refine (ih env1).mono ?_ (fun _ _ h => .after hdrew h)
        rintro handle env2 ⟨draws, hdrew', hfree, refused, rfl, hrefused⟩
        rw [hdrew.state] at hfree hrefused
        refine ⟨_, hdrew.trans hdrew', hfree, v :: refused, rfl, ?_⟩
        intro v' hv'
        rcases List.mem_cons.mp hv' with rfl | hv'
        · exact htest
        · exact hrefused v' hv'

/-- **A NEW HANDLE** is not the default one and is stored nowhere. -/
theorem generateNewHandle_spec (env : Env b W) :
    Draws (generateNewHandle d) env (Fresh env.state) :=
  newHandleAttempts_spec d _ env

/-- A handle that is the default one on request. -/
theorem chosen_spec (wanted : Bool) (env : Env b W) :
    Draws (if wanted then pure .default else generateNewHandle d) env
      (Chosen env.state wanted) := by
  cases wanted with
  | true => exact Post.pure ⟨[], .refl env, .default⟩
  | false =>
      refine (generateNewHandle_spec d env).mono ?_ (fun _ _ h => h)
      rintro handle env' ⟨draws, hdrew, hfresh⟩
      exact ⟨draws, hdrew, .fresh hfresh⟩

/-- **ROLLING** a handle. -/
theorem rollOnetimeUseHandle_spec (context : Context b) (env : Env b W) :
    Draws (rollOnetimeUseHandle d context) env fun draws c =>
      ∃ handle, c = context.rename handle ∧
        Chosen env.state context.handle.isDefault draws handle := by
  unfold rollOnetimeUseHandle
  cases hdefault : context.handle.isDefault with
  | true =>
      have hhandle := (ContextHandle.isDefault_iff _).mp hdefault
      refine Post.pure ⟨[], .refl env, .default, ?_, .default⟩
      rw [← hhandle]
      rfl
  | false =>
      refine Post.bind (generateNewHandle_spec d env) ?_
      rintro handle env' ⟨draws, hdrew, hfresh⟩
      exact Post.pure ⟨draws, hdrew, handle, rfl, .fresh hfresh⟩

/-! ## Measurements -/

/-- A crypto call that returns, returns what the suite returns. -/
theorem callCrypto_result {α : Type} (f : W → Except CryptoError α × W)
    (env : Env b W) :
    Post (callCrypto f) env
      (fun a env' => Returned f a ∧ env'.hashed = env.hashed)
      (fun _ _ => True) := by
  refine ⟨?_⟩
  unfold callCrypto
  cases hf : f env.world with
  | mk r w =>
      cases r with
      | ok a => exact ⟨⟨_, _, hf⟩, rfl⟩
      | error e => trivial

theorem updateHash_result (bytes : Bytes) (env : Env b W) :
    Post (updateHash d bytes) env
      (fun _ env' => env'.hashed = env.hashed ++ bytes) (fun _ _ => True) := by
  refine Post.bind (callCrypto_result _ env) ?_
  rintro _ env1 ⟨-, hhashed⟩
  refine Post.modify ?_
  show env1.hashed ++ bytes = _
  rw [hhashed]

theorem updateAll_result (vals : List Bytes) (env : Env b W) :
    Post (updateAll d vals) env
      (fun _ env' => env'.hashed = env.hashed ++ vals.flatten)
      (fun _ _ => True) := by
  induction vals generalizing env with
  | nil => exact Post.pure (List.append_nil _).symm
  | cons v vals ih =>
      refine Post.bind (updateHash_result d v env) ?_
      intro _ env1 hhashed
      refine (ih env1).mono ?_ (fun _ _ h => h)
      intro _ env2 h
      rw [h, hhashed, List.flatten_cons, List.append_assoc]

theorem startHash_result (env : Env b W) :
    Post (startHash d) env (fun _ env' => env'.hashed = [])
      (fun _ _ => True) := by
  refine Post.bind (callCrypto_result _ env) fun _ env1 _ => ?_
  exact Post.bind (callCrypto_result _ env1) fun _ env2 _ => Post.modify rfl

theorem finishHash_result (env : Env b W) :
    Post (finishHash d) env
      (fun digest env' => Returned (d.crypto.hasherFinish env.hashed) digest ∧
        env'.hashed = env.hashed)
      (fun _ _ => True) := Post.get_bind (callCrypto_result _ env)

/-- The digest of a successful hash is one the hasher returns for the
    bytes fed to it. -/
theorem hashAll_result (vals : List Bytes) (env : Env b W) :
    Post (hashAll d vals) env
      (fun digest _ => Returned (d.crypto.hasherFinish vals.flatten) digest)
      (fun _ _ => True) := by
  refine Post.bind (startHash_result d env) ?_
  intro _ env1 h1
  refine Post.bind (updateAll_result d vals env1) ?_
  intro _ env2 h2
  refine (finishHash_result d env2).mono ?_ (fun _ _ h => h)
  rw [h2, h1, List.nil_append]
  exact fun _ _ h => h.1

theorem orFail_spec {α : Type} (r : Except DpeErrorCode α) (env : Env b W)
    (he : ∀ e, r = .error e → ¬ Unwritable (.err e)) :
    Draws (orFail r : M b W α) env fun draws a => draws = [] ∧ r = .ok a := by
  cases r with
  | ok a => exact Post.pure ⟨[], .refl env, rfl, rfl⟩
  | error e => exact Post.throw (.of_drew (.refl env) (he e rfl))

theorem measurementOfDigest_error {digest : Digest} {e : DpeErrorCode}
    (h : measurementOfDigest b digest = .error e) : ¬ Unwritable (.err e) := by
  unfold measurementOfDigest at h
  split at h
  · cases h
  · cases h
    simp [Unwritable]

theorem keeps_addTciMeasurement (context : Context b)
    (measurement : TciMeasurement b) (locality : UInt32) :
    Keeps Env.own (addTciMeasurement d context measurement locality) :=
  (keeps_reject _ _).bind fun _ => (keeps_reject _ _).bind fun _ =>
    (quiet_hashAll d _).keeps.bind fun _ => (keeps_orFail _).bind fun _ => .pure _

/-- **ADDING A MEASUREMENT** to an active context of the locality. -/
theorem addTciMeasurement_spec (context : Context b)
    (measurement : TciMeasurement b) (locality : UInt32) (env : Env b W) :
    Draws (addTciMeasurement d context measurement locality) env
      fun draws c => draws = [] ∧ context.state = .active ∧
        context.locality = locality ∧ ∃ cumulative,
          Extends d context.tci.tciCumulative measurement cumulative ∧
          c = context.measure measurement cumulative := by
  refine Post.rejectIf_bind (fun _ => .of_drew (.refl env) (by simp [Unwritable]))
    fun hstate => ?_
  refine Post.rejectIf_bind (fun _ => .of_drew (.refl env) (by simp [Unwritable]))
    fun hlocality => ?_
  have hhash := ((quiet_hashAll d [context.tci.tciCumulative.toList,
    measurement.toList]).draws env).and (hashAll_result d _ env)
  refine Post.bind (hhash.mono (fun _ _ h => h) (fun _ _ h => h.1)) ?_
  rintro digest env1 ⟨⟨_, hdrew, rfl⟩, hdigest⟩
  refine Post.bind ((orFail_spec _ env1 fun _ => measurementOfDigest_error).mono
    (fun _ _ h => h) (fun _ _ h => .after hdrew h)) ?_
  rintro cumulative env2 ⟨_, hdrew', rfl, hcumulative⟩
  refine Post.pure ⟨[], hdrew.trans hdrew', rfl, by simpa using hstate,
    by simpa using hlocality, cumulative, ⟨digest, ?_, hcumulative⟩, rfl⟩
  simpa using hdigest

end Dpe
