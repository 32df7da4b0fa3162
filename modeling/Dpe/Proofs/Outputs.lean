import Dpe.Proofs.Handles

/-! # Outputs — what the suite gives from a world on

    A command asks the crypto suite for hashes and for random values.
    What it will get can be told from the world that it starts in: the
    digest of a hash, and the values that the random number generator
    gives one after the other.  Drawing a handle looks at these values up
    to the first that is free. -/

namespace Dpe

open Prog

variable {b : Build} {W ε α β : Type}

/-! ## One method after the other -/

def inTurn (f : W → Except ε α × W) (g : α → W → Except ε β × W) :
    W → Except ε β × W := fun w =>
  match f w with
  | (.ok a, w') => g a w'
  | (.error e, w') => (.error e, w')

/-- The program does to the world what `f` does, and leaves the rest as `I`
    says. -/
def Follows (m : M b W α) (env : Env b W) (f : W → Except CryptoError α × W)
    (I : α → Env b W → Prop) : Prop :=
  Post m env (fun a env' => f env.world = (.ok a, env'.world) ∧ I a env')
    fun _ env' => ∃ e, f env.world = (.error e, env'.world)

namespace Follows

variable {env : Env b W} {m : M b W α} {k : α → M b W β}
  {f : W → Except CryptoError α × W} {g : α → W → Except CryptoError β × W}
  {I : α → Env b W → Prop} {J : β → Env b W → Prop}

theorem crypto (f : W → Except CryptoError α × W) (env : Env b W) :
    Follows (callCrypto f) env f fun _ env' =>
      env'.state = env.state ∧ env'.hashed = env.hashed := by
  refine ⟨?_⟩
  unfold callCrypto
  cases hf : f env.world with
  | mk r w =>
      cases r with
      | ok a => exact ⟨rfl, rfl, rfl⟩
      | error e => exact ⟨e, rfl⟩

theorem bind (h : Follows m env f I)
    (hk : ∀ a env', I a env' → Follows (k a) env' (g a) J) :
    Follows (m >>= k) env (inTurn f g) J := by
  refine Post.bind_run (fun a env1 hrun => ?_) fun e env1 hrun => ?_
  · obtain ⟨hf, hI⟩ := h.of_ok hrun
    refine (hk a env1 hI).mono ?_ ?_
    · rintro c env2 ⟨hg, hJ⟩
      exact ⟨by simp only [inTurn, hf, hg], hJ⟩
    · rintro e env2 ⟨e', hg⟩
      exact ⟨e', by simp only [inTurn, hf, hg]⟩
  · obtain ⟨e', hf⟩ := h.of_error hrun
    exact ⟨e', by simp only [inTurn, hf]⟩

/-- What the library writes down of its own does not move the world. -/
theorem andModify {n : M b W PUnit} {f : W → Except CryptoError PUnit × W}
    {I J : PUnit → Env b W → Prop} {u : Env b W → Env b W} (h : Follows n env f I)
    (hworld : ∀ env', (u env').world = env'.world)
    (hu : ∀ a env', I a env' → J a (u env')) :
    Follows (n >>= fun _ => modify u) env f J := by
  refine Post.bind h ?_
  rintro a env1 ⟨hf, hI⟩
  exact Post.modify ⟨hf.trans (by rw [hworld]), hu a env1 hI⟩

end Follows

/-! ## Hashes -/

/-- Feeding the buffers to the running hash in order. -/
def CryptoSuite.feed (c : CryptoSuite W) : List Bytes → W → Except CryptoError Unit × W
  | [] => fun w => (.ok (), w)
  | v :: vals => inTurn (c.hasherUpdate v) fun _ => c.feed vals

/-- Hashing the buffers. -/
def CryptoSuite.hash (c : CryptoSuite W) (vals : List Bytes) :
    W → Except CryptoError Digest × W :=
  inTurn c.hasher fun _ => inTurn c.hasherInitialize fun _ =>
    inTurn (c.feed vals) fun _ => c.hasherFinish vals.flatten

variable (d : Deps b W)

theorem updateAll_follows (vals : List Bytes) (env : Env b W) :
    Follows (updateAll d vals) env (d.crypto.feed vals) fun _ env' =>
      env'.hashed = env.hashed ++ vals.flatten := by
  induction vals generalizing env with
  | nil => exact Post.pure ⟨rfl, (List.append_nil _).symm⟩
  | cons v vals ih =>
      have hupdate : Follows (updateHash d v) env (d.crypto.hasherUpdate v)
          fun _ env' => env'.hashed = env.hashed ++ v :=
        (Follows.crypto _ env).andModify (fun _ => rfl) fun _ env' h => by
          show env'.hashed ++ v = _
          rw [h.2]
      refine hupdate.bind fun _ env1 h1 => ?_
      refine (ih env1).mono ?_ fun _ _ h => h
      rintro _ env2 ⟨hfeed, h2⟩
      refine ⟨hfeed, ?_⟩
      show env2.hashed = _
      rw [h2, h1, List.flatten_cons, List.append_assoc]

/-- **A HASH** is the one that the suite computes from the world on. -/
theorem hashAll_follows (vals : List Bytes) (env : Env b W) :
    Follows (hashAll d vals) env (d.crypto.hash vals) fun _ _ => True := by
  have hstart : Follows (startHash d) env
      (inTurn d.crypto.hasher fun _ => d.crypto.hasherInitialize)
      fun _ env' => env'.hashed = [] := by
    refine (Follows.crypto _ env).bind fun _ env1 _ => ?_
    exact (Follows.crypto _ env1).andModify (fun _ => rfl) fun _ _ _ => rfl
  have hfinish : ∀ env' : Env b W, env'.hashed = vals.flatten →
      Follows (finishHash d) env' (d.crypto.hasherFinish vals.flatten)
        fun _ _ => True := by
    intro env' h
    refine Post.get_bind ?_
    rw [h]
    exact (Follows.crypto _ env').mono (fun _ _ h => ⟨h.1, trivial⟩) fun _ _ h => h
  have hall := hstart.bind (g := fun _ => inTurn (d.crypto.feed vals) fun _ =>
      d.crypto.hasherFinish vals.flatten) (J := fun _ _ => True)
    fun _ env1 h1 => (updateAll_follows d vals env1).bind fun _ env2 h2 =>
      hfinish env2 (by rw [h2, h1, List.nil_append])
  refine Eq.mp (congrArg (fun f => Follows _ env f _) (funext fun w => ?_)) hall
  unfold CryptoSuite.hash inTurn
  cases d.crypto.hasher w with
  | mk r w' => cases r <;> rfl

/-- **A MEASUREMENT** of an active context, by its own locality, is added
    exactly if it can be hashed to a digest of the size of a TCI. -/
theorem addTciMeasurement_follows {context : Context b} (h : context.state = .active)
    (measurement : TciMeasurement b) (env : Env b W) :
    Post (addTciMeasurement d context measurement context.locality) env
      (fun _ env' => ∃ digest, digest.asSlice.length = b.tciSize ∧
        d.crypto.hash [context.tci.tciCumulative.toList, measurement.toList] env.world
          = (.ok digest, env'.world))
      fun _ _ => ∀ digest w,
        d.crypto.hash [context.tci.tciCumulative.toList, measurement.toList] env.world
          = (.ok digest, w) → digest.asSlice.length ≠ b.tciSize := by
  refine Post.rejectIf_bind (fun hno => ?_) fun _ => ?_
  · rw [h] at hno
    cases hno
  refine Post.rejectIf_bind (fun hno => ?_) fun _ => ?_
  · simp at hno
  have hhash := hashAll_follows d
    [context.tci.tciCumulative.toList, measurement.toList] env
  refine Post.bind_run (fun digest env1 hrun => ?_) fun e env1 hrun => ?_
  · obtain ⟨hdigest, -⟩ := hhash.of_ok hrun
    by_cases hlen : digest.asSlice.length = b.tciSize
    · unfold measurementOfDigest
      rw [dif_pos hlen]
      exact Post.pure ⟨digest, hlen, hdigest⟩
    · unfold measurementOfDigest
      rw [dif_neg hlen]
      refine Post.throw fun digest' w hdigest' => ?_
      rw [hdigest] at hdigest'
      cases hdigest'
      exact hlen
  · obtain ⟨e', hdigest⟩ := hhash.of_error hrun
    intro digest w hdigest'
    rw [hdigest] at hdigest'
    cases hdigest'

/-! ## Random values -/

/-- The first `n` values of the random number generator from `w` on, or
    fewer if it fails before. -/
def CryptoSuite.outputs (c : CryptoSuite W) : Nat → W → List (Vector UInt8 16)
  | 0, _ => []
  | n + 1, w =>
      match c.randBytes 16 w with
      | (.ok v, w') => v :: c.outputs n w'
      | (.error _, _) => []

theorem CryptoSuite.take_outputs (c : CryptoSuite W) {m n : Nat} (h : m ≤ n) (w : W) :
    (c.outputs n w).take m = c.outputs m w := by
  induction m generalizing n w with
  | zero => exact List.take_zero
  | succ m ih =>
      cases n with
      | zero => omega
      | succ n =>
          unfold outputs
          cases c.randBytes 16 w with
          | mk r w' =>
              cases r with
              | ok v =>
                  show v :: (c.outputs n w').take m = _
                  rw [ih (by omega)]
              | error e => rfl

/-- `handle` is the first free one of the values, behind those that are
    refused. -/
structure FirstFree (s : State b) (refused : List (Vector UInt8 16))
    (handle : ContextHandle) : Prop where
  refused : ∀ v ∈ refused, Taken s ⟨v⟩
  free : ¬ Taken s handle

/-- The first free value is the only first free value. -/
theorem FirstFree.unique {s : State b} {refused refused' : List (Vector UInt8 16)}
    {v v' : Vector UInt8 16} {rest rest' : List (Vector UInt8 16)}
    (h : FirstFree s refused ⟨v⟩) (h' : FirstFree s refused' ⟨v'⟩)
    (hsame : refused ++ v :: rest = refused' ++ v' :: rest') :
    refused = refused' ∧ v = v' ∧ rest = rest' := by
  induction refused generalizing refused' with
  | nil =>
      cases refused' with
      | nil =>
          obtain ⟨hv, hrest⟩ := List.cons.inj hsame
          exact ⟨rfl, hv, hrest⟩
      | cons u refused' =>
          obtain ⟨rfl, -⟩ := List.cons.inj hsame
          exact absurd (h'.refused _ (List.mem_cons_self ..)) h.free
  | cons u refused ih =>
      cases refused' with
      | nil =>
          obtain ⟨rfl, -⟩ := List.cons.inj hsame
          exact absurd (h.refused _ (List.mem_cons_self ..)) h'.free
      | cons u' refused' =>
          obtain ⟨rfl, htail⟩ := List.cons.inj hsame
          have hrest : FirstFree s refused ⟨v⟩ :=
            ⟨fun x hx => h.refused x (List.mem_cons_of_mem _ hx), h.free⟩
          have hrest' : FirstFree s refused' ⟨v'⟩ :=
            ⟨fun x hx => h'.refused x (List.mem_cons_of_mem _ hx), h'.free⟩
          obtain ⟨rfl, rfl, rfl⟩ := ih hrest hrest' htail
          exact ⟨rfl, rfl, rfl⟩

/-- The first free value is among those that are looked at. -/
theorem mem_outputs {refused : List (Vector UInt8 16)} {v : Vector UInt8 16} {w w' : W}
    (hlt : refused.length < MAX_NEW_HANDLE_ATTEMPTS)
    (hmore : ∀ n, d.crypto.outputs (n + (refused.length + 1)) w
      = refused ++ v :: d.crypto.outputs n w') :
    v ∈ d.crypto.outputs MAX_NEW_HANDLE_ATTEMPTS w := by
  have hsplit := hmore (MAX_NEW_HANDLE_ATTEMPTS - (refused.length + 1))
  rw [Nat.sub_add_cancel hlt] at hsplit
  rw [hsplit]
  exact List.mem_append_right _ (List.mem_cons_self ..)

theorem randBytes_outputs (env : Env b W) :
    Post (randBytes d) env
      (fun v env' => env'.state = env.state ∧ ∀ n,
        d.crypto.outputs (n + 1) env.world = v :: d.crypto.outputs n env'.world)
      fun _ _ => ∀ n, d.crypto.outputs n env.world = [] := by
  refine Post.bind_run (fun v env1 hrun => ?_) fun e env1 hrun => ?_
  · obtain ⟨hv, hstate, -⟩ := (Follows.crypto (d.crypto.randBytes 16) env).of_ok hrun
    refine Post.modify_bind (Post.pure ⟨hstate, fun n => ?_⟩)
    rw [CryptoSuite.outputs, hv]
  · obtain ⟨e', hv⟩ := (Follows.crypto (d.crypto.randBytes 16) env).of_error hrun
    intro n
    cases n with
    | zero => rfl
    | succ n => rw [CryptoSuite.outputs, hv]

/-- **A HANDLE IS DRAWN** if one of the values is free, and it is the first
    of them that is. -/
theorem newHandleAttempts_outputs (attempts : Nat) (env : Env b W) :
    Post (newHandleAttempts d attempts) env
      (fun handle env' => ∃ refused, refused.length < attempts ∧
        FirstFree env.state refused handle ∧ ∀ n,
          d.crypto.outputs (n + (refused.length + 1)) env.world
            = refused ++ handle.bytes :: d.crypto.outputs n env'.world)
      fun _ _ => ∀ v ∈ d.crypto.outputs attempts env.world, Taken env.state ⟨v⟩ := by
  induction attempts generalizing env with
  | zero => exact Post.throw fun _ hv => by cases hv
  | succ attempts ih =>
      have hdraw := randBytes_outputs d env
      refine Post.bind_run (fun v env1 hrun => ?_) fun e env1 hrun => ?_
      swap
      · intro v hv
        rw [hdraw.of_error hrun] at hv
        cases hv
      obtain ⟨hstate, houtputs⟩ := hdraw.of_ok hrun
      refine Post.get_bind (Post.ite (fun htest => ?_) fun htest => ?_)
      · rw [taken_iff, hstate] at htest
        exact Post.pure ⟨[], Nat.succ_pos _, ⟨fun _ hv => (by cases hv), htest⟩, houtputs⟩
      · rw [taken_iff, hstate, not_not] at htest
        refine (ih env1).mono ?_ ?_
        · rintro handle env2 ⟨refused, hlt, hfirst, hmore⟩
          rw [hstate] at hfirst
          refine ⟨v :: refused, Nat.succ_lt_succ hlt, ⟨?_, hfirst.free⟩, fun n => ?_⟩
          · intro u hu
            rcases List.mem_cons.mp hu with rfl | hu
            · exact htest
            · exact hfirst.refused u hu
          · show d.crypto.outputs (n + (refused.length + 1) + 1) env.world = _
            rw [houtputs, hmore]
            rfl
        · intro e env2 hall u hu
          rw [hstate] at hall
          rw [houtputs] at hu
          rcases List.mem_cons.mp hu with rfl | hu
          · exact htest
          · exact hall u hu

/-- A handle that is not default is rolled to the first free value. -/
theorem rollOnetimeUseHandle_outputs {context : Context b}
    (h : context.handle.isDefault = false) (env : Env b W) :
    Post (rollOnetimeUseHandle d context) env
      (fun c env' => ∃ v refused, c = context.rename ⟨v⟩ ∧
        refused.length < MAX_NEW_HANDLE_ATTEMPTS ∧ FirstFree env.state refused ⟨v⟩ ∧
        ∀ n, d.crypto.outputs (n + (refused.length + 1)) env.world
          = refused ++ v :: d.crypto.outputs n env'.world)
      fun _ _ => ∀ v ∈ d.crypto.outputs MAX_NEW_HANDLE_ATTEMPTS env.world,
        Taken env.state ⟨v⟩ := by
  unfold rollOnetimeUseHandle
  rw [h]
  refine Post.bind (newHandleAttempts_outputs d _ env) ?_
  rintro handle env1 ⟨refused, hlt, hfirst, hmore⟩
  exact Post.pure ⟨handle.bytes, refused, rfl, hlt, hfirst, hmore⟩

/-- A free handle is a change. -/
theorem rename_ne {s : State b} {i : Fin b.maxHandles} {handle : ContextHandle}
    (hfree : ¬ Taken s handle) : s.set i ((s.contexts i).rename handle) ≠ s := by
  intro heq
  refine hfree (.inr ⟨i, ?_⟩)
  rw [← heq, State.set_self]
  rfl

end Dpe
