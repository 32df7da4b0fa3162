import Dpe.Commands.Execute
import Dpe.Proofs.Residue

/-! # Twin runs — every program, on two states that are alike

    The programs of the library are run from two environments whose
    states differ in the stale fields of inactive slots.  Each of them is
    its own twin; a run is fair when no random value is a stale handle.
    The proofs follow the programs bind by bind. -/

namespace Dpe

open Prog

variable {b : Build} {W α β : Type} {stale : ContextHandle → Prop}
  {pinned : Fin b.maxHandles → Prop}

/-! ## Environments -/

/-- The environments differ in their states only, and these in stale
    fields of inactive slots. -/
structure Env.Residual (stale : ContextHandle → Prop) (pinned : Fin b.maxHandles → Prop)
    (env env' : Env b W) : Prop where
  state : State.Residual stale pinned env.state env'.state
  world : env'.world = env.world
  out : env'.out = env.out
  hashed : env'.hashed = env.hashed
  drawn : env'.drawn = env.drawn

/-- Environments are compared by what is not stale, as long as no stale
    handle has been drawn. -/
def residue (b : Build) (W : Type) (stale : ContextHandle → Prop)
    (pinned : Fin b.maxHandles → Prop) : Likeness (Env b W) where
  Alike := Env.Residual stale pinned
  refl _ := ⟨.refl _, rfl, rfl, rfl, rfl⟩
  Fair env := ∀ v ∈ env.drawn, ¬ stale ⟨v⟩

/-- `m` and `m'` give the same on environments that are alike. -/
abbrev Twin (stale : ContextHandle → Prop) (pinned : Fin b.maxHandles → Prop)
    (m m' : M b W α) : Prop :=
  Twins (residue b W stale pinned) Eq m m'

/-- Reading the environment; from there on, the slots that are the same
    stay the same. -/
theorem twins_get {Q : α → α → Prop} {f f' : Env b W → M b W α}
    (h : ∀ env env' : Env b W, State.Residual stale pinned env.state env'.state →
      env'.world = env.world →
      Twins (residue b W stale fun i => env'.state.contexts i = env.state.contexts i) Q
        (f env) (f' env')) :
    Twins (residue b W stale pinned) Q (get >>= f) (get >>= f') := by
  refine ⟨fun env => (h env env (.refl _) rfl).back env, fun env env' halike hfair => ?_⟩
  have hpinned : Env.Residual stale (fun i => env'.state.contexts i = env.state.contexts i)
      env env' :=
    ⟨halike.state.pin, halike.world, halike.out, halike.hashed, halike.drawn⟩
  refine ((h env env' halike.state halike.world).agree env env' hpinned hfair).mono ?_
  intro t t' ht
  exact ⟨⟨ht.state.rest, ht.state.slots,
    fun i hi => ht.state.pins i (halike.state.pins i hi)⟩, ht.world, ht.out, ht.hashed,
    ht.drawn⟩

/-! ## The primitives -/

theorem twin_crypto (f : W → Except CryptoError α × W) :
    Twin stale pinned (callCrypto f : M b W α) (callCrypto f) := by
  refine ⟨fun env hfair => ?_, fun env env' h _ => ?_⟩
  · unfold callCrypto at hfair
    split at hfair
    · exact hfair
    · exact hfair
  · unfold callCrypto
    rw [h.world]
    cases f env.world with
    | mk r w =>
        cases r with
        | ok a => exact ⟨rfl, h.state, rfl, h.out, h.hashed, h.drawn⟩
        | error e => exact ⟨rfl, h.state, rfl, h.out, h.hashed, h.drawn⟩

theorem twin_platform (f : W → Except PlatformError α × W) :
    Twin stale pinned (callPlatform f : M b W α) (callPlatform f) := by
  refine ⟨fun env hfair => ?_, fun env env' h _ => ?_⟩
  · unfold callPlatform at hfair
    split at hfair
    · exact hfair
    · exact hfair
  · unfold callPlatform
    rw [h.world]
    cases f env.world with
    | mk r w =>
        cases r with
        | ok a => exact ⟨rfl, h.state, rfl, h.out, h.hashed, h.drawn⟩
        | error e => exact ⟨rfl, h.state, rfl, h.out, h.hashed, h.drawn⟩

theorem twin_tryPlatform (f : W → Except PlatformError α × W) :
    Twin stale pinned (tryPlatform f : M b W _) (tryPlatform f) := by
  refine ⟨fun env hfair => hfair, fun env env' h _ => ?_⟩
  have hworld : f env'.world = f env.world := congrArg f h.world
  exact ⟨congrArg Prod.fst hworld.symm, h.state, congrArg Prod.snd hworld, h.out,
    h.hashed, h.drawn⟩

theorem twins_orFail {Q : α → α → Prop} {r r' : Except DpeErrorCode α}
    (h : Matched Q r r') :
    Twins (residue b W stale pinned) Q (orFail r) (orFail r') := by
  cases r with
  | ok a =>
      cases r' with
      | ok a' => exact .pure h
      | error e' => exact h.elim
  | error e =>
      cases r' with
      | ok a' => exact h.elim
      | error e' =>
          have heq : e = e' := h
          rw [heq]
          exact .throw _

theorem twin_orFail {r r' : Except DpeErrorCode α} (h : r' = r) :
    Twin stale pinned (orFail r : M b W α) (orFail r') :=
  twins_orFail (.of_eq (fun _ => rfl) h)

/-- A result that may be an error code in front of two programs. -/
theorem twins_orFail_bind {Q : β → β → Prop} {r r' : Except DpeErrorCode α}
    {f f' : α → M b W β} (h : r' = r)
    (hf : ∀ a, r = .ok a → Twins (residue b W stale pinned) Q (f a) (f' a)) :
    Twins (residue b W stale pinned) Q (orFail r >>= f) (orFail r' >>= f') := by
  rw [h]
  cases hr : r with
  | ok a =>
      have ha := hf a hr
      exact ⟨ha.back, ha.agree⟩
  | error e => exact ⟨fun _ hfair => hfair, fun _ _ halike _ => ⟨rfl, halike⟩⟩

theorem twins_okOr_bind {Q : β → β → Prop} {o o' : Option α} {e : DpeErrorCode}
    {f f' : α → M b W β} (h : o' = o)
    (hf : ∀ a, o = some a → Twins (residue b W stale pinned) Q (f a) (f' a)) :
    Twins (residue b W stale pinned) Q (okOr o e >>= f) (okOr o' e >>= f') := by
  rw [h]
  cases ho : o with
  | some a =>
      have ha := hf a ho
      exact ⟨ha.back, ha.agree⟩
  | none => exact ⟨fun _ hfair => hfair, fun _ _ halike _ => ⟨rfl, halike⟩⟩

theorem twin_okOr {o o' : Option α} (h : o' = o) (e : DpeErrorCode) :
    Twin stale pinned (okOr o e : M b W α) (okOr o' e) := by
  rw [h]
  cases o with
  | some a => exact .pure rfl
  | none => exact .throw _

theorem twin_reject {c c' : Bool} (h : c' = c) (e : DpeErrorCode) :
    Twin stale pinned (reject c e : M b W PUnit) (reject c' e) := .rejectIf h _

theorem twin_writeAt (off : Nat) (bytes : Bytes) (e : DpeErrorCode) :
    Twin stale pinned (writeAt off bytes e : M b W PUnit) (writeAt off bytes e) := by
  refine ⟨fun env hfair => ?_, fun env env' h _ => ?_⟩
  · unfold writeAt at hfair
    split at hfair
    · exact hfair
    · exact hfair
  · unfold writeAt
    rw [h.out]
    cases env.out.writeAt off bytes with
    | ok out => exact ⟨rfl, h.state, h.world, rfl, h.hashed, h.drawn⟩
    | error e => exact ⟨rfl, h⟩

theorem twin_respond (bytes : Bytes) :
    Twin stale pinned (respond bytes : M b W Nat) (respond bytes) :=
  (twin_writeAt 0 bytes _).seq fun _ => .pure rfl

theorem twin_withOffset (base : Nat) {m m' : M b W α} (hm : Twin stale pinned m m') :
    Twin stale pinned (withOffset base m) (withOffset base m') := by
  have hfair_mid : ∀ env : Env b W, (residue b W stale pinned).Fair (final (withOffset base m env)) →
      (residue b W stale pinned).Fair (final (m { env with out := .offset env.out base })) := by
    intro env hfair
    unfold withOffset at hfair
    cases hr : m { env with out := .offset env.out base } with
    | ok a t =>
        rw [hr] at hfair
        exact hfair
    | error e t =>
        rw [hr] at hfair
        exact hfair
  refine ⟨fun env hfair => ?_, fun env env' h hfair => ?_⟩
  · exact hm.back { env with out := .offset env.out base } (hfair_mid env hfair)
  · have hopen : Env.Residual stale pinned { env with out := .offset env.out base }
        { env' with out := .offset env'.out base } :=
      ⟨h.state, h.world, by rw [h.out], h.hashed, h.drawn⟩
    have hagree := hm.agree _ _ hopen (hfair_mid env hfair)
    unfold withOffset
    cases hr : m { env with out := .offset env.out base } with
    | ok a t =>
        rw [hr] at hagree
        cases hr' : m' { env' with out := .offset env'.out base } with
        | ok a' t' =>
            rw [hr'] at hagree
            obtain ⟨hvalue, hstate, hworld, hout, hhashed, hdrawn⟩ := hagree
            exact ⟨hvalue, hstate, hworld, congrArg ResponseBuffer.inner hout, hhashed, hdrawn⟩
        | error e' t' =>
            rw [hr'] at hagree
            exact hagree.elim
    | error e t =>
        rw [hr] at hagree
        cases hr' : m' { env' with out := .offset env'.out base } with
        | ok a' t' =>
            rw [hr'] at hagree
            exact hagree.elim
        | error e' t' =>
            rw [hr'] at hagree
            obtain ⟨hvalue, hstate, hworld, hout, hhashed, hdrawn⟩ := hagree
            exact ⟨hvalue, hstate, hworld, congrArg ResponseBuffer.inner hout, hhashed, hdrawn⟩

theorem twin_setContext (idx : Fin b.maxHandles) (c : Context b) :
    Twin stale pinned (setContext idx c : M b W PUnit) (setContext idx c) :=
  .modify rfl (fun _ hfair => hfair) fun _ _ h =>
    ⟨h.state.set idx c, h.world, h.out, h.hashed, h.drawn⟩

/-! ## Hashing -/

section Instance

variable (d : Deps b W) (dpe : DpeInstance b)

theorem twin_startHash : Twin stale pinned (startHash d) (startHash d) :=
  (twin_crypto _).seq fun _ => (twin_crypto _).seq fun _ =>
    .modify rfl (fun _ hfair => hfair) fun _ _ h =>
      ⟨h.state, h.world, h.out, rfl, h.drawn⟩

theorem twin_updateHash (bytes : Bytes) :
    Twin stale pinned (updateHash d bytes) (updateHash d bytes) :=
  (twin_crypto _).seq fun _ =>
    .modify rfl (fun _ hfair => hfair) fun _ _ h =>
      ⟨h.state, h.world, h.out, congrArg (· ++ bytes) h.hashed, h.drawn⟩

theorem twin_finishHash : Twin stale pinned (finishHash d) (finishHash d) := by
  refine .get_bind fun env env' h => ?_
  rw [h.hashed]
  exact twin_crypto _

theorem twin_updateAll (vals : List Bytes) :
    Twin stale pinned (updateAll d vals) (updateAll d vals) := by
  induction vals with
  | nil => exact .pure rfl
  | cons v vals ih => exact (twin_updateHash d v).seq fun _ => ih

theorem twin_hashAll (vals : List Bytes) :
    Twin stale pinned (hashAll d vals) (hashAll d vals) :=
  (twin_startHash d).seq fun _ => (twin_updateAll d vals).seq fun _ =>
    twin_finishHash d

/-! ## Handles and measurements -/

theorem twin_randBytes : Twin stale pinned (randBytes d) (randBytes d) := by
  refine (twin_crypto _).seq fun v => ?_
  have hrecord : Twin stale pinned (modify fun env : Env b W => { env with drawn := env.drawn ++ [v] })
      (modify fun env => { env with drawn := env.drawn ++ [v] }) :=
    .modify rfl (fun _ hfair u hu => hfair u (List.mem_append_left _ hu))
      fun _ _ h => ⟨h.state, h.world, h.out, h.hashed, congrArg (· ++ [v]) h.drawn⟩
  exact hrecord.seq fun _ => .pure rfl

theorem randBytes_drawn {v : Vector UInt8 16} {env env' : Env b W}
    (h : randBytes d env = .ok v env') : v ∈ env'.drawn := by
  obtain ⟨u, env1, -, hrest⟩ := run_bind h
  obtain ⟨_, env2, hmodify, hpure⟩ := run_bind hrest
  cases hpure
  cases hmodify
  exact List.mem_append_right _ (List.mem_singleton.mpr rfl)

/-- **A NEW HANDLE** is the same in both runs: a value that is not stale
    is taken in both or in none. -/
theorem twin_newHandleAttempts (attempts : Nat) :
    Twin stale pinned (newHandleAttempts d attempts) (newHandleAttempts d attempts) := by
  induction attempts with
  | zero => exact .throw _
  | succ attempts ih =>
      refine .bind_fair (X := fun v => ¬ stale ⟨v⟩) (twin_randBytes d) ?_ ?_ ?_
      · intro env v env' hr hfair
        exact hfair v (randBytes_drawn d hr)
      · intro v env hfair
        have hback : ∀ c : Bool, (residue b W stale pinned).Fair (final
            ((if c then pure ⟨v⟩ else newHandleAttempts d attempts) env)) →
            (residue b W stale pinned).Fair env := by
          intro c
          cases c with
          | true => exact fun hfair => hfair
          | false => exact ih.back env
        exact hback _ hfair
      · rintro v _ hfresh rfl
        refine .get_bind fun env env' h => ?_
        rw [h.state.collides_eq hfresh]
        exact .ite Iff.rfl (.pure rfl) ih

theorem twin_generateNewHandle :
    Twin stale pinned (generateNewHandle d) (generateNewHandle d) :=
  twin_newHandleAttempts d _

theorem twin_rollOnetimeUseHandle (c : Context b) :
    Twin stale pinned (rollOnetimeUseHandle d c) (rollOnetimeUseHandle d c) :=
  .ite Iff.rfl ((twin_generateNewHandle d).seq fun _ => .pure rfl) (.pure rfl)

theorem twin_addTciMeasurement (c : Context b) (measurement : TciMeasurement b)
    (locality : UInt32) :
    Twin stale pinned (addTciMeasurement d c measurement locality)
      (addTciMeasurement d c measurement locality) :=
  (twin_reject rfl _).seq fun _ => (twin_reject rfl _).seq fun _ =>
    (twin_hashAll d _).seq fun _ => (twin_orFail rfl).seq fun _ => .pure rfl

/-! ## The measurement hash -/

theorem twin_getProfile (support : Support) :
    Twin stale pinned (getProfile d dpe support) (getProfile d dpe support) :=
  (twin_platform _).seq fun _ => (twin_platform _).seq fun _ => .pure rfl

theorem twin_hashNodes (nodes : List (Except DpeErrorCode (Context b)))
    (info dice : Bool) :
    Twin stale pinned (hashNodes d info dice nodes) (hashNodes d info dice nodes) := by
  induction nodes generalizing info dice with
  | nil => exact .pure rfl
  | cons status rest ih =>
      exact (twin_orFail rfl).seq fun _ => (twin_updateHash d _).seq fun _ =>
        (twin_updateHash d _).seq fun _ => ih _ _

theorem twin_hashCertificateChain (fuel : Nat) (offset : UInt32)
    (certChunk : Vector UInt8 MAX_CHUNK_SIZE) :
    Twin stale pinned (hashCertificateChain d fuel offset certChunk)
      (hashCertificateChain d fuel offset certChunk) := by
  induction fuel generalizing offset certChunk with
  | zero => exact .throw _
  | succ fuel ih =>
      refine (twin_tryPlatform _).seq fun r => ?_
      cases r with
      | error e => exact .pure rfl
      | ok r =>
          exact (twin_reject rfl _).seq fun _ =>
            (twin_updateHash d _).seq fun _ => ih _ _

theorem twin_hashInternalInfo (support : Support) (info : Bool) :
    Twin stale pinned (hashInternalInfo d dpe support info)
      (hashInternalInfo d dpe support info) := by
  refine .ite Iff.rfl ?_ (.pure rfl)
  exact Twins.seq ((twin_getProfile d dpe support).seq fun _ => .pure rfl)
    fun _ => twin_updateHash d _

theorem twin_hashInternalDice (dice : Bool) :
    Twin stale pinned (hashInternalDice d dice) (hashInternalDice d dice) :=
  .ite Iff.rfl (twin_hashCertificateChain d _ _ _) (.pure rfl)

/-- The walks of two states, as iterators, yield the same. -/
theorem matched_iter {s s' : State b} (h : State.Residual stale pinned s s') (idx : Nat) :
    Matched (fun it it' : RootToChildIter b => it'.items = it.items)
      (RootToChildIter.new idx s.slice) (RootToChildIter.new idx s'.slice) := by
  unfold RootToChildIter.new
  rw [h.walk_eq]
  cases RootToChildIter.walk s.slice b.maxHandles idx with
  | error e => rfl
  | ok path => exact h.yields_eq _

/-- **THE MEASUREMENT HASH** is the same: it reads the contexts of one
    path, and these are live. -/
theorem twin_computeMeasurementHash (startIdx : Nat) :
    Twin stale pinned (computeMeasurementHash d dpe startIdx)
      (computeMeasurementHash d dpe startIdx) := by
  refine (twin_startHash d).seq fun _ => ?_
  refine .get_bind fun env env' h => ?_
  refine .bind (Q := fun it it' => it'.items = it.items) (fun _ => rfl)
    (twins_orFail (matched_iter h.state startIdx)) ?_
  intro it it' hitems
  rw [hitems, h.state.support_eq]
  exact (twin_hashNodes d _ _ _).seq fun _ =>
    (twin_hashInternalInfo d dpe _ _).seq fun _ =>
      (twin_hashInternalDice d _).seq fun _ => twin_finishHash d

end Instance

end Dpe
