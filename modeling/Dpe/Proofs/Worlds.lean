import Dpe.Lib.Obeys
import Dpe.Properties.Isolation

/-! # Worlds and statuses — what the commands move and fail with

    The library reaches the world only through the methods of the crypto
    suite and the platform, and its errors have codes of their own.  One
    lemma for each function, from the encoders up to the commands: if the
    methods move the world along a preorder, so does the function, and the
    function fails only with errors that have a code, or never returns. -/

namespace Dpe

open Prog

variable {b : Build} {W σ α : Type}

/-- The error has a code of its own; 0 stands for none. -/
def DpeErrorCode.Reported (e : DpeErrorCode) : Prop := e.getErrorCode ≠ 0

/-- What ends the call is no error, or one with a code of its own. -/
def Stop.Reported : Stop → Prop
  | .err e => e.Reported
  | .noReturn => True

@[simp] theorem DpeErrorCode.reported_of_ne {e : DpeErrorCode} (h : e ≠ .noError) :
    e.Reported := by
  unfold Reported getErrorCode
  cases e with
  | noError => exact absurd rfl h
  | platform e =>
      unfold PlatformError.discriminant
      cases e <;> simp
  | crypto e =>
      unfold CryptoError.discriminant
      cases e <;> simp
  | validation e =>
      unfold ValidationError.discriminant
      cases e <;> simp
  | _ => simp

/-! ## Worlds and errors -/

/-- `P` holds of every error that has a code. -/
class Covers (P : Stop → Prop) : Prop where
  err : ∀ e : DpeErrorCode, e.Reported → P (.err e)

instance : Covers Stop.Reported := ⟨fun _ h => h⟩

/-- The world has moved along `T`. -/
def Env.Moves (T : W → W → Prop) (env env' : Env b W) : Prop :=
  T env.world env'.world

/-- What the encoder runs over has moved along `R`. -/
def Enc.Moves (R : σ → σ → Prop) (s s' : Enc σ) : Prop := R s.env s'.env

instance {T : W → W → Prop} [IsPreorder W T] :
    IsPreorder (Env b W) (Env.Moves T) where
  refl env := refl_of T env.world
  trans _ _ _ h h' := trans_of T h h'

instance {R : σ → σ → Prop} [IsPreorder σ R] :
    IsPreorder (Enc σ) (Enc.Moves R) where
  refl s := refl_of R s.env
  trans _ _ _ h h' := trans_of R h h'

/-- The program moves the world along `T`, whatever it does to the state
    and the output buffer, and fails with errors of `P`. -/
abbrev Tame (T : W → W → Prop) (P : Stop → Prop) (m : M b W α) : Prop :=
  Obeys (Env.Moves T) P m

/-- The method moves the world along `T`, with a result or an error. -/
def Shifts {ε : Type} (T : W → W → Prop) (f : W → Except ε α × W) : Prop :=
  ∀ w, T w (f w).2

/-- The methods that the library calls move the world along `T`, but for
    the one that hands out a CDI. -/
class Deps.Within (d : Deps b W) (T : W → W → Prop) : Prop where
  randBytes : ∀ n, Shifts T (d.crypto.randBytes n)
  hasher : Shifts T d.crypto.hasher
  hasherInitialize : Shifts T d.crypto.hasherInitialize
  hasherUpdate : ∀ bytes, Shifts T (d.crypto.hasherUpdate bytes)
  hasherFinish : ∀ bytes, Shifts T (d.crypto.hasherFinish bytes)
  deriveCdi : ∀ measurement info, Shifts T (d.crypto.deriveCdi measurement info)
  deriveKeyPair : ∀ cdi label info, Shifts T (d.crypto.deriveKeyPair cdi label info)
  deriveKeyPairExported : ∀ handle label info,
    Shifts T (d.crypto.deriveKeyPairExported handle label info)
  sign : ∀ signer data out, Shifts T (d.crypto.sign signer data out)
  publicKey : ∀ signer out, Shifts T (d.crypto.publicKey signer out)
  signWithAlias : ∀ data out, Shifts T (d.crypto.signWithAlias data out)
  getCertificateChain : ∀ offset size out,
    Shifts T (d.platform.getCertificateChain offset size out)
  getIssuerName : ∀ out, Shifts T (d.platform.getIssuerName out)
  getSignerIdentifier : Shifts T d.platform.getSignerIdentifier
  getIssuerKeyIdentifier : ∀ out, Shifts T (d.platform.getIssuerKeyIdentifier out)
  getVendorId : Shifts T d.platform.getVendorId
  getVendorSku : Shifts T d.platform.getVendorSku
  getAutoInitLocality : Shifts T d.platform.getAutoInitLocality
  getCertValidity : Shifts T d.platform.getCertValidity
  getSubjectAlternativeName : Shifts T d.platform.getSubjectAlternativeName
  getUeid : Shifts T d.platform.getUeid

/-- One call of a method moves the world. -/
inductive Deps.Calls (d : Deps b W) : W → W → Prop where
  | randBytes (n : Nat) (w : W) : d.Calls w (d.crypto.randBytes n w).2
  | hasher (w : W) : d.Calls w (d.crypto.hasher w).2
  | hasherInitialize (w : W) : d.Calls w (d.crypto.hasherInitialize w).2
  | hasherUpdate (bytes : Bytes) (w : W) : d.Calls w (d.crypto.hasherUpdate bytes w).2
  | hasherFinish (bytes : Bytes) (w : W) : d.Calls w (d.crypto.hasherFinish bytes w).2
  | deriveCdi (measurement : Digest) (info : Bytes) (w : W) :
      d.Calls w (d.crypto.deriveCdi measurement info w).2
  | deriveExportedCdi (measurement : Digest) (info : Bytes) (w : W) :
      d.Calls w (d.crypto.deriveExportedCdi measurement info w).2
  | deriveKeyPair (cdi : d.crypto.Cdi) (label info : Bytes) (w : W) :
      d.Calls w (d.crypto.deriveKeyPair cdi label info w).2
  | deriveKeyPairExported (handle : ExportedCdiHandle) (label info : Bytes) (w : W) :
      d.Calls w (d.crypto.deriveKeyPairExported handle label info w).2
  | sign (signer : d.crypto.Signer) (data : SignData) (out : Signature) (w : W) :
      d.Calls w (d.crypto.sign signer data out w).2
  | publicKey (signer : d.crypto.Signer) (out : PubKey) (w : W) :
      d.Calls w (d.crypto.publicKey signer out w).2
  | signWithAlias (data : SignData) (out : Signature) (w : W) :
      d.Calls w (d.crypto.signWithAlias data out w).2
  | getCertificateChain (offset size : UInt32) (out : Vector UInt8 MAX_CHUNK_SIZE)
      (w : W) : d.Calls w (d.platform.getCertificateChain offset size out w).2
  | getIssuerName (out : Vector UInt8 b.maxIssuerNameSize) (w : W) :
      d.Calls w (d.platform.getIssuerName out w).2
  | getSignerIdentifier (w : W) : d.Calls w (d.platform.getSignerIdentifier w).2
  | getIssuerKeyIdentifier (out : Vector UInt8 MAX_KEY_IDENTIFIER_SIZE) (w : W) :
      d.Calls w (d.platform.getIssuerKeyIdentifier out w).2
  | getVendorId (w : W) : d.Calls w (d.platform.getVendorId w).2
  | getVendorSku (w : W) : d.Calls w (d.platform.getVendorSku w).2
  | getAutoInitLocality (w : W) : d.Calls w (d.platform.getAutoInitLocality w).2
  | getCertValidity (w : W) : d.Calls w (d.platform.getCertValidity w).2
  | getSubjectAlternativeName (w : W) :
      d.Calls w (d.platform.getSubjectAlternativeName w).2
  | getUeid (w : W) : d.Calls w (d.platform.getUeid w).2

/-- The calls of methods lead from one world to the other. -/
def Deps.Reaches (d : Deps b W) : W → W → Prop := Relation.ReflTransGen d.Calls

instance (d : Deps b W) : IsPreorder W d.Reaches where
  refl _ := .refl
  trans _ _ _ h h' := h.trans h'

/-- What every call keeps is kept. -/
theorem Deps.Reaches.invariant {d : Deps b W} {I : W → Prop}
    (hcall : ∀ w w', d.Calls w w' → I w → I w') {w w' : W} (h : d.Reaches w w')
    (hw : I w) : I w' := by
  induction h with
  | refl => exact hw
  | tail _ hlast ih => exact hcall _ _ hlast ih

instance (d : Deps b W) : d.Within d.Reaches where
  randBytes n w := .single (.randBytes n w)
  hasher w := .single (.hasher w)
  hasherInitialize w := .single (.hasherInitialize w)
  hasherUpdate bytes w := .single (.hasherUpdate bytes w)
  hasherFinish bytes w := .single (.hasherFinish bytes w)
  deriveCdi measurement info w := .single (.deriveCdi measurement info w)
  deriveKeyPair cdi label info w := .single (.deriveKeyPair cdi label info w)
  deriveKeyPairExported handle label info w :=
    .single (.deriveKeyPairExported handle label info w)
  sign signer data out w := .single (.sign signer data out w)
  publicKey signer out w := .single (.publicKey signer out w)
  signWithAlias data out w := .single (.signWithAlias data out w)
  getCertificateChain offset size out w := .single (.getCertificateChain offset size out w)
  getIssuerName out w := .single (.getIssuerName out w)
  getSignerIdentifier w := .single (.getSignerIdentifier w)
  getIssuerKeyIdentifier out w := .single (.getIssuerKeyIdentifier out w)
  getVendorId w := .single (.getVendorId w)
  getVendorSku w := .single (.getVendorSku w)
  getAutoInitLocality w := .single (.getAutoInitLocality w)
  getCertValidity w := .single (.getCertValidity w)
  getSubjectAlternativeName w := .single (.getSubjectAlternativeName w)
  getUeid w := .single (.getUeid w)

/-- The loop over the certificate chain of the platform runs out of rounds
    only if `P` allows it. -/
class Deps.Ends (d : Deps b W) (P : Stop → Prop) : Prop where
  chain : ∀ env env', hashCertificateChain d d.fuel 0 (.replicate MAX_CHUNK_SIZE 0) env
    = .error .noReturn env' → P .noReturn

attribute [simp] Deps.Within.randBytes Deps.Within.hasher Deps.Within.hasherInitialize
  Deps.Within.hasherUpdate Deps.Within.hasherFinish Deps.Within.deriveCdi
  Deps.Within.deriveKeyPair Deps.Within.deriveKeyPairExported Deps.Within.sign
  Deps.Within.publicKey Deps.Within.signWithAlias Deps.Within.getCertificateChain
  Deps.Within.getIssuerName Deps.Within.getSignerIdentifier
  Deps.Within.getIssuerKeyIdentifier Deps.Within.getVendorId Deps.Within.getVendorSku
  Deps.Within.getAutoInitLocality Deps.Within.getCertValidity
  Deps.Within.getSubjectAlternativeName Deps.Within.getUeid

variable {T : W → W → Prop} {P : Stop → Prop} [IsPreorder W T] [Covers P]

@[simp] theorem Env.moves_refl {env env' : Env b W} (h : env'.world = env.world) :
    Env.Moves T env env' := by
  unfold Env.Moves
  rw [h]
  exact refl_of T env.world

@[simp] theorem Enc.moves_refl {R : σ → σ → Prop} [IsPreorder σ R] {s s' : Enc σ}
    (h : s'.env = s.env) : Enc.Moves R s s' := by
  unfold Enc.Moves
  rw [h]
  exact refl_of R s.env

/-- An error that has a code. -/
@[simp] theorem obeys_throwErr {R : σ → σ → Prop} [IsPreorder σ R]
    {e : DpeErrorCode} (h : e.Reported) :
    Obeys R P (throw (.err e) : EStateM Stop σ α) := obeys_throw (Covers.err e h)

/-! ## Calls -/

section Calls

omit [IsPreorder W T] in
@[simp] theorem obeys_callCrypto {f : W → Except CryptoError α × W}
    (h : Shifts T f) : Tame T P (callCrypto f : M b W α) := by
  constructor
  · intro env a env' hrun
    have hmove := h env.world
    unfold callCrypto at hrun
    split at hrun
    · rename_i w hf
      cases hrun
      rw [hf] at hmove
      exact hmove
    · cases hrun
  · intro env e env' hrun
    have hmove := h env.world
    unfold callCrypto at hrun
    split at hrun
    · cases hrun
    · rename_i w hf
      cases hrun
      rw [hf] at hmove
      exact ⟨hmove, Covers.err _ (by simp)⟩

omit [IsPreorder W T] in
@[simp] theorem obeys_callPlatform {f : W → Except PlatformError α × W}
    (h : Shifts T f) : Tame T P (callPlatform f : M b W α) := by
  constructor
  · intro env a env' hrun
    have hmove := h env.world
    unfold callPlatform at hrun
    split at hrun
    · rename_i w hf
      cases hrun
      rw [hf] at hmove
      exact hmove
    · cases hrun
  · intro env e env' hrun
    have hmove := h env.world
    unfold callPlatform at hrun
    split at hrun
    · cases hrun
    · rename_i w hf
      cases hrun
      rw [hf] at hmove
      exact ⟨hmove, Covers.err _ (by simp)⟩

omit [IsPreorder W T] [Covers P] in
@[simp] theorem obeys_tryPlatform {f : W → Except PlatformError α × W}
    (h : Shifts T f) : Tame T P (tryPlatform f : M b W _) := by
  refine ⟨fun env a env' hrun => ?_, fun _ _ _ hrun => nomatch hrun⟩
  cases hrun
  exact h env.world

@[simp] theorem obeys_orFail {r : Except DpeErrorCode α}
    (h : Rejects DpeErrorCode.Reported r) : Tame T P (orFail r : M b W α) := by
  cases r with
  | ok a => exact obeys_pure a
  | error e => exact obeys_throw (Covers.err e (h.holds e rfl))

omit [Covers P] in
@[simp] theorem obeys_orThrow {r : Except Stop α} (h : Rejects P r) :
    Tame T P (orThrow r : M b W α) := by
  cases r with
  | ok a => exact obeys_pure a
  | error e => exact obeys_throw (h.holds e rfl)

@[simp] theorem obeys_okOr (o : Option α) {e : DpeErrorCode} (h : e.Reported) :
    Tame T P (okOr o e : M b W α) := by
  cases o with
  | some a => exact obeys_pure a
  | none => exact obeys_throw (Covers.err e h)

@[simp] theorem obeys_reject (c : Bool) {e : DpeErrorCode} (h : e.Reported) :
    Tame T P (reject c e : M b W PUnit) := by
  cases c with
  | false => exact obeys_pure _
  | true => exact obeys_throw (Covers.err e h)

@[simp] theorem obeys_writeAt (off : Nat) (bytes : Bytes) {e : DpeErrorCode}
    (h : e.Reported) : Tame T P (writeAt off bytes e : M b W PUnit) := by
  constructor
  · intro env a env' hrun
    unfold writeAt at hrun
    split at hrun
    · cases hrun
      simp
    · cases hrun
  · intro env e' env' hrun
    unfold writeAt at hrun
    split at hrun
    · cases hrun
    · cases hrun
      exact ⟨by simp, Covers.err e h⟩

omit [IsPreorder W T] [Covers P] in
@[simp] theorem obeys_withOffset {m : M b W α} (base : Nat)
    (h : Tame T P m) : Tame T P (withOffset base m) := by
  constructor
  · intro env a env' hrun
    unfold withOffset at hrun
    split at hrun
    · rename_i a1 env1 hm
      cases hrun
      have hmove := h.ok _ _ _ hm
      exact hmove
    · cases hrun
  · intro env e env' hrun
    unfold withOffset at hrun
    split at hrun
    · cases hrun
    · rename_i e1 env1 hm
      cases hrun
      have hmove := h.error _ _ _ hm
      exact hmove

omit [IsPreorder W T] [Covers P] in
@[simp] theorem obeys_withBuffer {m : M b W α} (buf : Bytes)
    (h : Tame T P m) : Tame T P (withBuffer buf m) := by
  constructor
  · intro env a env' hrun
    unfold withBuffer at hrun
    split at hrun
    · rename_i a1 env1 hm
      cases hrun
      have hmove := h.ok _ _ _ hm
      exact hmove
    · cases hrun
  · intro env e env' hrun
    unfold withBuffer at hrun
    split at hrun
    · cases hrun
    · rename_i e1 env1 hm
      cases hrun
      have hmove := h.error _ _ _ hm
      exact hmove

end Calls

/-! ## Lookups -/

@[simp] theorem rejects_getActiveContextPos (s : State b) (handle : ContextHandle)
    (locality : UInt32) :
    Rejects DpeErrorCode.Reported (s.getActiveContextPos handle locality) := by
  unfold State.getActiveContextPos
  dsimp only
  split
  · simp
  · split
    · simp
    · split <;> simp

@[simp] theorem rejects_getContext (contexts : List (Context b)) (idx : Nat) :
    Rejects DpeErrorCode.Reported (RootToChildIter.getContext contexts idx) := by
  unfold RootToChildIter.getContext
  split
  · simp
  · dsimp only
    split <;> simp

@[simp] theorem rejects_walk (contexts : List (Context b)) (room currIdx : Nat) :
    Rejects DpeErrorCode.Reported (RootToChildIter.walk contexts room currIdx) := by
  induction room generalizing currIdx with
  | zero =>
      unfold RootToChildIter.walk
      split
      · rename_i e he
        exact rejects_error ((rejects_getContext _ _).holds e he)
      · simp
  | succ room ih =>
      unfold RootToChildIter.walk
      split
      · rename_i e he
        exact rejects_error ((rejects_getContext _ _).holds e he)
      · dsimp only
        split
        · simp
        · split
          · rename_i e he
            exact rejects_error ((ih _).holds e he)
          · simp

@[simp] theorem rejects_new (leafIdx : Nat) (contexts : List (Context b)) :
    Rejects DpeErrorCode.Reported (RootToChildIter.new leafIdx contexts) := by
  unfold RootToChildIter.new
  split
  · rename_i e he
    exact rejects_error ((rejects_walk _ _ _).holds e he)
  · simp

@[simp] theorem rejects_firstNode (it : RootToChildIter b) :
    Rejects DpeErrorCode.Reported it.firstNode := by
  unfold RootToChildIter.firstNode
  split <;> simp

/-- The nodes that an iterator yields. -/
theorem rejects_yields (contexts : List (Context b)) (path : List Nat) :
    ∀ r ∈ RootToChildIter.yields contexts path, Rejects DpeErrorCode.Reported r := by
  induction path with
  | nil => exact fun _ h => nomatch h
  | cons idx rest ih =>
      intro r hr
      unfold RootToChildIter.yields at hr
      split at hr
      · rename_i e he
        cases List.mem_singleton.mp hr
        exact rejects_error ((rejects_getContext _ _).holds e he)
      · rcases List.mem_cons.mp hr with rfl | hr
        · exact rejects_ok _
        · exact ih r hr

@[simp] theorem rejects_childrenAdd (c : Children) (b : Build) (idx : Nat) :
    Rejects DpeErrorCode.Reported (c.addChild b idx) := by
  unfold Children.addChild
  split <;> simp

@[simp] theorem rejects_addChild (c : Context b) (idx : Nat) :
    Rejects DpeErrorCode.Reported (c.addChild idx) := by
  unfold Context.addChild
  split <;> simp

@[simp] theorem rejects_measurementOfDigest (digest : Digest) :
    Rejects DpeErrorCode.Reported (measurementOfDigest b digest) := by
  unfold measurementOfDigest
  split <;> simp

/-! ## Handles and hashes -/

section Instance

variable (d : Deps b W) (dpe : DpeInstance b) [d.Within T]

@[simp] theorem obeys_randBytes : Tame T P (randBytes d : M b W _) := by
  unfold randBytes
  repeat' with_reducible refine obeys_bind ?_ fun _ => ?_
  all_goals simp

@[simp] theorem obeys_newHandleAttempts (n : Nat) :
    Tame T P (newHandleAttempts d n : M b W _) := by
  induction n with
  | zero => simp [newHandleAttempts]
  | succ n ih =>
      unfold newHandleAttempts
      repeat' with_reducible refine obeys_bind ?_ fun _ => ?_
      all_goals simp [ih]

@[simp] theorem obeys_generateNewHandle :
    Tame T P (generateNewHandle d : M b W _) :=
  obeys_newHandleAttempts d _

@[simp] theorem obeys_rollOnetimeUseHandle (c : Context b) :
    Tame T P (rollOnetimeUseHandle d c) := by
  unfold rollOnetimeUseHandle
  simp

@[simp] theorem obeys_startHash : Tame T P (startHash d : M b W _) := by
  unfold startHash
  repeat' with_reducible refine obeys_bind ?_ fun _ => ?_
  all_goals simp

@[simp] theorem obeys_updateHash (bytes : Bytes) :
    Tame T P (updateHash d bytes : M b W _) := by
  unfold updateHash
  repeat' with_reducible refine obeys_bind ?_ fun _ => ?_
  all_goals simp

@[simp] theorem obeys_finishHash : Tame T P (finishHash d : M b W _) := by
  unfold finishHash
  repeat' with_reducible refine obeys_bind ?_ fun _ => ?_
  all_goals simp

@[simp] theorem obeys_updateAll (vals : List Bytes) :
    Tame T P (updateAll d vals : M b W _) := by
  induction vals with
  | nil => simp [updateAll]
  | cons v vals ih => simp [updateAll, ih]

@[simp] theorem obeys_hashAll (vals : List Bytes) :
    Tame T P (hashAll d vals : M b W _) := by
  unfold hashAll
  repeat' with_reducible refine obeys_bind ?_ fun _ => ?_
  all_goals simp

@[simp] theorem obeys_addTciMeasurement (c : Context b) (measurement : TciMeasurement b)
    (locality : UInt32) :
    Tame T P (addTciMeasurement d c measurement locality) := by
  unfold addTciMeasurement
  repeat' with_reducible refine obeys_bind ?_ fun _ => ?_
  all_goals simp

@[simp] theorem obeys_getProfile (support : Support) :
    Tame T P (getProfile d dpe support) := by
  unfold getProfile
  repeat' with_reducible refine obeys_bind ?_ fun _ => ?_
  all_goals simp

theorem obeys_hashNodes (info dice : Bool) (items : List (Except DpeErrorCode (Context b)))
    (h : ∀ r ∈ items, Rejects DpeErrorCode.Reported r) :
    Tame T P (hashNodes d info dice items) := by
  induction items generalizing info dice with
  | nil => simp [hashNodes]
  | cons r rest ih =>
      have hr := h r List.mem_cons_self
      have hrest := fun info dice => ih info dice fun r hr => h r (List.mem_cons_of_mem _ hr)
      unfold hashNodes
      repeat' with_reducible refine obeys_bind ?_ fun _ => ?_
      all_goals simp [hr, hrest]

theorem obeys_hashCertificateChain (hno : P .noReturn) (fuel : Nat)
    (offset : UInt32) (chunk : Vector UInt8 MAX_CHUNK_SIZE) :
    Tame T P (hashCertificateChain d fuel offset chunk) := by
  induction fuel generalizing offset chunk with
  | zero => simp [hashCertificateChain, hno]
  | succ fuel ih =>
      unfold hashCertificateChain
      refine obeys_bind (by simp) fun r => ?_
      split
      · simp
      · repeat' with_reducible refine obeys_bind ?_ fun _ => ?_
        all_goals simp [ih]

variable [d.Ends P]

@[simp] theorem obeys_hashInternalDice (dice : Bool) :
    Tame T P (hashInternalDice d dice) := by
  have hchain : Tame T P
      (hashCertificateChain d d.fuel 0 (.replicate MAX_CHUNK_SIZE 0)) := by
    refine Obeys.mono (P := Stop.Reported)
      (obeys_hashCertificateChain d trivial _ _ _) fun env e env' hrun he => ?_
    cases e with
    | err e => exact Covers.err e he
    | noReturn => exact Deps.Ends.chain env env' hrun
  unfold hashInternalDice
  exact obeys_ite hchain (obeys_pure _)

@[simp] theorem obeys_computeMeasurementHash (startIdx : Nat) :
    Tame T P (computeMeasurementHash d dpe startIdx) := by
  unfold computeMeasurementHash
  refine obeys_bind (obeys_startHash d) fun _ => obeys_bind obeys_get fun env =>
    obeys_bind (obeys_orFail (rejects_new _ _)) fun iter => ?_
  refine obeys_bind (obeys_hashNodes d _ _ _ (rejects_yields _ _)) fun inputs => ?_
  repeat' with_reducible refine obeys_bind ?_ fun _ => ?_
  all_goals simp [hashInternalInfo, serializeInternalInputInfo]

end Instance

/-! ## Encoders -/

section Encoders

variable {R : σ → σ → Prop} [IsPreorder σ R]

omit [Covers P] in
@[simp] theorem obeys_emit (e : Encode) :
    Obeys (Enc.Moves R) P (EncM.emit e : EncM σ Nat) := by
  refine ⟨fun s n s' hrun => ?_, fun _ _ _ hrun => nomatch hrun⟩
  cases hrun
  exact refl_of R s.env

@[simp] theorem obeys_encOrFail {r : Except DpeErrorCode α}
    (h : Rejects DpeErrorCode.Reported r) :
    Obeys (Enc.Moves R) P (EncM.orFail r : EncM σ α) := by
  cases r with
  | ok a => exact obeys_pure a
  | error e => exact obeys_throwErr (h.holds e rfl)

@[simp] theorem obeys_encReject (c : Bool) {e : DpeErrorCode} (h : e.Reported) :
    Obeys (Enc.Moves R) P (EncM.reject c e : EncM σ PUnit) := by
  cases c with
  | false => exact obeys_pure _
  | true => exact obeys_throwErr h

omit [Covers P] in
@[simp] theorem obeys_setWriter (f : CertWriter → CertWriter) :
    Obeys (Enc.Moves R) P (EncM.setWriter f : EncM σ PUnit) :=
  obeys_modify fun s => refl_of R s.env

@[simp] theorem obeys_checkNotTruncated :
    Obeys (Enc.Moves R) P (EncM.checkNotTruncated : EncM σ PUnit) := by
  unfold EncM.checkNotTruncated
  repeat' with_reducible refine obeys_bind ?_ fun _ => ?_
  all_goals simp

@[simp] theorem obeys_pushBacktrack (skip : Nat) :
    Obeys (Enc.Moves R) P (EncM.pushBacktrack skip : EncM σ Nat) := by
  unfold EncM.pushBacktrack
  repeat' with_reducible refine obeys_bind ?_ fun _ => ?_
  all_goals simp

@[simp] theorem obeys_popBacktrack (width : Nat) :
    Obeys (Enc.Moves R) P (EncM.popBacktrack width : EncM σ PUnit) := by
  unfold EncM.popBacktrack
  refine obeys_bind obeys_get fun s =>
    obeys_bind (obeys_encReject _ (by simp)) fun _ => ?_
  split
  · simp
  · repeat' with_reducible refine obeys_bind ?_ fun _ => ?_
    all_goals simp

@[simp] theorem obeys_encodeSizes (sizes : List Nat) :
    Obeys (Enc.Moves R) P (EncM.encodeSizes sizes : EncM σ Nat) := by
  induction sizes with
  | nil => simp [EncM.encodeSizes]
  | cons size sizes ih =>
      unfold EncM.encodeSizes EncM.tracePatch
      repeat' with_reducible refine obeys_bind ?_ fun _ => ?_
      all_goals simp [ih]

@[simp] theorem obeys_backtrackAndEncodeSize (sizes : List Nat) :
    Obeys (Enc.Moves R) P (EncM.backtrackAndEncodeSize sizes : EncM σ Nat) := by
  have hend : Obeys (Enc.Moves R) P (EncM.endBacktrack : EncM σ PUnit) := by
    unfold EncM.endBacktrack
    refine obeys_bind obeys_get fun s => ?_
    split <;> simp
  unfold EncM.backtrackAndEncodeSize EncM.startBacktrack
  repeat' with_reducible refine obeys_bind ?_ fun _ => ?_
  all_goals simp [hend]

omit [Covers P] [IsPreorder σ R] in
/-- What the signing callback does is done by the encoder. -/
theorem obeys_encSign {signCb : SignCallback σ}
    (h : ∀ cert start stop useDerived sig,
      Obeys R P (signCb cert start stop useDerived sig))
    (start stop : Nat) (useDerived : Bool) :
    Obeys (Enc.Moves R) P (EncM.sign signCb start stop useDerived) := by
  constructor
  · intro s a s' hrun
    unfold EncM.sign at hrun
    split at hrun
    · rename_i sig env1 hsign
      cases hrun
      exact (h _ _ _ _ _).ok _ _ _ hsign
    · cases hrun
  · intro s e s' hrun
    unfold EncM.sign at hrun
    split at hrun
    · cases hrun
    · rename_i e1 env1 hsign
      cases hrun
      exact (h _ _ _ _ _).error _ _ _ hsign

namespace TciNodes

variable (t : TciNodes b)

@[simp] theorem rejects_iter : Rejects DpeErrorCode.Reported t.iter :=
  rejects_new _ _

@[simp] theorem rejects_isEmpty : Rejects DpeErrorCode.Reported t.isEmpty := by
  unfold isEmpty
  repeat' with_reducible refine rejects_bind ?_ fun _ => ?_
  all_goals simp

@[simp] theorem rejects_numNodes : Rejects DpeErrorCode.Reported t.numNodes := by
  unfold numNodes
  repeat' with_reducible refine rejects_bind ?_ fun _ => ?_
  all_goals simp

@[simp] theorem rejects_firstNode : Rejects DpeErrorCode.Reported t.firstNode := by
  unfold firstNode
  repeat' with_reducible refine rejects_bind ?_ fun _ => ?_
  all_goals simp

@[simp] theorem rejects_new (startIdx : Nat) (contexts : List (Context b)) :
    Rejects DpeErrorCode.Reported (new startIdx contexts) := by
  unfold new
  refine rejects_bind (rejects_iter _) fun it => rejects_ite (rejects_error ?_) ?_
  · simp
  · simp

end TciNodes

namespace CertWriter

variable (cfg : CertConfig) (measurements : MeasurementData b)

@[simp] theorem rejects_getMultiTcbInfoSize (tagged : Bool) :
    Rejects DpeErrorCode.Reported (getMultiTcbInfoSize cfg measurements tagged) := by
  unfold getMultiTcbInfoSize
  refine rejects_bind (TciNodes.rejects_isEmpty _) fun _ => rejects_ite ?_ ?_
  · exact rejects_error (by simp)
  · repeat' with_reducible refine rejects_bind ?_ fun _ => ?_
    all_goals simp

@[simp] theorem rejects_getExtensionsSize (tagged explicit isX509 : Bool) :
    Rejects DpeErrorCode.Reported
      (getExtensionsSize cfg measurements tagged explicit isX509) := by
  unfold getExtensionsSize
  repeat' with_reducible refine rejects_bind ?_ fun _ => ?_
  all_goals simp

@[simp] theorem rejects_getAttributeSize (tagged : Bool) :
    Rejects DpeErrorCode.Reported (getAttributeSize cfg measurements tagged) := by
  unfold getAttributeSize
  repeat' with_reducible refine rejects_bind ?_ fun _ => ?_
  all_goals simp

@[simp] theorem rejects_getAttributesSize (tagged : Bool) :
    Rejects DpeErrorCode.Reported (getAttributesSize cfg measurements tagged) := by
  unfold getAttributesSize
  repeat' with_reducible refine rejects_bind ?_ fun _ => ?_
  all_goals simp

@[simp] theorem rejects_tcbInfosSize (profile : DpeProfile) :
    Rejects DpeErrorCode.Reported (tcbInfosSize profile measurements) := by
  unfold tcbInfosSize
  refine rejects_bind (TciNodes.rejects_isEmpty _) fun _ => rejects_ite ?_ ?_
  · repeat' with_reducible refine rejects_bind ?_ fun _ => ?_
    all_goals simp
  · exact rejects_ok _

theorem obeys_encodeTcbInfos (profile : DpeProfile) (supportsRecursive : Bool)
    (items : List (Except DpeErrorCode (Context b)))
    (h : ∀ r ∈ items, Rejects DpeErrorCode.Reported r) :
    Obeys (Enc.Moves R) P
      (encodeTcbInfos profile supportsRecursive items : EncM σ Nat) := by
  induction items with
  | nil => simp [encodeTcbInfos]
  | cons r rest ih =>
      have hr := h r List.mem_cons_self
      have hrest := ih fun r hr => h r (List.mem_cons_of_mem _ hr)
      unfold encodeTcbInfos
      repeat' with_reducible refine obeys_bind ?_ fun _ => ?_
      all_goals simp [hr, hrest]

@[simp] theorem obeys_encodeMultiTcbInfo :
    Obeys (Enc.Moves R) P (encodeMultiTcbInfo cfg measurements : EncM σ Nat) := by
  unfold encodeMultiTcbInfo
  have hinfos := fun it : RootToChildIter b =>
    obeys_encodeTcbInfos (R := R) (P := P) cfg.profile measurements.supportsRecursive it.items
      (rejects_yields _ _)
  repeat' with_reducible refine obeys_bind ?_ fun _ => ?_
  all_goals simp [hinfos]

@[simp] theorem obeys_encodeExtensions (isX509 : Bool) :
    Obeys (Enc.Moves R) P (encodeExtensions cfg measurements isX509 : EncM σ Nat) := by
  have htag : Obeys (Enc.Moves R) P
      (encodeExtensionsTag cfg measurements isX509 : EncM σ Nat) := by
    refine obeys_ite ?_ (obeys_pure _)
    repeat' with_reducible refine obeys_bind ?_ fun _ => ?_
    all_goals simp
  unfold encodeExtensions
  repeat' with_reducible refine obeys_bind ?_ fun _ => ?_
  all_goals simp [htag]

@[simp] theorem obeys_encodeRdn (name : Name) :
    Obeys (Enc.Moves R) P (encodeRdn name : EncM σ Nat) := by
  unfold encodeRdn
  repeat' with_reducible refine obeys_bind ?_ fun _ => ?_
  all_goals simp

@[simp] theorem obeys_encodePubKeyInfo (pubKey : PubKey) :
    Obeys (Enc.Moves R) P (encodePubKeyInfo b cfg pubKey : EncM σ Nat) := by
  unfold encodePubKeyInfo
  split
  · exact obeys_ite (by simp) (by simp)
  · exact obeys_ite (by simp) (by simp)
  · exact obeys_ite (by simp) (by simp)

@[simp] theorem obeys_encodeAttributes :
    Obeys (Enc.Moves R) P (encodeAttributes cfg measurements : EncM σ Nat) := by
  unfold encodeAttributes
  repeat' with_reducible refine obeys_bind ?_ fun _ => ?_
  all_goals simp

@[simp] theorem obeys_encodeSignerInfo (sig : Signature) (sid : SignerIdentifier b) :
    Obeys (Enc.Moves R) P (encodeSignerInfo cfg sig sid : EncM σ Nat) := by
  unfold encodeSignerInfo
  repeat' with_reducible refine obeys_bind ?_ fun _ => ?_
  all_goals simp

@[simp] theorem obeys_encodePayload (payload : SignedPayload b) :
    Obeys (Enc.Moves R) P (encodePayload cfg payload : EncM σ Nat) := by
  unfold encodePayload
  split
  · unfold encodeTbs
    repeat' with_reducible refine obeys_bind ?_ fun _ => ?_
    all_goals simp
  · unfold encodeCertificationRequestInfo
    repeat' with_reducible refine obeys_bind ?_ fun _ => ?_
    all_goals simp

variable {signCb : SignCallback σ} (h : ∀ cert start stop useDerived sig,
  Obeys R P (signCb cert start stop useDerived sig))

include h

theorem obeys_encodeSignedPayload (payload : SignedPayload b) :
    Obeys (Enc.Moves R) P (encodeSignedPayload cfg signCb payload) := by
  unfold encodeSignedPayload
  repeat' with_reducible refine obeys_bind ?_ fun _ => ?_
  all_goals simp [obeys_encSign h]

theorem obeys_encodeCertificate (serialNumber issuerName : Bytes) (subjectName : Name)
    (pubkey : PubKey) (validity : CertValidity) :
    Obeys (Enc.Moves R) P (encodeCertificate cfg signCb serialNumber issuerName
      subjectName pubkey measurements validity) := by
  unfold encodeCertificate
  repeat' with_reducible refine obeys_bind ?_ fun _ => ?_
  all_goals simp [obeys_encodeSignedPayload cfg h]

theorem obeys_encodeCsr (pubKey : PubKey) (subjectName : Name) :
    Obeys (Enc.Moves R) P (encodeCsr cfg signCb pubKey subjectName measurements) := by
  unfold encodeCsr
  repeat' with_reducible refine obeys_bind ?_ fun _ => ?_
  all_goals simp [obeys_encodeSignedPayload cfg h]

theorem obeys_encodeCms (pubKey : PubKey) (subjectName : Name)
    (sid : SignerIdentifier b) :
    Obeys (Enc.Moves R) P
      (encodeCms cfg signCb pubKey subjectName measurements sid) := by
  have hrange : Obeys (Enc.Moves R) P (getCsrRange : EncM σ (Nat × Nat)) := by
    unfold getCsrRange
    refine obeys_bind obeys_get fun s => ?_
    split <;> simp
  unfold encodeCms encodeEncapsulatedContentInfo
  repeat' with_reducible refine obeys_bind ?_ fun _ => ?_
  all_goals simp [obeys_encSign h, obeys_encodeCsr cfg measurements h, hrange]

end CertWriter

end Encoders

/-! ## Certificates -/

section Create

variable (d : Deps b W) (dpe : DpeInstance b) [d.Within T]

theorem obeys_derivePubKey (measurement : Digest) (info label derivedInfo : Bytes)
    (out : PubKey) : Tame T P
      (derivePubKey d measurement info label derivedInfo out : M b W _) := by
  unfold derivePubKey
  repeat' with_reducible refine obeys_bind ?_ fun _ => ?_
  all_goals simp

theorem obeys_deriveCertKey (args : CreateDpeCertArgs) (digest : Digest) :
    Tame T P (deriveCertKey d dpe args .leaf digest) := by
  unfold deriveCertKey
  exact obeys_bind (obeys_derivePubKey d _ _ _ _ _) fun _ => obeys_pure _

@[simp] theorem obeys_hashPubKey (pubKey : PubKey) :
    Tame T P (hashPubKey d pubKey : M b W _) := by
  unfold hashPubKey
  split <;> simp

theorem obeys_getSubjectName (certType : CertificateType) (pubKey : PubKey) :
    Tame T P (getSubjectName d certType pubKey : M b W _) := by
  unfold getSubjectName getPubkeySerial
  repeat' with_reducible refine obeys_bind ?_ fun _ => ?_
  all_goals simp

theorem obeys_getSubjectKeyIdentifier (pubKey : PubKey) :
    Tame T P (getSubjectKeyIdentifier d pubKey : M b W _) := by
  unfold getSubjectKeyIdentifier
  refine obeys_bind (obeys_hashPubKey d _) fun _ => obeys_dite (fun _ => ?_) fun _ => ?_
  · simp
  · simp

theorem obeys_getSubjectAltName :
    Tame T P (getSubjectAltName d : M b W _) := by
  unfold getSubjectAltName
  refine obeys_bind (by simp) fun r => ?_
  split <;> simp

theorem obeys_getMeasurements (args : CreateDpeCertArgs) (certType : CertificateType)
    (pubKey : PubKey) :
    Tame T P (getMeasurements d args certType pubKey) := by
  unfold getMeasurements
  repeat' with_reducible refine obeys_bind ?_ fun _ => ?_
  all_goals simp [obeys_getSubjectKeyIdentifier, obeys_getSubjectAltName]

theorem obeys_certSignCb (args : CreateDpeCertArgs) (digest : Digest)
    (handle : Option ExportedCdiHandle) (buf : ResponseBuffer) (start stop : Nat)
    (useDerived : Bool) (out : Signature) : Tame T P
      (certSignCb d args digest handle buf start stop useDerived out) := by
  unfold certSignCb
  refine obeys_ite ?_ (by simp)
  split
  · unfold signWithExported
    repeat' with_reducible refine obeys_bind ?_ fun _ => ?_
    all_goals simp
  · unfold signWithDerived
    repeat' with_reducible refine obeys_bind ?_ fun _ => ?_
    all_goals simp

omit [IsPreorder W T] [Covers P] in
@[simp] theorem obeys_runEncoder {m : EncM (Env b W) α} (sig : Signature)
    (h : Obeys (Enc.Moves (Env.Moves T)) P m) : Tame T P (runEncoder sig m) := by
  constructor
  · intro env a env' hrun
    unfold runEncoder at hrun
    split at hrun
    · rename_i a1 s1 hm
      cases hrun
      have hmove := h.ok _ _ _ hm
      exact hmove
    · cases hrun
  · intro env e env' hrun
    unfold runEncoder at hrun
    split at hrun
    · cases hrun
    · rename_i e1 s1 hm
      cases hrun
      have hmove := h.error _ _ _ hm
      exact hmove

@[simp] theorem obeys_tryU32 (n : Nat) (e : InternalErrorCode) :
    Tame T P (tryU32 n e : M b W UInt32) := by
  unfold tryU32
  repeat' with_reducible refine obeys_bind ?_ fun _ => ?_
  all_goals simp

theorem obeys_generateCertOrCsr (formatArgs : CertOrCsrArgs b) (cfg : CertConfig)
    (subjectName : Name) (pubKey : PubKey) (measurements : MeasurementData b)
    {signCb : SignCallback (Env b W)} (h : ∀ cert start stop useDerived sig,
      Tame T P (signCb cert start stop useDerived sig)) (sig : Signature) :
    Tame T P
      (generateCertOrCsr formatArgs cfg subjectName pubKey measurements signCb sig) := by
  unfold generateCertOrCsr
  split
  · repeat' with_reducible refine obeys_bind ?_ fun _ => ?_
    all_goals simp [CertWriter.obeys_encodeCertificate _ _ h]
  · repeat' with_reducible refine obeys_bind ?_ fun _ => ?_
    all_goals simp [CertWriter.obeys_encodeCms _ _ h]

theorem obeys_getFormatArgs (certFormat : CertificateFormat) :
    Tame T P (getFormatArgs d certFormat : M b W _) := by
  have hissuer : Tame T P (getIssuerName d : M b W _) := by
    unfold getIssuerName
    repeat' with_reducible refine obeys_bind ?_ fun _ => ?_
    all_goals simp
  unfold getFormatArgs
  refine obeys_bind (by simp) fun _ => obeys_bind (by simp) fun _ => ?_
  split
  · simp [hissuer]
  · simp

/-- A certificate or CSR is created within `T` if its key is derived within
    `T`. -/
theorem obeys_createDpeCertOrCsr [d.Ends P] {args : CreateDpeCertArgs}
    {certType : CertificateType}
    (hkey : ∀ digest, Tame T P (deriveCertKey d dpe args certType digest))
    (certFormat : CertificateFormat) :
    Tame T P (createDpeCertOrCsr d dpe args certFormat certType) := by
  unfold createDpeCertOrCsr getDpeMeasurementDigest
  repeat' with_reducible refine obeys_bind ?_ fun _ => ?_
  all_goals simp [hkey, obeys_getSubjectName, obeys_getMeasurements,
    obeys_getFormatArgs, obeys_generateCertOrCsr _ _ _ _ _ (obeys_certSignCb d _ _ _)]

end Create

/-! ## Commands -/

section Commands

variable (d : Deps b W) (dpe : DpeInstance b) (locality : UInt32) [d.Within T]

@[simp] theorem obeys_respond (bytes : Bytes) :
    Tame T P (respond bytes : M b W Nat) := by
  unfold respond
  repeat' with_reducible refine obeys_bind ?_ fun _ => ?_
  all_goals simp

omit [Covers P] in
@[simp] theorem obeys_setContext (idx : Fin b.maxHandles) (c : Context b) :
    Tame T P (setContext idx c : M b W PUnit) :=
  obeys_modify fun _ => Env.moves_refl rfl

theorem rejects_retiredParents (hno : P .noReturn) (s : State b)
    (fuel parentIdx : Nat) (marked : Children) :
    Rejects P (retiredParents s fuel parentIdx marked) := by
  induction fuel generalizing parentIdx marked with
  | zero => exact rejects_error hno
  | succ fuel ih =>
      unfold retiredParents
      refine rejects_ite (rejects_ok _) ?_
      split
      · exact rejects_error (Covers.err _ (by simp))
      · refine rejects_ite ?_ (rejects_ok _)
        split
        · rename_i e he
          exact rejects_error (Covers.err _ ((rejects_childrenAdd _ _ _).holds e he))
        · exact ih _ _

theorem rejects_getDescendants (hno : P .noReturn) (s : State b) (fuel : Nat)
    (c : Context b) : Rejects P (s.getDescendants fuel c) := by
  have hfold : ∀ (f : Children → Fin b.maxHandles → Except Stop Children),
      (∀ marked i, Rejects P (f marked i)) →
      ∀ (is : List (Fin b.maxHandles)) (marked : Children),
        Rejects P (is.foldlM f marked) := by
    intro f hf is
    induction is with
    | nil => exact fun marked => rejects_pure marked
    | cons i is ih =>
        intro marked
        rw [List.foldlM_cons]
        exact rejects_bind (hf marked i) ih
  induction fuel generalizing c with
  | zero => exact rejects_error hno
  | succ fuel ih =>
      unfold State.getDescendants
      refine rejects_ite (rejects_error (Covers.err _ (by simp))) (hfold _ (fun marked i => ?_) _ _)
      exact rejects_bind (ih _) fun _ => rejects_ok _

theorem rejects_toDestroy (hno : P .noReturn) (s : State b) (idx : Fin b.maxHandles) :
    Rejects P (toDestroy s idx) := by
  unfold toDestroy
  refine rejects_bind (rejects_retiredParents hno _ _ _ _) fun _ =>
    rejects_bind (rejects_getDescendants hno _ _ _) fun _ => ?_
  split
  · rename_i e he
    exact rejects_error (Covers.err _ ((rejects_childrenAdd _ _ _).holds e he))
  · exact rejects_ok _

theorem rejects_destroyContext (hno : P .noReturn) (s : State b)
    (handle : ContextHandle) (locality : UInt32) :
    Rejects P (destroyContext s handle locality) := by
  unfold destroyContext
  split
  · rename_i e he
    exact rejects_error (Covers.err _ ((rejects_getActiveContextPos _ _ _).holds e he))
  · refine rejects_ite (rejects_error (Covers.err _ (by simp))) ?_
    split
    · rename_i e he
      exact rejects_error ((rejects_toDestroy hno _ _).holds e he)
    · exact rejects_ok _

theorem obeys_destroyInPlace (hno : P .noReturn) (handle : ContextHandle) :
    Tame T P (destroyInPlace handle locality : M b W PUnit) := by
  unfold destroyInPlace
  repeat' with_reducible refine obeys_bind ?_ fun _ => ?_
  all_goals simp [rejects_destroyContext hno]

theorem InitCtxCmd.obeys_executeSerialized (cmd : InitCtxCmd) :
    Tame T P (cmd.executeSerialized d dpe locality) := by
  have hnew : Tame T P (newContext d cmd : M b W _) := by
    unfold newContext
    refine obeys_ite ?_ (by simp)
    exact obeys_bind (obeys_modify fun _ => Env.moves_refl rfl) fun _ => obeys_pure _
  unfold executeSerialized
  repeat' with_reducible refine obeys_bind ?_ fun _ => ?_
  all_goals simp [hnew]

theorem RotateCtxCmd.obeys_executeSerialized (cmd : RotateCtxCmd) :
    Tame T P (cmd.executeSerialized d dpe locality) := by
  have hnew : Tame T P (cmd.newHandle d : M b W _) := by
    unfold newHandle
    simp
  unfold executeSerialized
  repeat' with_reducible refine obeys_bind ?_ fun _ => ?_
  all_goals simp [hnew]

theorem UpdateContextMeasurementCmd.obeys_executeSerialized
    (cmd : UpdateContextMeasurementCmd b) :
    Tame T P (cmd.executeSerialized d dpe locality) := by
  unfold executeSerialized
  repeat' with_reducible refine obeys_bind ?_ fun _ => ?_
  · simp
  · simp
  · exact obeys_orFail (rejects_mapError (rejects_getActiveContextPos _ _ _) (by simp))
  all_goals simp

theorem GetProfileCmd.obeys_executeSerialized (cmd : GetProfileCmd) :
    Tame T P (cmd.executeSerialized d dpe locality) := by
  unfold executeSerialized
  repeat' with_reducible refine obeys_bind ?_ fun _ => ?_
  all_goals simp

theorem GetCertificateChainCmd.obeys_executeSerialized (cmd : GetCertificateChainCmd) :
    Tame T P (cmd.executeSerialized d dpe locality) := by
  unfold executeSerialized
  repeat' with_reducible refine obeys_bind ?_ fun _ => ?_
  all_goals simp

theorem DestroyCtxCmd.obeys_executeSerialized (hno : P .noReturn)
    (cmd : DestroyCtxCmd) :
    Tame T P (cmd.executeSerialized dpe locality : M b W Nat) := by
  unfold executeSerialized
  simp [obeys_destroyInPlace locality hno]

theorem SignCommand.obeys_executeSerialized [d.Ends P] (cmd : SignCommand) :
    Tame T P (cmd.executeSerialized d dpe locality) := by
  have hdata : Rejects DpeErrorCode.Reported cmd.data := by
    unfold data
    split
    · simp
    · simp
    · simp
    · exact rejects_ite (by simp) (by simp)
  have hsig : ∀ sig, Rejects DpeErrorCode.Reported (sigBytes b sig) := by
    intro sig
    unfold sigBytes
    split <;> exact rejects_ite (by simp) (by simp)
  have hsign : ∀ idx label data, Tame T P (sign d dpe idx label data) := by
    intro idx label data
    unfold sign
    repeat' with_reducible refine obeys_bind ?_ fun _ => ?_
    all_goals simp
  have hwrite : ∀ sig handle,
      Tame T P (writeResponse dpe sig handle : M b W Nat) := by
    intro sig handle
    unfold writeResponse
    simp [hsig]
  unfold executeSerialized
  repeat' with_reducible refine obeys_bind ?_ fun _ => ?_
  all_goals simp [hdata, hsign, hwrite]

theorem CertifyKeyCommand.obeys_executeSerialized [d.Ends P]
    (cmd : CertifyKeyCommand) :
    Tame T P (cmd.executeSerialized d dpe locality) := by
  have hkey : ∀ profile pubKey,
      Rejects DpeErrorCode.Reported (headerKey profile pubKey) := by
    intro profile pubKey
    unfold headerKey
    split <;> simp
  have hheader : ∀ profile result handle,
      Tame T P (writeHeader dpe profile result handle : M b W Nat) := by
    intro profile result handle
    unfold writeHeader
    repeat' with_reducible refine obeys_bind ?_ fun _ => ?_
    all_goals simp [hkey]
  have hformat : ∀ format args,
      Tame T P (runCertFormat d dpe format args) := by
    intro format args
    unfold runCertFormat
    have hkey := obeys_deriveCertKey (T := T) (P := P) d dpe args
    refine obeys_ite (obeys_ite (by simp) (obeys_createDpeCertOrCsr d dpe hkey _))
      (obeys_ite (obeys_ite (by simp) (obeys_createDpeCertOrCsr d dpe hkey _))
        (by simp))
  have hroll : ∀ idx, Tame T P (rollInPlace d idx : M b W _) := by
    intro idx
    unfold rollInPlace
    repeat' with_reducible refine obeys_bind ?_ fun _ => ?_
    all_goals simp
  unfold executeSerialized
  repeat' with_reducible refine obeys_bind ?_ fun _ => ?_
  all_goals simp [hheader, hformat, hroll]

namespace DeriveContextCmd

variable (cmd : DeriveContextCmd b)

theorem obeys_deriveRecursive (idx : Fin b.maxHandles) :
    Tame T P (cmd.deriveRecursive d dpe idx locality) := by
  unfold deriveRecursive
  repeat' with_reducible refine obeys_bind ?_ fun _ => ?_
  all_goals simp

theorem obeys_getUeid : Tame T P (getUeid d : M b W _) := by
  have hget : ∀ u : Ueid, Rejects (fun _ => True) u.get := fun u => ⟨fun _ _ => trivial⟩
  unfold getUeid
  refine obeys_bind (by simp) fun u => obeys_orFail (rejects_mapError (hget u) ?_)
  simp

theorem obeys_settleParent (hno : P .noReturn) (idx : Fin b.maxHandles)
    (tmpParent : Context b) :
    Tame T P (cmd.settleParent idx tmpParent locality : M b W PUnit) := by
  unfold settleParent
  refine obeys_bind obeys_get fun _ => obeys_ite ?_ (obeys_setContext _ _)
  exact obeys_destroyInPlace locality hno _

theorem obeys_parentAfter (c : Context b) : Tame T P (cmd.parentAfter d c) := by
  unfold parentAfter
  exact obeys_ite (obeys_ite (by simp) (by simp)) (by simp)

theorem obeys_deriveExported [d.Ends P] (hno : P .noReturn)
    (hexport : ∀ digest info, Shifts T (d.crypto.deriveExportedCdi digest info))
    (idx : Fin b.maxHandles) (tmpParent : Context b) :
    Tame T P (cmd.deriveExported d dpe idx tmpParent locality) := by
  have hkey : ∀ args digest, Tame T P (deriveCertKey d dpe args .exported digest) := by
    intro args digest
    unfold deriveCertKey
    repeat' with_reducible refine obeys_bind ?_ fun _ => ?_
    all_goals simp [hexport]
  have hcreate := fun args => obeys_createDpeCertOrCsr d dpe (hkey args) .x509
  unfold deriveExported createExportedDpeCert
  repeat' with_reducible refine obeys_bind ?_ fun _ => ?_
  all_goals simp [obeys_getUeid, obeys_settleParent locality cmd hno, hcreate]

theorem obeys_deriveChild (idx : Fin b.maxHandles) (tmpParent : Context b) :
    Tame T P (cmd.deriveChild d dpe idx tmpParent locality) := by
  have hhandle : Tame T P (cmd.childHandle d : M b W _) := by
    unfold childHandle
    simp
  unfold deriveChild
  repeat' with_reducible refine obeys_bind ?_ fun _ => ?_
  all_goals simp [hhandle]

theorem obeys_executeSerialized [d.Ends P] (hexport : cmd.isExport = true →
    P .noReturn ∧ ∀ digest info, Shifts T (d.crypto.deriveExportedCdi digest info)) :
    Tame T P (cmd.executeSerialized d dpe locality) := by
  have hparent : ∀ idx c,
      Tame T P (cmd.deriveFromParent d dpe idx c locality) := by
    intro idx c
    unfold deriveFromParent
    refine obeys_bind obeys_get fun _ => obeys_bind (by simp) fun _ =>
      obeys_bind (cmd.obeys_parentAfter d _) fun _ => ?_
    split
    · rename_i hflags
      obtain ⟨hno, hshifts⟩ := hexport hflags
      exact cmd.obeys_deriveExported d dpe locality hno hshifts _ _
    · exact cmd.obeys_deriveChild d dpe _ _ _
  unfold executeSerialized
  refine obeys_bind obeys_get fun _ => obeys_bind (by simp) fun _ =>
    obeys_bind (by simp) fun _ => obeys_bind (by simp) fun _ => obeys_ite ?_ ?_
  · exact cmd.obeys_deriveRecursive d dpe _ _
  · exact hparent _ _

end DeriveContextCmd

/-- The command may hand out a CDI. -/
def Command.exports : Command b → Bool
  | deriveContext cmd => cmd.isExport
  | getProfile _ | initCtx _ | certifyKey _ | sign _ | rotateCtx _ | destroyCtx _
  | getCertificateChain _ | updateContextMeasurement _ => false

/-- **EVERY COMMAND** moves the world as the methods that it calls do, and
    fails with errors that have a code. -/
theorem Command.obeys_executeSerialized [d.Ends P] (cmd : Command b)
    (hdestroys : cmd.destroys = true → P .noReturn)
    (hexports : cmd.exports = true →
      ∀ digest info, Shifts T (d.crypto.deriveExportedCdi digest info)) :
    Tame T P (cmd.executeSerialized d dpe locality) := by
  cases cmd with
  | getProfile cmd => exact cmd.obeys_executeSerialized d dpe locality
  | initCtx cmd => exact cmd.obeys_executeSerialized d dpe locality
  | deriveContext cmd =>
      exact cmd.obeys_executeSerialized d dpe locality fun h =>
        ⟨hdestroys h, hexports h⟩
  | certifyKey cmd => exact cmd.obeys_executeSerialized d dpe locality
  | sign cmd => exact cmd.obeys_executeSerialized d dpe locality
  | rotateCtx cmd => exact cmd.obeys_executeSerialized d dpe locality
  | destroyCtx cmd => exact cmd.obeys_executeSerialized dpe locality (hdestroys rfl)
  | getCertificateChain cmd => exact cmd.obeys_executeSerialized d dpe locality
  | updateContextMeasurement cmd => exact cmd.obeys_executeSerialized d dpe locality

end Commands

/-! ## Statuses -/

/-- Nothing is asked of the worlds. -/
def Anywhere (_ _ : W) : Prop := True

instance : IsPreorder W Anywhere where
  refl _ := trivial
  trans _ _ _ _ _ := trivial

instance (d : Deps b W) : d.Within Anywhere := by
  constructor
  all_goals intros
  all_goals exact fun _ => trivial

instance (d : Deps b W) : d.Ends Stop.Reported := ⟨fun _ _ _ => trivial⟩

/-- **NO COMMAND** fails with the code of a success. -/
theorem Command.raises_executeSerialized (d : Deps b W) (dpe : DpeInstance b)
    (locality : UInt32) (cmd : Command b) :
    Tame Anywhere Stop.Reported (cmd.executeSerialized d dpe locality) :=
  cmd.obeys_executeSerialized d dpe locality (fun _ => trivial)
    fun _ _ _ _ => trivial

end Dpe
