import Dpe.Proofs.Handles

/-! # Outcomes — how a command ends

    A command that returns has had its effect.  A command that fails has
    failed early, before its first store, or late, over the response,
    with all of its effect made; two commands have one more way to fail
    in between.  The commands are proved to end in one of these ways, one
    by one, in the modules that follow. -/

namespace Dpe

open Prog

variable {b : Build} {W : Type}

/-- From `env` to `env'` the edits `es` were made and `draws` drawn. -/
structure Did (env : Env b W) (draws : List (Vector UInt8 16))
    (es : List (Edit b)) (env' : Env b W) : Prop where
  state : env'.state = Edit.applyAll env.state es
  drawn : env'.drawn = env.drawn ++ draws

/-- The command stores its effect before it writes its response. -/
def Command.commitsFirst : Command b → Bool
  | initCtx _ => true
  | rotateCtx _ => true
  | destroyCtx _ => true
  | updateContextMeasurement _ => true
  | deriveContext cmd => !(cmd.flags.createsCertificate && cmd.flags.exportsCdi)
  | getProfile _ => false
  | getCertificateChain _ => false
  | sign _ => false
  | certifyKey _ => false

/-- The size of the response of a command that stores its effect
    first. -/
def Command.responseSize : Command b → Nat
  | initCtx _ => 28
  | rotateCtx _ => 28
  | destroyCtx _ => 12
  | updateContextMeasurement _ => 44
  | deriveContext _ => 44
  | getProfile _ => 32
  | getCertificateChain _ => 2064
  | sign _ => 28
  | certifyKey _ => 32

/-! ## Replies -/

/-- **THE RESPONSES**: the bytes that a command answers with when it has
    made its edits. -/
inductive Reply (dpe : DpeInstance b) (s : State b) :
    Command b → List (Edit b) → Bytes → Prop where
  | getProfile {cmd : GetProfileCmd} {vendorId vendorSku : UInt32} :
      Reply dpe s (.getProfile cmd) []
        (GetProfileResp.new b dpe.profile s.support.bits vendorId
          vendorSku).asBytes
  | getCertificateChain {cmd : GetCertificateChainCmd} {size : UInt32}
      {chain : Vector UInt8 MAX_CHUNK_SIZE} :
      Reply dpe s (.getCertificateChain cmd) []
        (GetCertificateChainResp.asBytes
          { respHdr := dpe.responseHdr .noError
            certificateSize := size
            certificateChain := chain })
  | initCtx {cmd : InitCtxCmd} {idx : Fin b.maxHandles}
      {args : ActiveContextArgs} :
      Reply dpe s (.initCtx cmd) [.plant idx args]
        (NewHandleResp.asBytes
          { respHdr := dpe.responseHdr .noError, handle := args.handle })
  | rotateCtx {cmd : RotateCtxCmd} {idx : Fin b.maxHandles}
      {handle : ContextHandle} :
      Reply dpe s (.rotateCtx cmd) [.rename idx handle]
        (NewHandleResp.asBytes
          { respHdr := dpe.responseHdr .noError, handle := handle })
  | destroyCtx {cmd : DestroyCtxCmd} {marked : Children} :
      Reply dpe s (.destroyCtx cmd) [.prune marked]
        (dpe.responseHdr .noError).asBytes
  | sign {cmd : SignCommand} {idx : Fin b.maxHandles}
      {handle : ContextHandle} {sig : Signature} {bytes : Bytes}
      (sized : SignCommand.sigBytes b sig = .ok bytes) :
      Reply dpe s (.sign cmd) [.rename idx handle]
        (SignResp.asBytes
          { respHdr := dpe.responseHdr .noError
            newContextHandle := handle
            sig := bytes })
  | certifyKey {cmd : CertifyKeyCommand} {idx : Fin b.maxHandles}
      {handle : ContextHandle} {pubKey : PubKey} {bytes cert : Bytes}
      {certSize : UInt32}
      (typed : CertifyKeyCommand.headerKey cmd.profile pubKey = .ok bytes)
      (sized : certSize.toNat = cert.length) :
      Reply dpe s (.certifyKey cmd) [.rename idx handle]
        (CertifyKeyRespHdr.asBytes
          { respHdr := dpe.responseHdr .noError
            newContextHandle := handle
            pubkey := bytes
            certSize := certSize } ++ cert)
  | updateContextMeasurement {cmd : UpdateContextMeasurementCmd b}
      {parent child : Fin b.maxHandles} {handle handle' : ContextHandle}
      {cumulative : TciMeasurement b} :
      Reply dpe s (.updateContextMeasurement cmd)
        [.rename parent handle, .measure child cmd.data cumulative,
          .rename child handle']
        (UpdateContextMeasurementResp.asBytes
          { respHdr := dpe.responseHdr .noError
            newContextHandle := handle'
            newParentContextHandle := handle })
  | recursive {cmd : DeriveContextCmd b} {idx : Fin b.maxHandles}
      {handle : ContextHandle} {cumulative : TciMeasurement b} :
      Reply dpe s (.deriveContext cmd)
        [.measure idx cmd.data cumulative, .rename idx handle]
        (DeriveContextResp.asBytes
          { respHdr := dpe.responseHdr .noError
            handle := handle
            parentHandle := .default })
  | child {cmd : DeriveContextCmd b} {parent child : Fin b.maxHandles}
      {kept : Option ContextHandle} {args : ActiveContextArgs}
      {cumulative : TciMeasurement b} :
      Reply dpe s (.deriveContext cmd)
        [.adopt parent child kept args cmd.data cumulative]
        (DeriveContextResp.asBytes
          { respHdr := dpe.responseHdr .noError
            handle := args.handle
            parentHandle := kept.getD .newInvalid })
  | exported {cmd : DeriveContextCmd b} {parent : Fin b.maxHandles}
      {es : List (Edit b)} {exportedCdi : ExportedCdiHandle} {cert : Bytes}
      {certSize : UInt32} (sized : certSize.toNat = cert.length)
      (isExport : (cmd.flags.createsCertificate && cmd.flags.exportsCdi) = true)
      {locality : UInt32}
      (resolves : s.getActiveContextPos cmd.handle locality = .ok parent) :
      Reply dpe s (.deriveContext cmd) es
        (DeriveContextExportedCdiRespHdr.asBytes
          { respHdr := dpe.responseHdr .noError
            handle := .newInvalid
            parentHandle := ((Edit.applyAll s es).contexts parent).handle
            exportedCdi := exportedCdi
            certificateSize := certSize } ++ cert)

/-- `bytes` have been written to the start of the output buffer. -/
structure Answered (env : Env b W) (bytes : Bytes) (n : Nat)
    (env' : Env b W) : Prop where
  count : n = bytes.length
  fits : bytes.length ≤ env.out.capacity
  out : env'.out.bytes = Splice.splice env.out.bytes 0 bytes

/-- The command has had its effect. -/
def Stored (d : Deps b W) (locality : UInt32) (env : Env b W) (cmd : Command b)
    (env' : Env b W) : Prop :=
  ∃ draws es, Effect d env.state locality cmd draws es ∧ Did env draws es env'

/-- The command has had its effect and has answered. -/
def Done (d : Deps b W) (dpe : DpeInstance b) (locality : UInt32)
    (env : Env b W) (cmd : Command b) (n : Nat) (env' : Env b W) : Prop :=
  ∃ draws es bytes, Effect d env.state locality cmd draws es ∧
    Did env draws es env' ∧ Reply dpe env.state cmd es bytes ∧
    Answered env bytes n env'

/-! ## Failures -/

/-- **THE WAYS TO FAIL**. -/
inductive Fell (d : Deps b W) (dpe : DpeInstance b) (locality : UInt32)
    (env : Env b W) (cmd : Command b) (e : Stop) (env' : Env b W) : Prop where
  /-- before the first store -/
  | early (state : env'.state = env.state)
      (drawn : ∃ draws, env'.drawn = env.drawn ++ draws)
      (cause : cmd.commitsFirst = true → ¬ Unwritable e)
  /-- the effect is made, and the response does not fit -/
  | late (stored : Stored d locality env cmd env')
      (first : cmd.commitsFirst = true) (cause : e = .err .invalidResponseBuf)
      (short : env.out.capacity < cmd.responseSize)
  /-- UpdateContextMeasurement, between its two handles -/
  | halfway {upd : UpdateContextMeasurementCmd b} {parent child : Fin b.maxHandles}
      {draws draws' : List (Vector UInt8 16)} {handle : ContextHandle}
      (isUpdate : cmd = .updateContextMeasurement upd)
      (named : upd.parentHandle ≠ .default)
      (resolves : env.state.getActiveContextPos upd.parentHandle locality
        = .ok parent)
      (found : upd.findChild env.state parent = some child)
      (chosen : Chosen env.state false draws handle)
      (did : Did env (draws ++ draws') [.rename parent handle] env')
      (cause : ¬ Unwritable e)
  /-- CertifyKey, with a public key that its header has no place for -/
  | mistyped {certify : CertifyKeyCommand} {signer : d.crypto.Signer}
      {pubKey : PubKey} (isCertify : cmd = .certifyKey certify)
      (stored : Stored d locality env cmd env')
      (key : Returned (d.crypto.publicKey signer (.zeroed dpe.profile)) pubKey)
      (cause : CertifyKeyCommand.headerKey certify.profile pubKey
        = .error .invalidArgument)
      (typed : ¬ Unwritable e)

namespace Fell

variable {d : Deps b W} {dpe : DpeInstance b} {locality : UInt32}
  {env env' : Env b W} {cmd : Command b} {e : Stop}

theorem of_gave (h : Gave env e env') : Fell d dpe locality env cmd e env' :=
  .early h.state h.drawn fun _ => h.early

/-- A failure that has not drawn either. -/
theorem at_once (he : ¬ Unwritable e) : Fell d dpe locality env cmd e env :=
  .of_gave (.of_drew (.refl env) he)

/-- A failure of a command that does not store its effect first. -/
theorem of_settled (h : env'.settled = env.settled)
    (hfirst : cmd.commitsFirst = false) :
    Fell d dpe locality env cmd e env' := by
  refine .early (congrArg (·.1) h) ⟨[], ?_⟩ ?_
  · rw [List.append_nil]
    exact congrArg (·.2.2) h
  · intro hyes
    rw [hfirst] at hyes
    cases hyes

end Fell

/-! ## Writing the response -/

theorem writeAt_spec (off : Nat) (bytes : Bytes) (e : DpeErrorCode)
    (env : Env b W) :
    Post (writeAt off bytes e) env
      (fun _ env' => env'.state = env.state ∧ env'.drawn = env.drawn ∧
        off + bytes.length ≤ env.out.capacity ∧
        env'.out.bytes = Splice.splice env.out.bytes off bytes)
      (fun e' env' => e' = .err e ∧ env' = env ∧
        (bytes = [] ∨ env.out.capacity < off + bytes.length)) := by
  refine ⟨?_⟩
  unfold writeAt
  cases hw : env.out.writeAt off bytes with
  | ok out =>
      obtain ⟨-, hle, hbytes⟩ := ResponseBuffer.writeAt_ok hw
      exact ⟨rfl, rfl, hle, hbytes⟩
  | error e' => exact ⟨rfl, rfl, ResponseBuffer.writeAt_error hw⟩

section Respond

variable {d : Deps b W} {dpe : DpeInstance b} {locality : UInt32}
  {env env1 : Env b W} {cmd : Command b} {bytes : Bytes}
  {draws : List (Vector UInt8 16)} {es : List (Edit b)}

/-- A response written when the effect is stored: it is the answer, or it
    does not fit. -/
theorem respond_stored (hdid : Did env draws es env1) (hout : env1.out = env.out)
    (heffect : Effect d env.state locality cmd draws es)
    (hreply : Reply dpe env.state cmd es bytes) :
    Post (respond bytes) env1 (Done d dpe locality env cmd)
      (fun e env' => e = .err .invalidResponseBuf ∧ env' = env1 ∧
        (bytes = [] ∨ env.out.capacity < bytes.length)) := by
  refine Post.bind ((writeAt_spec 0 bytes .invalidResponseBuf env1).mono
    (fun _ _ h => h) ?_) ?_
  · rintro e env2 ⟨rfl, rfl, hshort⟩
    rw [hout, Nat.zero_add] at hshort
    exact ⟨rfl, rfl, hshort⟩
  · rintro _ env2 ⟨hstate, hdrawn, hle, hbytes⟩
    rw [hout] at hle hbytes
    exact Post.pure ⟨draws, es, bytes, heffect,
      ⟨hstate.trans hdid.state, hdrawn.trans hdid.drawn⟩, hreply, rfl,
      by rwa [Nat.zero_add] at hle, hbytes⟩

/-- The response of a command that stores its effect first. -/
theorem respond_done (hdid : Did env draws es env1) (hout : env1.out = env.out)
    (heffect : Effect d env.state locality cmd draws es)
    (hreply : Reply dpe env.state cmd es bytes)
    (hfirst : cmd.commitsFirst = true) (hpos : 0 < bytes.length)
    (hsize : bytes.length = cmd.responseSize) :
    Post (respond bytes) env1 (Done d dpe locality env cmd)
      (Fell d dpe locality env cmd) := by
  refine (respond_stored hdid hout heffect hreply).mono (fun _ _ h => h) ?_
  rintro e env2 ⟨rfl, rfl, hshort⟩
  refine .late ⟨draws, es, heffect, hdid⟩ hfirst rfl ?_
  rcases hshort with rfl | hshort
  · cases hpos
  · omega

/-- The response of a command that has changed nothing. -/
theorem respond_idle (hdrew : Drew env draws env1)
    (heffect : Effect d env.state locality cmd draws [])
    (hreply : Reply dpe env.state cmd [] bytes)
    (hfirst : cmd.commitsFirst = false) :
    Post (respond bytes) env1 (Done d dpe locality env cmd)
      (Fell d dpe locality env cmd) := by
  refine (respond_stored ⟨hdrew.state, hdrew.drawn⟩ hdrew.out heffect
    hreply).mono (fun _ _ h => h) ?_
  rintro e env2 ⟨-, rfl, -⟩
  refine .early hdrew.state ⟨draws, hdrew.drawn⟩ fun hyes => ?_
  rw [hfirst] at hyes
  cases hyes

end Respond

end Dpe
