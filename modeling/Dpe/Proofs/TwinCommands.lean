import Dpe.Proofs.TwinCertificates
import Dpe.Abstract.Effect

/-! # Twin commands — every command, on two states that are alike

    A handle that resolves names one slot in both states, with the same
    context in it; what a command then reads of the table is that slot,
    its live relatives and the number of slots in use. -/

namespace Dpe

open Prog

variable {b : Build} {W : Type} {stale : ContextHandle → Prop}
  {pinned : Fin b.maxHandles → Prop} (d : Deps b W) (dpe : DpeInstance b)

/-! ## Commands on contexts -/

theorem twin_initCtx (cmd : InitCtxCmd) (locality : UInt32) :
    Twin stale pinned (cmd.executeSerialized d dpe locality)
      (cmd.executeSerialized d dpe locality) := by
  have hnew : Twin stale pinned (cmd.newContext d : M b W _) (cmd.newContext d) := by
    refine .ite Iff.rfl ?_ ((twin_generateNewHandle d).seq fun _ => .pure rfl)
    exact Twins.seq (.modify rfl (fun _ hfair => hfair) fun _ _ h =>
      ⟨h.state.setHasInitialized true, h.world, h.out, h.hashed, h.drawn⟩)
      fun _ => .pure rfl
  refine .get_bind fun env env' h => ?_
  rw [h.state.hasInitialized_eq, h.state.support_eq,
    h.state.getNextInactiveContextPos_eq]
  refine (twin_reject rfl _).seq fun _ => (twin_reject rfl _).seq fun _ => ?_
  refine (twin_okOr rfl _).seq fun idx => hnew.seq fun new => ?_
  -- a context is activated alike whatever was in its slot
  refine .get_bind fun env1 env1' _ => ?_
  exact Twins.seq (twin_setContext idx _) fun _ => twin_respond _

theorem twin_rotateCtx (cmd : RotateCtxCmd) (locality : UInt32) :
    Twin stale pinned (cmd.executeSerialized d dpe locality)
      (cmd.executeSerialized d dpe locality) := by
  have hnew : ∀ pinned : Fin b.maxHandles → Prop,
      Twin stale pinned (cmd.newHandle d : M b W _) (cmd.newHandle d) :=
    fun _ => .ite Iff.rfl (.pure rfl) (twin_generateNewHandle d)
  refine twins_get fun env env' h _ => ?_
  rw [h.support_eq, h.getActiveContextPos_eq]
  refine (twin_reject rfl _).seq fun _ => twins_orFail_bind rfl fun idx hres => ?_
  rw [h.targetIsTaken_eq]
  refine (twin_reject rfl _).seq fun _ => (hnew _).seq fun handle => ?_
  refine twins_get fun env1 env1' h1 _ => ?_
  rw [h1.pins idx (h.resolved hres)]
  exact (twin_setContext idx _).seq fun _ => twin_respond _

theorem twin_destroyInPlace (handle : ContextHandle) (locality : UInt32) :
    Twin stale pinned (destroyInPlace handle locality : M b W _)
      (destroyInPlace handle locality) := by
  refine .get_bind fun env env' h => ?_
  refine .bind (fun s => .refl s) (Twins.orThrow (h.state.destroyContext handle locality)) ?_
  intro t t' ht
  exact .modify rfl (fun _ hfair => hfair) fun _ _ h1 =>
    ⟨ht, h1.world, h1.out, h1.hashed, h1.drawn⟩

theorem twin_destroyCtx (cmd : DestroyCtxCmd) (locality : UInt32) :
    Twin stale pinned (cmd.executeSerialized dpe locality : M b W _)
      (cmd.executeSerialized dpe locality) :=
  (twin_destroyInPlace _ _).seq fun _ => twin_respond _

theorem twin_updateContextMeasurement (cmd : UpdateContextMeasurementCmd b)
    (locality : UInt32) :
    Twin stale pinned (cmd.executeSerialized d dpe locality)
      (cmd.executeSerialized d dpe locality) := by
  refine (twin_reject rfl _).seq fun _ => twins_get fun env env' h _ => ?_
  rw [h.getActiveContextPos_eq]
  refine twins_orFail_bind rfl fun parentIdx hmapped => ?_
  have hparent : env'.state.contexts parentIdx = env.state.contexts parentIdx := by
    cases hres : env.state.getActiveContextPos cmd.parentHandle locality with
    | error e =>
        rw [hres] at hmapped
        cases hmapped
    | ok idx =>
        rw [hres] at hmapped
        cases hmapped
        exact h.resolved hres
  rw [h.findChild_eq]
  refine twins_okOr_bind rfl fun childIdx hfound => ?_
  -- the child that is found is active
  have hactive := (UpdateContextMeasurementCmd.findChild_some hfound).2.1
  have hchild : env'.state.contexts childIdx = env.state.contexts childIdx :=
    (h.slots childIdx).eq_of_live fun hidle => by rw [hidle] at hactive; cases hactive
  rw [hchild]
  refine (twin_addTciMeasurement d _ _ _).seq fun tmpChild => ?_
  refine twins_get fun env1 env1' h1 _ => ?_
  rw [h1.pins parentIdx hparent]
  exact (twin_rollOnetimeUseHandle d _).seq fun _ => (twin_setContext _ _).seq fun _ =>
    (twin_rollOnetimeUseHandle d _).seq fun _ => (twin_setContext _ _).seq fun _ =>
      twin_respond _

theorem twin_getProfileCmd (cmd : GetProfileCmd) (locality : UInt32) :
    Twin stale pinned (cmd.executeSerialized d dpe locality)
      (cmd.executeSerialized d dpe locality) := by
  refine .get_bind fun env env' h => ?_
  rw [h.state.support_eq]
  exact (twin_getProfile d dpe _).seq fun _ => twin_respond _

theorem twin_getCertificateChain (cmd : GetCertificateChainCmd) (locality : UInt32) :
    Twin stale pinned (cmd.executeSerialized d dpe locality)
      (cmd.executeSerialized d dpe locality) :=
  (twin_reject rfl _).seq fun _ => (twin_platform _).seq fun _ => twin_respond _

/-! ## Sign and CertifyKey -/

theorem twin_signCmd (cmd : SignCommand) (locality : UInt32) :
    Twin stale pinned (cmd.executeSerialized d dpe locality)
      (cmd.executeSerialized d dpe locality) := by
  have hsign : ∀ (pinned : Fin b.maxHandles → Prop) (idx : Fin b.maxHandles) (data : SignData),
      Twin stale pinned (SignCommand.sign d dpe idx cmd.label data)
        (SignCommand.sign d dpe idx cmd.label data) := by
    intro pinned idx data
    refine .get_bind fun env env' h => ?_
    rw [h.world]
    exact (twin_computeMeasurementHash d dpe _).seq fun _ => (twin_crypto _).seq fun _ =>
      (twin_crypto _).seq fun _ => twin_crypto _
  have hwrite : ∀ (pinned : Fin b.maxHandles → Prop) (sig : Signature)
      (handle : ContextHandle),
      Twin stale pinned (SignCommand.writeResponse dpe sig handle : M b W _)
        (SignCommand.writeResponse dpe sig handle) :=
    fun _ _ _ => (twin_orFail rfl).seq fun _ => twin_respond _
  refine (twin_orFail rfl).seq fun data => twins_get fun env env' h _ => ?_
  rw [h.getActiveContextPos_eq]
  refine twins_orFail_bind rfl fun idx hres => ?_
  have hidx := h.resolved hres
  rw [hidx]
  refine (twin_reject rfl _).seq fun _ => (hsign _ idx data).seq fun sig => ?_
  refine twins_get fun env1 env1' h1 _ => ?_
  rw [h1.pins idx hidx]
  exact (twin_rollOnetimeUseHandle d _).seq fun _ => (hwrite _ _ _).seq fun _ =>
    (twin_setContext _ _).seq fun _ => .pure rfl

theorem twin_runCertFormat (format : UInt32) (args : CreateDpeCertArgs) :
    Twin stale pinned (CertifyKeyCommand.runCertFormat d dpe format args)
      (CertifyKeyCommand.runCertFormat d dpe format args) :=
  .ite Iff.rfl (.ite Iff.rfl (.throw _) (twin_createDpeCertOrCsr d dpe _ _ _))
    (.ite Iff.rfl (.ite Iff.rfl (.throw _) (twin_createDpeCertOrCsr d dpe _ _ _))
      (.throw _))

theorem twin_certifyKey (cmd : CertifyKeyCommand) (locality : UInt32) :
    Twin stale pinned (cmd.executeSerialized d dpe locality)
      (cmd.executeSerialized d dpe locality) := by
  refine twins_get fun env env' h _ => ?_
  have hargs : cmd.certArgs dpe env'.state locality = cmd.certArgs dpe env.state locality := by
    unfold CertifyKeyCommand.certArgs
    rw [h.flags_eq]
  rw [h.getActiveContextPos_eq, h.support_eq, hargs]
  refine twins_orFail_bind rfl fun idx hres => ?_
  have hidx := h.resolved hres
  rw [hidx]
  refine (twin_reject rfl _).seq fun _ => (twin_reject rfl _).seq fun _ => ?_
  refine (twin_reject rfl _).seq fun _ => ?_
  refine (twin_withOffset _ (twin_runCertFormat d dpe _ _)).seq fun result => ?_
  have hroll : Twin stale (fun i => env'.state.contexts i = env.state.contexts i)
      (CertifyKeyCommand.rollInPlace d idx) (CertifyKeyCommand.rollInPlace d idx) := by
    refine twins_get fun env1 env1' h1 _ => ?_
    rw [h1.pins idx hidx]
    exact (twin_rollOnetimeUseHandle d _).seq fun _ => (twin_setContext _ _).seq fun _ =>
      .pure rfl
  exact hroll.seq fun newHandle => (twin_orFail rfl).seq fun _ =>
    (twin_writeAt _ _ _).seq fun _ => .pure rfl

/-! ## DeriveContext -/

section Derive

variable (cmd : DeriveContextCmd b) {parentIdx : Fin b.maxHandles}

theorem twin_deriveRecursive (hpin : pinned parentIdx) (targetLocality : UInt32) :
    Twin stale pinned (cmd.deriveRecursive d dpe parentIdx targetLocality)
      (cmd.deriveRecursive d dpe parentIdx targetLocality) := by
  refine (twin_reject rfl _).seq fun _ => .get_bind fun env env' h => ?_
  rw [h.state.pins parentIdx hpin]
  exact (twin_reject rfl _).seq fun _ => (twin_addTciMeasurement d _ _ _).seq fun _ =>
    (twin_rollOnetimeUseHandle d _).seq fun _ => (twin_setContext _ _).seq fun _ =>
      twin_respond _

theorem twin_parentAfter (c : Context b) :
    Twin stale pinned (cmd.parentAfter d c) (cmd.parentAfter d c) :=
  .ite Iff.rfl (.ite Iff.rfl ((twin_generateNewHandle d).seq fun _ => .pure rfl)
    (.pure rfl)) (.pure rfl)

theorem twin_settleParent (hpin : pinned parentIdx) (tmpParent : Context b)
    (locality : UInt32) :
    Twin stale pinned (cmd.settleParent parentIdx tmpParent locality : M b W _)
      (cmd.settleParent parentIdx tmpParent locality) := by
  refine .get_bind fun env env' h => ?_
  rw [h.state.pins parentIdx hpin]
  exact .ite Iff.rfl (twin_destroyInPlace _ _) (twin_setContext _ _)

theorem twin_deriveExported (hpin : pinned parentIdx) (tmpParent : Context b)
    (locality : UInt32) :
    Twin stale pinned (cmd.deriveExported d dpe parentIdx tmpParent locality)
      (cmd.deriveExported d dpe parentIdx tmpParent locality) := by
  have hueid : Twin stale pinned (DeriveContextCmd.getUeid d) (DeriveContextCmd.getUeid d) :=
    (twin_platform _).seq fun _ => twin_orFail rfl
  refine (twin_reject rfl _).seq fun _ => hueid.seq fun ueid => ?_
  refine .get_bind fun env env' h => ?_
  have hargs : cmd.exportedCertArgs dpe env'.state locality ueid
      = cmd.exportedCertArgs dpe env.state locality ueid := by
    unfold DeriveContextCmd.exportedCertArgs
    rw [h.state.flags_eq]
  rw [hargs]
  refine (twin_withOffset _ (twin_createDpeCertOrCsr d dpe _ _ _)).seq fun result => ?_
  refine (twin_settleParent cmd hpin tmpParent locality).seq fun _ => ?_
  refine .get_bind fun env1 env1' h1 => ?_
  rw [h1.state.pins parentIdx hpin]
  exact (twin_writeAt _ _ _).seq fun _ => .pure rfl

theorem twin_deriveChild (hpin : pinned parentIdx) (tmpParent : Context b)
    (targetLocality : UInt32) :
    Twin stale pinned (cmd.deriveChild d dpe parentIdx tmpParent targetLocality)
      (cmd.deriveChild d dpe parentIdx tmpParent targetLocality) := by
  have hhandle : Twin stale pinned (cmd.childHandle d : M b W _) (cmd.childHandle d) :=
    .ite Iff.rfl (.pure rfl) (twin_generateNewHandle d)
  refine .get_bind fun env env' h => ?_
  rw [h.state.getNextInactiveContextPos_eq, h.state.safeToMakeChild_eq]
  refine (twin_okOr rfl _).seq fun childIdx => (twin_reject rfl _).seq fun _ => ?_
  refine hhandle.seq fun handle => .get_bind fun env1 env1' h1 => ?_
  rw [h1.state.pins parentIdx hpin]
  -- the child is built from a new context, whatever was in its slot
  exact (twin_addTciMeasurement d _ _ _).seq fun _ => (twin_orFail rfl).seq fun _ =>
    (twin_setContext _ _).seq fun _ => (twin_setContext _ _).seq fun _ => twin_respond _

theorem twin_deriveFromParent (hpin : pinned parentIdx) (parentCtx : Context b)
    (locality : UInt32) :
    Twin stale pinned (cmd.deriveFromParent d dpe parentIdx parentCtx locality)
      (cmd.deriveFromParent d dpe parentIdx parentCtx locality) := by
  refine .get_bind fun env env' h => ?_
  rw [h.state.tciTypeIsUniqueAmongChildren_eq, h.state.pins parentIdx hpin]
  refine (twin_reject rfl _).seq fun _ => (twin_parentAfter d cmd _).seq fun _ => ?_
  exact .ite Iff.rfl (twin_deriveExported d dpe cmd hpin _ _)
    (twin_deriveChild d dpe cmd hpin _ _)

theorem twin_deriveContext (locality : UInt32) :
    Twin stale pinned (cmd.executeSerialized d dpe locality)
      (cmd.executeSerialized d dpe locality) := by
  refine twins_get fun env env' h _ => ?_
  rw [h.support_eq, h.getActiveContextPos_eq]
  refine (twin_reject rfl _).seq fun _ => twins_orFail_bind rfl fun parentIdx hres => ?_
  have hparent := h.resolved hres
  rw [hparent]
  refine (twin_reject rfl _).seq fun _ => ?_
  exact .ite Iff.rfl (twin_deriveRecursive d dpe cmd hparent _)
    (twin_deriveFromParent d dpe cmd hparent _ _)

end Derive

/-! ## Every command -/

/-- **A COMMAND** gives the same on states that differ in stale fields
    only, and leaves such states behind. -/
theorem twin_command (cmd : Command b) (locality : UInt32) :
    Twin stale pinned (cmd.executeSerialized d dpe locality)
      (cmd.executeSerialized d dpe locality) := by
  cases cmd with
  | getProfile cmd => exact twin_getProfileCmd d dpe cmd locality
  | initCtx cmd => exact twin_initCtx d dpe cmd locality
  | deriveContext cmd => exact twin_deriveContext d dpe cmd locality
  | certifyKey cmd => exact twin_certifyKey d dpe cmd locality
  | sign cmd => exact twin_signCmd d dpe cmd locality
  | rotateCtx cmd => exact twin_rotateCtx d dpe cmd locality
  | destroyCtx cmd => exact twin_destroyCtx dpe cmd locality
  | getCertificateChain cmd => exact twin_getCertificateChain d dpe cmd locality
  | updateContextMeasurement cmd =>
      exact twin_updateContextMeasurement d dpe cmd locality

end Dpe
