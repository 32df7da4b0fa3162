import Dpe.Proofs.KeyCommands

/-! # DeriveContext ends as it should

    The command has four outcomes: it measures into the context itself,
    makes a child, or exports a CDI and destroys, retires or keeps the
    context.  Each is an effect of its own. -/

namespace Dpe

open Der Forest Prog

variable {b : Build} {W : Type} (d : Deps b W) (dpe : DpeInstance b)
  (locality : UInt32)

namespace DeriveContextCmd

variable {cmd : DeriveContextCmd b} {env : Env b W} {parent : Fin b.maxHandles}

/-- The flags of an exporting command. -/
def isExport (cmd : DeriveContextCmd b) : Bool :=
  cmd.flags.createsCertificate && cmd.flags.exportsCdi

theorem commitsFirst_of_not_export (h : cmd.isExport = false) :
    (Command.deriveContext cmd).commitsFirst = true := by
  show (!cmd.isExport) = true
  rw [h]
  rfl

/-! ## Recursive derivation -/

/-- Storing the temporary copy is the two edits. -/
theorem recursive_state (s : State b) (idx : Fin b.maxHandles)
    (handle : ContextHandle) (measurement cumulative : TciMeasurement b) :
    s.set idx (((s.contexts idx).measure measurement cumulative).rename handle)
      = Edit.applyAll s [.measure idx measurement cumulative,
          .rename idx handle] := by
  simp only [Edit.applyAll_cons, Edit.applyAll_nil, Edit.apply, State.set_self,
    State.set_set]

/-- A recursive command does not export. -/
theorem notExport_of_recursive {ctx : Context b} (hvalid : cmd.invalid ctx = false)
    (hrecursive : cmd.flags.isRecursive = true) : cmd.isExport = false := by
  unfold invalid at hvalid
  simp only [Bool.or_eq_false_iff, hrecursive, Bool.and_true] at hvalid
  have hexport : cmd.flags.exportsCdi = false := hvalid.1.1.1.1.1.1.2
  unfold isExport
  rw [hexport, Bool.and_false]

theorem deriveRecursive_spec (haccepted : cmd.Accepted env.state locality parent)
    (hrecursive : cmd.flags.isRecursive = true) :
    Post (cmd.deriveRecursive d dpe parent (cmd.childLocality locality)) env
      (Done d dpe locality env (.deriveContext cmd))
      (Fell d dpe locality env (.deriveContext cmd)) := by
  refine Post.rejectIf_bind (fun _ => .at_once (by simp [Unwritable])) fun _ => ?_
  refine Post.get_bind ?_
  refine Post.rejectIf_bind (fun _ => .at_once (by simp [Unwritable]))
    fun htype => ?_
  refine Post.bind ((addTciMeasurement_spec d _ _ _ env).mono (fun _ _ h => h)
    (fun _ _ h => .of_gave h)) ?_
  rintro ctx env1 ⟨_, h1, rfl, -, hlocality, cumulative, hextends, rfl⟩
  refine Post.bind ((rollOnetimeUseHandle_spec d _ env1).mono (fun _ _ h => h)
    (fun _ _ h => .of_gave (.after h1 h))) ?_
  rintro ctx env2 ⟨draws, h2, handle, rfl, hchosen⟩
  have h12 := h1.trans h2
  have hpos := State.getActiveContextPos_ok haccepted.resolves
  have hold : ((env.state.contexts parent).measure cmd.data cumulative).handle
      = cmd.handle := hpos.2.1
  rw [hold, h1.state] at hchosen
  have heffect : Effect d env.state locality (.deriveContext cmd) draws _ :=
    .recursive haccepted hrecursive (by simpa using htype)
      (hlocality.symm.trans hpos.2.2) hextends hchosen
  refine Post.modify_bind (respond_done ⟨?_, h12.drawn⟩ h12.out heffect .recursive
    (commitsFirst_of_not_export
      (notExport_of_recursive haccepted.valid hrecursive))
    (by simp) (by simp [Command.responseSize]))
  rw [← recursive_state, ← h12.state]

/-! ## The parent -/

/-- What becomes of the parent. -/
theorem parentAfter_spec (env : Env b W) (ctx : Context b) :
    Draws (cmd.parentAfter d ctx) env fun draws c => ∃ kept, c = ctx.keep kept ∧
      Kept env.state ctx.handle cmd.flags.retainsParent draws kept := by
  unfold parentAfter
  cases cmd.flags.retainsParent with
  | false => exact Post.pure ⟨[], .refl env, none, rfl, .retired⟩
  | true =>
      refine (rollOnetimeUseHandle_spec d ctx env).mono ?_ (fun _ _ h => h)
      rintro c env' ⟨draws, hdrew, handle, rfl, hchosen⟩
      exact ⟨draws, hdrew, some handle, rfl, .retained hchosen⟩

/-! ## Making a child -/

theorem deriveChild_spec {env1 : Env b W} {draws : List (Vector UInt8 16)}
    {kept : Option ContextHandle} (haccepted : cmd.FromParent env.state locality parent)
    (hexport : cmd.isExport = false) (h1 : Drew env draws env1)
    (hkept : Kept env.state cmd.handle cmd.flags.retainsParent draws kept) :
    Post (cmd.deriveChild d dpe parent ((env.state.contexts parent).keep kept)
        (cmd.childLocality locality)) env1
      (Done d dpe locality env (.deriveContext cmd))
      (Fell d dpe locality env (.deriveContext cmd)) := by
  have hearly : ∀ {e : Stop} {env' : Env b W}, Gave env1 e env' →
      Fell d dpe locality env (.deriveContext cmd) e env' :=
    fun h => .of_gave (.after h1 h)
  refine Post.get_bind ?_
  rw [h1.state]
  cases hslot : env.state.getNextInactiveContextPos with
  | none => exact ⟨hearly (.of_drew (.refl env1) (by simp [Unwritable]))⟩
  | some child =>
      show Post (reject _ _ >>= _) env1 _ _
      refine Post.rejectIf_bind
        (fun _ => hearly (.of_drew (.refl env1) (by simp [Unwritable])))
        fun hsafe => ?_
      refine Post.bind ((chosen_spec d cmd.flags.makesDefault env1).mono
        (fun _ _ h => h) (fun _ _ h => hearly h)) ?_
      rintro handle env2 ⟨draws', h2, hchosen⟩
      have h12 := h1.trans h2
      rw [h1.state] at hchosen
      refine Post.get_bind ?_
      rw [h12.state]
      refine Post.bind ((addTciMeasurement_spec d _ _ _ env2).mono
        (fun _ _ h => h) (fun _ _ h => .of_gave (.after h12 h))) ?_
      rintro tmpChild env3 ⟨_, h3, rfl, -, -, cumulative, hextends, rfl⟩
      have h123 := h12.trans h3
      rw [List.append_nil] at h123
      have hadd : ((env.state.contexts parent).keep kept).addChild child.val
          = .ok ⟨((env.state.contexts parent).keep kept).children.bits
            ||| 1#64 <<< child.val⟩ := by
        unfold Context.addChild
        rw [if_neg (Nat.not_le.mpr child.isLt)]
        exact Children.addChild_ok _ child
      have hargs : cmd.activeContextArgs (env.state.contexts parent).contextType
          ((env.state.contexts parent).keep kept) parent handle
          (cmd.childLocality locality)
          = cmd.activeContextArgs (env.state.contexts parent).contextType
            (env.state.contexts parent) parent handle
            (cmd.childLocality locality) := by
        cases kept <;> rfl
      have hhandle : ((env.state.contexts parent).keep kept).handle
          = kept.getD .newInvalid := by
        cases kept <;> rfl
      let response := fun parentHandle => DeriveContextResp.asBytes
        { respHdr := dpe.responseHdr .noError
          handle := handle
          parentHandle := parentHandle }
      have hlen : (response (kept.getD .newInvalid)).length = 44 :=
        DeriveContextResp.asBytes_length _
      have heffect : Effect d env.state locality (.deriveContext cmd)
          (draws ++ draws') _ :=
        .child haccepted hexport hkept hslot (by simpa using hsafe) hchosen hextends
      refine orFail_bind (fun children hchildren => ?_) (fun e he => ?_)
      · rw [hadd] at hchildren
        cases hchildren
        rw [hargs]
        refine Post.modify_bind (Post.modify_bind ?_)
        show Post (respond (response
          ((env.state.contexts parent).keep kept).handle)) _ _ _
        rw [show response ((env.state.contexts parent).keep kept).handle
          = response (kept.getD .newInvalid) from congrArg response hhandle]
        refine respond_done ⟨?_, h123.drawn⟩ h123.out heffect .child
          (commitsFirst_of_not_export hexport) (by omega) hlen
        rw [← h123.state]
        rfl
      · rw [hadd] at he
        cases he

/-! ## Exporting a CDI -/

/-- The header of a response to an exporting DeriveContext. -/
def exportedHeader (r : CreateDpeCertResult) (parentHandle : ContextHandle) :
    Bytes :=
  DeriveContextExportedCdiRespHdr.asBytes
    { respHdr := dpe.responseHdr .noError
      handle := .newInvalid
      parentHandle := parentHandle
      exportedCdi := r.exportedCdiHandle
      certificateSize := r.certSize }

/-- What an exporting command that returned has done. -/
structure Exports (env : Env b W) (cmd : DeriveContextCmd b) (n : Nat)
    (env' : Env b W) (parent : Fin b.maxHandles) (l : List (Fin b.maxHandles))
    (draws : List (Vector UInt8 16)) (es : List (Edit b))
    (r : CreateDpeCertResult) (digest : Digest) (measurements : MeasurementData b)
    (tree : Tlv) : Prop where
  accepted : cmd.FromParent env.state locality parent
  path : Path env.state.up parent l
  effect : Effect d env.state locality (.deriveContext cmd) draws es
  did : Did env draws es env'
  created : ∃ ueid exportedCdi window, Created d dpe (env.window exportedHdrSize)
    (cmd.exportedCertArgs dpe env.state locality ueid) .x509 .exported l r digest
    exportedCdi measurements tree window
  answered : Answered env (exportedHeader dpe r
    ((Edit.applyAll env.state es).contexts parent).handle ++ tree.bytes) n env'

theorem keeps_getUeid : Keeps Env.own (getUeid d) :=
  (keeps_callPlatform _).bind fun _ => keeps_orFail _

/-- What becomes of an exporting parent. -/
theorem settleParent_spec {env1 : Env b W} {draws : List (Vector UInt8 16)}
    {kept : Option ContextHandle} (h : env.state.WellFormed)
    (haccepted : cmd.FromParent env.state locality parent)
    (hexport : cmd.isExport = true) (hstate : env1.state = env.state)
    (hdrawn : env1.drawn = env.drawn ++ draws)
    (hkept : Kept env.state cmd.handle cmd.flags.retainsParent draws kept) :
    Post (cmd.settleParent parent ((env.state.contexts parent).keep kept) locality)
      env1
      (fun _ env' => env'.out = env1.out ∧ ∃ es,
        Effect d env.state locality (.deriveContext cmd) draws es ∧
        Did env draws es env')
      (fun _ _ => False) := by
  have hpos := haccepted.resolves
  refine Post.get_bind ?_
  rw [hstate]
  generalize hretains : cmd.flags.retainsParent = retains at hkept
  cases hkept with
  | @retained draws handle hchosen =>
      have heffect := Effect.exportRetained (d := d) haccepted hexport hretains hchosen
      refine Post.modify ⟨rfl, _, heffect, ?_, hdrawn⟩
      show env1.state.set parent _ = _
      rw [hstate]
      rfl
  | retired =>
      cases hchildren : (env.state.contexts parent).hasChildren with
      | false =>
          rw [← hstate] at hpos h
          refine (destroyInPlace_spec locality h hpos).mono ?_ (fun _ _ h => h)
          rintro _ _ ⟨marked, top, rfl, hsummit, hcut⟩
          rw [hstate] at hsummit hcut
          have heffect := Effect.exportDestroyed (d := d) haccepted hexport hretains
            hchildren hsummit hcut
          refine ⟨rfl, _, heffect, ?_, hdrawn⟩
          show (Edit.prune marked).apply env1.state = _
          rw [hstate]
          rfl
      | true =>
          have heffect := Effect.exportRetired (d := d) haccepted hexport hretains
            hchildren
          refine Post.modify ⟨rfl, _, heffect, ?_, hdrawn⟩
          show env1.state.set parent _ = _
          rw [hstate]
          rfl

/-- **EXPORTING**: all that can fail comes before the first store. -/
theorem deriveExported_spec {env1 : Env b W} {draws : List (Vector UInt8 16)}
    {kept : Option ContextHandle} (h : env.state.WellFormed)
    (haccepted : cmd.FromParent env.state locality parent)
    (hexport : cmd.isExport = true) (h1 : Drew env draws env1)
    (hkept : Kept env.state cmd.handle cmd.flags.retainsParent draws kept) :
    Post (cmd.deriveExported d dpe parent
        ((env.state.contexts parent).keep kept) locality) env1
      (fun n env' => ∃ l es r digest measurements tree,
        Exports d dpe locality env cmd n env' parent l draws es r digest
          measurements tree)
      (fun _ env' => env'.state = env.state ∧
        env'.drawn = env.drawn ++ draws) := by
  have hlive := State.live_of_resolves haccepted.resolves
  obtain ⟨l, hpath⟩ := h.rooted parent hlive
  refine Post.rejectIf_bind (fun _ => by exact ⟨h1.state, h1.drawn⟩) fun _ => ?_
  refine Post.bind ((keeps_getUeid d env1).mono (fun _ _ h => h) ?_) ?_
  · rintro e env' hown
    have h2 := h1.trans (.of_own hown)
    exact ⟨h2.state, by rw [h2.drawn, List.append_nil]⟩
  intro ueid env2 hown
  have h2 := h1.trans (.of_own hown)
  rw [List.append_nil] at h2
  refine Post.get_bind ?_
  rw [h2.state]
  have hcreate : Post (createExportedDpeCert d dpe
      (cmd.exportedCertArgs dpe env.state locality ueid))
      (env2.window exportedHdrSize) _ _ :=
    createDpeCertOrCsr_spec d dpe .x509 .exported (env2.window exportedHdrSize)
      (h2.state.symm ▸ h) (h2.state.symm ▸ hpath)
      (h2.state.symm ▸ haccepted.resolves)
  refine Post.bind ((withOffset_spec hcreate).mono (fun _ _ h => h) ?_) ?_
  · rintro e env' ⟨window, hsettled, rfl⟩
    have h3 := settled_unwindow hsettled
    exact ⟨(congrArg (·.1) h3).trans h2.state,
      (congrArg (·.2.2) h3).trans h2.drawn⟩
  rintro r env3 ⟨window, ⟨hsettled, digest, exportedCdi, measurements, tree,
    hcreated⟩, rfl⟩
  have h3 := settled_unwindow hsettled
  have hstate3 : window.unwindow.state = env.state :=
    (congrArg (·.1) h3).trans h2.state
  have hdrawn3 : window.unwindow.drawn = env.drawn ++ draws :=
    (congrArg (·.2.2) h3).trans h2.drawn
  have hcreated' : Created d dpe (env.window exportedHdrSize)
      (cmd.exportedCertArgs dpe env.state locality ueid) .x509 .exported l r
      digest exportedCdi measurements tree window :=
    hcreated.congr d dpe h2.state
      (congrArg (ResponseBuffer.offset · exportedHdrSize) h2.out)
  refine Post.bind ((settleParent_spec d locality h haccepted hexport hstate3
    hdrawn3 hkept).mono (fun _ _ h => h) (fun _ _ hno => hno.elim)) ?_
  rintro _ env4 ⟨hout, es, heffect, hdid⟩
  refine Post.get_bind ?_
  rw [hdid.state]
  have hlen := DeriveContextExportedCdiRespHdr.asBytes_length
    { respHdr := dpe.responseHdr .noError
      handle := .newInvalid
      parentHandle := ((Edit.applyAll env.state es).contexts parent).handle
      exportedCdi := r.exportedCdiHandle
      certificateSize := r.certSize }
  have hshape : window.out.shape
      = (ResponseBuffer.offset env.out exportedHdrSize).shape := by
    rw [← h2.out]
    exact congrArg (·.2.1) hsettled
  refine Post.bind ((header_spec hshape hcreated'.emitted hcreated'.issued.pos
    hout hlen (by omega) .invalidResponseBuf).mono (fun _ _ h => h)
    (fun _ _ hno => hno.elim)) ?_
  rintro _ env5 ⟨hstate, hdrawn, hfits, hbytes⟩
  refine Post.pure ⟨l, es, r, digest, measurements, tree, haccepted, hpath,
    heffect, ⟨hstate.trans hdid.state, hdrawn.trans hdid.drawn⟩,
    ⟨ueid, exportedCdi, window, hcreated'⟩, ?_, hfits, hbytes⟩
  rw [List.length_append, Tlv.length_bytes, ← hcreated'.size]
  exact congrArg (· + r.certSize.toNat) hlen.symm

/-! ## The command -/

/-- An exporting command that returned has had its effect and has
    answered. -/
theorem Exports.done {n : Nat} {env' : Env b W} {l : List (Fin b.maxHandles)}
    {draws : List (Vector UInt8 16)} {es : List (Edit b)}
    {r : CreateDpeCertResult} {digest : Digest}
    {measurements : MeasurementData b} {tree : Tlv} (hexport : cmd.isExport = true)
    (h : Exports d dpe locality env cmd n env' parent l draws es r digest
      measurements tree) :
    Done d dpe locality env (.deriveContext cmd) n env' := by
  obtain ⟨_, _, _, hcreated⟩ := h.created
  exact ⟨draws, es, _, h.effect, h.did, .exported hcreated.size hexport
    h.accepted.resolves, h.answered⟩

/-- **DERIVECONTEXT** ends in its effect and its answer, or in one of the
    ways to fail. -/
theorem executeSerialized_spec (cmd : DeriveContextCmd b) (env : Env b W)
    (h : env.state.WellFormed) :
    Post (cmd.executeSerialized d dpe locality) env
      (fun n env' => Done d dpe locality env (.deriveContext cmd) n env' ∧
        (cmd.isExport = true → ∃ parent l draws es r digest measurements tree,
          Exports d dpe locality env cmd n env' parent l draws es r digest
            measurements tree))
      (Fell d dpe locality env (.deriveContext cmd)) := by
  refine Post.get_bind ?_
  refine Post.rejectIf_bind (fun _ => .at_once (by simp [Unwritable]))
    fun hsupported => ?_
  refine resolve_bind locality (fun parent hpos => ?_) (fun _ he => .at_once he)
  refine Post.rejectIf_bind (fun _ => .at_once (by simp [Unwritable]))
    fun hvalid => ?_
  have haccepted : cmd.Accepted env.state locality parent :=
    ⟨hsupported, hpos, hvalid⟩
  have hold := (State.getActiveContextPos_ok hpos).2.1
  refine Post.ite (fun hrecursive => ?_) fun hrecursive => ?_
  · have hno := notExport_of_recursive hvalid hrecursive
    refine (deriveRecursive_spec d dpe locality haccepted hrecursive).mono ?_
      (fun _ _ h => h)
    intro n env' hdone
    refine ⟨hdone, fun hexport => ?_⟩
    rw [hno] at hexport
    cases hexport
  refine Post.get_bind ?_
  refine Post.rejectIf_bind (fun _ => .at_once (by simp [Unwritable]))
    fun hunique => ?_
  have hfrom : cmd.FromParent env.state locality parent :=
    ⟨haccepted, by simpa using hrecursive, by simpa using hunique⟩
  refine Post.bind ((parentAfter_spec d env _).mono (fun _ _ h => h)
    (fun _ _ h => .of_gave h)) ?_
  rintro _ env1 ⟨draws, h1, kept, rfl, hkept⟩
  rw [hold] at hkept
  refine Post.ite (fun hexport => ?_) fun hexport => ?_
  · refine (deriveExported_spec d dpe locality h hfrom hexport h1 hkept).mono ?_ ?_
    · rintro n env' ⟨l, es, r, digest, measurements, tree, hexports⟩
      exact ⟨hexports.done d dpe locality hexport, fun _ => ⟨parent, l, draws, es,
        r, digest, measurements, tree, hexports⟩⟩
    · rintro e env' ⟨hstate, hdrawn⟩
      refine .early hstate ⟨draws, hdrawn⟩ fun hyes => ?_
      rw [show (Command.deriveContext cmd).commitsFirst = !cmd.isExport from rfl,
        show cmd.isExport = true from hexport] at hyes
      cases hyes
  · have hno : cmd.isExport = false := by simpa [isExport] using hexport
    refine (deriveChild_spec d dpe locality hfrom hno h1 hkept).mono ?_
      (fun _ _ h => h)
    intro n env' hdone
    refine ⟨hdone, fun hexport => ?_⟩
    rw [hno] at hexport
    cases hexport

end DeriveContextCmd

/-! ## All commands -/

/-- **EVERY COMMAND** ends in its effect and its answer, or in one of the
    ways to fail. -/
theorem Command.executeSerialized_spec (cmd : Command b) (env : Env b W)
    (h : env.state.WellFormed) :
    Post (cmd.executeSerialized d dpe locality) env (Done d dpe locality env cmd)
      (Fell d dpe locality env cmd) := by
  cases cmd with
  | getProfile cmd => exact getProfile_spec d dpe locality cmd env
  | initCtx cmd => exact initCtx_spec d dpe locality cmd env
  | deriveContext cmd =>
      exact (cmd.executeSerialized_spec d dpe locality env h).mono
        (fun _ _ h => h.1) (fun _ _ h => h)
  | certifyKey cmd => exact certifyKey_spec d dpe locality cmd env h
  | sign cmd => exact sign_spec d dpe locality cmd env h
  | rotateCtx cmd => exact rotateCtx_spec d dpe locality cmd env
  | destroyCtx cmd => exact destroyCtx_spec d dpe locality cmd env h
  | getCertificateChain cmd =>
      exact getCertificateChain_spec d dpe locality cmd env
  | updateContextMeasurement cmd =>
      exact updateContextMeasurement_spec d dpe locality cmd env

end Dpe
