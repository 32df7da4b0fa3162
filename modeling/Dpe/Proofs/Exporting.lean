import Dpe.Proofs.Certified
import Dpe.Proofs.Worlds

/-! # Exporting — the one call that hands out a CDI

    An exporting DeriveContext asks the crypto suite for the CDI once, and
    for the key of that CDI right after it.  Whatever else the command
    calls may move the world along a preorder only, so the command leads
    the world through this one call, or, if it fails, past it. -/

namespace Dpe

open Der Forest Prog Tlv

variable {b : Build} {W : Type} (d : Deps b W) (dpe : DpeInstance b)
  (T : W → W → Prop)

/-- On the way from `w` to `w'` a CDI has been handed out under `handle`. -/
inductive HandsOut (info : Bytes) (w : W) (handle : ExportedCdiHandle) (w' : W) : Prop
  | intro {digest : Digest} {w1 w2 : W} (before : T w w1)
      (call : d.crypto.deriveExportedCdi digest info w1 = (.ok handle, w2))
      (after : T w2 w')

/-- … and the public key of a key of it has been asked for. -/
inductive Hands (args : CreateDpeCertArgs) (w : W) (handle : ExportedCdiHandle)
    (pubKey : PubKey) (w' : W) : Prop
  | intro {digest : Digest} {signer : d.crypto.Signer} {w1 w2 w3 w4 : W}
      (before : T w w1)
      (call : d.crypto.deriveExportedCdi digest args.cdiLabel w1 = (.ok handle, w2))
      (pair : d.crypto.deriveKeyPairExported handle args.keyLabel args.context w2
        = (.ok signer, w3))
      (key : d.crypto.publicKey signer (.zeroed dpe.profile) w3 = (.ok pubKey, w4))
      (after : T w4 w')

variable {d dpe T} [IsPreorder W T] {args : CreateDpeCertArgs} {w w' w'' : W}
  {handle : ExportedCdiHandle} {pubKey : PubKey}

theorem Hands.before (hmove : T w w') (h : Hands d dpe T args w' handle pubKey w'') :
    Hands d dpe T args w handle pubKey w'' := by
  cases h with
  | intro before call pair key after =>
      exact .intro (trans_of T hmove before) call pair key after

theorem Hands.after (h : Hands d dpe T args w handle pubKey w') (hmove : T w' w'') :
    Hands d dpe T args w handle pubKey w'' := by
  cases h with
  | intro before call pair key after =>
      exact .intro before call pair key (trans_of T after hmove)

theorem HandsOut.before {info : Bytes} (hmove : T w w')
    (h : HandsOut d T info w' handle w'') : HandsOut d T info w handle w'' := by
  cases h with
  | intro before call after => exact .intro (trans_of T hmove before) call after

theorem HandsOut.after {info : Bytes} (h : HandsOut d T info w handle w')
    (hmove : T w' w'') : HandsOut d T info w handle w'' := by
  cases h with
  | intro before call after => exact .intro before call (trans_of T after hmove)

theorem Hands.handsOut [d.Within T] (h : Hands d dpe T args w handle pubKey w') :
    HandsOut d T args.cdiLabel w handle w' := by
  cases h with
  | @intro digest signer w1 w2 w3 w4 before call pair key after =>
      have h3 := Deps.Within.deriveKeyPairExported (d := d) (T := T) handle
        args.keyLabel args.context w2
      have h4 := Deps.Within.publicKey (d := d) (T := T) signer
        (.zeroed dpe.profile) w3
      rw [pair] at h3
      rw [key] at h4
      exact .intro before call (trans_of T h3 (trans_of T h4 after))

/-- A command that failed has moved the world past the call, or through
    it. -/
def Strays (d : Deps b W) (T : W → W → Prop) (info : Bytes) (w w' : W) : Prop :=
  T w w' ∨ ∃ handle, HandsOut d T info w handle w'

theorem Strays.before {info : Bytes} (hmove : T w w') (h : Strays d T info w' w'') :
    Strays d T info w w'' := by
  rcases h with h | ⟨handle, h⟩
  · exact Or.inl (trans_of T hmove h)
  · exact Or.inr ⟨handle, h.before hmove⟩

/-! ## The certificate -/

/-- A crypto call and what it does to the world. -/
theorem callCrypto_call {α : Type} (f : W → Except CryptoError α × W) (env : Env b W) :
    Post (callCrypto f : M b W α) env
      (fun a env' => f env.world = (.ok a, env'.world))
      (fun _ env' => ∃ e, f env.world = (.error e, env'.world)) := by
  refine Post.intro (fun a env' h => ?_) fun e env' h => ?_
  · unfold callCrypto at h
    split at h
    · rename_i hf
      cases h
      exact hf
    · cases h
  · unfold callCrypto at h
    split at h
    · cases h
    · rename_i e1 w1 hf
      cases h
      exact ⟨e1, hf⟩

variable (d T) in
/-- A failing call for a CDI moves the world along `T`. -/
def RefusesWithin : Prop :=
  ∀ digest info w e w', d.crypto.deriveExportedCdi digest info w = (.error e, w') → T w w'

/-- **THE KEY** of an exported certificate. -/
theorem deriveCertKey_hands [d.Within T] (hrefuse : RefusesWithin d T)
    (args : CreateDpeCertArgs) (digest : Digest) (env : Env b W) :
    Post (deriveCertKey d dpe args .exported digest) env
      (fun key env' => ∃ handle, key.2 = some handle ∧
        Hands d dpe T args env.world handle key.1 env'.world)
      (fun _ env' => Strays d T args.cdiLabel env.world env'.world) := by
  refine Post.bind ((callCrypto_call _ env).mono (fun _ _ h => h) ?_) ?_
  · rintro e env' ⟨e', hcall⟩
    exact Or.inl (hrefuse _ _ _ _ _ hcall)
  intro handle env1 hcall
  have hpair := Deps.Within.deriveKeyPairExported (d := d) (T := T) handle
    args.keyLabel args.context env1.world
  refine Post.bind ((callCrypto_call _ env1).mono (fun _ _ h => h) ?_) ?_
  · rintro e env' ⟨e', hsigner⟩
    rw [hsigner] at hpair
    exact Or.inr ⟨handle, .intro (refl_of T _) hcall hpair⟩
  intro signer env2 hsigner
  have hkey := Deps.Within.publicKey (d := d) (T := T) signer (.zeroed dpe.profile)
    env2.world
  rw [hsigner] at hpair
  refine Post.bind ((callCrypto_call _ env2).mono (fun _ _ h => h) ?_) ?_
  · rintro e env' ⟨e', hpub⟩
    rw [hpub] at hkey
    exact Or.inr ⟨handle, .intro (refl_of T _) hcall (trans_of T hpair hkey)⟩
  intro pubKey env3 hpub
  exact Post.pure ⟨handle, rfl,
    .intro (refl_of T _) hcall hsigner hpub (refl_of T _)⟩

/-- What an exported certificate is made from: a key of the CDI that has
    been handed out for it. -/
theorem prepareCert_hands [d.Within T] (hrefuse : RefusesWithin d T)
    (args : CreateDpeCertArgs) (env : Env b W) :
    Post (prepareCert d dpe args .x509 .exported) env
      (fun p env' => ∃ handle, p.key.2 = some handle ∧
        Hands d dpe T args env.world handle p.key.1 env'.world)
      (fun _ env' => Strays d T args.cdiLabel env.world env'.world) := by
  have hdigest : Tame T Stop.Reported
      (getDpeMeasurementDigest d dpe args.handle args.locality) := by
    unfold getDpeMeasurementDigest
    repeat' with_reducible refine obeys_bind ?_ fun _ => ?_
    all_goals simp
  refine Post.bind ((hdigest.post env).mono (fun _ _ h => h) fun _ _ h => Or.inl h.1) ?_
  intro digest env1 h1
  refine Post.bind ((deriveCertKey_hands hrefuse args digest env1).mono (fun _ _ h => h)
    fun _ _ h => h.before h1) ?_
  rintro ⟨pubKey, _⟩ env2 ⟨handle, rfl, hhands⟩
  have h1 : T env.world env1.world := h1
  have hhands := hhands.before h1
  -- what comes after the key only moves the world along
  have hrest : ∀ {α β : Type} {m : M b W α} {f : α → M b W β} {env3 : Env b W}
      {ok : β → Env b W → Prop}, Tame T Stop.Reported m →
      Hands d dpe T args env.world handle pubKey env3.world →
      (∀ a env4, Hands d dpe T args env.world handle pubKey env4.world →
        Post (f a) env4 ok (fun _ env' => Strays d T args.cdiLabel env.world env'.world)) →
      Post (m >>= f) env3 ok
        (fun _ env' => Strays d T args.cdiLabel env.world env'.world) := by
    intro α β m f env3 ok hm h3 hf
    refine Post.bind ((hm.post env3).mono (fun _ _ h => h) ?_) fun a env4 h4 =>
      hf a env4 (h3.after h4)
    intro e env4 h4
    exact Or.inr ⟨handle, (h3.after h4.1).handsOut⟩
  refine hrest (obeys_getSubjectName d _ _) hhands fun subjectName env3 h3 => ?_
  refine hrest (obeys_getMeasurements d _ _ _) h3 fun measurements env4 h4 => ?_
  refine hrest obeys_get h4 fun env' env5 h5 => ?_
  refine hrest (obeys_getFormatArgs d _) h5 fun formatArgs env6 h6 => ?_
  exact Post.pure ⟨handle, rfl, h6⟩

/-- Encoding what has been prepared only moves the world along. -/
theorem CertInputs.obeys_finish [d.Within T] (p : CertInputs b) (args : CreateDpeCertArgs) :
    Tame T Stop.Reported (p.finish d dpe args) :=
  obeys_bind (obeys_generateCertOrCsr _ _ _ _ _ (obeys_certSignCb d _ _ _) _)
    fun _ => obeys_pure _

/-- **AN EXPORTED CERTIFICATE** is about a key of the CDI that has been
    handed out for it. -/
theorem createExportedDpeCert_hands [d.Within T] (hrefuse : RefusesWithin d T)
    (args : CreateDpeCertArgs) (env : Env b W) :
    Post (createExportedDpeCert d dpe args) env
      (fun r env' => Hands d dpe T args env.world r.exportedCdiHandle r.pubKey env'.world)
      (fun _ env' => Strays d T args.cdiLabel env.world env'.world) := by
  unfold createExportedDpeCert
  rw [createDpeCertOrCsr_eq]
  refine Post.bind ((prepareCert_hands hrefuse args env).mono (fun _ _ h => h)
    fun _ _ h => h) ?_
  rintro p env1 ⟨handle, hkey, hhands⟩
  have hgenerate : Tame T Stop.Reported (p.generate d dpe args) :=
    obeys_generateCertOrCsr _ _ _ _ _ (obeys_certSignCb d _ _ _) _
  refine Post.bind ((hgenerate.post env1).mono (fun _ _ h => h) ?_) ?_
  · intro e env2 h2
    exact Or.inr ⟨handle, (hhands.after h2.1).handsOut⟩
  · intro certSize env2 h2
    refine Post.pure ?_
    show Hands d dpe T args env.world (p.key.2.getD (.replicate 32 0)) p.key.1 env2.world
    rw [hkey]
    exact hhands.after h2

/-! ## The command -/

namespace DeriveContextCmd

variable (dpe) (locality : UInt32) {cmd : DeriveContextCmd b} {env : Env b W}
  {parent : Fin b.maxHandles}

/-- **AN EXPORT** that returned has answered with the handle that was handed
    out, and with a certificate of a key of its CDI. -/
theorem deriveExported_hands [d.Within T] (hrefuse : RefusesWithin d T)
    {env1 : Env b W} {draws : List (Vector UInt8 16)} {kept : Option ContextHandle}
    (h : env.state.WellFormed) (haccepted : cmd.FromParent env.state locality parent)
    (hexport : cmd.isExport = true) (h1 : Drew env draws env1)
    (hmove : T env.world env1.world)
    (hkept : Kept env.state cmd.handle cmd.flags.retainsParent draws kept) :
    Post (cmd.deriveExported d dpe parent
        ((env.state.contexts parent).keep kept) locality) env1
      (fun n env' => ∃ l es r digest measurements tree ueid,
        Exports d dpe locality env cmd n env' parent l draws es r digest
          measurements tree ∧
        Hands d dpe T (cmd.exportedCertArgs dpe env.state locality ueid) env.world
          r.exportedCdiHandle r.pubKey env'.world)
      (fun _ env' => Strays d T exportedCdiLabel env.world env'.world) := by
  obtain ⟨l, hpath⟩ := h.rooted parent (State.live_of_resolves haccepted.resolves)
  refine Post.rejectIf_bind (fun _ => Or.inl hmove) fun _ => ?_
  have hueid : Post (getUeid d) env1
      (fun _ env' => env'.own = env1.own ∧ T env1.world env'.world)
      (fun _ env' => T env1.world env'.world) :=
    ((keeps_getUeid d env1).and ((obeys_getUeid (P := Stop.Reported) d).post env1)).mono
      (fun _ _ h => h) fun _ _ h => h.2.1
  refine Post.bind (hueid.mono (fun _ _ h => h) fun _ _ h =>
    Or.inl (trans_of T hmove h)) ?_
  rintro ueid env2 ⟨hown, hmove2⟩
  have hmove2 := trans_of T hmove hmove2
  have h2 := h1.trans (.of_own hown)
  rw [List.append_nil] at h2
  refine Post.get_bind ?_
  rw [h2.state]
  have hcreated : Post (createExportedDpeCert d dpe
      (cmd.exportedCertArgs dpe env.state locality ueid))
      (env2.window exportedHdrSize) _ _ :=
    createDpeCertOrCsr_spec d dpe .x509 .exported (env2.window exportedHdrSize)
      (h2.state.symm ▸ h) (h2.state.symm ▸ hpath)
      (h2.state.symm ▸ haccepted.resolves)
  have hcreate := hcreated.and (createExportedDpeCert_hands hrefuse
    (cmd.exportedCertArgs dpe env.state locality ueid) (env2.window exportedHdrSize))
  refine Post.bind ((withOffset_spec hcreate).mono (fun _ _ h => h) ?_) ?_
  · rintro e env' ⟨window, ⟨-, hstrays⟩, rfl⟩
    exact Strays.before hmove2 hstrays
  rintro r env3 ⟨window, ⟨⟨hsettled, digest, exportedCdi, measurements, tree,
    hcreated⟩, hhands⟩, rfl⟩
  have hhands := Hands.before hmove2 hhands
  have h3 := settled_unwindow hsettled
  have hstate3 : window.unwindow.state = env.state :=
    (congrArg (·.1) h3).trans h2.state
  have hdrawn3 : window.unwindow.drawn = env.drawn ++ draws :=
    (congrArg (·.2.2) h3).trans h2.drawn
  have hcreated' : Created d dpe (env.window exportedHdrSize)
      (cmd.exportedCertArgs dpe env.state locality ueid) .x509 .exported l r
      digest exportedCdi measurements tree window :=
    hcreated.congr d dpe h2.state
      (congrArg (ResponseBuffer.offset · exportedHdrSize) h2.out)
  have hsettle := (settleParent_spec d locality h haccepted hexport hstate3
    hdrawn3 hkept).and ((obeys_settleParent (T := T) (P := Stop.Reported) locality cmd
      trivial parent ((env.state.contexts parent).keep kept)).post window.unwindow)
  refine Post.bind (hsettle.mono (fun _ _ h => h) fun _ _ h => h.1.elim) ?_
  rintro _ env4 ⟨⟨hout, es, heffect, hdid⟩, hmove4⟩
  refine Post.get_bind ?_
  rw [hdid.state]
  have hlen := DeriveContextExportedCdiRespHdr.asBytes_length
    { respHdr := dpe.responseHdr .noError
      handle := .newInvalid
      parentHandle := ((Edit.applyAll env.state es).contexts parent).handle
      exportedCdi := r.exportedCdiHandle
      certificateSize := r.certSize }
  have hshape : window.out.shape
      = (ResponseBuffer.offset env.out exportedHdrSize).shape := by
    rw [← h2.out]
    exact congrArg (·.2.1) hsettled
  have hheader := (header_spec hshape hcreated'.emitted hcreated'.issued.pos
    hout hlen (by omega) .invalidResponseBuf).and ((obeys_writeAt (T := T)
      (P := Stop.Reported) 0 (exportedHeader dpe r
        ((Edit.applyAll env.state es).contexts parent).handle)
      (e := .invalidResponseBuf) (by simp)).post env4)
  refine Post.bind (hheader.mono (fun _ _ h => h) fun _ _ h => h.1.elim) ?_
  rintro _ env5 ⟨⟨hstate, hdrawn, hfits, hbytes⟩, hmove5⟩
  refine Post.pure ⟨l, es, r, digest, measurements, tree, ueid, ⟨haccepted, hpath,
    heffect, ⟨hstate.trans hdid.state, hdrawn.trans hdid.drawn⟩,
    ⟨ueid, exportedCdi, window, hcreated'⟩, ?_, hfits, hbytes⟩,
    (hhands.after hmove4).after hmove5⟩
  rw [List.length_append, Tlv.length_bytes, ← hcreated'.size]
  exact congrArg (· + r.certSize.toNat) hlen.symm

/-- **AN EXPORTING DERIVECONTEXT** hands out one CDI if it returns, and at
    most one if it fails. -/
theorem executeSerialized_hands [d.Within T] (hrefuse : RefusesWithin d T)
    (cmd : DeriveContextCmd b) (hexport : cmd.isExport = true) (env : Env b W)
    (h : env.state.WellFormed) :
    Post (cmd.executeSerialized d dpe locality) env
      (fun n env' => ∃ parent l draws es r digest measurements tree ueid,
        Exports d dpe locality env cmd n env' parent l draws es r digest
          measurements tree ∧
        Hands d dpe T (cmd.exportedCertArgs dpe env.state locality ueid) env.world
          r.exportedCdiHandle r.pubKey env'.world)
      (fun _ env' => Strays d T exportedCdiLabel env.world env'.world) := by
  have hstay := refl_of T env.world
  refine Post.get_bind ?_
  refine Post.rejectIf_bind (fun _ => Or.inl hstay) fun hsupported => ?_
  refine resolve_bind locality (fun parent hpos => ?_) (fun _ _ => Or.inl hstay)
  refine Post.rejectIf_bind (fun _ => Or.inl hstay) fun hvalid => ?_
  have haccepted : cmd.Accepted env.state locality parent :=
    ⟨hsupported, hpos, hvalid⟩
  have hold := (State.getActiveContextPos_ok hpos).2.1
  refine Post.ite (fun hrecursive => ?_) fun hrecursive => ?_
  · have hno := notExport_of_recursive hvalid hrecursive
    rw [hno] at hexport
    cases hexport
  refine Post.get_bind ?_
  refine Post.rejectIf_bind (fun _ => Or.inl hstay) fun hunique => ?_
  have hfrom : cmd.FromParent env.state locality parent :=
    ⟨haccepted, by simpa using hrecursive, by simpa using hunique⟩
  have hmoves : Tame T Stop.Reported (cmd.parentAfter d (env.state.contexts parent)) :=
    cmd.obeys_parentAfter d _
  have hparent := (parentAfter_spec d env (env.state.contexts parent)).and
    (hmoves.post env)
  refine Post.bind (hparent.mono (fun _ _ h => h) fun _ _ h => Or.inl h.2.1) ?_
  rintro _ env1 ⟨⟨draws, h1, kept, rfl, hkept⟩, hmove⟩
  rw [hold] at hkept
  refine Post.ite (fun _ => ?_) fun hno => absurd hexport hno
  refine (deriveExported_hands dpe locality hrefuse h hfrom hexport h1 hmove hkept).mono
    ?_ fun _ _ h => h
  rintro n env' ⟨l, es, r, digest, measurements, tree, ueid, hexports, hhands⟩
  exact ⟨parent, l, draws, es, r, digest, measurements, tree, ueid, hexports, hhands⟩

variable {locality} in
/-- An export whose certificate is prepared has handed out its CDI. -/
theorem prepared_handsOut [d.Within T] (hrefuse : RefusesWithin d T)
    {tmpParent ctx : Context b} {ueid : Bytes} {env1 env2 window : Env b W} {base : Nat}
    {p : CertInputs b} (hleft : cmd.parentAfter d ctx env = .ok tmpParent env1)
    (hnamed : getUeid d env1 = .ok ueid env2)
    (hprepared : prepareCert d dpe (cmd.exportedCertArgs dpe env.state locality ueid)
      .x509 .exported (env2.window base) = .ok p window) :
    ∃ handle, HandsOut d T exportedCdiLabel env.world handle window.world := by
  have hparent : Tame T Stop.Reported (cmd.parentAfter d ctx) := cmd.obeys_parentAfter d _
  have hueid : Tame T Stop.Reported (getUeid d : M b W Bytes) := obeys_getUeid d
  have h1 : T env.world env1.world := hparent.ok _ _ _ hleft
  have h2 : T env1.world env2.world := hueid.ok _ _ _ hnamed
  obtain ⟨handle, -, hhands⟩ := (prepareCert_hands hrefuse _ _).of_ok hprepared
  exact ⟨handle, hhands.handsOut.before (trans_of T h1 h2)⟩

/-! ## What fits is exported -/

/-- What comes before the certificate only draws. -/
theorem drew_before {tmpParent : Context b} {ueid : Bytes} {env1 env2 : Env b W}
    (haccepted : cmd.FromParent env.state locality parent)
    (hleft : cmd.parentAfter d (env.state.contexts parent) env = .ok tmpParent env1)
    (hnamed : getUeid d env1 = .ok ueid env2) :
    ∃ draws kept, tmpParent = (env.state.contexts parent).keep kept ∧
      Kept env.state cmd.handle cmd.flags.retainsParent draws kept ∧
      Drew env draws env2 := by
  obtain ⟨draws, h1, kept, hparent, hkept⟩ := (parentAfter_spec d env _).of_ok hleft
  rw [(State.getActiveContextPos_ok haccepted.resolves).2.1] at hkept
  have hown : env2.own = env1.own := (keeps_getUeid d env1).of_ok hnamed
  have h2 := h1.trans (.of_own hown)
  rw [List.append_nil] at h2
  exact ⟨draws, kept, hparent, hkept, h2⟩

/-- What is left of an export once the certificate is created returns if
    there is room for the header. -/
theorem finishExported_returns (d : Deps b W) {draws : List (Vector UInt8 16)}
    {kept : Option ContextHandle} {env1 : Env b W} (h : env.state.WellFormed)
    (haccepted : cmd.FromParent env.state locality parent)
    (hexport : cmd.isExport = true) (hstate : env1.state = env.state)
    (hdrawn : env1.drawn = env.drawn ++ draws)
    (hkept : Kept env.state cmd.handle cmd.flags.retainsParent draws kept)
    (result : CreateDpeCertResult) (hroom : exportedHdrSize ≤ env1.out.capacity) :
    ∃ env', cmd.finishExported dpe parent ((env.state.contexts parent).keep kept)
      locality result env1 = .ok (exportedHdrSize + result.certSize.toNat) env' := by
  have hspec : Post (cmd.finishExported dpe parent
      ((env.state.contexts parent).keep kept) locality result) env1
      (fun n _ => n = exportedHdrSize + result.certSize.toNat) (fun _ _ => False) := by
    refine Post.bind ((settleParent_spec d locality h haccepted hexport hstate hdrawn
      hkept).mono (fun _ _ h => h) fun _ _ h => h) ?_
    rintro _ env2 ⟨hout, -⟩
    refine Post.get_bind ?_
    have hlen := DeriveContextExportedCdiRespHdr.asBytes_length
      { respHdr := dpe.responseHdr .noError
        handle := .newInvalid
        parentHandle := (env2.state.contexts parent).handle
        exportedCdi := result.exportedCdiHandle
        certificateSize := result.certSize }
    refine Post.bind ((writeAt_spec 0 _ _ env2).mono (fun _ _ _ => trivial) ?_)
      fun _ _ _ => Post.pure rfl
    rintro e env3 ⟨-, -, hshort⟩
    rcases hshort with hempty | hshort
    · rw [hempty] at hlen
      cases hlen
    · rw [hout, hlen, Nat.zero_add] at hshort
      exact Nat.not_lt.mpr hroom hshort
  cases hrun : cmd.finishExported dpe parent ((env.state.contexts parent).keep kept)
      locality result env1 with
  | ok n env' => exact ⟨env', by rw [hspec.of_ok hrun]⟩
  | error e env' => exact (hspec.of_error hrun).elim

/-- Room behind the header is room for the header. -/
theorem exportedHdrSize_le {args : CreateDpeCertArgs} {env2 window : Env b W}
    {p : CertInputs b} (h : env2.state.WellFormed)
    (hpos : env2.state.getActiveContextPos args.handle args.locality = .ok parent)
    (hprepared : prepareCert d dpe args .x509 .exported (env2.window exportedHdrSize)
      = .ok p window) (hroom : 0 < window.out.capacity) :
    exportedHdrSize ≤ env2.out.capacity := by
  obtain ⟨l, hpath⟩ := h.rooted parent (State.live_of_resolves hpos)
  have hown := ((prepareCert_spec d dpe .x509 .exported (env2.window exportedHdrSize) h
    hpath hpos).of_ok hprepared).1
  have hout : window.out = (env2.window exportedHdrSize).out := congrArg (·.2.1) hown
  rw [hout] at hroom
  exact (Nat.lt_of_sub_pos hroom).le

/-- **A CERTIFICATE THAT FITS** is exported. -/
theorem executeSerialized_returns {tmpParent : Context b} {ueid : Bytes}
    {env1 env2 window : Env b W} {p : CertInputs b} {first : TciNodeData b}
    {chain : List (Context b)} {a : Replies (Env b W)} (h : env.state.WellFormed)
    (haccepted : cmd.FromParent env.state locality parent)
    (hexport : cmd.isExport = true) (henabled : b.disabled.cdiExport = false)
    (hleft : cmd.parentAfter d (env.state.contexts parent) env = .ok tmpParent env1)
    (hnamed : getUeid d env1 = .ok ueid env2)
    (hprepared : prepareCert d dpe (cmd.exportedCertArgs dpe env.state locality ueid)
      .x509 .exported (env2.window exportedHdrSize) = .ok p window)
    (ha : p.Answered d dpe (cmd.exportedCertArgs dpe env.state locality ueid) window
      first chain a)
    (hfits : (p.tree ((cmd.exportedCertArgs dpe env.state locality ueid).config
      dpe.profile) first (nodesOf chain) a).size ≤ window.out.capacity)
    (hsmall : window.out.capacity < 2 ^ 32)
    (hroom : exportedHdrSize ≤ env.out.capacity) :
    ∃ env', cmd.executeSerialized d dpe locality env
      = .ok (exportedHdrSize + (p.tree ((cmd.exportedCertArgs dpe env.state locality
          ueid).config dpe.profile) first (nodesOf chain) a).size) env' := by
  obtain ⟨draws, kept, rfl, hkept, h2⟩ := drew_before locality haccepted hleft hnamed
  have hstate := h2.state
  obtain ⟨l, hpath⟩ := h.rooted parent (State.live_of_resolves haccepted.resolves)
  obtain ⟨r, env3, hfinish, -, hsize⟩ := ha.returns hfits hsmall
  have hcreate := (create_prepared hprepared).trans hfinish
  have hsettled := settled_unwindow ((createDpeCertOrCsr_spec d dpe .x509 .exported
    (env2.window exportedHdrSize) (hstate.symm ▸ h) (hstate.symm ▸ hpath)
    (hstate.symm ▸ haccepted.resolves)).of_ok hcreate).1
  have hcapacity : env3.unwindow.out.capacity = env.out.capacity :=
    (ResponseBuffer.capacity_congr (congrArg (·.2.1) hsettled)).trans
      (congrArg ResponseBuffer.capacity h2.out)
  obtain ⟨env', hreturns⟩ := finishExported_returns dpe locality d h haccepted
    hexport ((congrArg (·.1) hsettled).trans hstate)
    ((congrArg (·.2.2) hsettled).trans h2.drawn) hkept r (hcapacity ▸ hroom)
  rw [hsize] at hreturns
  refine ⟨env', ?_⟩
  rw [executeSerialized_admitted haccepted hexport henabled hleft hnamed hstate]
  exact (bind_of_ok (withOffset_ok hcreate)).trans hreturns

end DeriveContextCmd

end Dpe
