import Dpe.Proofs.Software
import Dpe.Properties.Residue
import Dpe.Properties.Serving

/-! # Exported CDIs — one slot for the life of the suite

    The software crypto suite keeps the CDIs that it has exported, and
    nothing ever takes one back.  So over all the requests that a device
    serves, whatever they are, at most one export returns; an export that
    fails after its CDI was handed out uses the slot up as well.  The
    handle that was returned leads to the certified key ever after. -/

namespace Dpe

open Forest Prog RustCryptoImpl

variable {b : Build} {V : Type} {c : RustCrates} {algs : RustCryptoAlgs}
  {platform : Platform b V} {fuel : Nat} {dpe : DpeInstance b}

/-! ## A machine that exports

    Hashes that are as good as the lengths of what they are fed, an HKDF
    that repeats the first byte of its key material, and an export from the
    default context of the sample platform. -/

def sampleEcdsa (k : Nat) : EcdsaCrate k where
  SigningKey := Bytes
  fromSlice key := some key
  fromSec1Pem := some []
  signPrehash _ _ := some ⟨.replicate k 1, .replicate k 2⟩
  encodedPoint key := (some (.replicate k (key.headD 0)), some (.replicate k 2))

def sampleMldsa : MldsaCrate where
  SigningKey := Unit
  fromSeed _ := ()
  fromPkcs8Pem := none
  signMu _ _ := []
  sign _ _ := []
  verifyingKey _ := .replicate 2592 0

def sampleCrates : RustCrates where
  StdRng := List UInt8
  fillBytes n w := (.replicate n (w.headD 1), w.tail)
  sha256 bs := .replicate 32 (UInt8.ofNat bs.length)
  sha384 bs := .replicate 48 (UInt8.ofNat bs.length)
  hkdf256 _ ikm _ n := some (.replicate n (ikm.headD 0))
  hkdf384 _ ikm _ n := some (.replicate n (ikm.headD 0))
  p256 := sampleEcdsa 32
  p384 := sampleEcdsa 48
  mldsa := sampleMldsa

abbrev sampleAlgs : RustCryptoAlgs := ⟨.ecdsa .bit384, .sha384⟩

abbrev SampleWorld : Type := RustCryptoImpl sampleCrates sampleAlgs × List UInt8

def sampleSoftware : Deps sampleBuild SampleWorld :=
  .software sampleCrates sampleAlgs samplePlatform 8

/-- A new suite. -/
def sampleMachine : SampleWorld := (newEcc384 [7, 8, 9], [])

def sampleBuffer (room : Nat) : ResponseBuffer := .slice (List.replicate room 0)

/-- The default context, with nothing below it. -/
def sampleParent : State sampleBuild := played [sampleInit 1]

theorem sampleParent_reachable : Reachable sampleParent :=
  reachable_played (by decide +kernel)

def sampleExport : DeriveContextCmd sampleBuild where
  handle := .default
  data := .replicate _ 1
  flags := ⟨DeriveContextFlags.EXPORT_CDI ||| DeriveContextFlags.CREATE_CERTIFICATE⟩
  tciType := 6
  targetLocality := 0
  svn := 0

/-- The export, answered into a buffer of `room` bytes. -/
def sampleExportRequest (room : Nat) : Request sampleBuild :=
  ⟨1, .deriveContext sampleExport, sampleBuffer room⟩

def sampleInitRequest : Request sampleBuild :=
  ⟨1, .initCtx .newUseDefault, sampleBuffer 28⟩

/-- The default context can be initialized whatever the world is. -/
theorem sampleInitRequest_served (w : SampleWorld) :
    ∃ served, serve sampleSoftware sampleDpe [sampleInitRequest] sampleNew w
      = some served := ⟨_, rfl⟩

/-! ## An export that fills its buffer -/

def sampleExportEnv : Env sampleBuild SampleWorld :=
  ⟨sampleParent, sampleMachine, sampleBuffer 719, [], []⟩

def sampleExported : EStateM.Result Stop (Env sampleBuild SampleWorld) Nat :=
  sampleExport.executeSerialized sampleSoftware sampleDpe 1 sampleExportEnv

theorem sampleExport_isExport : sampleExport.isExport = true := rfl

theorem sampleExport_accepted :
    sampleExport.FromParent sampleParent 1 (sampleSlot 0) :=
  ⟨⟨by decide +kernel, by decide +kernel, by decide +kernel⟩, by decide +kernel,
    by decide +kernel⟩

theorem sampleExport_left : sampleExport.parentAfter sampleSoftware
    (sampleParent.contexts (sampleSlot 0)) sampleExportEnv
      = .ok ((sampleParent.contexts (sampleSlot 0)).keep none) sampleExportEnv := rfl

def sampleUeid : Bytes := [0, 0, 0]

theorem sampleExport_named : DeriveContextCmd.getUeid sampleSoftware sampleExportEnv
    = .ok sampleUeid sampleExportEnv := rfl

def sampleExportArgs : CreateDpeCertArgs :=
  sampleExport.exportedCertArgs sampleDpe sampleParent 1 sampleUeid

/-- The room for the certificate. -/
def sampleExportStart : Env sampleBuild SampleWorld :=
  sampleExportEnv.window DeriveContextCmd.exportedHdrSize

def sampleExportPrepared :
    EStateM.Result Stop (Env sampleBuild SampleWorld) (CertInputs sampleBuild) :=
  prepareCert sampleSoftware sampleDpe sampleExportArgs .x509 .exported sampleExportStart

theorem sampleExportPrepared_some : (outcome sampleExportPrepared).isSome = true := by
  decide +kernel

def sampleExportInputs : CertInputs sampleBuild :=
  ((outcome sampleExportPrepared).get sampleExportPrepared_some).1

def sampleExportWindow : Env sampleBuild SampleWorld :=
  ((outcome sampleExportPrepared).get sampleExportPrepared_some).2

theorem sampleExportPrepared_eq :
    sampleExportPrepared = .ok sampleExportInputs sampleExportWindow :=
  eq_outcome sampleExportPrepared_some

def sampleAliasSig : Signature := .ecdsa (.ecdsa384 ⟨.replicate 48 1, .replicate 48 2⟩)

/-- Its alias key signs what is in the buffer. -/
theorem sampleCrates_signs {buf : ResponseBuffer} {start stop : Nat} {bs : Bytes}
    (hread : buf.readRange start stop = .ok bs) :
    signWithAlias sampleCrates (.ecdsa .bit384) (.responseBuffer buf start stop)
      = .ok sampleAliasSig := by
  unfold RustCryptoImpl.signWithAlias
  dsimp only [ecdsaSignDataInner]
  rw [hread]
  rfl

theorem sampleSoftware_answers {args : CreateDpeCertArgs} {digest : Digest}
    {handle : Option ExportedCdiHandle} {start : Nat} {bs : Bytes} {out : Signature}
    {env : Env sampleBuild SampleWorld} :
    Answers (certSignCb sampleSoftware args digest handle) false start bs out env
      sampleAliasSig env := by
  intro buf hread
  have hcall : sampleSoftware.crypto.signWithAlias
      (.responseBuffer buf start (start + bs.length)) out env.world
      = (.ok sampleAliasSig, env.world) :=
    Prod.ext (sampleCrates_signs hread) rfl
  show callCrypto (sampleSoftware.crypto.signWithAlias _ out) env = _
  unfold callCrypto
  rw [hcall]

/-- A certificate that has been prepared is answered by the sample machine
    if it is long. -/
theorem sampleSoftware_answered {env window : Env sampleBuild SampleWorld}
    {args : CreateDpeCertArgs} {p : CertInputs sampleBuild}
    {idx : Fin sampleBuild.maxHandles} {l : List (Fin sampleBuild.maxHandles)}
    (hwell : env.state.WellFormed) (hpath : Path env.state.up idx l)
    (hpos : env.state.getActiveContextPos args.handle args.locality = .ok idx)
    (hprepared : prepareCert sampleSoftware sampleDpe args .x509 .exported env
      = .ok p window)
    (hcert : CertWriter.SignedPayload.isCsr p.payload = false)
    (hserial : 20 ≤ p.subjectName.serial.bytes.length)
    (hkey : (CertWriter.payloadKey p.payload).compiled sampleBuild = true)
    (hpayload : CertWriter.Wide (CertWriter.payloadTree (args.config sampleDpe.profile)
      env.state.first.tci (nodesOf (env.state.chain l)) p.payload))
    (hsigned : CertWriter.Wide (CertWriter.signedTree (args.config sampleDpe.profile)
      env.state.first.tci (nodesOf (env.state.chain l)) p.payload sampleAliasSig)) :
    p.Answered sampleSoftware sampleDpe args window env.state.first.tci
      (env.state.chain l) ⟨p.sig, window, sampleAliasSig, window⟩ := by
  have hspec : Prepared sampleSoftware sampleDpe env args .x509 .exported l p :=
    ((prepareCert_spec sampleSoftware sampleDpe .x509 .exported env hwell hpath
      hpos).of_ok hprepared).2
  have hvalid : (CertWriter.payloadMeasurements p.payload).tciNodes.Valid := by
    rw [CertInputs.payload_measurements]
    exact hspec.walks.valid
  refine ⟨hserial, hspec.walks, CertInputs.can_certificate hspec.format ?_⟩
  refine ⟨⟨hvalid, hkey, hpayload⟩, ⟨rfl, show 0 + 2 ≤ MAX_BACKTRACKS by decide⟩,
    hsigned, ?_⟩
  rw [hcert]
  exact sampleSoftware_answers

/-- The replies that the certificate gets. -/
def sampleExportReplies : Replies (Env sampleBuild SampleWorld) :=
  ⟨sampleExportInputs.sig, sampleExportWindow, sampleAliasSig, sampleExportWindow⟩

theorem sampleExport_answered :
    sampleExportInputs.Answered sampleSoftware sampleDpe sampleExportArgs
      sampleExportWindow sampleExportStart.state.first.tci
      (sampleExportStart.state.chain [sampleSlot 0]) sampleExportReplies := by
  have hwell : sampleExportStart.state.WellFormed := sampleParent_reachable.wellFormed
  have hpath : Path sampleExportStart.state.up (sampleSlot 0) [sampleSlot 0] :=
    .root (by decide +kernel)
  have hpos : sampleExportStart.state.getActiveContextPos sampleExportArgs.handle
      sampleExportArgs.locality = .ok (sampleSlot 0) :=
    sampleExport_accepted.resolves
  exact sampleSoftware_answered hwell hpath hpos sampleExportPrepared_eq
    (by decide +kernel) (by decide +kernel) (by decide +kernel) (by decide +kernel)
    (by decide +kernel)

/-- The certificate is as long as the room for it. -/
theorem sampleExportTree_size :
    (sampleExportInputs.tree (sampleExportArgs.config sampleDpe.profile)
      sampleExportStart.state.first.tci
      (nodesOf (sampleExportStart.state.chain [sampleSlot 0])) sampleExportReplies).size
      = 639 ∧ sampleExportWindow.out.capacity = 639 := by
  constructor
  · decide +kernel
  · decide +kernel

/-- The command returns a certificate that is answered and fits. -/
theorem sampleExport_fits {p : CertInputs sampleBuild}
    {window : Env sampleBuild SampleWorld}
    {chain : List (Context sampleBuild)} {first : TciNodeData sampleBuild}
    {a : Replies (Env sampleBuild SampleWorld)}
    (hprepared : prepareCert sampleSoftware sampleDpe sampleExportArgs .x509 .exported
      sampleExportStart = .ok p window)
    (ha : p.Answered sampleSoftware sampleDpe sampleExportArgs window first chain a)
    (hfits : (p.tree (sampleExportArgs.config sampleDpe.profile) first (nodesOf chain)
      a).size ≤ window.out.capacity)
    (hsmall : window.out.capacity < 2 ^ 32) :
    ∃ env', sampleExported = .ok (80 + (p.tree (sampleExportArgs.config
      sampleDpe.profile) first (nodesOf chain) a).size) env' := by
  have hwell : sampleExportEnv.state.WellFormed := sampleParent_reachable.wellFormed
  have hroom : DeriveContextCmd.exportedHdrSize ≤ sampleExportEnv.out.capacity := by
    show 80 ≤ (List.replicate 719 (0 : UInt8)).length
    rw [List.length_replicate]
    decide
  exact DeriveContextCmd.executeSerialized_returns sampleDpe 1 hwell
    sampleExport_accepted sampleExport_isExport rfl sampleExport_left sampleExport_named
    hprepared ha hfits hsmall hroom

theorem sampleExported_returns : sampleExported = .ok 719 (ending sampleExported) := by
  obtain ⟨hsize, hcapacity⟩ := sampleExportTree_size
  have hfits := hsize.trans hcapacity.symm
  have hsmall : 639 < 2 ^ 32 := by decide
  obtain ⟨env', hreturns⟩ := sampleExport_fits sampleExportPrepared_eq
    sampleExport_answered hfits.le (hcapacity.trans_lt hsmall)
  rw [hsize] at hreturns
  exact ending_of_ok hreturns

/-! ## Exports that returned -/

/-- The request is an export, and it was answered with a certificate. -/
def Request.exported (r : Request b) (answer : Answer) : Bool :=
  r.cmd.exports && answer.result.isOk

/-- How many of the requests are exports that were answered with a
    certificate. -/
def exported (requests : List (Request b)) (answers : List Answer) : Nat :=
  (requests.zip answers).countP fun x => x.1.exported x.2

/-- The slots have grown from `w` to `w'`, by `n` or more, and only as far
    as there is room. -/
structure Grows (n : Nat) (w w' : RustCryptoImpl c algs) : Prop where
  kept : w.exportCdiSlots <+: w'.exportCdiSlots
  room : w'.exportCdiSlots.length ≤ max w.exportCdiSlots.length MAX_CDI_HANDLES
  least : w.exportCdiSlots.length + n ≤ w'.exportCdiSlots.length

theorem RustCryptoImpl.SameSlots.grows {w w' : RustCryptoImpl c algs} (h : SameSlots w w') :
    Grows 0 w w' := by
  unfold SameSlots at h
  refine ⟨?_, ?_, ?_⟩
  · rw [h]
  · rw [h]
    exact le_max_left _ _
  · rw [h]
    exact le_refl _

theorem Fills.grows {w w' : RustCryptoImpl c algs} {cdi : Bytes}
    {handle : ExportedCdiHandle} (h : Fills w w' cdi handle) : Grows 1 w w' := by
  refine ⟨?_, ?_, ?_⟩
  · rw [h.free]
    exact List.nil_prefix
  · rw [h.slots]
    exact le_max_right _ _
  · rw [h.free, h.slots]
    exact le_refl _

theorem Grows.mono {n m : Nat} {w w' : RustCryptoImpl c algs} (h : Grows n w w')
    (hle : m ≤ n) : Grows m w w' :=
  ⟨h.kept, h.room, (Nat.add_le_add_left hle _).trans h.least⟩

theorem Grows.trans {n m : Nat} {w w' w'' : RustCryptoImpl c algs} (h : Grows n w w')
    (h' : Grows m w' w'') : Grows (n + m) w w'' := by
  refine ⟨h.kept.trans h'.kept, ?_, ?_⟩
  · have := h.room
    have := h'.room
    omega
  · have := h.least
    have := h'.least
    omega

/-- A suite whose slots are all taken stays as it is. -/
theorem Grows.sameSlots {n : Nat} {w w' : RustCryptoImpl c algs} (h : Grows n w w')
    (hfull : MAX_CDI_HANDLES ≤ w.exportCdiSlots.length) : SameSlots w w' := by
  have hroom := h.room
  rw [max_eq_left hfull] at hroom
  exact (h.kept.eq_of_length_le hroom).symm

/-! ## One request -/

section Step

variable {env env' : Env b (RustCryptoImpl c algs × V)} {locality : UInt32}
  {cmd : Command b}
  {n : Nat} {e : Stop}

/-- A command that is no export leaves the slots alone. -/
theorem Command.sameSlots (hno : cmd.exports = false)
    (platform : Platform b V) (fuel : Nat) (dpe : DpeInstance b) (locality : UInt32) :
    Tame (FirstMoves SameSlots) Stop.Reported
      (cmd.executeSerialized (.software c algs platform fuel) dpe locality) := by
  refine cmd.obeys_executeSerialized _ dpe locality (fun _ => trivial) fun hyes => ?_
  rw [hno] at hyes
  cases hyes

/-- A command that returned has filled the slot if it is an export. -/
theorem Command.grows_of_ok (hwell : env.state.WellFormed)
    (hrun : cmd.executeSerialized (.software c algs platform fuel) dpe locality env
      = .ok n env') :
    Grows (if cmd.exports then 1 else 0) env.world.1 env'.world.1 := by
  cases hexports : cmd.exports with
  | false =>
      have hsame := (cmd.sameSlots hexports platform fuel dpe locality).ok _ _ _ hrun
      exact SameSlots.grows hsame
  | true =>
      cases cmd with
      | deriveContext cmd =>
          obtain ⟨parent, l, draws, es, r, digest, measurements, tree, ueid, -, hhands⟩ :=
            (cmd.executeSerialized_hands dpe locality (software_refuses platform fuel)
              hexports env hwell).of_ok hrun
          obtain ⟨cdi, hfills⟩ := hhands.handsOut.fills
          exact hfills.grows
      | getProfile | initCtx | certifyKey | sign | rotateCtx | destroyCtx
      | getCertificateChain | updateContextMeasurement => cases hexports

/-- A command that failed may have filled it. -/
theorem Command.grows_of_error (hwell : env.state.WellFormed)
    (hrun : cmd.executeSerialized (.software c algs platform fuel) dpe locality env
      = .error e env') :
    Grows 0 env.world.1 env'.world.1 := by
  cases hexports : cmd.exports with
  | false =>
      have hsame := (cmd.sameSlots hexports platform fuel dpe locality).error _ _ _ hrun
      exact SameSlots.grows hsame.1
  | true =>
      cases cmd with
      | deriveContext cmd =>
          have hstrays := (cmd.executeSerialized_hands dpe locality
            (software_refuses platform fuel) hexports env hwell).of_error hrun
          rcases hstrays with hsame | ⟨handle, hhands⟩
          · exact SameSlots.grows hsame
          · obtain ⟨cdi, hfills⟩ := hhands.fills
            exact hfills.grows.mono (Nat.zero_le 1)
      | getProfile | initCtx | certifyKey | sign | rotateCtx | destroyCtx
      | getCertificateChain | updateContextMeasurement => cases hexports

end Step

/-! ## All requests -/

section Runs

variable {requests : List (Request b)} {s : State b} {w : RustCryptoImpl c algs × V}
  {served : Served b (RustCryptoImpl c algs × V)}

/-- A request that is answered is a step. -/
theorem Request.step {W : Type} {d : Deps b W} {w : W} {r : Request b} {answer : Answer}
    (hreach : Reachable s) (h : Answer.of? (r.run d dpe s w) = some answer) :
    Reachable (final (r.run d dpe s w)).state := by
  refine hreach.step (x := ⟨W, d, dpe, .command r.locality r.cmd, ⟨s, w, r.out, [], []⟩⟩)
    ⟨rfl, ?_⟩
  unfold Request.run at h ⊢
  cases hrun : r.cmd.executeSerialized d dpe r.locality ⟨s, w, r.out, [], []⟩ with
  | ok n env' => exact Or.inl ⟨env', bind_of_ok hrun, rfl⟩
  | error e env' =>
      rw [hrun] at h
      cases e with
      | err e => exact Or.inr ⟨e, env', bind_of_error hrun, rfl⟩
      | noReturn => cases h

/-- **ONE REQUEST** fills the slot if it is an export that returned. -/
theorem Request.grows {r : Request b} {answer : Answer} (hreach : Reachable s)
    (h : Answer.of? (r.run (.software c algs platform fuel) dpe s w) = some answer) :
    Grows (if r.exported answer then 1 else 0) w.1
      (final (r.run (.software c algs platform fuel) dpe s w)).world.1 := by
  have hwell := hreach.wellFormed
  unfold Request.run at h ⊢
  cases hrun : r.cmd.executeSerialized (.software c algs platform fuel) dpe r.locality
      ⟨s, w, r.out, [], []⟩ with
  | ok n env' =>
      rw [hrun] at h
      cases h
      have hgrows := Command.grows_of_ok hwell hrun
      rw [show r.exported ⟨.ok n, env'.out⟩ = r.cmd.exports from Bool.and_true _]
      exact hgrows
  | error e env' =>
      rw [hrun] at h
      cases e with
      | err e =>
          cases h
          have hgrows := Command.grows_of_error hwell hrun
          rw [show r.exported ⟨.error e, env'.out⟩ = false from Bool.and_false _]
          exact hgrows
      | noReturn => cases h

/-- **OVER ALL REQUESTS** the slots only grow, by one for each export that
    returned. -/
theorem serve_grows (hreach : Reachable s)
    (hserve : serve (.software c algs platform fuel) dpe requests s w = some served) :
    Reachable served.state ∧ Grows (exported requests served.answers) w.1 served.world.1 := by
  induction requests generalizing s w served with
  | nil =>
      cases hserve
      exact ⟨hreach, (SameSlots.refl w.1).grows⟩
  | cons r rs ih =>
      unfold serve at hserve
      cases hanswer : Answer.of? (r.run (.software c algs platform fuel) dpe s w) with
      | none =>
          rw [hanswer] at hserve
          cases hserve
      | some answer =>
          rw [hanswer] at hserve
          obtain ⟨later, hlater, rfl⟩ := Option.map_eq_some_iff.mp hserve
          obtain ⟨hreach', hgrows⟩ := ih (Request.step hreach hanswer) hlater
          refine ⟨hreach', ?_⟩
          have hall := (Request.grows hreach hanswer).trans hgrows
          rw [show exported (r :: rs) (answer :: later.answers)
              = (if r.exported answer then 1 else 0) + exported rs later.answers from ?_]
          · exact hall
          · unfold exported
            rw [List.zip_cons_cons, List.countP_cons, Nat.add_comm]

/-- **ONE EXPORT FOR THE LIFE OF THE SUITE.**  Over all the requests that
    are served from a reachable state, no slot is given up or taken twice,
    and at most as many exports return as there are slots left: one if the
    suite is new, and none once an export, even one that failed, has used
    it up. -/
theorem exports_once (hreach : Reachable s)
    (hserve : serve (.software c algs platform fuel) dpe requests s w = some served) :
    w.1.exportCdiSlots <+: served.world.1.exportCdiSlots ∧
      exported requests served.answers ≤ MAX_CDI_HANDLES - w.1.exportCdiSlots.length ∧
      (w.1.exportCdiSlots.length ≤ MAX_CDI_HANDLES →
        served.world.1.exportCdiSlots.length ≤ MAX_CDI_HANDLES) := by
  obtain ⟨-, hgrows⟩ := serve_grows hreach hserve
  have hroom := hgrows.room
  have hleast := hgrows.least
  exact ⟨hgrows.kept, by omega, fun hle => by omega⟩

/-- An export into a buffer that is too short, and one more. -/
def sampleShort : Option (Served sampleBuild SampleWorld) :=
  serve sampleSoftware sampleDpe [sampleExportRequest 200, sampleExportRequest 2000]
    sampleParent sampleMachine

theorem sampleShort_shape :
    sampleShort.map (fun served => (served.world.1.exportCdiSlots.length,
      served.answers.map (·.result.isOk))) = some (1, [false, false]) := by
  decide +kernel

/-- A buffer that is too short for the certificate uses the slot up, and the
    same export is refused from then on. -/
theorem exports_once_short : ∃ served, sampleShort = some served ∧
    exported [sampleExportRequest 200, sampleExportRequest 2000] served.answers ≤ 1 ∧
    served.world.1.exportCdiSlots.length = 1 ∧
    served.answers.map (·.result.isOk) = [false, false] := by
  obtain ⟨served, h, hshape⟩ := Option.map_eq_some_iff.mp sampleShort_shape
  obtain ⟨hslots, hanswers⟩ := Prod.mk.inj hshape
  exact ⟨served, h, (exports_once sampleParent_reachable h).2.1, hslots, hanswers⟩

/-- **THE HANDLE NAMES THE CERTIFIED KEY** ever after: whatever is served
    after an export has returned, its handle leads to the public key in
    its certificate. -/
theorem exported_handle_names_key {env env' : Env b (RustCryptoImpl c algs × V)}
    {locality : UInt32} {cmd : DeriveContextCmd b} {n : Nat}
    (hreach : Reachable env.state) (hexport : cmd.isExport = true)
    (hrun : cmd.executeSerialized (.software c algs platform fuel) dpe locality env
      = .ok n env') :
    ∃ parent l draws es r digest measurements tree,
      DeriveContextCmd.Exports (.software c algs platform fuel) dpe locality env cmd n env'
        parent l draws es r digest measurements tree ∧
      ∀ {s' : State b} {dpe' : DpeInstance b} {requests : List (Request b)}
        {served : Served b (RustCryptoImpl c algs × V)}, Reachable s' →
        serve (.software c algs platform fuel) dpe' requests s' env'.world = some served →
        served.world.1.exportedPublicKey r.exportedCdiHandle
          (DeriveContextCmd.profileDescriptor dpe.profile)
          (DeriveContextCmd.profileDescriptor dpe.profile) (.zeroed dpe.profile)
          = .ok r.pubKey := by
  obtain ⟨parent, l, draws, es, r, digest, measurements, tree, ueid, hexports, hhands⟩ :=
    (cmd.executeSerialized_hands dpe locality (software_refuses platform fuel)
      hexport env hreach.wellFormed).of_ok hrun
  refine ⟨parent, l, draws, es, r, digest, measurements, tree, hexports, ?_⟩
  intro s' dpe' requests served hreach' hserve
  obtain ⟨cdi, hfills⟩ := hhands.handsOut.fills
  obtain ⟨-, hgrows⟩ := serve_grows hreach' hserve
  have hsame : SameSlots env'.world.1 served.world.1 := by
    refine hgrows.sameSlots ?_
    rw [hfills.slots]
    exact le_refl 1
  rw [← hsame.exportedPublicKey]
  exact hhands.publicKey

/-- A request after an export that returned. -/
theorem exported_handle_names_key_sample : ∃ (r : CreateDpeCertResult) (served : _),
    serve sampleSoftware sampleDpe [sampleInitRequest] sampleNew
        (ending sampleExported).world = some served ∧
      served.world.1.exportedPublicKey r.exportedCdiHandle
        (DeriveContextCmd.profileDescriptor sampleDpe.profile)
        (DeriveContextCmd.profileDescriptor sampleDpe.profile)
        (.zeroed sampleDpe.profile) = .ok r.pubKey := by
  have hreach : Reachable sampleExportEnv.state := sampleParent_reachable
  have hnew : Reachable sampleNew := ⟨_, _, [], .nil _⟩
  obtain ⟨parent, l, draws, es, r, digest, measurements, tree, -, hafter⟩ :=
    exported_handle_names_key hreach sampleExport_isExport sampleExported_returns
  obtain ⟨served, hserve⟩ := sampleInitRequest_served (ending sampleExported).world
  exact ⟨r, served, hserve, hafter hnew hserve⟩

end Runs

/-! ## The room for the certificate -/

section Room

variable {env : Env b (RustCryptoImpl c algs × V)} {locality : UInt32}
  {cmd : DeriveContextCmd b} {base : Nat} {args : CreateDpeCertArgs} {p : CertInputs b}
  {window : Env b (RustCryptoImpl c algs × V)} {first : TciNodeData b}
  {chain : List (Context b)} {a : Replies (Env b (RustCryptoImpl c algs × V))}

/-- An export that encodes returns if the room suffices. -/
theorem DeriveContextCmd.returns_of_room (hwell : env.state.WellFormed)
    (h : (Command.deriveContext cmd).Encodes (.software c algs platform fuel) dpe locality
      env base args p window)
    (ha : p.Answered (.software c algs platform fuel) dpe args window first chain a)
    (hfits : (p.tree (args.config dpe.profile) first (nodesOf chain) a).size
      ≤ window.out.capacity) (hsmall : window.out.capacity < 2 ^ 32) :
    ∃ n env', cmd.executeSerialized (.software c algs platform fuel) dpe locality env
      = .ok n env' := by
  cases h with
  | @exported _ parent tmpParent ueid env1 env2 _ _ accepted isExport enabled left named
      prepared =>
      have hroom : exportedHdrSize ≤ env.out.capacity := by
        obtain ⟨draws, kept, -, -, h2⟩ := drew_before locality accepted left named
        rw [← h2.out]
        exact exportedHdrSize_le dpe (h2.state.symm ▸ hwell)
          (h2.state.symm ▸ accepted.resolves) prepared
          ((p.message.tree_pos _ _).trans_le hfits)
      obtain ⟨env', hreturns⟩ := executeSerialized_returns dpe locality hwell accepted
        isExport enabled left named prepared ha hfits hsmall hroom
      exact ⟨_, env', hreturns⟩

/-- An export that encodes has used the slot up, whatever comes of it. -/
theorem DeriveContextCmd.fills_slot (hwell : env.state.WellFormed)
    (h : (Command.deriveContext cmd).Encodes (.software c algs platform fuel) dpe locality
      env base args p window)
    (ha : p.Answered (.software c algs platform fuel) dpe args window first chain a)
    (hsmall : window.out.capacity < 2 ^ 32) :
    ∃ cdi handle, Fills env.world.1
      (final (cmd.executeSerialized (.software c algs platform fuel) dpe locality
        env)).world.1 cdi handle := by
  rcases Nat.lt_or_ge window.out.capacity
    (p.tree (args.config dpe.profile) first (nodesOf chain) a).size with hlong | hfits
  · obtain ⟨env1, hfinish⟩ := ha.overflows hlong
    obtain ⟨rest, hrest⟩ := h.follows hwell
    have hrun : cmd.executeSerialized (.software c algs platform fuel) dpe locality env
        = .error truncated env1.unwindow := hrest.error _ _ hfinish
    have htame : Tame (FirstMoves SameSlots) Stop.Reported
        (p.finish (.software c algs platform fuel) dpe args) := p.obeys_finish args
    have hmove : FirstMoves SameSlots window.world env1.world :=
      (htame.error _ _ _ hfinish).1
    rw [hrun]
    cases h with
    | exported accepted isExport enabled left named prepared =>
        obtain ⟨handle, hhands⟩ :=
          prepared_handsOut dpe (software_refuses platform fuel) left named prepared
        obtain ⟨cdi, hfills⟩ := (hhands.after hmove).fills
        exact ⟨cdi, handle, hfills⟩
  · obtain ⟨n, env', hrun⟩ := returns_of_room hwell h ha hfits hsmall
    rw [hrun]
    cases h with
    | exported accepted isExport enabled left named prepared =>
        obtain ⟨parent, l, draws, es, r, digest, measurements, tree, ueid, -, hhands⟩ :=
          (cmd.executeSerialized_hands dpe locality (software_refuses platform fuel)
            isExport env hwell).of_ok hrun
        obtain ⟨cdi, hfills⟩ := hhands.handsOut.fills
        exact ⟨cdi, _, hfills⟩

/-- **ROOM DECIDES** whether an export returns: it does if its certificate
    fits behind the header, and overflows if not.  Its slot is used up
    either way. -/
theorem export_spends_slot (hreach : Reachable env.state)
    (h : (Command.deriveContext cmd).Encodes (.software c algs platform fuel) dpe locality
      env base args p window)
    (ha : p.Answered (.software c algs platform fuel) dpe args window first chain a)
    (hsmall : window.out.capacity < 2 ^ 32) :
    ((∃ n env', cmd.executeSerialized (.software c algs platform fuel) dpe locality env
        = .ok n env')
      ↔ (p.tree (args.config dpe.profile) first (nodesOf chain) a).size
        ≤ window.out.capacity) ∧
    ((∃ env', cmd.executeSerialized (.software c algs platform fuel) dpe locality env
        = .error truncated env')
      ↔ window.out.capacity
        < (p.tree (args.config dpe.profile) first (nodesOf chain) a).size) ∧
    ∃ cdi handle, Fills env.world.1
      (final (cmd.executeSerialized (.software c algs platform fuel) dpe locality
        env)).world.1 cdi handle := by
  have hwell := hreach.wellFormed
  have htruncated : (∃ env', cmd.executeSerialized (.software c algs platform fuel) dpe
      locality env = .error truncated env') ↔ _ := h.truncated_iff hwell ha hsmall
  refine ⟨⟨?_, fun hfits => cmd.returns_of_room hwell h ha hfits hsmall⟩, htruncated,
    cmd.fills_slot hwell h ha hsmall⟩
  rintro ⟨n, env', hrun⟩
  by_contra hlong
  obtain ⟨env1, herror⟩ := htruncated.mpr (Nat.lt_of_not_le hlong)
  cases hrun.symm.trans herror

/-- The export of the sample machine encodes. -/
theorem sampleExport_encodes {p : CertInputs sampleBuild}
    {window : Env sampleBuild SampleWorld}
    (hprepared : prepareCert sampleSoftware sampleDpe sampleExportArgs .x509 .exported
      sampleExportStart = .ok p window) :
    (Command.deriveContext sampleExport).Encodes sampleSoftware sampleDpe 1
      sampleExportEnv DeriveContextCmd.exportedHdrSize sampleExportArgs p window :=
  .exported sampleExport_accepted sampleExport_isExport rfl sampleExport_left
    sampleExport_named hprepared

/-- The export that fills its buffer. -/
theorem export_spends_slot_sample :
    (∃ n env', sampleExported = .ok n env') ∧
      ∃ cdi handle,
        Fills sampleExportEnv.world.1 (final sampleExported).world.1 cdi handle := by
  obtain ⟨hsize, hcapacity⟩ := sampleExportTree_size
  have hfits := (hsize.trans hcapacity.symm).le
  have hsmall : 639 < 2 ^ 32 := by decide
  have hreach : Reachable sampleExportEnv.state := sampleParent_reachable
  have hspends := export_spends_slot hreach
    (sampleExport_encodes sampleExportPrepared_eq) sampleExport_answered
    (hcapacity.trans_lt hsmall)
  have hrun : sampleExport.executeSerialized
      (.software sampleCrates sampleAlgs samplePlatform 8) sampleDpe 1 sampleExportEnv
      = sampleExported := rfl
  rw [hrun] at hspends
  -- without the abbreviation both sides are the same as they stand, and no run is
  -- evaluated to compare them
  unfold SampleWorld
  exact ⟨hspends.1.mpr hfits, hspends.2.2⟩

end Room

end Dpe
