import Dpe.Client.Methods
import Dpe.Properties.Serving

/-! # Remote calls

    The client and the library lay out their structures on their own, in
    two languages.  They agree: a method of the client, called over a
    socket on the simulator, is `execute` of the command that it stands
    for.  What the method returns is read off the response, a failure
    arrives as its status, and the instance is left as `execute` leaves
    it.  GetCertificateChain stands for one command after the other, until
    the chain ends. -/

namespace Dpe

open Layout Prog

variable {b : Build} {W : Type}

namespace Client

/-! ## Requests and commands -/

/-- The client of a profile. -/
def paramsOf : DpeProfile → Params
  | .p256Sha256 => DPEABI256
  | .p384Sha384 => DPEABI384
  | .mldsa87 => DPEABIMldsa87

/-- **THE COMMAND OF A REQUEST**, for a client of the profile, unless it is
    for the certificate chain.  The digests of the client must be as long
    as the measurements of the build. -/
inductive Request.Means (p : DpeProfile) : Request → Command b → Prop
  | initializeContext (flags : UInt32) : Means p (.initializeContext flags) (.initCtx ⟨flags⟩)
  | getProfile : Means p .getProfile (.getProfile ⟨⟩)
  | certifyKeyP256 (hp : p = .p256Sha256) (cmd : CertifyKeyCmd 32) :
      Means p (.certifyKey cmd.handle cmd.label.toList cmd.format cmd.flags)
        (.certifyKey (.p256 cmd))
  | certifyKeyP384 (hp : p = .p384Sha384) (cmd : CertifyKeyCmd 48) :
      Means p (.certifyKey cmd.handle cmd.label.toList cmd.format cmd.flags)
        (.certifyKey (.p384 cmd))
  | certifyKeyMldsa87 (hp : p = .mldsa87) (cmd : CertifyKeyCmd 48) :
      Means p (.certifyKey cmd.handle cmd.label.toList cmd.format cmd.flags)
        (.certifyKey (.mldsa87 cmd))
  | destroyContext (handle : ContextHandle) :
      Means p (.destroyContext handle) (.destroyCtx ⟨handle⟩)
  | deriveContext (cmd : DeriveContextCmd b) (hsvn : cmd.svn = 0)
      (hsize : b.tciSize = p.tciSize) :
      Means p (.deriveContext cmd.handle cmd.data.toList cmd.flags.bits cmd.tciType
        cmd.targetLocality) (.deriveContext cmd)
  | rotateContextHandle (cmd : RotateCtxCmd) (henabled : b.disabled.rotateContext = false) :
      Means p (.rotateContextHandle cmd.handle cmd.flags) (.rotateCtx cmd)
  | signP256 (hp : p = .p256Sha256) (handle : ContextHandle) (label : Vector UInt8 32)
      (flags : UInt32) (digest : Vector UInt8 32) :
      Means p (.sign handle label.toList flags digest.toList)
        (.sign (.p256 handle label flags digest))
  | signP384 (hp : p = .p384Sha384) (handle : ContextHandle) (label : Vector UInt8 48)
      (flags : UInt32) (digest : Vector UInt8 48) :
      Means p (.sign handle label.toList flags digest.toList)
        (.sign (.p384 handle label flags digest))
  | signMldsa87 (hp : p = .mldsa87) (handle : ContextHandle) (label : Vector UInt8 48)
      (flags : UInt32) (digest : Vector UInt8 64)
      (hflags : contains flags SignCommand.IS_RAW = false) :
      Means p (.sign handle label.toList flags digest.toList)
        (.sign (.mldsa87 handle label flags digest))
  | signRaw (hp : p = .mldsa87) (handle : ContextHandle) (label : Vector UInt8 48)
      (rawData : Bytes) (rawBuf : Vector UInt8 MLDSA87_RAW_MAX_SIZE)
      (hraw : rawBuf.toList = rawData ++ .replicate (SignRawMaxSize - rawData.length) 0)
      (hsize : rawData.length ≤ SignRawMaxSize) :
      Means p (.signRaw handle label.toList rawData)
        (.sign (.mldsa87Raw handle label SignFlagIsRaw (.ofNat rawData.length) rawBuf))
  | updateContextMeasurement (parentHandle : ContextHandle) (data : TciMeasurement b)
      (tciType : UInt32) (hsize : b.tciSize = p.tciSize) :
      Means p (.updateContextMeasurement parentHandle data.toList tciType)
        (.updateContextMeasurement ⟨parentHandle, data, 0, tciType, 0⟩)

/-- The instance accepts what the client of its profile asks for. -/
theorem Request.Means.accepted {p : DpeProfile} {req : Request} {cmd : Command b}
    (h : req.Means p cmd) : cmd.Accepted p := by
  cases h with
  | initializeContext | getProfile | destroyContext | deriveContext
  | updateContextMeasurement => trivial
  | certifyKeyP256 hp | certifyKeyP384 hp | certifyKeyMldsa87 hp => exact hp.symm
  | rotateContextHandle cmd henabled => exact henabled
  | signP256 hp | signP384 hp => exact ⟨hp.symm, trivial⟩
  | signMldsa87 hp _ _ _ _ hflags => exact ⟨hp.symm, hflags⟩
  | signRaw hp _ _ rawData _ _ hsize =>
      refine ⟨hp.symm, rfl, ?_⟩
      rw [UInt32.toNat_ofNat']
      exact (Nat.mod_le _ _).trans hsize

/-! ## Views of responses -/

/-- What the client returns of a response.  It does not return a
    certificate that is longer than those of its profile. -/
def view (params : Params) : Response b → Except CallError Result
  | .getProfile res =>
      .ok (.profile {
        profile := res.respHdr.profile.toU32
        majorVersion := res.majorVersion
        minorVersion := res.minorVersion
        vendorId := res.vendorId
        vendorSku := res.vendorSku
        maxTciNodes := res.maxTciNodes
        flags := res.flags })
  | .initCtx res | .rotateCtx res => .ok (.handle res.handle)
  | .deriveContext res =>
      .ok (.derived res.handle res.parentHandle (.replicate 32 0) 0 [])
  | .deriveContextExportedCdi res =>
      .ok (.derived res.header.handle res.header.parentHandle
        res.header.exportedCdi.toList res.header.certificateSize
        (res.newCertificate.toList.take res.header.certificateSize.toNat))
  | .certifyKey (.p256 res) => certified 32 res (res.header.pubkey.drop 32)
  | .certifyKey (.p384 res) => certified 48 res (res.header.pubkey.drop 48)
  | .certifyKey (.mldsa87 res) => certified 2592 res (.replicate 2592 0)
  | .sign (.p256 res) =>
      .ok (.signedEcdsa res.newContextHandle (res.sig.take 32) (res.sig.drop 32))
  | .sign (.p384 res) =>
      .ok (.signedEcdsa res.newContextHandle (res.sig.take 48) (res.sig.drop 48))
  | .sign (.mldsa87 res) =>
      .ok (.signedMldsa res.newContextHandle (res.sig.take 4627))
  | .destroyCtx _ => .ok .destroyed
  | .getCertificateChain res =>
      .ok (.chunk res.certificateSize res.certificateChain.toList)
  | .updateContextMeasurement res =>
      .ok (.updated res.newContextHandle res.newParentContextHandle)
  | .error res => .error (.wire (.status res.status))
where
  certified (intLen : Nat) (res : CertifyKeyBody b) (y : Bytes) :
      Except CallError Result :=
    if params.cert.certLen < res.header.certSize.toNat then
      .error (.certTooLarge res.header.certSize)
    else
      .ok (.certified res.header.newContextHandle (res.header.pubkey.take intLen) y
        (res.cert.toList.take res.header.certSize.toNat))

/-- What the client returns of a call of the library: of a failure, its
    status. -/
def received (params : Params) (m : M b W (Response b)) :
    M b W (Except CallError Result) := do
  let resp ← attempt m
  match resp with
  | .ok r => pure (view params r)
  | .error e => pure (.error (.wire (.status e.getErrorCode)))

/-- The chunk that a round has read; it reads nothing else. -/
def chunkOf : Except CallError Result → Except Error (UInt32 × Bytes)
  | .ok (.chunk certificateSize certificateChain) =>
      .ok (certificateSize, certificateChain)
  | .error (.wire e) => .error e
  | _ => .error .unexpectedEof

/-- What a round returns of a call of the library. -/
def chunkReceived (d : Deps b W) (dpe : DpeInstance b) (params : Params)
    (locality offset : UInt32) : M b W (Except Error (UInt32 × Bytes)) := do
  let r ← received params
    ((Command.getCertificateChain ⟨offset, MaxChunkSize⟩).execute d dpe locality)
  pure (chunkOf r)

section Received

variable {params : Params} {m : M b W (Response b)} {env env' : Env b W}

theorem received_ok {r : Response b} (h : m env = .ok r env') :
    received params m env = .ok (view params r) env' := by
  have hattempt : attempt m env = .ok (.ok r) env' := by
    unfold attempt
    rw [h]
  exact bind_of_ok hattempt

theorem received_failed {e : DpeErrorCode} (h : m env = .error (.err e) env') :
    received params m env = .ok (.error (.wire (.status e.getErrorCode))) env' := by
  have hattempt : attempt m env = .ok (.error e) env' := by
    unfold attempt
    rw [h]
  exact bind_of_ok hattempt

theorem received_hangs (h : m env = .error .noReturn env') :
    received params m env = .error .noReturn env' := by
  have hattempt : attempt m env = .error .noReturn env' := by
    unfold attempt
    rw [h]
  exact bind_of_error hattempt

end Received

/-! ## Reading -/

/-- The header of a success, as the client reads it. -/
def successHdr (dpe : DpeInstance b) : RespHdr := ⟨RespMagic, 0, dpe.profile.toU32⟩

/-- Every header can be read. -/
theorem RespHdr.layout_valid (h : RespHdr) : layout.Valid h := ⟨trivial, trivial, trivial⟩

theorem binaryRead_append {α : Type} {l : Layout α} {x : α} (hx : l.Valid x)
    (tail : Bytes) : binaryRead l (l.toBytes x ++ tail) = .ok (x, tail) := by
  unfold binaryRead
  rw [l.ofBytes_append hx, ← l.length_toBytes x hx, List.drop_left]

/-- The header that the library writes is the one that the client reads. -/
theorem responseHdr_eq (dpe : DpeInstance b) (e : DpeErrorCode) :
    (dpe.responseHdr e).asBytes
      = RespHdr.layout.toBytes ⟨RespMagic, e.getErrorCode, dpe.profile.toU32⟩ := by
  unfold ResponseHdr.asBytes
  rw [List.append_assoc]
  rfl

/-- The response behind the header of a success is read. -/
theorem readResponse_success {α : Type} {rsp : Layout α} {x : α} (dpe : DpeInstance b)
    (hx : rsp.Valid x) (tail : Bytes) :
    readResponse rsp ((dpe.responseHdr .noError).asBytes ++ (rsp.toBytes x ++ tail))
      = .ok (successHdr dpe, x, tail) := by
  have hhdr : (dpe.responseHdr .noError).asBytes = RespHdr.layout.toBytes (successHdr dpe) :=
    responseHdr_eq dpe .noError
  have hstatus : checkRespHdr (successHdr dpe).magic (successHdr dpe).status = .ok () := rfl
  simp only [readResponse, bind, Except.bind]
  rw [hhdr, binaryRead_append (RespHdr.layout_valid _)]
  simp only [hstatus, binaryRead_append hx]
  rfl

/-- Of the header of a failure the client returns the status. -/
theorem readResponse_failure {α : Type} {rsp : Layout α} (dpe : DpeInstance b)
    {e : DpeErrorCode} (he : e.Reported) :
    readResponse rsp (dpe.responseHdr e).asBytes
      = .error (.status e.getErrorCode) := by
  have hstatus : checkRespHdr RespMagic e.getErrorCode
      = .error (.status e.getErrorCode) := by
    unfold checkRespHdr
    rw [if_neg (by decide), if_pos (bne_iff_ne.mpr he)]
  rw [responseHdr_eq, ← List.append_nil (RespHdr.layout.toBytes _)]
  simp only [readResponse, bind, Except.bind]
  rw [binaryRead_append (RespHdr.layout_valid _)]
  simp only [hstatus]

/-! ## Responses -/

/-- The client reads the responses of the variant with its layout, and
    makes their view out of them. -/
def Legible {α : Type} (dpe : DpeInstance b) (params : Params) (kind : ResponseKind b)
    (rsp : Layout α) (f : RespHdr → α → Bytes → Except CallError Result) : Prop :=
  ∀ (a : kind.α) (bytes : Bytes), kind.layout.Valid a →
    (kind.build a).asBytesPartial = .ok bytes →
    (dpe.responseHdr .noError).asBytes <+: bytes →
    ∃ x tail, rsp.Valid x ∧
      bytes = (dpe.responseHdr .noError).asBytes ++ (rsp.toBytes x ++ tail) ∧
      f (successHdr dpe) x tail = view params (kind.build a)

section Responses

variable {dpe : DpeInstance b} {params : Params}

/-- The headers that a response can begin with. -/
theorem eq_responseHdr {r : ResponseHdr} {body : Bytes} {e : DpeErrorCode}
    (hvalid : (ResponseHdr.layout b).Valid r)
    (h : (dpe.responseHdr e).asBytes <+: r.asBytes ++ body) :
    r = dpe.responseHdr e := by
  have hlen : (dpe.responseHdr e).asBytes.length = r.asBytes.length := by
    rw [ResponseHdr.asBytes_length, ResponseHdr.asBytes_length]
  have hbytes : (dpe.responseHdr e).asBytes = r.asBytes :=
    (List.prefix_of_prefix_length_le h (List.prefix_append _ _) hlen.le).eq_of_length hlen
  refine (ResponseHdr.layout b).toBytes_inj hvalid (dpe.responseHdr_valid e) ?_
  rw [ResponseHdr.toBytes_layout, ResponseHdr.toBytes_layout, hbytes]

/-- A variant is legible if there are the fields that the client reads
    behind the header. -/
theorem legible_of_bytes {α : Type} {kind : ResponseKind b} {rsp : Layout α}
    {f : RespHdr → α → Bytes → Except CallError Result}
    (respHdr : kind.α → ResponseHdr) (fields : kind.α → α) (tail : kind.α → Bytes)
    (hvalid : ∀ a, kind.layout.Valid a →
      (ResponseHdr.layout b).Valid (respHdr a) ∧ rsp.Valid (fields a))
    (h : ∀ a bytes, kind.layout.Valid a → (kind.build a).asBytesPartial = .ok bytes →
      bytes = (respHdr a).asBytes ++ (rsp.toBytes (fields a) ++ tail a) ∧
      (respHdr a = dpe.responseHdr .noError →
        f (successHdr dpe) (fields a) (tail a) = view params (kind.build a))) :
    Legible dpe params kind rsp f := by
  intro a bytes hkind hbytes hheader
  obtain ⟨hhdr, hfields⟩ := hvalid a hkind
  obtain ⟨rfl, hview⟩ := h a bytes hkind hbytes
  have heq := eq_responseHdr hhdr hheader
  refine ⟨fields a, tail a, hfields, ?_, hview heq⟩
  rw [heq]

/-- A response without a certificate. -/
theorem legible_fixed {α : Type} {kind : ResponseKind b} {rsp : Layout α}
    {f : RespHdr → α → Bytes → Except CallError Result}
    (respHdr : kind.α → ResponseHdr) (fields : kind.α → α) (tail : kind.α → Bytes)
    (htrimmed : ∀ a, (kind.build a).asBytesPartial
      = .ok ((respHdr a).asBytes ++ (rsp.toBytes (fields a) ++ tail a)))
    (hvalid : ∀ a, kind.layout.Valid a →
      (ResponseHdr.layout b).Valid (respHdr a) ∧ rsp.Valid (fields a))
    (hview : ∀ a, respHdr a = dpe.responseHdr .noError →
      f (successHdr dpe) (fields a) (tail a) = view params (kind.build a)) :
    Legible dpe params kind rsp f := by
  refine legible_of_bytes respHdr fields tail hvalid fun a bytes _ hbytes => ⟨?_, hview a⟩
  exact Except.ok.inj (hbytes.symm.trans (htrimmed a))

theorem legible_handle {build : NewHandleResp → Response b}
    (htrimmed : ∀ a, (build a).asBytesPartial = .ok a.asBytes)
    (hview : ∀ a, view params (build a) = .ok (.handle a.handle)) :
    Legible dpe params ⟨_, NewHandleResp.layout b, build⟩ ContextHandle.layout
      fun _ handle _ => .ok (.handle handle) := by
  refine legible_fixed NewHandleResp.respHdr NewHandleResp.handle (fun _ => [])
    (fun a => ?_) (fun a hvalid => hvalid) fun a _ => (hview a).symm
  rw [htrimmed, List.append_nil]
  rfl

theorem legible_destroyed :
    Legible dpe params ⟨_, ResponseHdr.layout b, .destroyCtx⟩
      (Layout.unit () fun _ => rfl) fun _ _ _ => .ok .destroyed := by
  refine legible_fixed (fun a => a) (fun _ => ()) (fun _ => []) (fun a => ?_)
    (fun a hvalid => ⟨hvalid, trivial⟩) fun a _ => rfl
  exact congrArg Except.ok (List.append_nil _).symm

theorem legible_profile :
    Legible dpe params ⟨_, GetProfileResp.layout b, .getProfile⟩
      (word16.seq (word16.seq (word32.seq (word32.seq (word32.seq word32)))))
      fun respHdr (majorVersion, minorVersion, vendorId, vendorSku, maxTciNodes, flags) _ =>
        .ok (.profile {
          profile := respHdr.profile
          majorVersion := majorVersion
          minorVersion := minorVersion
          vendorId := vendorId
          vendorSku := vendorSku
          maxTciNodes := maxTciNodes
          flags := flags }) := by
  refine legible_fixed GetProfileResp.respHdr (fun a => (a.majorVersion, a.minorVersion,
    a.vendorId, a.vendorSku, a.maxTciNodes, a.flags)) (fun _ => []) (fun a => ?_)
    (fun a hvalid => hvalid) fun a hhdr => ?_
  · show Except.ok a.asBytes = _
    unfold GetProfileResp.asBytes
    rw [List.append_nil]
    simp only [List.append_assoc]
    rfl
  · simp only [view, hhdr]
    rfl

theorem legible_derived :
    Legible dpe params ⟨_, DeriveContextResp.layout b, .deriveContext⟩
      (ContextHandle.layout.seq ContextHandle.layout)
      fun _ (newContextHandle, parentContextHandle) _ =>
        .ok (.derived newContextHandle parentContextHandle (.replicate 32 0) 0 []) := by
  refine legible_fixed DeriveContextResp.respHdr (fun a => (a.handle, a.parentHandle))
    (fun _ => []) (fun a => ?_) (fun a hvalid => hvalid) fun a _ => rfl
  show Except.ok a.asBytes = _
  unfold DeriveContextResp.asBytes
  rw [List.append_nil, List.append_assoc]
  rfl

theorem legible_updated :
    Legible dpe params
      ⟨_, UpdateContextMeasurementResp.layout b, .updateContextMeasurement⟩
      (ContextHandle.layout.seq ContextHandle.layout)
      fun _ (newContextHandle, newParentContextHandle) _ =>
        .ok (.updated newContextHandle newParentContextHandle) := by
  refine legible_fixed UpdateContextMeasurementResp.respHdr
    (fun a => (a.newContextHandle, a.newParentContextHandle))
    (fun _ => []) (fun a => ?_) (fun a hvalid => hvalid) fun a _ => rfl
  show Except.ok a.asBytes = _
  unfold UpdateContextMeasurementResp.asBytes
  rw [List.append_nil, List.append_assoc]
  rfl

theorem legible_chunk :
    Legible dpe params ⟨_, GetCertificateChainResp.layout b, .getCertificateChain⟩
      (word32.seq (list 2048))
      fun _ (certificateSize, certificateChain) _ =>
        .ok (.chunk certificateSize certificateChain) := by
  refine legible_fixed GetCertificateChainResp.respHdr
    (fun a => (a.certificateSize, a.certificateChain.toList)) (fun _ => [])
    (fun a => ?_)
    (fun a hvalid => ⟨hvalid.1, trivial, a.certificateChain.length_toList⟩) fun a _ => rfl
  show Except.ok a.asBytes = _
  unfold GetCertificateChainResp.asBytes
  rw [List.append_nil, List.append_assoc]
  rfl

/-- The two numbers of a signature or of a point. -/
theorem list_halves {n : Nat} {l : Bytes} (h : l.length = n + n) :
    ((list n).seq (list n)).Valid (l.take n, l.drop n) := by
  refine ⟨List.length_take_of_le (by omega), ?_⟩
  show (l.drop n).length = n
  rw [List.length_drop]
  omega

theorem legible_signedEcdsa (n : Nat) {profile : DpeProfile} {build : SignResp → Response b}
    {f : RespHdr → ContextHandle × Bytes × Bytes → Bytes → Except CallError Result}
    (hsize : profile.sigSize = n + n)
    (htrimmed : ∀ a, (build a).asBytesPartial = .ok a.asBytes)
    (hview : ∀ a, view params (build a)
      = .ok (.signedEcdsa a.newContextHandle (a.sig.take n) (a.sig.drop n)))
    (hf : ∀ hdr handle r s, f hdr (handle, r, s) [] = .ok (.signedEcdsa handle r s)) :
    Legible dpe params ⟨_, SignResp.layout b profile, build⟩
      (ContextHandle.layout.seq ((list n).seq (list n))) f := by
  refine legible_fixed SignResp.respHdr
    (fun a => (a.newContextHandle, a.sig.take n, a.sig.drop n)) (fun _ => [])
    (fun a => ?_) (fun a hvalid => ?_) fun a _ => (hf _ _ _ _).trans (hview a).symm
  · have hsig : a.sig = a.sig.take n ++ a.sig.drop n := (List.take_append_drop n _).symm
    rw [htrimmed]
    unfold SignResp.asBytes
    rw [List.append_nil, List.append_assoc]
    nth_rewrite 1 [hsig]
    rfl
  · obtain ⟨hhdr, hhandle, hsig⟩ := hvalid
    exact ⟨hhdr, hhandle, list_halves ((show a.sig.length = _ from hsig).trans hsize)⟩

/-- The padding of a signature is not read… -/
theorem legible_signedMldsa :
    Legible dpe params ⟨_, SignResp.layout b .mldsa87, (.sign <| .mldsa87 ·)⟩
      (ContextHandle.layout.seq (list 4627))
      fun _ (newContextHandle, signature) _ =>
        .ok (.signedMldsa newContextHandle signature) := by
  refine legible_fixed SignResp.respHdr
    (fun a => (a.newContextHandle, a.sig.take 4627)) (fun a => a.sig.drop 4627)
    (fun a => ?_) (fun a hvalid => ?_) fun a _ => rfl
  · have hsig : a.sig = a.sig.take 4627 ++ a.sig.drop 4627 :=
      (List.take_append_drop 4627 _).symm
    show Except.ok a.asBytes = _
    unfold SignResp.asBytes
    rw [List.append_assoc]
    nth_rewrite 1 [hsig]
    rw [← List.append_assoc a.newContextHandle.asBytes]
    rfl
  · obtain ⟨hhdr, hhandle, hsig⟩ := hvalid
    refine ⟨hhdr, hhandle, List.length_take_of_le ?_⟩
    rw [show a.sig.length = 4628 from hsig]
    decide

/-- … or it is read, and dropped. -/
theorem legible_signedRaw :
    Legible dpe params ⟨_, SignResp.layout b .mldsa87, (.sign <| .mldsa87 ·)⟩
      (ContextHandle.layout.seq ((list 4627).seq (list 1)))
      fun _ (newContextHandle, signature, _) _ =>
        .ok (.signedMldsa newContextHandle signature) := by
  refine legible_fixed SignResp.respHdr
    (fun a => (a.newContextHandle, a.sig.take 4627, a.sig.drop 4627)) (fun _ => [])
    (fun a => ?_) (fun a hvalid => ?_) fun a _ => rfl
  · have hsig : a.sig = a.sig.take 4627 ++ a.sig.drop 4627 :=
      (List.take_append_drop 4627 _).symm
    show Except.ok a.asBytes = _
    unfold SignResp.asBytes
    rw [List.append_nil, List.append_assoc]
    nth_rewrite 1 [hsig]
    rfl
  · obtain ⟨hhdr, hhandle, hsig⟩ := hvalid
    have hlen : a.sig.length = 4628 := hsig
    refine ⟨hhdr, hhandle, List.length_take_of_le (hlen ▸ by decide), ?_⟩
    show (a.sig.drop 4627).length = 1
    rw [List.length_drop, hlen]

/-! ### Certificates -/

/-- What is left of a structure that ends in a certificate. -/
theorem partialBytes_inv {header bytes : Bytes} {cert : Vector UInt8 b.maxCertSize}
    {size certSize : Nat} {e : InternalErrorCode}
    (hsize : size = header.length + b.maxCertSize)
    (h : partialBytes b (header ++ cert.toList) size certSize e = .ok bytes) :
    bytes = header ++ cert.toList.take certSize ∧
      (cert.toList.take certSize).length = certSize := by
  have hlen : size - b.maxCertSize + certSize = header.length + certSize := by omega
  unfold partialBytes at h
  simp only [hlen] at h
  split at h
  · rename_i hle
    cases h
    rw [List.length_append, cert.length_toList] at hle
    exact ⟨List.take_length_add_append _, List.length_take_of_le
      (by rw [cert.length_toList]; omega)⟩
  · cases h

/-- The very bytes of a list are read. -/
theorem binaryRead_list {n : Nat} {bytes : Bytes} (h : bytes.length = n) :
    binaryRead (list n) bytes = .ok (bytes, []) := by
  have hread := binaryRead_append (show (list n).Valid bytes from h) []
  rwa [List.append_nil] at hread

theorem legible_exported :
    Legible dpe params
      ⟨_, DeriveContextExportedCdiResp.layout b, .deriveContextExportedCdi⟩
      (ContextHandle.layout.seq (ContextHandle.layout.seq ((list 32).seq word32)))
      fun _ (newContextHandle, parentContextHandle, exportedCdi, certificateSize) rest =>
        match binaryRead (list certificateSize.toNat) rest with
        | .error e => .error (.wire e)
        | .ok (cert, _) =>
            .ok (.derived newContextHandle parentContextHandle exportedCdi
              certificateSize cert) := by
  refine legible_of_bytes (fun a => a.header.respHdr) (fun a => (a.header.handle,
    a.header.parentHandle, a.header.exportedCdi.toList, a.header.certificateSize))
    (fun a => a.newCertificate.toList.take a.header.certificateSize.toNat)
    (fun a hvalid => ⟨hvalid.1.1, trivial, trivial, a.header.exportedCdi.length_toList,
      trivial⟩) fun a bytes hvalid htrimmed => ?_
  have hlen := (DeriveContextExportedCdiRespHdr.layout b).length_toBytes a.header hvalid.1
  rw [DeriveContextExportedCdiRespHdr.toBytes_layout] at hlen
  obtain ⟨rfl, hcert⟩ := partialBytes_inv (by rw [hlen]; rfl) htrimmed
  refine ⟨?_, fun _ => ?_⟩
  · unfold DeriveContextExportedCdiRespHdr.asBytes
    simp only [toBytes_seq, List.append_assoc]
    rfl
  · simp only [binaryRead_list hcert]
    rfl

/-- A certificate that is whole is read if it is not too long. -/
theorem readCert_whole {certificateSize : UInt32} {cert : Bytes}
    (h : cert.length = certificateSize.toNat) :
    readCert params certificateSize cert
      = if params.cert.certLen < certificateSize.toNat then
          .error (.certTooLarge certificateSize)
        else .ok cert := by
  unfold readCert
  rw [binaryRead_list h]

/-- The public key is a point… -/
theorem legible_certified (n : Nat) {profile : DpeProfile}
    {build : CertifyKeyBody b → Response b} {e : InternalErrorCode}
    (hsize : profile.pubkeySize = n + n)
    (htrimmed : ∀ a, (build a).asBytesPartial = partialBytes b a.asBytes
      (CertifyKeyBody.layout b profile).size a.header.certSize.toNat e)
    (hview : ∀ a, view params (build a)
      = view.certified params n a (a.header.pubkey.drop n)) :
    Legible dpe params ⟨_, CertifyKeyBody.layout b profile, build⟩
      (ContextHandle.layout.seq ((list n).seq ((list n).seq word32)))
      (fun _ (newContextHandle, x, y, certificateSize) rest => do
        let certificate ← readCert params certificateSize rest
        .ok (.certified newContextHandle x y certificate)) := by
  refine legible_of_bytes (fun a => a.header.respHdr) (fun a => (a.header.newContextHandle,
    a.header.pubkey.take n, a.header.pubkey.drop n, a.header.certSize))
    (fun a => a.cert.toList.take a.header.certSize.toNat) (fun a hvalid => ?_)
    fun a bytes hvalid hbytes => ?_
  · obtain ⟨⟨hhdr, hhandle, hkey, -⟩, -⟩ := hvalid
    have hhalves := list_halves ((show a.header.pubkey.length = _ from hkey).trans hsize)
    exact ⟨hhdr, hhandle, hhalves.1, hhalves.2, trivial⟩
  · have hlen := (CertifyKeyRespHdr.layout b profile).length_toBytes a.header hvalid.1
    rw [CertifyKeyRespHdr.toBytes_layout] at hlen
    obtain ⟨rfl, hcert⟩ := partialBytes_inv (by rw [hlen]; rfl)
      ((htrimmed a).symm.trans hbytes)
    refine ⟨?_, fun _ => ?_⟩
    · have hkey : a.header.pubkey = a.header.pubkey.take n ++ a.header.pubkey.drop n :=
        (List.take_append_drop n _).symm
      unfold CertifyKeyRespHdr.asBytes
      nth_rewrite 1 [hkey]
      simp only [toBytes_seq, List.append_assoc]
      rfl
    · simp only [hview, readCert_whole hcert]
      unfold view.certified
      split <;> rfl

/-- … or, for ML-DSA, one number. -/
theorem legible_certifiedMldsa :
    Legible dpe params
      ⟨_, CertifyKeyBody.layout b .mldsa87, (.certifyKey <| .mldsa87 ·)⟩
      (ContextHandle.layout.seq ((list 2592).seq word32))
      (fun _ (newContextHandle, derivedPublicKey, certificateSize) rest => do
        let certificate ← readCert params certificateSize rest
        .ok (.certified newContextHandle derivedPublicKey (.replicate 2592 0)
          certificate)) := by
  refine legible_of_bytes (fun a => a.header.respHdr) (fun a => (a.header.newContextHandle,
    a.header.pubkey.take 2592, a.header.certSize))
    (fun a => a.cert.toList.take a.header.certSize.toNat) (fun a hvalid => ?_)
    fun a bytes hvalid hbytes => ?_
  · obtain ⟨⟨hhdr, hhandle, hkey, -⟩, -⟩ := hvalid
    exact ⟨hhdr, hhandle, List.length_take_of_le
      (show a.header.pubkey.length = 2592 from hkey).ge, trivial⟩
  · have hlen := (CertifyKeyRespHdr.layout b .mldsa87).length_toBytes a.header hvalid.1
    rw [CertifyKeyRespHdr.toBytes_layout] at hlen
    obtain ⟨rfl, hcert⟩ := partialBytes_inv (by rw [hlen]; rfl) hbytes
    refine ⟨?_, fun _ => ?_⟩
    · have hkey : a.header.pubkey = a.header.pubkey.take 2592 :=
        (List.take_of_length_le
          (show a.header.pubkey.length = 2592 from hvalid.1.2.2.1).le).symm
      unfold CertifyKeyRespHdr.asBytes
      nth_rewrite 1 [hkey]
      simp only [toBytes_seq, List.append_assoc]
      rfl
    · simp only [readCert_whole hcert]
      show _ = view.certified params 2592 a (.replicate 2592 0)
      unfold view.certified
      split <;> rfl

end Responses

/-! ## Over the socket -/

section Socket

variable {d : Deps b W} {dpe : DpeInstance b} {address : Nat} {locality : UInt32}
  {code profile : UInt32} {payload : Bytes} {cmd : Command b} {env env' : Env b W}

/-- The header that the client writes is the one that the library reads. -/
theorem commandHdr_eq (code profile : UInt32) : commandHdr code profile
    = (CommandHdr.mk CommandHdr.DPE_COMMAND_MAGIC code profile).asBytes := by
  unfold commandHdr
  rw [List.append_assoc]
  rfl

/-- What the client sends is a header of the command, and the command. -/
structure Asks (dpe : DpeInstance b) (code profile : UInt32) (payload : Bytes)
    (cmd : Command b) : Prop where
  accepted : cmd.Accepted dpe.profile
  cmdId : code = cmd.id
  profile : cmd.id ≠ Command.GET_PROFILE → profile = dpe.profile.toU32
  payload : payload = cmd.asBytes

/-- The simulator gets it as a request. -/
theorem Asks.requests (h : Asks dpe code profile payload cmd)
    (haligned : address % 4 = 0) :
    Simulator.Requests dpe.profile address locality cmd
      (toLeBytes locality ++ (commandHdr code profile ++ payload)) := by
  refine ⟨h.accepted, cmd.aligned haligned, ⟨CommandHdr.DPE_COMMAND_MAGIC, code, profile⟩,
    ⟨rfl, h.cmdId, h.profile⟩, ?_⟩
  rw [h.payload, commandHdr_eq]

/-- What comes back is read. -/
theorem execCmd_of_handled {α : Type} {rsp : Layout α} {answer : Bytes}
    (h : Simulator.handleRequest d dpe address
      (toLeBytes locality ++ (commandHdr code profile ++ payload)) env
      = .ok (some answer) env') :
    execCmd (sendCmd d dpe address locality) code profile payload rsp env
      = .ok (readResponse rsp answer) env' := by
  have hsend : sendCmd d dpe address locality (commandHdr code profile ++ payload) env
      = .ok answer env' := bind_of_ok h
  exact bind_of_ok hsend

/-- **A CALL OVER THE SOCKET** is the call of the library, if the client
    can read the variant of its response. -/
theorem exchange {α : Type} {rsp : Layout α} {params : Params}
    {f : RespHdr → α → Bytes → Except CallError Result}
    (hasks : Asks dpe code profile payload cmd) (haligned : address % 4 = 0)
    (hreach : Reachable env.state) (hlegible : Legible dpe params cmd.kind rsp f) :
    (do
      let r ← execCmd (sendCmd d dpe address locality) code profile payload rsp
      pure (onResponse r f)) env = received params (cmd.execute d dpe locality) env := by
  have hrequest : Simulator.Requests dpe.profile address locality cmd
      (toLeBytes locality ++ (commandHdr code profile ++ payload)) :=
    hasks.requests haligned
  cases hrun : cmd.execute d dpe locality env with
  | ok r env1 =>
      obtain ⟨a, bytes, hvalid, rfl, hbytes, hheader⟩ :=
        Command.bytes_of_execute hreach.wellFormed hrun
      obtain ⟨x, tail, hx, rfl, hview⟩ := hlegible a bytes hvalid hbytes hheader
      have hexec : execCmd (sendCmd d dpe address locality) code profile payload rsp env
          = _ := execCmd_of_handled (Simulator.handleRequest_answers hrequest hrun hbytes)
      rw [readResponse_success dpe hx tail] at hexec
      rw [received_ok hrun, ← hview]
      exact bind_of_ok hexec
  | error e env1 =>
      cases e with
      | err e =>
          have he := Command.reported_of_failed hreach.wellFormed hrun
          have hexec : execCmd (sendCmd d dpe address locality) code profile payload rsp
              env = _ := execCmd_of_handled (Simulator.handleRequest_refuses hrequest hrun)
          rw [readResponse_failure dpe he] at hexec
          rw [received_failed hrun]
          exact bind_of_ok hexec
      | noReturn =>
          have hsend : sendCmd d dpe address locality (commandHdr code profile ++ payload)
              env = .error .noReturn env1 :=
            bind_of_error (Simulator.handleRequest_hangs hrequest hrun)
          have hexec : execCmd (sendCmd d dpe address locality) code profile payload rsp
              env = .error .noReturn env1 := bind_of_error hsend
          rw [received_hangs hrun]
          exact bind_of_error hexec

end Socket

/-- A client that is connected to the instance. -/
structure Connected (c : DPEABI) (dpe : DpeInstance b) : Prop where
  params : c.params = paramsOf dpe.profile
  codes : c.codes = getProfileInfoV09
  profile : c.profile = dpe.profile.toU32

/-! ## Methods -/

section Methods

variable {d : Deps b W} {dpe : DpeInstance b} {address : Nat} {locality : UInt32}
  {c : DPEABI} {env : Env b W}

/-- What the method sends asks for the command. -/
theorem Connected.asks {req : Request} {cmd : Command b} {code : UInt32}
    {payload : Bytes} (h : Connected c dpe) (hmeans : req.Means dpe.profile cmd)
    (hcode : code = cmd.id) (hpayload : payload = cmd.asBytes) :
    Asks dpe code c.profile payload cmd :=
  ⟨hmeans.accepted, hcode, fun _ => h.profile, hpayload⟩

/-- The curve of the profile. -/
theorem Connected.not_mldsa87 (h : Connected c dpe) (hp : dpe.profile ≠ .mldsa87) :
    c.profile ≠ ProfileMldsa87 := by
  rw [h.profile]
  cases hprofile : dpe.profile with
  | p256Sha256 | p384Sha384 => decide
  | mldsa87 => exact absurd hprofile hp

theorem Connected.digestLen (h : Connected c dpe) :
    c.params.digest.digestLen = dpe.profile.tciSize := by
  rw [h.params]
  cases dpe.profile <;> rfl

theorem sign_received {handle : ContextHandle} {label toBeSigned : Bytes} {flags : UInt32}
    {cmd : SignCommand} (hconn : Connected c dpe)
    (hmeans : Request.Means dpe.profile (.sign handle label flags toBeSigned)
      (.sign cmd : Command b)) (haligned : address % 4 = 0) (hreach : Reachable env.state) :
    c.sign (sendCmd d dpe address locality) handle label flags toBeSigned env
      = received c.params ((Command.sign cmd).execute d dpe locality) env := by
  have hcode : c.codes.sign = (Command.sign cmd : Command b).id := by
    rw [hconn.codes]
    rfl
  have hparams := hconn.params
  unfold DPEABI.sign
  cases hmeans with
  | signP256 hp _ label _ digest =>
      rw [hp] at hparams
      simp only [hparams, paramsOf, DPEABI256, DigestAlgorithm.digestLen]
      rw [if_neg (not_not.mpr label.length_toList),
        if_neg (not_not.mpr digest.length_toList)]
      refine exchange (hconn.asks (.signP256 hp ..) hcode ?_) haligned hreach
        (legible_signedEcdsa 32 rfl (fun _ => rfl) (fun _ => rfl) fun _ _ _ _ =>
          if_pos ⟨hconn.not_mldsa87 (by rw [hp]; decide), trivial⟩)
      simp only [List.append_assoc]
      rfl
  | signP384 hp _ label _ digest =>
      rw [hp] at hparams
      simp only [hparams, paramsOf, DPEABI384, DigestAlgorithm.digestLen]
      rw [if_neg (not_not.mpr label.length_toList),
        if_neg (not_not.mpr digest.length_toList)]
      refine exchange (hconn.asks (.signP384 hp ..) hcode ?_) haligned hreach
        (legible_signedEcdsa 48 rfl (fun _ => rfl) (fun _ => rfl) fun _ _ _ _ =>
          if_pos ⟨hconn.not_mldsa87 (by rw [hp]; decide), trivial⟩)
      simp only [List.append_assoc]
      rfl
  | signMldsa87 hp _ label _ digest hflags =>
      rw [hp] at hparams
      have hprofile : c.profile = ProfileMldsa87 := hconn.profile.trans (by rw [hp]; rfl)
      have hasks : Asks dpe c.codes.sign c.profile
          (handle.asBytes ++ label.toList ++ toLeBytes flags ++ digest.toList)
          (.sign (.mldsa87 handle label flags digest)) :=
        hconn.asks (.signMldsa87 hp handle label flags digest hflags) hcode
          (by simp only [List.append_assoc]; rfl)
      simp only [hparams, paramsOf, DPEABIMldsa87, DigestAlgorithm.digestLen]
      rw [if_neg (not_not.mpr label.length_toList),
        if_neg (not_not.mpr digest.length_toList)]
      simp only [hprofile, if_true] at hasks ⊢
      exact exchange hasks haligned hreach legible_signedMldsa

theorem signRaw_received {handle : ContextHandle} {label rawData : Bytes}
    {cmd : SignCommand} (hconn : Connected c dpe)
    (hmeans : Request.Means dpe.profile (.signRaw handle label rawData)
      (.sign cmd : Command b)) (haligned : address % 4 = 0) (hreach : Reachable env.state) :
    c.signRaw (sendCmd d dpe address locality) handle label rawData env
      = received c.params ((Command.sign cmd).execute d dpe locality) env := by
  cases hmeans with
  | signRaw hp _ label _ rawBuf hraw hsize =>
      have hparams := hconn.params
      rw [hp] at hparams
      have hprofile : c.profile = ProfileMldsa87 := hconn.profile.trans (by rw [hp]; rfl)
      have hcode : c.codes.sign = Command.SIGN := by
        rw [hconn.codes]
        rfl
      unfold DPEABI.signRaw
      rw [if_neg (not_not.mpr hprofile)]
      simp only [hparams, paramsOf, DPEABIMldsa87, DigestAlgorithm.digestLen]
      rw [if_neg (not_not.mpr label.length_toList), if_neg (Nat.not_lt.mpr hsize)]
      refine exchange (hconn.asks (.signRaw hp handle label rawData rawBuf hraw hsize) hcode ?_)
        haligned hreach legible_signedRaw
      rw [← hraw]
      simp only [List.append_assoc]
      rfl

theorem certifyKey_received {handle : ContextHandle} {label : Bytes}
    {format flags : UInt32} {cmd : CertifyKeyCommand} (hconn : Connected c dpe)
    (hmeans : Request.Means dpe.profile (.certifyKey handle label format flags)
      (.certifyKey cmd : Command b)) (haligned : address % 4 = 0)
    (hreach : Reachable env.state) :
    c.certifyKey (sendCmd d dpe address locality) handle label format flags env
      = received c.params ((Command.certifyKey cmd).execute d dpe locality) env := by
  have hcode : c.codes.certifyKey = (Command.certifyKey cmd : Command b).id := by
    rw [hconn.codes]
    rfl
  have hparams := hconn.params
  unfold DPEABI.certifyKey
  cases hmeans with
  | certifyKeyP256 hp cmd =>
      rw [hp] at hparams
      simp only [hparams, paramsOf, DPEABI256, DigestAlgorithm.digestLen, Curve.intLen]
      rw [if_neg (not_not.mpr cmd.label.length_toList),
        if_neg (hconn.not_mldsa87 (by rw [hp]; decide))]
      refine exchange (hconn.asks (.certifyKeyP256 hp cmd) hcode ?_) haligned hreach
        (legible_certified 32 rfl (fun _ => rfl) fun _ => rfl)
      simp only [List.append_assoc]
      rfl
  | certifyKeyP384 hp cmd =>
      rw [hp] at hparams
      simp only [hparams, paramsOf, DPEABI384, DigestAlgorithm.digestLen, Curve.intLen]
      rw [if_neg (not_not.mpr cmd.label.length_toList),
        if_neg (hconn.not_mldsa87 (by rw [hp]; decide))]
      refine exchange (hconn.asks (.certifyKeyP384 hp cmd) hcode ?_) haligned hreach
        (legible_certified 48 rfl (fun _ => rfl) fun _ => rfl)
      simp only [List.append_assoc]
      rfl
  | certifyKeyMldsa87 hp cmd =>
      rw [hp] at hparams
      simp only [hparams, paramsOf, DPEABIMldsa87, DigestAlgorithm.digestLen, Curve.intLen]
      rw [if_neg (not_not.mpr cmd.label.length_toList),
        if_pos (hconn.profile.trans (by rw [hp]; rfl))]
      refine exchange (hconn.asks (.certifyKeyMldsa87 hp cmd) hcode ?_) haligned hreach
        legible_certifiedMldsa
      simp only [List.append_assoc]
      rfl

theorem deriveContext_received {cmd : DeriveContextCmd b} (hconn : Connected c dpe)
    (hsvn : cmd.svn = 0) (hsize : b.tciSize = dpe.profile.tciSize)
    (haligned : address % 4 = 0) (hreach : Reachable env.state) :
    c.deriveContext (sendCmd d dpe address locality) cmd.handle cmd.data.toList
        cmd.flags.bits cmd.tciType cmd.targetLocality env
      = received c.params ((Command.deriveContext cmd).execute d dpe locality) env := by
  have hcode : c.codes.deriveContext = Command.DERIVE_CONTEXT := by
    rw [hconn.codes]
    rfl
  have hpayload : cmd.handle.asBytes ++ cmd.data.toList ++ toLeBytes cmd.flags.bits
      ++ toLeBytes cmd.tciType ++ toLeBytes cmd.targetLocality ++ toLeBytes 0
      = (Command.deriveContext cmd).asBytes := by
    rw [← hsvn]
    simp only [List.append_assoc]
    rfl
  have hasks := hconn.asks (.deriveContext cmd hsvn hsize) hcode hpayload
  unfold DPEABI.deriveContext
  rw [if_neg (by rw [hconn.digestLen, cmd.data.length_toList]; exact not_not.mpr hsize)]
  cases hexports : cmd.flags.exportsCdi with
  | true =>
      rw [if_pos (show contains cmd.flags.bits CdiExport = true from hexports)]
      refine exchange hasks haligned hreach ?_
      rw [Command.kind_export hexports]
      exact legible_exported
  | false =>
      rw [if_neg (Bool.eq_false_iff.mp
        (show contains cmd.flags.bits CdiExport = false from hexports))]
      refine exchange hasks haligned hreach ?_
      rw [Command.kind_child hexports]
      exact legible_derived

theorem updateContextMeasurement_received {parentHandle : ContextHandle}
    {data : TciMeasurement b} {tciType : UInt32} (hconn : Connected c dpe)
    (hsize : b.tciSize = dpe.profile.tciSize) (haligned : address % 4 = 0)
    (hreach : Reachable env.state) :
    c.updateContextMeasurement (sendCmd d dpe address locality) parentHandle data.toList
        tciType env
      = received c.params (Command.execute d dpe locality
          (.updateContextMeasurement ⟨parentHandle, data, 0, tciType, 0⟩)) env := by
  unfold DPEABI.updateContextMeasurement
  rw [if_neg (by rw [hconn.digestLen, data.length_toList]; exact not_not.mpr hsize)]
  refine exchange (hconn.asks (.updateContextMeasurement parentHandle data tciType hsize)
    (by rw [hconn.codes]; rfl) ?_) haligned hreach legible_updated
  simp only [List.append_assoc]
  rfl

/-- `GetProfile` names no profile. -/
theorem getProfile_received (d : Deps b W) (dpe : DpeInstance b) (params : Params)
    (locality : UInt32) (haligned : address % 4 = 0) (hreach : Reachable env.state) :
    (do
      let r ← Client.getProfile (sendCmd d dpe address locality)
      pure (r.map Result.profile)) env
      = received params (Command.execute d dpe locality (.getProfile ⟨⟩)) env := by
  have hasks : Asks dpe 0x1 0 [] (.getProfile ⟨⟩) :=
    ⟨trivial, rfl, fun h => absurd rfl h, rfl⟩
  refine Eq.trans ?_ (exchange hasks haligned hreach legible_profile)
  unfold Client.getProfile
  simp only [bind_assoc, pure_bind]
  refine congrFun (congrArg _ (funext fun r => ?_)) env
  cases r <;> rfl

/-- A program may be replaced at its start by one that runs alike there. -/
theorem bind_congr_run {α β : Type} {m m' : M b W α} (h : m env = m' env)
    (k : α → M b W β) : (m >>= k) env = (m' >>= k) env := by
  show EStateM.bind m k env = EStateM.bind m' k env
  unfold EStateM.bind
  rw [h]

/-- A round of the loop over the certificate chain. -/
theorem getCertificateChunk_received (d : Deps b W) (locality offset : UInt32)
    (hconn : Connected c dpe) (haligned : address % 4 = 0)
    (hreach : Reachable env.state) :
    c.getCertificateChunk (sendCmd d dpe address locality) offset env
      = chunkReceived d dpe c.params locality offset env := by
  have hasks : Asks dpe c.codes.getCertificateChain c.profile
      (toLeBytes offset ++ toLeBytes MaxChunkSize)
      (.getCertificateChain ⟨offset, MaxChunkSize⟩) :=
    ⟨trivial, by rw [hconn.codes]; rfl, fun _ => hconn.profile, rfl⟩
  have hexchange : _ = received c.params ((Command.getCertificateChain
      ⟨offset, MaxChunkSize⟩).execute d dpe locality) env :=
    exchange hasks haligned hreach legible_chunk
  refine Eq.trans ?_ (bind_congr_run hexchange fun r => pure (chunkOf r))
  unfold DPEABI.getCertificateChunk
  simp only [bind_assoc, pure_bind]
  refine congrFun (congrArg _ (funext fun r => ?_)) env
  cases r <;> rfl

/-- **THE CLIENT IS THE LIBRARY**: a method of a client that is connected
    to the instance returns the view of what `execute` returns for the
    command that the method stands for, and leaves the instance as it
    does. -/
theorem call_received (d : Deps b W) (locality : UInt32) (rounds : Nat) {req : Request}
    {cmd : Command b} (hconn : Connected c dpe)
    (hmeans : req.Means dpe.profile cmd) (haligned : address % 4 = 0)
    (hreach : Reachable env.state) :
    c.call (sendCmd d dpe address locality) rounds req env
      = received c.params (cmd.execute d dpe locality) env := by
  have hmeans' := hmeans
  cases hmeans with
  | initializeContext =>
      exact exchange (hconn.asks hmeans' (by rw [hconn.codes]; rfl) rfl) haligned hreach
        (legible_handle (fun _ => rfl) fun _ => rfl)
  | getProfile => exact getProfile_received d dpe _ locality haligned hreach
  | certifyKeyP256 | certifyKeyP384 | certifyKeyMldsa87 =>
      exact certifyKey_received hconn hmeans' haligned hreach
  | destroyContext =>
      exact exchange (hconn.asks hmeans' (by rw [hconn.codes]; rfl) rfl) haligned hreach
        legible_destroyed
  | deriveContext cmd hsvn hsize =>
      exact deriveContext_received hconn hsvn hsize haligned hreach
  | rotateContextHandle =>
      exact exchange (hconn.asks hmeans' (by rw [hconn.codes]; rfl) rfl) haligned hreach
        (legible_handle (fun _ => rfl) fun _ => rfl)
  | signP256 | signP384 | signMldsa87 =>
      exact sign_received hconn hmeans' haligned hreach
  | signRaw => exact signRaw_received hconn hmeans' haligned hreach
  | updateContextMeasurement _ _ _ hsize =>
      exact updateContextMeasurement_received hconn hsize haligned hreach

end Methods

end Client

end Dpe
