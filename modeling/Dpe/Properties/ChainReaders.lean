import Dpe.Model.ChainReaders
import Dpe.Proofs.Handles
import Dpe.Proofs.Sample

/-! # Chain readers — where the certificate chain ends

    The default platform reports an error when it is asked to read past
    the end of its chain.  The loop of the measurement hash stops on any
    error; the client stops on a short chunk, or on a status that this
    error does not have.  On a chain that fills its last chunk the client
    fails. -/

namespace Dpe

open Prog

variable {b : Build} {W : Type}

/-! ## The rule of the default platform -/

section Rule

variable {certChain : Bytes} {offset : UInt32} {out : Vector UInt8 MAX_CHUNK_SIZE}

/-- The length that the platform computes with, `len() as u32`. -/
def chainLen (certChain : Bytes) : Nat := certChain.length % 2 ^ 32

theorem toNat_chainLen (certChain : Bytes) :
    (UInt32.ofNat certChain.length).toNat = chainLen certChain := UInt32.toNat_ofNat'

open DefaultPlatform

theorem rule_end (h : chainLen certChain ≤ offset.toNat) (size : UInt32) :
    getCertificateChain certChain offset size out
      = some (.error .certificateChainError) := by
  refine if_pos (UInt32.le_iff_toNat_le.mpr ?_)
  rw [toNat_chainLen]
  exact h

theorem rule_overflow (h : offset.toNat < chainLen certChain)
    (hover : 2 ^ 32 ≤ offset.toNat + 2048) :
    getCertificateChain certChain offset 2048 out = none := by
  have hnot : ¬ UInt32.ofNat certChain.length ≤ offset := by
    rw [UInt32.le_iff_toNat_le, toNat_chainLen]
    omega
  unfold getCertificateChain
  rw [if_neg hnot]
  exact if_pos hover

/-- A chunk, with the bytes of the chain from the offset on. -/
theorem rule_chunk (h : offset.toNat < chainLen certChain)
    (hfits : offset.toNat + 2048 < 2 ^ 32) :
    ∃ len chunk, getCertificateChain certChain offset 2048 out = some (.ok (len, chunk)) ∧
      len.toNat = min 2048 (chainLen certChain - offset.toNat) ∧
      chunk.toList.take len.toNat
        = ((certChain.take (chainLen certChain)).drop offset.toNat).take len.toNat := by
  have hnot : ¬ UInt32.ofNat certChain.length ≤ offset := by
    rw [UInt32.le_iff_toNat_le, toNat_chainLen]
    omega
  have hsum : (offset + 2048).toNat = offset.toNat + 2048 := by
    rw [UInt32.toNat_add, show (2048 : UInt32).toNat = 2048 from rfl]
    exact Nat.mod_eq_of_lt hfits
  have hend : (cmpMin (offset + 2048) (UInt32.ofNat certChain.length)).toNat
      = min (offset.toNat + 2048) (chainLen certChain) := by
    rw [← hsum, ← toNat_chainLen, cmpMin]
    split
    · rename_i hle
      exact (min_eq_left (UInt32.le_iff_toNat_le.mp hle)).symm
    · rename_i hle
      rw [UInt32.le_iff_toNat_le] at hle
      exact (min_eq_right (by omega)).symm
  have hwritten : (cmpMin (offset + 2048) (UInt32.ofNat certChain.length) - offset).toNat
      = min 2048 (chainLen certChain - offset.toNat) := by
    rw [UInt32.toNat_sub_of_le _ _ (by rw [UInt32.le_iff_toNat_le, hend]; omega), hend]
    omega
  refine ⟨cmpMin (offset + 2048) (UInt32.ofNat certChain.length) - offset,
    copyFromChain certChain offset.toNat (min 2048 (chainLen certChain - offset.toNat)) out,
    ?_, hwritten, ?_⟩
  · unfold getCertificateChain
    rw [if_neg hnot, if_neg (by exact Nat.not_le.mpr hfits)]
    dsimp only
    rw [hwritten]
    exact if_neg (Nat.not_lt.mpr (Nat.min_le_left _ _))
  · have hlen : chainLen certChain ≤ certChain.length := Nat.mod_le _ _
    rw [hwritten]
    have hcopy : (copyFromChain certChain offset.toNat
        (min 2048 (chainLen certChain - offset.toNat)) out).toList.length = 2048 :=
      Vector.length_toList
    refine List.ext_getElem ?_ fun i hi hi' => ?_
    · rw [List.length_take, hcopy, List.length_take, List.length_drop, List.length_take]
      omega
    simp only [List.length_take, List.length_drop] at hi hi'
    simp only [copyFromChain, Vector.toList_ofFn, List.getElem_take, List.getElem_drop,
      List.getElem_ofFn]
    rw [if_pos (by omega), List.getD_eq_getElem?_getD,
      List.getElem?_eq_getElem (by omega), Option.getD_some]

end Rule

/-! ## The platform and the hasher -/

/-- The platform serves the chain by the rule; `dead` holds of the worlds
    in which it has panicked on a chunk. -/
structure Platform.Serves (p : Platform b W) (certChain : Bytes) (dead : W → Prop) :
    Prop where
  answers : ∀ offset size out w r,
    DefaultPlatform.getCertificateChain certChain offset size out = some r →
      p.getCertificateChain offset size out w = (r, w)
  panics : ∀ offset out w,
    DefaultPlatform.getCertificateChain certChain offset 2048 out = none →
      dead (p.getCertificateChain offset 2048 out w).2

/-- A hasher that is `ready` takes any bytes and stays so; none brings back
    the dead. -/
structure CryptoSuite.Hashes (crypto : CryptoSuite W) (ready dead : W → Prop) :
    Prop where
  updates : ∀ bytes w, ready w →
    (crypto.hasherUpdate bytes w).1 = .ok ⟨⟩ ∧ ready (crypto.hasherUpdate bytes w).2
  spares : ∀ bytes w, dead (crypto.hasherUpdate bytes w).2 ↔ dead w

variable {d : Deps b W} {certChain : Bytes} {ready dead : W → Prop}

theorem Platform.Serves.stays_dead (h : d.platform.Serves certChain dead)
    (offset : UInt32) (out : Vector UInt8 MAX_CHUNK_SIZE) {w : W} (hw : dead w) :
    dead (d.platform.getCertificateChain offset 2048 out w).2 := by
  cases hr : DefaultPlatform.getCertificateChain certChain offset 2048 out with
  | none => exact h.panics _ _ _ hr
  | some r =>
      rw [h.answers _ _ _ _ _ hr]
      exact hw

theorem updateHash_runs (h : d.crypto.Hashes ready dead) (bytes : Bytes)
    (env : Env b W) (hready : ready env.world) :
    ∃ env', updateHash d bytes env = .ok ⟨⟩ env' ∧ ready env'.world ∧
      env'.hashed = env.hashed ++ bytes ∧ (dead env'.world ↔ dead env.world) := by
  obtain ⟨hok, hready'⟩ := h.updates bytes env.world hready
  refine ⟨{ env with
    world := (d.crypto.hasherUpdate bytes env.world).2
    hashed := env.hashed ++ bytes }, ?_, hready', rfl, h.spares bytes env.world⟩
  show EStateM.bind (callCrypto (d.crypto.hasherUpdate bytes)) _ env = _
  unfold EStateM.bind callCrypto
  rw [show d.crypto.hasherUpdate bytes env.world
    = (.ok ⟨⟩, (d.crypto.hasherUpdate bytes env.world).2) from Prod.ext hok rfl]
  rfl

/-- An update that returns has not brought back the dead. -/
theorem updateHash_spares (h : d.crypto.Hashes ready dead) (bytes : Bytes)
    (env : Env b W) :
    Post (updateHash d bytes) env (fun _ env' => dead env'.world ↔ dead env.world)
      (fun _ _ => True) := by
  have hcall : Post (callCrypto (d.crypto.hasherUpdate bytes)) env
      (fun _ env' => dead env'.world ↔ dead env.world) (fun _ _ => True) := by
    refine ⟨?_⟩
    have hspares := h.spares bytes env.world
    unfold callCrypto
    cases hupdate : d.crypto.hasherUpdate bytes env.world with
    | mk r w =>
        rw [hupdate] at hspares
        cases r with
        | ok => exact hspares
        | error e => trivial
  exact Post.bind hcall fun _ _ hdead => Post.modify hdead

/-! ## The loop of the measurement hash -/

/-- One round of the loop on a chunk. -/
theorem hashCertificateChain_chunk (hserves : d.platform.Serves certChain dead)
    (hhasher : d.crypto.Hashes ready dead) {offset len : UInt32}
    {out chunk : Vector UInt8 MAX_CHUNK_SIZE} (env : Env b W)
    (hready : ready env.world)
    (hrule : DefaultPlatform.getCertificateChain certChain offset 2048 out
      = some (.ok (len, chunk))) (hlen : len.toNat ≤ 2048) (fuel : Nat) :
    ∃ env', hashCertificateChain d (fuel + 1) offset out env
        = hashCertificateChain d fuel (offset + len) chunk env' ∧
      ready env'.world ∧ env'.hashed = env.hashed ++ chunk.toList.take len.toNat ∧
      (dead env'.world ↔ dead env.world) := by
  obtain ⟨env', hupdate, hready', hhashed, hdead⟩ :=
    updateHash_runs hhasher (chunk.toList.take len.toNat) env hready
  refine ⟨env', ?_, hready', hhashed, hdead⟩
  have hanswer := hserves.answers _ _ _ env.world _ hrule
  rw [hashCertificateChain]
  show EStateM.bind (tryPlatform _) _ env = _
  unfold EStateM.bind tryPlatform
  rw [show UInt32.ofNat MAX_CHUNK_SIZE = 2048 from rfl, hanswer]
  show EStateM.bind (reject _ _) _ env = _
  rw [show decide (MAX_CHUNK_SIZE < len.toNat) = false from
    decide_eq_false (Nat.not_lt.mpr hlen)]
  show EStateM.bind (updateHash d _) _ env = _
  unfold EStateM.bind
  rw [hupdate]

/-- The loop stops on an error. -/
theorem hashCertificateChain_stop (hserves : d.platform.Serves certChain dead)
    {fuel : Nat} {offset : UInt32} {out : Vector UInt8 MAX_CHUNK_SIZE} {e : PlatformError}
    (env : Env b W)
    (hrule : DefaultPlatform.getCertificateChain certChain offset 2048 out
      = some (.error e)) :
    hashCertificateChain d (fuel + 1) offset out env = .ok ⟨⟩ env := by
  have hanswer := hserves.answers _ _ _ env.world _ hrule
  rw [hashCertificateChain]
  show EStateM.bind (tryPlatform _) _ env = _
  unfold EStateM.bind tryPlatform
  rw [show UInt32.ofNat MAX_CHUNK_SIZE = 2048 from rfl, hanswer]
  rfl

/-- **THE HASH LOOP READS** from the offset to the end. -/
theorem hashCertificateChain_reads (hserves : d.platform.Serves certChain dead)
    (hhasher : d.crypto.Hashes ready dead) (hsmall : chainLen certChain ≤ 2 ^ 32 - 2048)
    {fuel : Nat} {offset : UInt32} (hoffset : offset.toNat ≤ chainLen certChain)
    (hfuel : (chainLen certChain - offset.toNat + 2047) / 2048 + 1 ≤ fuel)
    (out : Vector UInt8 MAX_CHUNK_SIZE) (env : Env b W) (hready : ready env.world) :
    ∃ env', hashCertificateChain d fuel offset out env = .ok ⟨⟩ env' ∧
      env'.hashed = env.hashed ++ (certChain.take (chainLen certChain)).drop offset.toNat ∧
      (dead env'.world ↔ dead env.world) := by
  induction fuel generalizing offset out env with
  | zero => omega
  | succ fuel ih =>
      by_cases hend : chainLen certChain ≤ offset.toNat
      · refine ⟨env, hashCertificateChain_stop hserves env (rule_end hend 2048), ?_, Iff.rfl⟩
        rw [List.drop_of_length_le, List.append_nil]
        exact (List.length_take_le ..).trans hend
      · obtain ⟨len, chunk, hrule, hlen, hchunk⟩ :=
          @rule_chunk certChain offset out (by omega) (by omega)
        obtain ⟨env1, hround, hready1, hhashed1, hdead1⟩ :=
          hashCertificateChain_chunk hserves hhasher env hready hrule (by omega) fuel
        have hnext : (offset + len).toNat = offset.toNat + len.toNat := by
          rw [UInt32.toNat_add]
          exact Nat.mod_eq_of_lt (by omega)
        have hle : (offset + len).toNat ≤ chainLen certChain := by omega
        obtain ⟨env2, hrun, hhashed2, hdead2⟩ := ih hle (by omega) chunk env1 hready1
        refine ⟨env2, hround.trans hrun, ?_, hdead2.trans hdead1⟩
        rw [hhashed2, hhashed1, hchunk, hnext, ← List.drop_drop, List.append_assoc,
          List.take_append_drop]

/-- A panic is not forgotten. -/
theorem hashCertificateChain_dead (hserves : d.platform.Serves certChain dead)
    (hhasher : d.crypto.Hashes ready dead) {fuel : Nat} {offset : UInt32}
    {out : Vector UInt8 MAX_CHUNK_SIZE} (env : Env b W)
    (hdead : dead (d.platform.getCertificateChain offset 2048 out env.world).2) :
    Post (hashCertificateChain d fuel offset out) env (fun _ env' => dead env'.world)
      (fun _ _ => True) := by
  induction fuel generalizing offset out env with
  | zero => exact Post.throw trivial
  | succ fuel ih =>
      have htry : Post (tryPlatform (d.platform.getCertificateChain offset
          (UInt32.ofNat MAX_CHUNK_SIZE) out)) env (fun _ env' => dead env'.world)
          (fun _ _ => True) := ⟨hdead⟩
      refine Post.bind htry ?_
      rintro r env1 hdead1
      cases r with
      | error e => exact Post.pure hdead1
      | ok r =>
          refine Post.rejectIf_bind (fun _ => trivial) fun _ => ?_
          refine Post.bind (updateHash_spares hhasher _ env1) fun _ env2 hdead2 => ?_
          exact ih env2 (hserves.stays_dead _ _ (hdead2.mpr hdead1))

/-- **THE HASH LOOP PANICS** on a chain that ends past the last full
    chunk below `2 ^ 32`. -/
theorem hashCertificateChain_panics (hserves : d.platform.Serves certChain dead)
    (hhasher : d.crypto.Hashes ready dead) (hlarge : 2 ^ 32 - 2048 < chainLen certChain)
    {fuel : Nat} {offset : UInt32} (hoffset : offset.toNat % 2048 = 0)
    (out : Vector UInt8 MAX_CHUNK_SIZE) (env : Env b W) (hready : ready env.world) :
    Post (hashCertificateChain d fuel offset out) env (fun _ env' => dead env'.world)
      (fun _ _ => True) := by
  induction fuel generalizing offset out env with
  | zero => exact Post.throw trivial
  | succ fuel ih =>
      have hlt := offset.toNat_lt
      by_cases hlast : 2 ^ 32 ≤ offset.toNat + 2048
      · exact hashCertificateChain_dead hserves hhasher env
          (hserves.panics _ _ _ (rule_overflow (by omega) hlast))
      · obtain ⟨len, chunk, hrule, hlen, -⟩ :=
          @rule_chunk certChain offset out (by omega) (by omega)
        obtain ⟨env1, hround, hready1, -, -⟩ :=
          hashCertificateChain_chunk hserves hhasher env hready hrule (by omega) fuel
        have hnext : (offset + len).toNat = offset.toNat + len.toNat := by
          rw [UInt32.toNat_add]
          exact Nat.mod_eq_of_lt (by omega)
        refine ⟨?_⟩
        rw [hround]
        exact (ih (by omega) chunk env1 hready1).holds

/-! ## The loop of the client -/

namespace Client

theorem readUint32_toLeBytes (x : UInt32) (r : Bytes) :
    readUint32 (toLeBytes x ++ r) = .ok (x, r) := by
  have hx := x.toNat_lt
  have h1 := toNat_byte x 8
  have h2 := toNat_byte x 16
  have h3 := toNat_byte x 24
  simp only [UInt32.reduceToNat, Nat.reduceMod] at h1 h2 h3
  show Except.ok (UInt32.ofNat _, r) = _
  rw [h1, h2, h3, UInt32.toNat_toUInt8]
  refine congrArg (fun y => Except.ok (y, r)) (UInt32.toNat_inj.mp ?_)
  rw [UInt32.toNat_ofNat']
  omega

theorem readUint32_bind {α : Type} (x : UInt32) (r : Bytes)
    (f : UInt32 × Bytes → Except Error α) :
    (readUint32 (toLeBytes x ++ r) >>= f) = f (x, r) := by
  rw [readUint32_toLeBytes]
  rfl

/-- A response is taken apart. -/
theorem execCommand_response (dpe : DpeInstance b) (certificateSize : UInt32)
    (chunk : Vector UInt8 MAX_CHUNK_SIZE) :
    execCommand (GetCertificateChainResp.asBytes
      { respHdr := dpe.responseHdr .noError
        certificateSize := certificateSize
        certificateChain := chunk }) = .ok (certificateSize, chunk.toList) := by
  have hchunk : chunk.toList.length = 2048 := Vector.length_toList
  unfold execCommand GetCertificateChainResp.asBytes ResponseHdr.asBytes
  simp only [List.append_assoc, readUint32_bind]
  show (do
    let certificateChain ← readArray 2048 chunk.toList
    pure (certificateSize, certificateChain) : Except Error (UInt32 × Bytes)) = _
  unfold readArray
  rw [if_neg (by omega), List.take_of_length_le (by omega)]
  rfl

/-- The status of an error is what the client sees of it. -/
theorem execCommand_error (dpe : DpeInstance b) {e : DpeErrorCode}
    (he : e.getErrorCode ≠ 0) :
    execCommand (dpe.responseHdr e).asBytes = .error (.status e.getErrorCode) := by
  unfold execCommand ResponseHdr.asBytes
  rw [← List.append_nil (toLeBytes _ ++ toLeBytes _ ++ toLeBytes _)]
  have hstatus : checkRespHdr (dpe.responseHdr e).magic (dpe.responseHdr e).status
      = .error (.status e.getErrorCode) := by
    show checkRespHdr DPE_RESPONSE_MAGIC e.getErrorCode = _
    unfold checkRespHdr
    rw [if_neg (by decide), if_pos (by simpa using he)]
  simp only [List.append_assoc, readUint32_bind]
  rw [hstatus]
  rfl

variable {dpe : DpeInstance b} {locality : UInt32}

/-- A response that fills the buffer replaces it. -/
theorem respond_all {buf bytes : Bytes} (h : buf.length = bytes.length) (env : Env b W) :
    respond bytes { env with out := .slice buf }
      = .ok bytes.length { env with out := .slice bytes } := by
  have hwrite : (ResponseBuffer.slice buf).writeAt 0 bytes = .ok (.slice bytes) := by
    unfold ResponseBuffer.writeAt
    rw [if_pos (by omega), List.drop_of_length_le (by omega), List.take_zero,
      List.nil_append, List.append_nil]
  show EStateM.bind (writeAt 0 bytes _) _ _ = _
  unfold EStateM.bind writeAt
  dsimp only
  rw [hwrite]
  rfl

/-- What the instance answers when the platform has a chunk. -/
theorem answer_chunk (hserves : d.platform.Serves certChain dead)
    {offset len : UInt32} {chunk : Vector UInt8 MAX_CHUNK_SIZE} (env : Env b W)
    (hrule : DefaultPlatform.getCertificateChain certChain offset 2048
      (.replicate MAX_CHUNK_SIZE 0) = some (.ok (len, chunk))) :
    GetCertificateChainCmd.answer d dpe ⟨offset, MaxChunkSize⟩ locality env
      = .ok (GetCertificateChainResp.asBytes
        { respHdr := dpe.responseHdr .noError
          certificateSize := len
          certificateChain := chunk }) env := by
  have hanswer := hserves.answers _ _ _ env.world _ hrule
  generalize hresp : GetCertificateChainResp.asBytes
    { respHdr := dpe.responseHdr .noError
      certificateSize := len
      certificateChain := chunk } = bytes
  have hlength : (List.replicate 2064 (0 : UInt8)).length = bytes.length := by
    rw [← hresp, GetCertificateChainResp.asBytes_length, List.length_replicate]
  have hrun : (⟨offset, MaxChunkSize⟩ : GetCertificateChainCmd).executeSerialized d dpe
      locality { env with out := .slice (List.replicate 2064 0) }
      = .ok bytes.length { env with out := .slice bytes } := by
    show EStateM.bind (callPlatform _) _ _ = _
    unfold EStateM.bind callPlatform
    rw [show d.platform.getCertificateChain offset MaxChunkSize _ env.world = _ from hanswer]
    dsimp only
    rw [hresp]
    exact respond_all hlength env
  unfold GetCertificateChainCmd.answer withBuffer
  rw [hrun]
  rfl

/-- What it answers when the platform has none. -/
theorem answer_error (hserves : d.platform.Serves certChain dead)
    {offset : UInt32} {e : PlatformError} (env : Env b W)
    (hrule : DefaultPlatform.getCertificateChain certChain offset 2048
      (.replicate MAX_CHUNK_SIZE 0) = some (.error e)) :
    GetCertificateChainCmd.answer d dpe ⟨offset, MaxChunkSize⟩ locality env
      = .ok (dpe.responseHdr (.platform e)).asBytes env := by
  have hanswer := hserves.answers _ _ _ env.world _ hrule
  have hrun : (⟨offset, MaxChunkSize⟩ : GetCertificateChainCmd).executeSerialized d dpe
      locality { env with out := .slice (List.replicate 2064 0) }
      = .error (.err (.platform e))
          { env with out := .slice (List.replicate 2064 0) } := by
    show EStateM.bind (callPlatform _) _ _ = _
    unfold EStateM.bind callPlatform
    rw [show d.platform.getCertificateChain offset MaxChunkSize _ env.world = _ from hanswer]
  unfold GetCertificateChainCmd.answer withBuffer
  rw [hrun]

/-- The status of the platform's error. -/
def endStatus : UInt32 := (DpeErrorCode.platform .certificateChainError).getErrorCode

/-- **THE CLIENT READS** from the offset on, and fails where the chain
    ends with a full chunk. -/
theorem getCertificateChainABI_reads (hserves : d.platform.Serves certChain dead)
    (hsmall : chainLen certChain ≤ 2 ^ 32 - 2048) {rounds : Nat} {offset : UInt32}
    (hmultiple : offset.toNat % 2048 = 0) (hoffset : offset.toNat ≤ chainLen certChain)
    (hrounds : (chainLen certChain - offset.toNat) / 2048 + 1 ≤ rounds) (certs : Bytes)
    (env : Env b W) :
    getCertificateChainABI d dpe locality rounds offset certs env
      = .ok (if chainLen certChain % 2048 = 0 then .error (.status endStatus)
          else finish (certs ++ (certChain.take (chainLen certChain)).drop offset.toNat))
        env := by
  induction rounds generalizing offset certs with
  | zero => omega
  | succ rounds ih =>
      have hround : ∀ {resp : Bytes}, GetCertificateChainCmd.answer d dpe
          ⟨offset, MaxChunkSize⟩ locality env = .ok resp env →
          (do
            let resp ← GetCertificateChainCmd.answer d dpe ⟨offset, MaxChunkSize⟩ locality
            pure (execCommand resp)) env = .ok (execCommand resp) env :=
        fun h => bind_of_ok h
      unfold getCertificateChainABI readChain
      by_cases hend : chainLen certChain ≤ offset.toNat
      · rw [bind_of_ok (hround (answer_error hserves env (rule_end hend 2048))),
          execCommand_error dpe (by decide), if_pos (by omega)]
        rfl
      · obtain ⟨len, chunk, hrule, hlen, hchunk⟩ :=
          @rule_chunk certChain offset (.replicate MAX_CHUNK_SIZE 0) (by omega) (by omega)
        rw [bind_of_ok (hround (answer_chunk hserves env hrule)), execCommand_response]
        dsimp only
        rw [if_neg (by omega), hchunk]
        by_cases hshort : len < MaxChunkSize
        · have hlt := UInt32.lt_iff_toNat_lt.mp hshort
          rw [show MaxChunkSize.toNat = 2048 from rfl] at hlt
          rw [if_pos hshort, if_neg (by omega), List.take_of_length_le]
          · rfl
          · rw [List.length_drop, List.length_take]
            omega
        · have hfull : len.toNat = 2048 := by
            rw [UInt32.lt_iff_toNat_lt, show MaxChunkSize.toNat = 2048 from rfl] at hshort
            omega
          have hnext : (offset + MaxChunkSize).toNat = offset.toNat + 2048 := by
            rw [UInt32.toNat_add, show MaxChunkSize.toNat = 2048 from rfl]
            exact Nat.mod_eq_of_lt (by omega)
          have hmultiple' : (offset + MaxChunkSize).toNat % 2048 = 0 := by omega
          rw [if_neg hshort]
          refine (ih hmultiple' (by omega) (by omega) _).trans ?_
          rw [hnext, hfull, ← List.drop_drop, List.append_assoc, List.take_append_drop]

end Client

/-! ## Both readers -/

/-- The loop of the measurement hash, given rounds enough, returns, and has
    fed the hasher the chain. -/
def HashLoopRecovers (d : Deps b W) (dead : W → Prop) (certChain : Bytes) (env : Env b W) :
    Prop :=
  ∃ rounds, ∀ fuel, rounds ≤ fuel → ∃ env',
    hashCertificateChain d fuel 0 (.replicate MAX_CHUNK_SIZE 0) env = .ok ⟨⟩ env' ∧
      env'.hashed = env.hashed ++ certChain ∧ ¬ dead env'.world

/-- The client, given rounds enough, returns the chain. -/
def ClientRecovers (d : Deps b W) (dpe : DpeInstance b) (locality : UInt32)
    (dead : W → Prop) (certChain : Bytes) (env : Env b W) : Prop :=
  ∃ rounds, ∀ fuel, rounds ≤ fuel → ∃ env',
    Client.getCertificateChainABI d dpe locality fuel 0 [] env
      = .ok (.ok certChain) env' ∧ ¬ dead env'.world

section Readers

variable {dpe : DpeInstance b} {locality : UInt32} {env : Env b W}

/-- The loop of the measurement hash, from the start of the chain. -/
theorem hashCertificateChain_all (hserves : d.platform.Serves certChain dead)
    (hhasher : d.crypto.Hashes ready dead) (hready : ready env.world)
    (hsmall : chainLen certChain ≤ 2 ^ 32 - 2048)
    {fuel : Nat} (hfuel : (chainLen certChain + 2047) / 2048 + 1 ≤ fuel) :
    ∃ env', hashCertificateChain d fuel 0 (.replicate MAX_CHUNK_SIZE 0) env
        = .ok ⟨⟩ env' ∧
      env'.hashed = env.hashed ++ certChain.take (chainLen certChain) ∧
      (dead env'.world ↔ dead env.world) := by
  have hzero : (0 : UInt32).toNat = 0 := rfl
  have hreads := @hashCertificateChain_reads b W d certChain ready dead hserves hhasher
    hsmall fuel 0 (by omega) (by rw [hzero]; exact hfuel) (.replicate MAX_CHUNK_SIZE 0)
    env hready
  rw [hzero, List.drop_zero] at hreads
  exact hreads

/-- The loop of the client, from the start of the chain. -/
theorem getCertificateChainABI_all (hserves : d.platform.Serves certChain dead)
    (hsmall : chainLen certChain ≤ 2 ^ 32 - 2048) {rounds : Nat}
    (hrounds : chainLen certChain / 2048 + 1 ≤ rounds) :
    Client.getCertificateChainABI d dpe locality rounds 0 [] env
      = .ok (if chainLen certChain % 2048 = 0 then .error (.status Client.endStatus)
          else Client.finish (certChain.take (chainLen certChain))) env := by
  have hzero : (0 : UInt32).toNat = 0 := rfl
  have hreads := @Client.getCertificateChainABI_reads b W d certChain dead dpe locality
    hserves hsmall rounds 0 rfl (by omega) (by rw [hzero]; exact hrounds) [] env
  rw [hzero, List.drop_zero, List.nil_append] at hreads
  exact hreads

theorem hashLoop_recovers (hserves : d.platform.Serves certChain dead)
    (hhasher : d.crypto.Hashes ready dead) (hready : ready env.world)
    (halive : ¬ dead env.world) (hlen : certChain.length ≤ 2 ^ 32 - 2048) :
    HashLoopRecovers d dead certChain env := by
  have hchain : chainLen certChain = certChain.length := Nat.mod_eq_of_lt (by omega)
  refine ⟨(chainLen certChain + 2047) / 2048 + 1, fun fuel hfuel => ?_⟩
  obtain ⟨env', hrun, hhashed, hdead⟩ :=
    hashCertificateChain_all hserves hhasher hready (by omega) hfuel
  rw [hchain, List.take_length] at hhashed
  exact ⟨env', hrun, hhashed, fun h => halive (hdead.mp h)⟩

theorem client_recovers (hserves : d.platform.Serves certChain dead)
    (halive : ¬ dead env.world) (hshort : certChain.length % 2048 ≠ 0)
    (hlen : certChain.length ≤ 2 ^ 32 - 2048) :
    ClientRecovers d dpe locality dead certChain env := by
  have hchain : chainLen certChain = certChain.length := Nat.mod_eq_of_lt (by omega)
  have hsome : ¬ certChain.isEmpty = true := by
    rw [List.isEmpty_iff]
    rintro rfl
    exact hshort rfl
  refine ⟨chainLen certChain / 2048 + 1, fun fuel hfuel => ⟨env, ?_, halive⟩⟩
  rw [getCertificateChainABI_all hserves (by omega) hfuel, hchain, if_neg hshort,
    List.take_length, Client.finish, if_neg hsome]

/-- On a chain that ends with a full chunk the client fails. -/
theorem not_client_recovers (hserves : d.platform.Serves certChain dead)
    (hsmall : chainLen certChain ≤ 2 ^ 32 - 2048) (hfull : chainLen certChain % 2048 = 0) :
    ¬ ClientRecovers d dpe locality dead certChain env := by
  rintro ⟨rounds, hrecovers⟩
  obtain ⟨env', hrun, -⟩ := hrecovers (max rounds (chainLen certChain / 2048 + 1))
    (Nat.le_max_left ..)
  rw [getCertificateChainABI_all hserves hsmall (Nat.le_max_right ..), if_pos hfull] at hrun
  cases hrun

/-- **BOTH READERS** recover a chain exactly when its last chunk is not
    full and the offsets of its chunks are within 32 bits. -/
theorem chunked_readers_iff (hserves : d.platform.Serves certChain dead)
    (hhasher : d.crypto.Hashes ready dead) (hready : ready env.world)
    (halive : ¬ dead env.world) :
    (HashLoopRecovers d dead certChain env
      ∧ ClientRecovers d dpe locality dead certChain env) ↔
    certChain.length % 2048 ≠ 0 ∧ certChain.length < 2 ^ 32 - 2048 := by
  constructor
  · rintro ⟨⟨rounds, hhash⟩, hclient⟩
    have hlen : chainLen certChain ≤ 2 ^ 32 - 2048 := by
      by_contra hlarge
      obtain ⟨env', hrun, -, halive'⟩ := hhash rounds (Nat.le_refl _)
      exact halive' ((hashCertificateChain_panics hserves hhasher (by omega) rfl _
        env hready).of_ok hrun)
    obtain ⟨env', hrun, hhashed, -⟩ :=
      hhash (max rounds ((chainLen certChain + 2047) / 2048 + 1)) (Nat.le_max_left ..)
    obtain ⟨env'', hrun', hhashed', -⟩ :=
      hashCertificateChain_all hserves hhasher hready hlen (Nat.le_max_right ..)
    rw [hrun] at hrun'
    cases hrun'
    -- what was read is the chain, so its length was not cut off
    have htake : certChain = certChain.take (chainLen certChain) :=
      List.append_cancel_left (hhashed.symm.trans hhashed')
    have hchain : certChain.length ≤ chainLen certChain := by
      have hlengths := congrArg List.length htake
      rw [List.length_take] at hlengths
      omega
    have hmod : chainLen certChain ≤ certChain.length := Nat.mod_le _ _
    have hshort : certChain.length % 2048 ≠ 0 := by
      intro hfull
      exact not_client_recovers hserves hlen (by omega) hclient
    exact ⟨hshort, by omega⟩
  · rintro ⟨hshort, hlen⟩
    exact ⟨hashLoop_recovers hserves hhasher hready halive (by omega),
      client_recovers hserves halive hshort (by omega)⟩

end Readers

/-! ## Two chains to look at -/

/-- The sample platform with a chain served by the rule; a panic leaves no
    random values. -/
def chainDeps (certChain : Bytes) : Deps sampleBuild (List UInt8) where
  crypto := sampleCrypto
  platform := { samplePlatform with
    getCertificateChain offset size out w :=
      match DefaultPlatform.getCertificateChain certChain offset size out with
      | some r => (r, w)
      | none => (.error .certificateChainError, []) }
  fuel := 8

theorem chainDeps_serves (certChain : Bytes) :
    (chainDeps certChain).platform.Serves certChain (· = []) where
  answers offset size out w r h := by
    show (match DefaultPlatform.getCertificateChain certChain offset size out with
      | some r => (r, w)
      | none => (.error .certificateChainError, [])) = _
    rw [h]
  panics offset out w h := by
    show (match DefaultPlatform.getCertificateChain certChain offset 2048 out with
      | some r => (r, w)
      | none => (.error .certificateChainError, [])).2 = []
    rw [h]

theorem sampleCrypto_hashes : sampleCrypto.Hashes (fun _ => True) (· = []) where
  updates _ _ _ := ⟨rfl, trivial⟩
  spares _ _ := Iff.rfl

def chainEnv : Env sampleBuild (List UInt8) := sampleEnv sampleNew [1] 0

/-- A chain of two chunks, the second of two bytes, is recovered. -/
theorem chunked_readers_two :
    HashLoopRecovers (chainDeps (.replicate 2050 7)) (· = []) (.replicate 2050 7)
        chainEnv ∧
      ClientRecovers (chainDeps (.replicate 2050 7)) sampleDpe 0 (· = [])
        (.replicate 2050 7) chainEnv := by
  refine (chunked_readers_iff (chainDeps_serves _) sampleCrypto_hashes trivial
    (List.cons_ne_nil 1 [])).mpr ?_
  rw [List.length_replicate]
  decide

/-- A chain of one full chunk is not. -/
theorem not_chunked_readers_full :
    ¬ (HashLoopRecovers (chainDeps (.replicate 2048 0)) (· = []) (.replicate 2048 0)
        chainEnv ∧
      ClientRecovers (chainDeps (.replicate 2048 0)) sampleDpe 0 (· = [])
        (.replicate 2048 0) chainEnv) := by
  have hlen : chainLen (List.replicate 2048 0) = 2048 := by
    rw [chainLen, List.length_replicate]
    rfl
  exact fun h => not_client_recovers (chainDeps_serves _) (by omega) (by omega) h.2

end Dpe
