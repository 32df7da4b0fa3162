import Dpe.Proofs.Entries
import Dpe.Proofs.KeyUse

/-! # Attestation — what is certified is what is keyed

    The entries of a certificate and the digest of its key are computed by
    separate walks from the context to its root.  Both see the same path,
    in the same order, and every command that uses the key of a context
    derives it from the digest of that path. -/

namespace Dpe

open Forest Prog

variable {b : Build} {W : Type}

/-! ## Localities -/

/-- The node data of every context names its locality. -/
def State.Placed (s : State b) : Prop :=
  ∀ i, (s.contexts i).locality = (s.contexts i).tci.locality

/-- **ONE EDIT** keeps the localities. -/
theorem Edit.placed {s : State b} (h : s.Placed) (e : Edit b) : (e.apply s).Placed := by
  have hset : ∀ {s : State b} {idx : Fin b.maxHandles} {c : Context b}, s.Placed →
      c.locality = c.tci.locality → (s.set idx c).Placed := by
    intro s idx c h hc i
    by_cases hi : i = idx
    · rw [hi, State.set_self]
      exact hc
    · rw [State.set_of_ne hi]
      exact h i
  cases e with
  | plant idx args => exact hset h rfl
  | rename idx handle => exact hset h (h idx)
  | measure idx measurement cumulative => exact hset h (h idx)
  | retype idx tciType => exact hset h (h idx)
  | retire idx => exact hset h (h idx)
  | adopt parent child kept args measurement cumulative =>
      refine hset (hset h rfl) ?_
      cases kept with
      | some handle => exact h parent
      | none => exact h parent
  | prune marked =>
      intro i
      show (if marked.hasChild b i then ((s.contexts i).without marked).destroy
          else (s.contexts i).without marked).locality
        = (if marked.hasChild b i then ((s.contexts i).without marked).destroy
          else (s.contexts i).without marked).tci.locality
      split
      · rfl
      · exact h i

theorem Reachable.placed {s : State b} (h : Reachable s) : s.Placed := by
  refine h.invariant_edits (fun _ _ _ => rfl) ?_
  rintro s e t - hs ⟨-, rfl⟩
  exact e.placed hs

/-! ## Entries -/

/-- The entry of a context: its own type, locality, security version and
    measurements. -/
def Context.tcbInfo (c : Context b) (cumulative : Bool) : TcbInfo where
  svn := c.tci.svn.toNat
  tciCurrent := c.tci.tciCurrent.toList
  locality := c.locality.toNat
  tciType := c.tci.tciType.toNat
  tciCumulative := if cumulative then some c.tci.tciCumulative.toList else none

variable {d : Deps b W} {dpe : DpeInstance b} {locality : UInt32}
  {env env' : Env b W} {n : Nat} {cmd : Command b} {certType : CertificateType}
  {format : CertificateFormat} {idx : Fin b.maxHandles}
  {l : List (Fin b.maxHandles)} {digest : Digest} {pubKey : PubKey} {tree : Der.Tlv}

/-- The entries that are read in the answer are those of the path. -/
theorem Certified.readTcbInfos (h : Certified d dpe locality env n env' cmd certType
    format idx l digest pubKey tree) (hplaced : env.state.Placed) :
    CertWriter.readTcbInfos tree = (env.state.chain l).map fun c =>
      some (c.tcbInfo (certType.showsCumulative env.state.support)) := by
  obtain ⟨base, args, r, handle, measurements, window, hcreated, -⟩ := h.created
  rw [hcreated.issued.readTcbInfos, hcreated.recursive]
  show (nodesOf (env.state.chain l)).map _ = _
  rw [nodesOf, List.map_map]
  refine List.map_congr_left fun c hc => ?_
  obtain ⟨i, -, rfl⟩ := List.mem_map.mp hc
  show some (CertWriter.tcbInfoOf _ (env.state.contexts i).tci) = _
  rw [Context.tcbInfo, hplaced i]
  rfl

/-- The key in the answer is derived from the hash of the path. -/
theorem Certified.hashed (h : Certified d dpe locality env n env' cmd certType
    format idx l digest pubKey tree) :
    ∃ info dice args handle,
      Hashed d dpe env.state.support (env.state.chain l) info dice digest ∧
      CertKey d dpe args digest certType pubKey handle := by
  obtain ⟨base, args, r, handle, measurements, window, hcreated, rfl⟩ := h.created
  obtain ⟨bs, htranscript, hdigest⟩ := hcreated.hashed
  obtain ⟨info, dice, hhashed⟩ := Hashed.of_transcript htranscript hdigest
  exact ⟨info, dice, args, handle, hhashed, hcreated.key⟩

/-- Two commands that use the key of one context in one state use one key
    pair. -/
theorem Command.keyUse_agree (hcrypto : d.crypto.Deterministic)
    (hwell : env.state.WellFormed)
    (hrun : cmd.executeSerialized d dpe locality env = .ok n env')
    {handle : ContextHandle} {label : Bytes} (hkeyed : cmd.keyed = some (handle, label)) :
    ∃ idx l info dice digest signer,
      KeyUse d dpe locality env n env' cmd idx digest signer ∧
      KeyOf d dpe env.state idx l label info dice digest signer ∧
      ∀ {env₂ env₂' : Env b W} {n₂ : Nat} {cmd₂ : Command b},
        env₂.state = env.state → cmd₂.keyed = some (handle, label) →
        cmd₂.executeSerialized d dpe locality env₂ = .ok n₂ env₂' →
        ∃ info₂ dice₂ digest₂ signer₂,
          KeyUse d dpe locality env₂ n₂ env₂' cmd₂ idx digest₂ signer₂ ∧
          KeyOf d dpe env.state idx l label info₂ dice₂ digest₂ signer₂ ∧
          (info₂ = info → dice₂ = dice → digest₂ = digest ∧ signer₂ = signer) := by
  obtain ⟨idx, l, info, dice, digest, signer, hidx, huse, hkey⟩ :=
    Command.keyUse hcrypto hrun hwell hkeyed
  refine ⟨idx, l, info, dice, digest, signer, huse, hkey, ?_⟩
  intro env₂ env₂' n₂ cmd₂ hstate hkeyed₂ hrun₂
  obtain ⟨idx₂, l₂, info₂, dice₂, digest₂, signer₂, hidx₂, huse₂, hkey₂⟩ :=
    Command.keyUse hcrypto hrun₂ (hstate ▸ hwell) hkeyed₂
  rw [hstate] at hidx₂ hkey₂
  cases hidx.symm.trans hidx₂
  cases hkey.path.unique hkey₂.path
  refine ⟨info₂, dice₂, digest₂, signer₂, huse₂, hkey₂, ?_⟩
  rintro rfl rfl
  exact hkey₂.unique hcrypto hkey rfl

/-- **WHAT IS CERTIFIED IS WHAT IS KEYED.**  The entries that are read in a
    certificate or CSR are those of the path, root first, and the key is
    derived from the hash of that path.  Where the crypto suite computes
    functions, certificates, CSRs and signatures for one context, label and
    state come from one key pair, as long as the platform gives the same
    answers. -/
theorem certified_is_keyed (hreach : Reachable env.state)
    (hrun : cmd.executeSerialized d dpe locality env = .ok n env') :
    (cmd.certifies = true → ∃ certType format idx l digest pubKey tree,
      Certified d dpe locality env n env' cmd certType format idx l digest pubKey
        tree ∧
      Path env.state.up idx l ∧
      CertWriter.readTcbInfos tree = (env.state.chain l).map (fun c =>
        some (c.tcbInfo (certType.showsCumulative env.state.support))) ∧
      ∃ info dice args handle,
        Hashed d dpe env.state.support (env.state.chain l) info dice digest ∧
        CertKey d dpe args digest certType pubKey handle) ∧
    (d.crypto.Deterministic → ∀ handle label, cmd.keyed = some (handle, label) →
      ∃ idx l info dice digest signer,
        KeyUse d dpe locality env n env' cmd idx digest signer ∧
        KeyOf d dpe env.state idx l label info dice digest signer ∧
        ∀ {env₂ env₂' : Env b W} {n₂ : Nat} {cmd₂ : Command b},
          env₂.state = env.state → cmd₂.keyed = some (handle, label) →
          cmd₂.executeSerialized d dpe locality env₂ = .ok n₂ env₂' →
          ∃ info₂ dice₂ digest₂ signer₂,
            KeyUse d dpe locality env₂ n₂ env₂' cmd₂ idx digest₂ signer₂ ∧
            KeyOf d dpe env.state idx l label info₂ dice₂ digest₂ signer₂ ∧
            (info₂ = info → dice₂ = dice → digest₂ = digest ∧ signer₂ = signer)) := by
  have hwell := hreach.wellFormed
  refine ⟨fun hcertifies => ?_, fun hcrypto handle label hkeyed => ?_⟩
  · obtain ⟨certType, format, idx, l, digest, pubKey, tree, h⟩ :=
      Command.certified hrun hwell hcertifies
    exact ⟨certType, format, idx, l, digest, pubKey, tree, h, h.path,
      h.readTcbInfos hreach.placed, h.hashed⟩
  · exact Command.keyUse_agree hcrypto hwell hrun hkeyed

/-! ## A certificate -/

theorem sampleCrypto_deterministic : sampleDeps.crypto.Deterministic where
  hasherFinish := by
    rintro bs a a' ⟨w, w', h⟩ ⟨w1, w1', h1⟩
    cases h
    cases h1
    rfl
  deriveCdi := by
    rintro measurement info a a' ⟨w, w', h⟩ ⟨w1, w1', h1⟩
    cases h
    cases h1
    rfl
  deriveKeyPair := by
    rintro cdi label info a a' ⟨w, w', h⟩ ⟨w1, w1', h1⟩
    cases h
    cases h1
    rfl
  publicKey := by
    rintro signer out a a' ⟨w, w', h⟩ ⟨w1, w1', h1⟩
    cases h
    cases h1
    rfl

/-- The certificate of a child shows two entries, and its key is the one of
    its path. -/
theorem certified_is_keyed_sample :
    (∃ certType format idx l digest pubKey tree,
      Certified sampleDeps sampleDpe 1 (sampleEnv sampleChain [] 913) 913
        (ending sampleCertificate) sampleCertifyKey certType format idx l digest
        pubKey tree ∧
      (CertWriter.readTcbInfos tree).map (Option.map (·.svn))
        = [some 0, some 128]) ∧
    ∃ idx l label info dice digest signer,
      KeyUse sampleDeps sampleDpe 1 (sampleEnv sampleChain [] 913) 913
        (ending sampleCertificate) sampleCertifyKey idx digest signer ∧
      KeyOf sampleDeps sampleDpe sampleChain idx l label info dice digest signer := by
  have hreach : Reachable (sampleEnv sampleChain [] 913).state := sampleChain_reachable
  have hkeyed := certified_is_keyed hreach sampleCertificate_returns
  obtain ⟨certType, format, idx, l, digest, pubKey, tree, h, hpath, hread, -⟩ :=
    hkeyed.1 rfl
  obtain ⟨idx', l', info, dice, digest', signer, huse, hkey, -⟩ :=
    hkeyed.2 sampleCrypto_deterministic _ _ rfl
  refine ⟨⟨certType, format, idx, l, digest, pubKey, tree, h, ?_⟩,
    idx', l', _, info, dice, digest', signer, huse, hkey⟩
  rw [hread]
  cases h with
  | leaf h =>
      cases (sampleChain_path idx h.resolves).unique hpath
      decide +kernel

end Dpe
