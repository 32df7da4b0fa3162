import Dpe.Properties.SignedBytes

/-! # Nothing is cut off silently

    A write past the end of the output is dropped, and only the offset
    goes on.  An encoder that returns has dropped nothing: what it has
    stored is what it would store with any amount of room.  An encoder
    that drops something fails, and has not asked for a signature over
    anything that was cut off. -/

namespace Dpe

open Der Prog

variable {b : Build} {σ : Type}

/-- What a run from `s` may leave behind: each call of the callback was
    handed a complete part of the message, and outside of the view nothing
    has moved. -/
structure KeepsOutside (m : Message b) (cfg : CertConfig)
    (first : TciNodeData b) (nodes : List (TciNodeData b))
    (signCb : SignCallback σ) (s s' : Enc σ) : Prop where
  calls : Called signCb (m.HandedPart cfg first nodes s) s.env s'.env
  shape : s'.writer.certificate.shape = s.writer.certificate.shape
  front : s'.writer.certificate.front = s.writer.certificate.front

/-- The run from `s` to `s'` has stored what is stored in any buffer with
    room for it. -/
structure StoredAll (m : Message b) (cfg : CertConfig)
    (signCb : SignCallback σ) (s : Enc σ) (n : Nat) (s' : Enc σ) : Prop where
  fits : s.writer.offset + n ≤ s.writer.certificate.capacity
  same : ∀ r : ResponseBuffer, s.writer.offset + n ≤ r.capacity →
    ∃ s'', m.encode cfg signCb (s.on r) = .ok n s'' ∧
      s''.writer.certificate.readRange s.writer.offset (s.writer.offset + n)
        = s'.writer.certificate.readRange s.writer.offset (s.writer.offset + n)

variable {m : Message b} {cfg : CertConfig} {first : TciNodeData b}
  {chain : List (Context b)} {signCb : SignCallback σ}

/-- Every run, whether it returns or not. -/
theorem Message.encode_outside
    (hwalks : m.measurements.tciNodes.Valid →
      Walks m.measurements.tciNodes first chain) (s : Enc σ) :
    Post (m.encode cfg signCb) s
      (fun _ s' => KeepsOutside m cfg first (nodesOf chain) signCb s s')
      (fun _ s' => KeepsOutside m cfg first (nodesOf chain) signCb s s') := by
  refine (m.encode_spec hwalks s ⟨s.sig, s.env, s.sig, s.env⟩).mono ?_ ?_
  · rintro n s' ⟨a, calls, hdone⟩
    have henv : s'.env = a.env := hdone.grew.env
    exact ⟨⟨calls, henv ▸ hdone.made, fun c hc => hdone.handedPart hc⟩,
      hdone.grew.opened.shape, hdone.grew.opened.front⟩
  · intro e s' hlost
    exact ⟨hlost.env, hlost.shape, hlost.front⟩

/-- A run that returns, and a buffer with as much room. -/
theorem Message.Done.elsewhere {s s' : Enc σ} {n : Nat} {a : Replies σ}
    {calls : List SignCall}
    (h : m.Done cfg first (nodesOf chain) signCb s n a calls s')
    (hwalks : m.measurements.tciNodes.Valid →
      Walks m.measurements.tciNodes first chain)
    (hbytes : ByBytes signCb) (r : ResponseBuffer)
    (hroom : s.writer.offset + n ≤ r.capacity) :
    ∃ s'', m.encode cfg signCb (s.on r) = .ok n s'' ∧
      s''.writer.certificate.readRange s.writer.offset (s.writer.offset + n)
        = s'.writer.certificate.readRange s.writer.offset
            (s.writer.offset + n) := by
  have hcan := h.again hbytes r
  have hfits : Fits (m.tree cfg first (nodesOf chain) a.csrSig a.sig).size
      (s.on r) := by
    rw [← h.size]
    exact hroom
  obtain ⟨a', calls', s'', hrun, hdone⟩ :=
    Message.encode_returns hwalks hcan hfits
  rw [← h.size] at hrun hdone
  refine ⟨s'', hrun, ?_⟩
  have hout : s''.writer.certificate.readRange s.writer.offset
      (s.writer.offset + n) = _ := hdone.output
  rw [hout, ← hdone.unique a hcan, h.output]

/-- A run that returns where there is room, and a buffer without. -/
theorem Message.Done.refused {s s' : Enc σ} {r : ResponseBuffer} {n : Nat}
    {a : Replies σ} {calls : List SignCall}
    (h : m.Done cfg first (nodesOf chain) signCb (s.on r) n a calls s')
    (hwalks : m.measurements.tciNodes.Valid →
      Walks m.measurements.tciNodes first chain)
    (hbytes : ByBytes signCb)
    (hroom : s.writer.certificate.capacity < s.writer.offset + n) :
    ∃ s'', m.encode cfg signCb s = .error truncated s'' := by
  have hcan : m.Can cfg first (nodesOf chain) signCb a s :=
    h.again hbytes s.writer.certificate
  have hspec : Post (m.encode cfg signCb) s _ _ := m.encode_spec hwalks s a
  cases hrun : m.encode cfg signCb s with
  | ok n' s'' =>
      obtain ⟨a', calls', hdone⟩ := hspec.of_ok hrun
      have hfits := hdone.fits
      rw [hdone.size, ← hdone.unique a hcan, ← h.size] at hfits
      unfold Fits at hfits
      omega
  | error e s'' =>
      obtain ⟨-, rfl⟩ := (hspec.of_error hrun).blame hcan
      exact ⟨s'', rfl⟩

/-- **NOTHING IS CUT OFF SILENTLY**: whatever the capacity of the output,
    an encoder that returns has stored all of what it stores in a buffer
    without bounds; one that returns there, but would need more than there
    is here, fails here.  In every run the callback signs complete parts
    only, and no byte outside of the view is written. -/
theorem no_silent_truncation (m : Message b) (cfg : CertConfig)
    (signCb : SignCallback σ) (s : Enc σ) :
    (∃ first chain, (m.measurements.tciNodes.Valid →
        Walks m.measurements.tciNodes first chain) ∧
      Post (m.encode cfg signCb) s
        (fun _ s' => KeepsOutside m cfg first (nodesOf chain) signCb s s')
        (fun _ s' => KeepsOutside m cfg first (nodesOf chain) signCb s s')) ∧
    (∀ n s', m.encode cfg signCb s = .ok n s' →
      s.writer.offset + n ≤ s.writer.certificate.capacity) ∧
    (ByBytes signCb →
      (∀ n s', m.encode cfg signCb s = .ok n s' →
        StoredAll m cfg signCb s n s') ∧
      ∀ r n s', m.encode cfg signCb (s.on r) = .ok n s' →
        s.writer.certificate.capacity < s.writer.offset + n →
        ∃ s'', m.encode cfg signCb s = .error truncated s'') := by
  obtain ⟨first, chain, hwalks⟩ := m.measurements.tciNodes.exists_walks
  have hspec : ∀ s : Enc σ, Post (m.encode cfg signCb) s _ _ :=
    fun s => m.encode_spec hwalks s ⟨s.sig, s.env, s.sig, s.env⟩
  have hfits : ∀ n s', m.encode cfg signCb s = .ok n s' →
      s.writer.offset + n ≤ s.writer.certificate.capacity := by
    intro n s' hrun
    obtain ⟨a, calls, hdone⟩ := (hspec s).of_ok hrun
    exact hdone.fits
  refine ⟨⟨first, chain, hwalks, Message.encode_outside hwalks s⟩, hfits, ?_⟩
  intro hbytes
  refine ⟨fun n s' hrun => ?_, fun r n s' hrun hroom => ?_⟩
  · obtain ⟨a, calls, hdone⟩ := (hspec s).of_ok hrun
    exact ⟨hfits n s' hrun, hdone.elsewhere hwalks hbytes⟩
  · obtain ⟨a, calls, hdone⟩ := (hspec (s.on r)).of_ok hrun
    exact hdone.refused hwalks hbytes hroom

theorem sampleCallback_byBytes : ByBytes sampleCallback :=
  fun _ _ _ _ _ _ _ _ => rfl

/-- A CMS message with room to spare, and with too little of it. -/
theorem no_silent_truncation_cms : ∃ s' s'',
    sampleCms.encode sampleConfig sampleCallback (sampleEncoder 800) = .ok 758 s' ∧
    StoredAll sampleCms sampleConfig sampleCallback (sampleEncoder 800) 758 s' ∧
    sampleCms.encode sampleConfig sampleCallback (sampleEncoder 700)
      = .error truncated s'' := by
  obtain ⟨s', hrun⟩ := sampleCms_returns (show 758 ≤ 800 by decide)
  obtain ⟨-, -, hstored⟩ := no_silent_truncation sampleCms sampleConfig
    sampleCallback (sampleEncoder 800)
  obtain ⟨-, -, hrefused⟩ := no_silent_truncation sampleCms sampleConfig
    sampleCallback (sampleEncoder 700)
  have hroom : (List.replicate 700 (0 : UInt8)).length < 0 + 758 := by
    rw [List.length_replicate]
    decide
  obtain ⟨s'', hshort⟩ := (hrefused sampleCallback_byBytes).2
    (.slice (.replicate 800 0)) 758 s' hrun hroom
  exact ⟨s', s'', hrun, (hstored sampleCallback_byBytes).1 758 s' hrun, hshort⟩

end Dpe
