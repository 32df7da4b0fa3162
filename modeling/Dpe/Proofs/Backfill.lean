import Dpe.Proofs.Certificates

/-! # The lengths that are left open — the trace of a writer

    The trace of a writer lists the lengths that have been left open and
    those that have been filled in.  It matches the stack of the writer:
    what is filled in is what was left open last.  Each length that was
    filled in stands where it was left open, and it is the number of the
    bytes from behind its field to the place where the writer was then.
    This is kept by every encoder that counts what it appends. -/

namespace Dpe

open Der Splice Prog

variable {σ α β : Type}

/-! ## The trace and the stack -/

/-- A trace, played against a stack of open lengths: each length that is
    filled in is the one on top. -/
def replay : List Event → List Nat → Option (List Nat)
  | [], open' => some open'
  | .reserved o :: evs, open' => replay evs (o :: open')
  | .patched o _ _ :: evs, o' :: open' =>
      if o = o' then replay evs open' else none
  | .patched _ _ _ :: _, [] => none

theorem replay_append {evs evs' : List Event} {open1 open2 : List Nat}
    (h : replay evs open1 = some open2) :
    replay (evs ++ evs') open1 = replay evs' open2 := by
  induction evs generalizing open1 with
  | nil =>
      cases h
      rfl
  | cons ev evs ih =>
      cases ev with
      | reserved o => exact ih h
      | patched o n stop =>
          cases open1 with
          | nil => cases h
          | cons o' open1 =>
              by_cases ho : o = o'
              · have h' : replay evs open1 = some open2 := by
                  rw [replay, if_pos ho] at h
                  exact h
                rw [List.cons_append, replay, if_pos ho]
                exact ih h'
              · rw [replay, if_neg ho] at h
                cases h

theorem replay_patches (stop : Nat) (ns : List Nat)
    (gaps rest : List (Nat × Nat)) (h : gaps.length = ns.length) :
    replay (patches stop gaps ns) ((gaps ++ rest).map Prod.fst)
      = some (rest.map Prod.fst) := by
  induction ns generalizing gaps with
  | nil =>
      rw [List.length_eq_zero_iff.mp h]
      rfl
  | cons n ns ih =>
      obtain ⟨g, gs, rfl⟩ := List.exists_cons_of_length_eq_add_one h
      rw [List.cons_append, patches, List.map_cons, replay, if_pos rfl]
      exact ih gs (by simpa using h)

/-- Whatever is open at the start or is left open is filled in, if
    nothing is open in the end. -/
theorem patched_of_replay {evs : List Event} {open' : List Nat}
    (h : replay evs open' = some []) {o : Nat}
    (ho : o ∈ open' ∨ .reserved o ∈ evs) :
    ∃ n stop, .patched o n stop ∈ evs := by
  induction evs generalizing open' with
  | nil =>
      cases h
      rcases ho with ho | ho <;> cases ho
  | cons ev evs ih =>
      cases ev with
      | reserved o' =>
          have hrest : o ∈ o' :: open' ∨ .reserved o ∈ evs := by
            rcases ho with ho | ho
            · exact .inl (List.mem_cons_of_mem _ ho)
            · rcases List.mem_cons.mp ho with heq | ho
              · cases heq
                exact .inl (List.mem_cons_self ..)
              · exact .inr ho
          obtain ⟨n, stop, hmem⟩ := ih h hrest
          exact ⟨n, stop, List.mem_cons_of_mem _ hmem⟩
      | patched o' n stop =>
          cases open' with
          | nil => cases h
          | cons o1 open' =>
              by_cases heq : o' = o1
              · rw [replay, if_pos heq] at h
                have hrest : o = o' ∨ o ∈ open' ∨ .reserved o ∈ evs := by
                  rcases ho with ho | ho
                  · rcases List.mem_cons.mp ho with ho | ho
                    · exact .inl (ho.trans heq.symm)
                    · exact .inr (.inl ho)
                  · rcases List.mem_cons.mp ho with ho | ho
                    · cases ho
                    · exact .inr (.inr ho)
                rcases hrest with rfl | hrest
                · exact ⟨n, stop, List.mem_cons_self ..⟩
                · obtain ⟨n', stop', hmem⟩ := ih h hrest
                  exact ⟨n', stop', List.mem_cons_of_mem _ hmem⟩
              · rw [replay, if_neg heq] at h
                cases h

/-! ## Leaving open and going back -/

/-- Leaving a length open. -/
theorem pushBacktrack_ok {s s' : Enc σ} {off : Nat}
    (hrun : EncM.pushBacktrack SIZE_TAG_OFFSET s = .ok off s') :
    off = s.writer.offset + 3 ∧
    ∃ gap : Bytes, gap.length = 3 ∧ Wrote s.writer gap s'.writer ∧
      s'.writer.backtracks = (s.writer.offset, s.writer.offset + 3)
        :: s.writer.backtracks ∧
      s'.writer.savedOffset = s.writer.savedOffset ∧
      s'.writer.trace = s.writer.trace ++ [.reserved s.writer.offset] := by
  obtain ⟨-, hoff, gap, hgap, hgrew⟩ := (pushBacktrack_spec s).of_ok hrun
  have htrace : Post (EncM.pushBacktrack SIZE_TAG_OFFSET) s
      (fun _ s' => s'.writer.trace = s.writer.trace ++ [.reserved s.writer.offset])
      (fun _ _ => True) :=
    Post.get_bind (Post.rejectIf_bind (fun _ => trivial) fun _ =>
      setWriter_bind (Post.pure rfl))
  exact ⟨hoff, gap, hgap, hgrew.opened.toWrote, hgrew.opened.backtracks,
    hgrew.saved, htrace.of_ok hrun⟩

theorem popBacktrack_ok (width : Nat) (s : Enc σ) :
    Post (EncM.popBacktrack width) s
      (fun _ s' => ∃ g, s.writer.backtracks = g :: s'.writer.backtracks)
      (fun _ _ => True) := by
  refine Post.get_bind (Post.rejectIf_bind (fun _ => trivial) fun _ => ?_)
  cases hstack : s.writer.backtracks with
  | nil => exact Post.throw trivial
  | cons g gs =>
      refine setWriter_bind (Post.rejectIf_bind (fun _ => trivial) fun _ => ?_)
      exact Post.modify ⟨g, rfl⟩

/-- As many lengths are filled in as are open, at most. -/
theorem encodeSizes_length_le {ns : List Nat} {s s' : Enc σ} {n : Nat}
    (hrun : EncM.encodeSizes ns s = .ok n s') :
    ns.length ≤ s.writer.backtracks.length := by
  induction ns generalizing s s' n with
  | nil => exact Nat.zero_le _
  | cons k ns ih =>
      obtain ⟨_, s1, hpop, hrest⟩ := run_bind hrun
      obtain ⟨_, s2, htrace, hrest⟩ := run_bind hrest
      obtain ⟨_, s3, hemit, hrest⟩ := run_bind hrest
      obtain ⟨_, _, hsizes, -⟩ := run_bind hrest
      obtain ⟨g, hstack⟩ := (popBacktrack_ok _ s).of_ok hpop
      obtain ⟨-, -, hidle, -, -⟩ := (encodeSizeField_spec k s2).of_ok hemit
      have hle := ih hsizes
      cases htrace
      rw [hidle.backtracks] at hle
      rw [hstack, List.length_cons, List.length_cons]
      exact Nat.succ_le_succ hle

/-- What going back to fill in `ns` leaves of the writer. -/
structure WentBack (ns : List Nat) (gaps rest : List (Nat × Nat))
    (w w' : CertWriter) : Prop where
  saved : w.savedOffset = none
  saved' : w'.savedOffset = none
  stack : w.backtracks = gaps ++ rest
  stack' : w'.backtracks = rest
  length : gaps.length = ns.length
  width : ∀ n ∈ ns, lengthWidth n = 3
  shape : w'.certificate.shape = w.certificate.shape
  offset : w'.offset = w.offset
  trace : w'.trace = w.trace ++ patches w.offset gaps ns
  bytes : (∀ g ∈ gaps, g.1 + 3 ≤ w.certificate.capacity) →
    w'.certificate.bytes = fillAll w.certificate.bytes gaps ns

/-- **GOING BACK** over gaps of three bytes. -/
theorem backtrack_ok {ns : List Nat} {s s' : Enc σ} {n : Nat}
    (hgaps : ∀ g ∈ s.writer.backtracks.take ns.length, g.2 = g.1 + 3)
    (hrun : EncM.backtrackAndEncodeSize ns s = .ok n s') :
    n = 3 * ns.length ∧ ∃ gaps rest, WentBack ns gaps rest s.writer s'.writer := by
  obtain ⟨_, s1, hstart, hrest⟩ := run_bind hrun
  obtain ⟨k, s2, hsizes, hrest⟩ := run_bind hrest
  obtain ⟨_, s3, hend, hpure⟩ := run_bind hrest
  have hs1 : s.writer.savedOffset = none ∧ s1 = { s with writer :=
      { s.writer with savedOffset := some s.writer.offset } } := by
    have hpost : Post EncM.startBacktrack s
        (fun _ t => s.writer.savedOffset = none ∧ t = { s with writer :=
          { s.writer with savedOffset := some s.writer.offset } })
        (fun _ _ => True) := by
      refine Post.get_bind (Post.rejectIf_bind (fun _ => trivial) fun hnone => ?_)
      rw [Option.isSome_eq_false_iff, Option.isNone_iff_eq_none] at hnone
      exact Post.modify ⟨hnone, rfl⟩
    exact hpost.of_ok hstart
  obtain ⟨hsaved, hs1⟩ := hs1
  have hle : ns.length ≤ s.writer.backtracks.length := by
    have hle1 := encodeSizes_length_le hsizes
    rw [hs1] at hle1
    exact hle1
  have hsplit : s.writer.backtracks = s.writer.backtracks.take ns.length
      ++ s.writer.backtracks.drop ns.length := (List.take_append_drop ..).symm
  have hlen : (s.writer.backtracks.take ns.length).length = ns.length := by
    rw [List.length_take]
    exact Nat.min_eq_left hle
  have hsaved1 : s1.writer.savedOffset.isSome := by
    rw [hs1]
    rfl
  have hsplit1 : s1.writer.backtracks = s.writer.backtracks.take ns.length
      ++ s.writer.backtracks.drop ns.length := by
    rw [hs1]
    exact hsplit
  obtain ⟨hk, hfilled⟩ :=
    (encodeSizes_spec hsaved1 hsplit1 hlen hgaps).of_ok hsizes
  rw [hs1] at hfilled
  have hs3 : s3 = { s2 with writer :=
      { s2.writer with offset := s.writer.offset, savedOffset := none } } := by
    have hpost : Post EncM.endBacktrack s2
        (fun _ t => t = { s2 with writer :=
          { s2.writer with offset := s.writer.offset, savedOffset := none } })
        (fun _ _ => True) := by
      unfold EncM.endBacktrack
      refine Post.get_bind ?_
      rw [hfilled.savedOffset]
      exact Post.modify rfl
    exact hpost.of_ok hend
  cases hpure
  rw [hs3]
  exact ⟨hk, _, _, ⟨hsaved, rfl, hsplit, hfilled.backtracks, hlen, hfilled.width,
    hfilled.shape, rfl, hfilled.trace _ rfl, hfilled.bytes⟩⟩

/-! ## What is filled in stays -/

/-- The three bytes at `o`. -/
def fieldAt (l : Bytes) (o : Nat) : Bytes := (l.drop o).take 3

/-- Two open lengths, the first above the second. -/
def Above (g g' : Nat × Nat) : Prop := g'.2 ≤ g.1

theorem length_lengthField_of_wide {n : Nat} (h : lengthWidth n = 3) :
    (lengthField n).length = 3 := (lengthField_length n).trans h

/-- Filling in gaps leaves what lies apart from them. -/
theorem fieldAt_fillAll_apart {gaps : List (Nat × Nat)} {ns : List Nat}
    {l : Bytes} {o : Nat} (hwide : ∀ n ∈ ns, lengthWidth n = 3)
    (hin : ∀ g ∈ gaps, g.1 + 3 ≤ l.length)
    (hapart : ∀ g ∈ gaps, o + 3 ≤ g.1 ∨ g.1 + 3 ≤ o) :
    fieldAt (fillAll l gaps ns) o = fieldAt l o := by
  induction gaps generalizing l ns with
  | nil => rfl
  | cons g gaps ih =>
      cases ns with
      | nil => rfl
      | cons n ns =>
          have hg := hin g (List.mem_cons_self ..)
          have hlen := length_lengthField_of_wide (hwide n (List.mem_cons_self ..))
          have hsplice : (splice l g.1 (lengthField n)).length = l.length :=
            length_splice (by omega)
          have hrest := ih (l := splice l g.1 (lengthField n))
            (fun m hm => hwide m (List.mem_cons_of_mem _ hm))
            (fun g' hg' => hsplice ▸ hin g' (List.mem_cons_of_mem _ hg'))
            (fun g' hg' => hapart g' (List.mem_cons_of_mem _ hg'))
          refine hrest.trans (take_drop_splice_apart (by omega) ?_)
          rw [hlen]
          exact hapart g (List.mem_cons_self ..)

/-- **FILLING IN GAPS**: each then holds its length. -/
theorem fieldAt_fillAll {gaps : List (Nat × Nat)} {ns : List Nat}
    {l : Bytes} {o n e stop : Nat} (hlen : gaps.length = ns.length)
    (hwide : ∀ n ∈ ns, lengthWidth n = 3)
    (hgap : ∀ g ∈ gaps, g.2 = g.1 + 3 ∧ g.1 + 3 ≤ l.length)
    (habove : gaps.Pairwise Above)
    (hmem : .patched o n e ∈ patches stop gaps ns) :
    fieldAt (fillAll l gaps ns) o = lengthField n := by
  induction gaps generalizing l ns with
  | nil =>
      cases hmem
  | cons g gaps ih =>
      obtain ⟨m, ns, rfl⟩ := List.exists_cons_of_length_eq_add_one hlen.symm
      have hm := length_lengthField_of_wide (hwide m (List.mem_cons_self ..))
      have hg := hgap g (List.mem_cons_self ..)
      have hsplice : (splice l g.1 (lengthField m)).length = l.length :=
        length_splice (by omega)
      rcases List.mem_cons.mp hmem with heq | hmem
      · cases heq
        have hapart : ∀ g' ∈ gaps, g.1 + 3 ≤ g'.1 ∨ g'.1 + 3 ≤ g.1 := by
          intro g' hg'
          have hle : g'.2 ≤ g.1 := (List.pairwise_cons.mp habove).1 g' hg'
          have hwidth := (hgap g' (List.mem_cons_of_mem _ hg')).1
          exact .inr (by omega)
        refine (fieldAt_fillAll_apart
          (fun m hm => hwide m (List.mem_cons_of_mem _ hm))
          (fun g' hg' => hsplice ▸ (hgap g' (List.mem_cons_of_mem _ hg')).2)
          hapart).trans ?_
        unfold fieldAt
        rw [← hm]
        exact take_drop_splice (by omega)
      · exact ih (Nat.succ.inj hlen)
          (fun m hm => hwide m (List.mem_cons_of_mem _ hm))
          (fun g' hg' => hsplice ▸ hgap g' (List.mem_cons_of_mem _ hg'))
          (List.pairwise_cons.mp habove).2 hmem

/-- What is patched is one of the gaps with one of the sizes, from behind the
    gap to where the writer was. -/
theorem of_mem_patches {stop o n e : Nat} {gaps : List (Nat × Nat)} {ns : List Nat}
    (h : .patched o n e ∈ patches stop gaps ns)
    (hexact : List.Forall₂ (fun g n => stop = g.1 + 3 + n) gaps ns) :
    (∃ g ∈ gaps, g.1 = o) ∧ n ∈ ns ∧ e = stop ∧ stop = o + 3 + n := by
  induction hexact with
  | nil => cases h
  | cons hg _ ih =>
      rcases List.mem_cons.mp h with heq | h
      · cases heq
        exact ⟨⟨_, List.mem_cons_self .., rfl⟩, List.mem_cons_self .., rfl, hg⟩
      · obtain ⟨⟨g', hg', ho⟩, hn, he⟩ := ih h
        exact ⟨⟨g', List.mem_cons_of_mem _ hg', ho⟩, List.mem_cons_of_mem _ hn, he⟩

/-- **THE INVARIANT** of a writer: the open lengths, three bytes each, lie
    one above the other below the offset, and the trace matches them; the
    lengths that have been filled in are exact, lie apart from the open
    ones, and are there as long as nothing has been dropped. -/
structure Settled (w : CertWriter) : Prop where
  saved : w.savedOffset = none
  gaps : ∀ g ∈ w.backtracks, g.2 = g.1 + 3 ∧ g.2 ≤ w.offset
  above : w.backtracks.Pairwise Above
  nested : replay w.trace [] = some (w.backtracks.map Prod.fst)
  filled : ∀ o n stop, .patched o n stop ∈ w.trace →
    stop = o + 3 + n ∧ lengthWidth n = 3 ∧ stop ≤ w.offset ∧
    (∀ g ∈ w.backtracks, o + 3 ≤ g.1 ∨ g.2 ≤ o) ∧
    (w.offset ≤ w.certificate.capacity →
      fieldAt w.certificate.bytes o = lengthField n)

/-- A fresh writer. -/
theorem Settled.new (cert : ResponseBuffer) : Settled (.new cert) where
  saved := rfl
  gaps g hg := by cases hg
  above := .nil
  nested := rfl
  filled o n stop h := by cases h

/-- The span of the CSR has no part in it. -/
theorem Settled.setRange {w : CertWriter} (h : Settled w)
    (range : Option (Nat × Nat)) : Settled { w with csrRange := range } :=
  ⟨h.saved, h.gaps, h.above, h.nested, h.filled⟩

/-- Appending disturbs nothing. -/
theorem Settled.append {w w' : CertWriter} {bs : Bytes} (h : Settled w)
    (hw : Wrote w bs w') (hidle : Idle w w') : Settled w' := by
  have hoff := hw.offset
  refine ⟨hidle.savedOffset.trans h.saved, ?_, ?_, ?_, ?_⟩
  · intro g hg
    rw [hidle.backtracks] at hg
    obtain ⟨hwidth, hle⟩ := h.gaps g hg
    exact ⟨hwidth, by omega⟩
  · rw [hidle.backtracks]
    exact h.above
  · rw [hidle.trace, hidle.backtracks]
    exact h.nested
  · intro o n stop hmem
    rw [hidle.trace] at hmem
    obtain ⟨hexact, hwide, hstop, hapart, hfield⟩ := h.filled o n stop hmem
    refine ⟨hexact, hwide, by omega, ?_, ?_⟩
    · rw [hidle.backtracks]
      exact hapart
    · intro hcap
      rw [hw.capacity] at hcap
      rw [hw.bytes hcap]
      refine (take_drop_splice_apart ?_ (.inl (by omega))).trans (hfield (by omega))
      rw [ResponseBuffer.length_bytes]
      omega

/-- Leaving a length open. -/
theorem Settled.reserve {w w' : CertWriter} {gap : Bytes} (h : Settled w)
    (hw : Wrote w gap w') (hgap : gap.length = 3)
    (hstack : w'.backtracks = (w.offset, w.offset + 3) :: w.backtracks)
    (hsaved : w'.savedOffset = w.savedOffset)
    (htrace : w'.trace = w.trace ++ [.reserved w.offset]) : Settled w' := by
  have hwrote : Wrote w gap { w' with
      csrRange := w.csrRange, backtracks := w.backtracks, trace := w.trace } :=
    ⟨hw.shape, hw.front, hw.offset, hw.bytes⟩
  have hsame := h.append hwrote ⟨rfl, rfl, hsaved, rfl⟩
  have hoff := hw.offset
  refine ⟨hsame.saved, ?_, ?_, ?_, ?_⟩
  · intro g hg
    rw [hstack] at hg
    rcases List.mem_cons.mp hg with rfl | hg
    · exact ⟨rfl, by omega⟩
    · exact hsame.gaps g hg
  · rw [hstack]
    exact List.pairwise_cons.mpr ⟨fun g hg => (h.gaps g hg).2, h.above⟩
  · rw [htrace, hstack]
    exact replay_append h.nested
  · intro o n stop hmem
    have hold : .patched o n stop ∈ w.trace := by
      rw [htrace] at hmem
      rcases List.mem_append.mp hmem with hmem | hmem
      · exact hmem
      · cases List.mem_singleton.mp hmem
    obtain ⟨hexact, hwide, hstop, hapart, hfield⟩ := hsame.filled o n stop hold
    refine ⟨hexact, hwide, hstop, ?_, hfield⟩
    intro g hg
    rw [hstack] at hg
    rcases List.mem_cons.mp hg with rfl | hg
    · have hle := (h.filled o n stop hold).2.2.1
      exact .inl (show o + 3 ≤ w.offset by omega)
    · exact hapart g hg

/-- Filling in the last of the open lengths. -/
theorem Settled.patch {w w' : CertWriter} {ns : List Nat}
    {gaps rest : List (Nat × Nat)} (h : Settled w)
    (hback : WentBack ns gaps rest w w')
    (hexact : List.Forall₂ (fun g n => w.offset = g.1 + 3 + n) gaps ns) :
    Settled w' := by
  have hcapacity : w'.certificate.capacity = w.certificate.capacity :=
    ResponseBuffer.capacity_congr hback.shape
  have hgaps : ∀ g ∈ gaps ++ rest, g.2 = g.1 + 3 ∧ g.2 ≤ w.offset := by
    rw [← hback.stack]
    exact h.gaps
  have habove : (gaps ++ rest).Pairwise Above := hback.stack ▸ h.above
  obtain ⟨haboveGaps, haboveRest, hcross⟩ := List.pairwise_append.mp habove
  have hin : ∀ g ∈ gaps, g.1 + 3 ≤ w.offset := by
    intro g hg
    have hg' := hgaps g (List.mem_append_left _ hg)
    omega
  refine ⟨hback.saved', ?_, ?_, ?_, ?_⟩
  · intro g hg
    rw [hback.stack'] at hg
    rw [hback.offset]
    exact hgaps g (List.mem_append_right _ hg)
  · rw [hback.stack']
    exact haboveRest
  · have hnested := h.nested
    rw [hback.stack] at hnested
    rw [hback.trace, hback.stack', replay_append hnested]
    exact replay_patches _ _ _ _ hback.length
  · intro o n stop hmem
    rw [hback.offset, hback.stack', hcapacity]
    have hbytes : w.offset ≤ w.certificate.capacity →
        w'.certificate.bytes = fillAll w.certificate.bytes gaps ns :=
      fun hcap => hback.bytes fun g hg => Nat.le_trans (hin g hg) hcap
    have hlength : w.certificate.bytes.length = w.certificate.capacity :=
      ResponseBuffer.length_bytes _
    rw [hback.trace] at hmem
    rcases List.mem_append.mp hmem with hmem | hmem
    · -- filled in before
      obtain ⟨heq, hwide, hstop, hapart, hfield⟩ := h.filled o n stop hmem
      rw [hback.stack] at hapart
      refine ⟨heq, hwide, hstop,
        fun g hg => hapart g (List.mem_append_right _ hg), ?_⟩
      intro hcap
      rw [hbytes hcap, fieldAt_fillAll_apart hback.width]
      · exact hfield hcap
      · intro g hg
        have hg' := hin g hg
        omega
      · intro g hg
        have hg' := (hgaps g (List.mem_append_left _ hg)).1
        rw [← hg']
        exact hapart g (List.mem_append_left _ hg)
    · -- filled in now
      obtain ⟨⟨g, hg, rfl⟩, hn, rfl, heq⟩ := of_mem_patches hmem hexact
      refine ⟨heq, hback.width n hn, Nat.le_refl _, ?_, ?_⟩
      · intro g' hg'
        exact .inr (hcross g hg g' hg')
      · intro hcap
        rw [hbytes hcap]
        refine fieldAt_fillAll hback.length hback.width ?_ haboveGaps hmem
        intro g' hg'
        have hg3 := hin g' hg'
        exact ⟨(hgaps g' (List.mem_append_left _ hg')).1, by omega⟩

/-! ## Programs that count what they append -/

/-- From `s` to `s1`, `k` bytes have been appended and the lengths `gs` left
    open, and the writer is still settled. -/
structure Midway (s : Enc σ) (k : Nat) (gs : List (Nat × Nat)) (s1 : Enc σ) :
    Prop where
  offset : s1.writer.offset = s.writer.offset + k
  stack : s1.writer.backtracks = gs ++ s.writer.backtracks
  settled : Settled s.writer → Settled s1.writer

/-- The rest `m` of a program that started in `s`: it returns the number of
    all bytes, with no length left open. -/
def Finishes (s : Enc σ) (m : EncM σ Nat) (s1 : Enc σ) : Prop :=
  ∀ n s', m s1 = .ok n s' → Midway s n [] s'

/-- An encoder that returns the number of bytes it has appended. -/
def Tallies (m : EncM σ Nat) : Prop := ∀ s, Finishes s m s

/-- A program that leaves the writer alone, but for the span of the CSR. -/
def Idles (m : EncM σ α) : Prop :=
  ∀ s a s', m s = .ok a s' → ∃ range, s'.writer = { s.writer with csrRange := range }

section Rules

variable {s s1 : Enc σ} {k : Nat} {gs : List (Nat × Nat)}

theorem Midway.refl (s : Enc σ) : Midway s 0 [] s := ⟨rfl, rfl, id⟩

/-- One more encoder that counts. -/
theorem Midway.tally {m : EncM σ Nat} {f : Nat → EncM σ Nat}
    (h : Midway s k gs s1) (hm : Tallies m)
    (hf : ∀ n s2, Midway s (k + n) gs s2 → Finishes s (f n) s2) :
    Finishes s (m >>= f) s1 := by
  intro x s' hrun
  obtain ⟨n, s2, hrunm, hrunf⟩ := run_bind hrun
  have hmid := hm s1 n s2 hrunm
  refine hf n s2 ⟨?_, hmid.stack.trans h.stack, fun h0 => hmid.settled (h.settled h0)⟩
    x s' hrunf
  rw [hmid.offset, h.offset, Nat.add_assoc]

/-- One more block. -/
theorem Midway.emit {e : Encode} {bs : Bytes} {f : Nat → EncM σ Nat}
    (h : Midway s k gs s1) (he : Emits e bs)
    (hf : ∀ s2, Midway s (k + bs.length) gs s2 → Finishes s (f bs.length) s2) :
    Finishes s (EncM.emit e >>= f) s1 := by
  intro x s' hrun
  obtain ⟨n, s2, hrunm, hrunf⟩ := run_bind hrun
  obtain ⟨hn, hwrote, hidle⟩ := he s1.writer
  cases hrunm
  rw [hn] at hrunf
  refine hf _ ⟨?_, hidle.backtracks.trans h.stack,
    fun h0 => (h.settled h0).append hwrote hidle⟩ x s' hrunf
  rw [hwrote.offset, h.offset, Nat.add_assoc]

/-- A step that appends nothing. -/
theorem Midway.idle {m : EncM σ α} {f : α → EncM σ Nat}
    (h : Midway s k gs s1) (hm : Idles m)
    (hf : ∀ a s2, m s1 = .ok a s2 → Midway s k gs s2 → Finishes s (f a) s2) :
    Finishes s (m >>= f) s1 := by
  intro x s' hrun
  obtain ⟨a, s2, hrunm, hrunf⟩ := run_bind hrun
  obtain ⟨range, hwriter⟩ := hm s1 a s2 hrunm
  refine hf a s2 hrunm ⟨?_, ?_, fun h0 => ?_⟩ x s' hrunf
  · rw [hwriter]
    exact h.offset
  · rw [hwriter]
    exact h.stack
  · rw [hwriter]
    exact (h.settled h0).setRange range

/-- A length left open. -/
theorem Midway.reserve {f : Nat → EncM σ Nat} (h : Midway s k gs s1)
    (hf : ∀ off s2, off = s.writer.offset + k + 3 →
      Midway s (k + 3) ((s.writer.offset + k, s.writer.offset + k + 3) :: gs) s2 →
      Finishes s (f off) s2) :
    Finishes s (EncM.pushBacktrack SIZE_TAG_OFFSET >>= f) s1 := by
  intro x s' hrun
  obtain ⟨off, s2, hpush, hrunf⟩ := run_bind hrun
  obtain ⟨hoff, gap, hgap, hwrote, hstack, hsaved, htrace⟩ := pushBacktrack_ok hpush
  rw [h.offset] at hoff
  refine hf off s2 hoff ⟨?_, ?_, fun h0 => ?_⟩ x s' hrunf
  · rw [hwrote.offset, hgap, h.offset, Nat.add_assoc]
  · rw [hstack, h.stack, h.offset]
    rfl
  · exact (h.settled h0).reserve hwrote hgap hstack hsaved htrace

/-- Open lengths filled in with the number of the bytes behind them. -/
theorem Midway.patch {ns : List Nat} {gaps : List (Nat × Nat)}
    {f : Nat → EncM σ Nat} (h : Midway s k (gaps ++ gs) s1)
    (hlen : gaps.length = ns.length) (hgaps : ∀ g ∈ gaps, g.2 = g.1 + 3)
    (hexact : (∀ n ∈ ns, lengthWidth n = 3) →
      List.Forall₂ (fun g n => s.writer.offset + k = g.1 + 3 + n) gaps ns)
    (hf : ∀ s2, (∀ n ∈ ns, lengthWidth n = 3) → Midway s k gs s2 →
      Finishes s (f (3 * ns.length)) s2) :
    Finishes s (EncM.backtrackAndEncodeSize ns >>= f) s1 := by
  intro x s' hrun
  obtain ⟨m, s2, hback, hrunf⟩ := run_bind hrun
  have hstack : s1.writer.backtracks = gaps ++ (gs ++ s.writer.backtracks) := by
    rw [h.stack, List.append_assoc]
  have htake : s1.writer.backtracks.take ns.length = gaps := by
    rw [hstack, ← hlen, List.take_left]
  obtain ⟨rfl, gaps', rest, hwent⟩ := backtrack_ok (htake ▸ hgaps) hback
  obtain ⟨rfl, rfl⟩ := List.append_inj (hwent.stack.symm.trans hstack)
    (hwent.length.trans hlen.symm)
  have hlengths := hexact hwent.width
  rw [← h.offset] at hlengths
  refine hf s2 hwent.width ⟨hwent.offset.trans h.offset, hwent.stack', fun h0 => ?_⟩
    x s' hrunf
  exact (h.settled h0).patch hwent hlengths

/-- The end. -/
theorem Midway.finish {n : Nat} (h : Midway s k [] s1) (hn : n = k) :
    Finishes s (pure n) s1 := by
  intro x s' hrun
  cases hrun
  rw [hn]
  exact h

end Rules

end Dpe
