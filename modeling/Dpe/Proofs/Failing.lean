import Dpe.Proofs.Encoders

/-! # Encoders that can fail, gaps that are filled in

    A program over the writer that returns has appended a fixed block,
    or has appended a block in which some gaps are still open.  Filling
    in the gaps turns the block into the one with the length fields in
    their places.  A program that fails has kept the buffer apart from
    the bytes that it shows; and it fails for a reason: for each program
    there is a condition on its inputs and on the writer it starts with
    under which the one thing that can go wrong is that the output does
    not fit. -/

namespace Dpe

open Der Splice Prog

variable {σ α β : Type}

/-! ## Open gaps -/

/-- `w'` is `w` after appending `bs`; the gaps left open are on its
    stack. -/
structure Opened (w : CertWriter) (bs : Bytes) (gaps : List (Nat × Nat))
    (w' : CertWriter) : Prop extends Wrote w bs w' where
  backtracks : w'.backtracks = gaps ++ w.backtracks

theorem Opened.refl (w : CertWriter) : Opened w [] [] w where
  toWrote := .nil w
  backtracks := rfl

theorem Opened.of_idle {w w' : CertWriter} {bs : Bytes} (h : Wrote w bs w')
    (hi : Idle w w') : Opened w bs [] w' where
  toWrote := h
  backtracks := hi.backtracks

theorem Opened.comp {w w' w'' : CertWriter} {xs ys : Bytes}
    {gs gs' : List (Nat × Nat)} (h : Opened w xs gs w')
    (h' : Opened w' ys gs' w'') : Opened w (xs ++ ys) (gs' ++ gs) w'' where
  toWrote := h.toWrote.trans h'.toWrote
  backtracks := by
    rw [h'.backtracks, h.backtracks, List.append_assoc]

/-- `bs'` is `bs` with its gaps, the last one first, filled in with the
    length fields of `ns`; `bs` starts at `o`. -/
inductive Fill (o : Nat) : Bytes → List (Nat × Nat) → List Nat → Bytes → Prop where
  | done (bs : Bytes) : Fill o bs [] [] bs
  | gap {xs gap ys bs' : Bytes} {gs : List (Nat × Nat)} {n : Nat} {ns : List Nat}
      (hgap : gap.length = 3)
      (h : Fill o (xs ++ lengthField n ++ ys) gs ns bs') :
      Fill o (xs ++ gap ++ ys)
        ((o + xs.length, o + xs.length + 3) :: gs) (n :: ns) bs'

theorem Fill.cast {o : Nat} {bs0 bs bs' : Bytes} {gs : List (Nat × Nat)}
    {ns : List Nat} (h : Fill o bs gs ns bs') (e : bs0 = bs) :
    Fill o bs0 gs ns bs' := e ▸ h

/-- Two gaps, one behind the other. -/
theorem Fill.two (o n1 n2 : Nat) (A B Y : Bytes) {g1 g2 : Bytes}
    (h1 : g1.length = 3) (h2 : g2.length = 3) :
    Fill o (A ++ g1 ++ B ++ g2 ++ Y)
      [(o + (A ++ g1 ++ B).length, o + (A ++ g1 ++ B).length + 3),
        (o + A.length, o + A.length + 3)]
      [n2, n1] (A ++ lengthField n1 ++ (B ++ lengthField n2 ++ Y)) := by
  refine .gap h2 (Fill.cast (.gap h1 (.done _)) ?_)
  simp only [List.append_assoc]

/-- Three gaps, one behind the other. -/
theorem Fill.three (o n1 n2 n3 : Nat) (A B C Y : Bytes) {g1 g2 g3 : Bytes}
    (h1 : g1.length = 3) (h2 : g2.length = 3) (h3 : g3.length = 3) :
    Fill o (A ++ g1 ++ B ++ g2 ++ C ++ g3 ++ Y)
      [(o + (A ++ g1 ++ B ++ g2 ++ C).length,
          o + (A ++ g1 ++ B ++ g2 ++ C).length + 3),
        (o + (A ++ g1 ++ B).length, o + (A ++ g1 ++ B).length + 3),
        (o + A.length, o + A.length + 3)]
      [n3, n2, n1] (A ++ lengthField n1
        ++ (B ++ lengthField n2 ++ (C ++ lengthField n3 ++ Y))) := by
  refine .gap h3 (Fill.cast (.two o n1 n2 A B (C ++ lengthField n3 ++ Y) h1 h2) ?_)
  simp only [List.append_assoc]

/-- Write the length fields into the gaps. -/
def fillAll (l : Bytes) : List (Nat × Nat) → List Nat → Bytes
  | g :: gs, n :: ns => fillAll (splice l g.1 (lengthField n)) gs ns
  | _, _ => l

theorem Fill.length_eq {o : Nat} {bs bs' : Bytes} {gs : List (Nat × Nat)}
    {ns : List Nat} (h : Fill o bs gs ns bs')
    (hw : ∀ n ∈ ns, lengthWidth n = 3) : bs'.length = bs.length := by
  induction h with
  | done => rfl
  | @gap xs gap ys bs' gs n ns hgap _ ih =>
      have hn := hw n (List.mem_cons_self ..)
      rw [ih fun m hm => hw m (List.mem_cons_of_mem _ hm)]
      simp only [List.length_append, lengthField_length, hn, hgap]

/-- Every gap is three bytes wide. -/
theorem Fill.gap_width {o : Nat} {bs bs' : Bytes} {gs : List (Nat × Nat)}
    {ns : List Nat} (h : Fill o bs gs ns bs') :
    gs.length = ns.length ∧ ∀ g ∈ gs, g.2 = g.1 + 3 := by
  induction h with
  | done => exact ⟨rfl, fun g hg => by cases hg⟩
  | gap _ _ ih =>
      refine ⟨congrArg (· + 1) ih.1, ?_⟩
      intro g hg
      rcases List.mem_cons.mp hg with rfl | hg
      · rfl
      · exact ih.2 g hg

/-- The gaps of a block lie inside it. -/
theorem Fill.gap_le {o : Nat} {bs bs' : Bytes} {gs : List (Nat × Nat)}
    {ns : List Nat} (h : Fill o bs gs ns bs')
    (hw : ∀ n ∈ ns, lengthWidth n = 3) :
    ∀ g ∈ gs, g.1 + 3 ≤ o + bs.length := by
  induction h with
  | done => intro g hg; cases hg
  | @gap xs gap ys bs' gs n ns hgap _ ih =>
      have hn := hw n (List.mem_cons_self ..)
      intro g hg
      rcases List.mem_cons.mp hg with rfl | hg
      · simp only [List.length_append, hgap]
        omega
      · have hlen := ih (fun m hm => hw m (List.mem_cons_of_mem _ hm)) g hg
        simp only [List.length_append, lengthField_length, hn, hgap] at hlen ⊢
        exact hlen

theorem Fill.fillAll_eq {o : Nat} {bs bs' l : Bytes} {gs : List (Nat × Nat)}
    {ns : List Nat} (h : Fill o bs gs ns bs')
    (hw : ∀ n ∈ ns, lengthWidth n = 3) (hl : o + bs.length ≤ l.length) :
    fillAll (splice l o bs) gs ns = splice l o bs' := by
  induction h with
  | done => rfl
  | @gap xs gap ys bs' gs n ns hgap _ ih =>
      have hn := hw n (List.mem_cons_self ..)
      have hfield : gap.length = (lengthField n).length := by
        rw [lengthField_length, hn, hgap]
      show fillAll (splice (splice l o (xs ++ gap ++ ys)) (o + xs.length)
        (lengthField n)) gs ns = _
      rw [splice_fill hfield hl]
      refine ih (fun m hm => hw m (List.mem_cons_of_mem _ hm)) ?_
      simp only [List.length_append, ← hfield]
      simpa only [List.length_append] using hl

/-! ## What an encoder leaves behind -/

/-- There is room for `n` more bytes. -/
def Fits (n : Nat) (s : Enc σ) : Prop :=
  s.writer.offset + n ≤ s.writer.certificate.capacity

/-- `depth` gaps may be opened and filled in again. -/
structure Ready (depth : Nat) (s : Enc σ) : Prop where
  saved : s.writer.savedOffset = none
  room : s.writer.backtracks.length + depth ≤ MAX_BACKTRACKS

/-- `s'` is `s` after appending `bs`, with the gaps still open. -/
structure Grew (s : Enc σ) (bs : Bytes) (gaps : List (Nat × Nat))
    (s' : Enc σ) : Prop where
  opened : Opened s.writer bs gaps s'.writer
  saved : s'.writer.savedOffset = s.writer.savedOffset
  sig : s'.sig = s.sig
  env : s'.env = s.env

/-- The error of an output that does not fit. -/
def truncated : Stop := .err InternalErrorCode.certSizeOverflow

/-- What an encoder that has failed with `e` leaves behind.  The
    environment of the callback has moved along `R`; and if `O` holds,
    then the output, which fits if `F` does, has not fit. -/
structure Lost (R : σ → σ → Prop) (O F : Prop) (e : Stop) (s s' : Enc σ) :
    Prop where
  shape : s'.writer.certificate.shape = s.writer.certificate.shape
  front : s'.writer.certificate.front = s.writer.certificate.front
  env : R s.env s'.env
  blame : O → ¬ F ∧ e = truncated

theorem Grew.refl (s : Enc σ) : Grew s [] [] s := ⟨.refl _, rfl, rfl, rfl⟩

theorem Grew.comp {s s' s'' : Enc σ} {xs ys : Bytes} {gs gs' : List (Nat × Nat)}
    (h : Grew s xs gs s') (h' : Grew s' ys gs' s'') :
    Grew s (xs ++ ys) (gs' ++ gs) s'' where
  opened := h.opened.comp h'.opened
  saved := h'.saved.trans h.saved
  sig := h'.sig.trans h.sig
  env := h'.env.trans h.env

/-- Behind the bytes so far comes a closed block. -/
theorem Grew.append {s s' s'' : Enc σ} {xs ys : Bytes} {gs : List (Nat × Nat)}
    (h : Grew s xs gs s') (h' : Grew s' ys [] s'') :
    Grew s (xs ++ ys) gs s'' := h.comp h'

/-- A new signature and a new environment, before and after. -/
theorem Grew.answered {s s' : Enc σ} {xs : Bytes} {gs : List (Nat × Nat)}
    (h : Grew s xs gs s') (sig : Signature) (env : σ) :
    Grew { s with sig := sig, env := env } xs gs
      { s' with sig := sig, env := env } :=
  ⟨h.opened, h.saved, rfl, rfl⟩

/-- The state of a base that has lost its signature is the one that it
    had. -/
theorem Lost.of_sig {R : σ → σ → Prop} {O F : Prop} {e : Stop} {s s' : Enc σ}
    {sig : Signature} (h : Lost R O F e { s with sig := sig } s') :
    Lost R O F e s s' := ⟨h.shape, h.front, h.env, h.blame⟩

theorem Grew.cast {s s1 : Enc σ} {bs bs' : Bytes} {gs : List (Nat × Nat)}
    (hg : Grew s bs gs s1) (h : bs = bs') : Grew s bs' gs s1 := h ▸ hg

/-- Room for what comes behind the bytes so far. -/
theorem Grew.fits_iff {s s1 : Enc σ} {xs : Bytes} {gs : List (Nat × Nat)}
    (hg : Grew s xs gs s1) (n : Nat) : Fits n s1 ↔ Fits (xs.length + n) s := by
  unfold Fits
  rw [hg.opened.offset, hg.opened.capacity, Nat.add_assoc]

theorem Fits.mono {s : Enc σ} {m n : Nat} (h : Fits n s) (hle : m ≤ n) :
    Fits m s := by
  unfold Fits at h ⊢
  omega

theorem Grew.ready {s s1 : Enc σ} {xs : Bytes} {gs : List (Nat × Nat)}
    (hg : Grew s xs gs s1) {d : Nat} (h : Ready (gs.length + d) s) :
    Ready d s1 where
  saved := hg.saved.trans h.saved
  room := by
    have hroom := h.room
    rw [hg.opened.backtracks, List.length_append]
    omega

/-- A failure behind the bytes so far. -/
theorem Lost.after {R R' : σ → σ → Prop} {O O' F F' : Prop} {e : Stop}
    {s s1 s' : Enc σ} {xs : Bytes} {gs : List (Nat × Nat)}
    (h : Lost R' O' F' e s1 s') (hg : Grew s xs gs s1)
    (hR : ∀ {env env'}, R' env env' → R env env') (hO : O → O')
    (hF : O → F → F') : Lost R O F e s s' where
  shape := h.shape.trans hg.opened.shape
  front := h.front.trans hg.opened.front
  env := hg.env ▸ hR h.env
  blame o := ⟨fun f => (h.blame (hO o)).1 (hF o f), (h.blame (hO o)).2⟩

/-- A failure that is not about the room. -/
theorem Lost.refused {R : σ → σ → Prop} {O F : Prop} {e : Stop} {s s1 : Enc σ}
    {xs : Bytes} {gs : List (Nat × Nat)} (hg : Grew s xs gs s1)
    (hR : R s.env s.env) (hO : ¬ O) : Lost R O F e s s1 where
  shape := hg.opened.shape
  front := hg.opened.front
  env := hg.env.symm ▸ hR
  blame o := absurd o hO

/-! ## Programs that append -/

/-- `m` returns `a`, and has appended `bs`. -/
def Always (m : EncM σ α) (bs : Bytes) (a : α) : Prop :=
  ∀ s, Post m s (fun x s' => x = a ∧ Grew s bs [] s') (fun _ _ => False)

/-- `m` returns just where `O` and `F` hold; it returns `a`, and has
    appended `bs`. -/
def Appends (O F : Enc σ → Prop) (m : EncM σ α) (bs : Bytes) (a : α) : Prop :=
  ∀ s, Post m s (fun x s' => O s ∧ F s ∧ x = a ∧ Grew s bs [] s')
    (fun e s' => Lost Eq (O s) (F s) e s s')

namespace Always

theorem pure (a : α) : Always (pure a : EncM σ α) [] a :=
  fun s => Post.pure ⟨rfl, .refl s⟩

theorem emit {e : Encode} {bs : Bytes} (h : Emits e bs) :
    Always (EncM.emit e : EncM σ Nat) bs bs.length := by
  intro s
  obtain ⟨hn, hw, hi⟩ := h s.writer
  exact ⟨⟨hn, .of_idle hw hi, hi.savedOffset, rfl, rfl⟩⟩

theorem orFail {r : Except DpeErrorCode α} {a : α} (h : r = .ok a) :
    Always (EncM.orFail r : EncM σ α) [] a := by
  rw [h]
  exact .pure a

end Always

variable {O F : Enc σ → Prop} {m : EncM σ α}

/-- A condition that holds anyway. -/
theorem Always.appends_of {bs : Bytes} {a : α} {p : Prop} (h : Always m bs a)
    (hp : p) : Appends (fun _ => p) (fun _ => True) m bs a := by
  intro s
  refine (h s).mono ?_ (fun _ _ he => he.elim)
  rintro x s' ⟨hx, hg⟩
  exact ⟨hp, trivial, hx, hg⟩

namespace Appends

/-- A program that fails before it has written anything. -/
theorem refused {e : DpeErrorCode} (bs : Bytes) (a : α) :
    Appends (fun _ => False) (fun _ => True) (throw (.err e) : EncM σ α) bs a :=
  fun s => Post.throw (.refused (.refl s) rfl id)

theorem orFail_error {r : Except DpeErrorCode α} {e : DpeErrorCode}
    (h : r = .error e) (bs : Bytes) (a : α) :
    Appends (fun _ => False) (fun _ => True) (EncM.orFail r : EncM σ α) bs a := by
  rw [h]
  exact .refused bs a

theorem checkNotTruncated :
    Appends (fun _ => True) (Fits 0) (EncM.checkNotTruncated : EncM σ PUnit) []
      ⟨⟩ := by
  intro s
  refine Post.get_bind (Post.rejectIf ?_ ?_)
  · intro hlt
    refine ⟨rfl, rfl, rfl, fun _ => ⟨?_, rfl⟩⟩
    exact Nat.not_le_of_lt (by simpa using hlt)
  · intro hle
    exact ⟨trivial, Nat.le_of_not_lt (by simpa using hle), rfl, .refl s⟩

/-- A program behind a switch that is fixed in the build. -/
theorem guard {c : Bool} {e : DpeErrorCode} {bs : Bytes} {a : α}
    (h : Always m bs a) :
    Appends (fun _ => c = true) (fun _ => True)
      (if c then m else throw (.err e)) bs a := by
  intro s
  cases c with
  | true => exact h.appends_of rfl s
  | false => exact Post.throw (.refused (.refl s) rfl Bool.false_ne_true)

end Appends

section Rules

variable {R : σ → σ → Prop} {P Q : Prop} {s s1 : Enc σ} {xs ys : Bytes}
  {gs : List (Nat × Nat)} {ok : β → Enc σ → Prop}

/-- **ONE MORE STEP**, which cannot fail, of a program that has appended
    `xs` so far. -/
theorem Grew.step {err : Stop → Enc σ → Prop} {f : α → EncM σ β} {a : α}
    (hg : Grew s xs gs s1) (hm : Always m ys a)
    (hf : ∀ s2, Grew s (xs ++ ys) gs s2 → Post (f a) s2 ok err) :
    Post (m >>= f) s1 ok err := by
  refine Post.bind ((hm s1).mono (fun _ _ h => h) (fun _ _ h => h.elim)) ?_
  rintro x s2 ⟨rfl, hs2⟩
  exact hf s2 (hg.comp hs2)

/-- **ONE MORE STEP**, which can fail. -/
theorem Grew.attempt {f : α → EncM σ β} {a : α} (hg : Grew s xs gs s1)
    (hm : Appends O F m ys a) (hR : ∀ env, R env env) (hO : P → O s1)
    (hF : P → Q → F s1)
    (hf : ∀ s2, O s1 → F s1 → Grew s (xs ++ ys) gs s2 →
      Post (f a) s2 ok (fun e s' => Lost R P Q e s s')) :
    Post (m >>= f) s1 ok (fun e s' => Lost R P Q e s s') := by
  refine Post.bind ((hm s1).mono (fun _ _ h => h) ?_) ?_
  · intro e s' h
    exact h.after hg (fun h => h ▸ hR _) hO hF
  · rintro x s2 ⟨ho, hfit, rfl, hs2⟩
    exact hf s2 ho hfit (hg.comp hs2)

/-- The signature is zeroized behind its last use. -/
theorem Grew.zeroize {f : PUnit → EncM σ β} (hg : Grew s xs gs s1)
    (hf : ∀ s2, Grew { s with sig := s.sig.zeroize } xs gs s2 →
      Post (f ⟨⟩) s2 ok (fun e s' =>
        Lost R P Q e { s with sig := s.sig.zeroize } s')) :
    Post (modifyGet (fun t : Enc σ => (⟨⟩, { t with sig := t.sig.zeroize })) >>= f)
      s1 ok (fun e s' => Lost R P Q e s s') := by
  have hsig : s1.sig.zeroize = s.sig.zeroize := congrArg Signature.zeroize hg.sig
  exact Post.modify_bind ((hf { s1 with sig := s1.sig.zeroize }
    ⟨hg.opened, hg.saved, hsig, hg.env⟩).mono
    (fun _ _ h => h) (fun _ _ h => h.of_sig))

/-- The end of a program that has appended `xs`. -/
theorem Grew.ret {bs : Bytes} {a a' : α} {err : Stop → Enc σ → Prop}
    (hg : Grew s xs gs s1) (ha : a = a') (hb : xs = bs) :
    Post (pure a : EncM σ α) s1
      (fun x s' => x = a' ∧ Grew s bs gs s') err := by
  rw [← ha, ← hb]
  exact Post.pure ⟨rfl, hg⟩

/-- The end of a program that could fail. -/
theorem Grew.done {bs : Bytes} {a a' : α} {err : Stop → Enc σ → Prop}
    (hg : Grew s xs gs s1) (hP : P) (hQ : Q) (ha : a = a') (hb : xs = bs) :
    Post (pure a : EncM σ α) s1
      (fun x s' => P ∧ Q ∧ x = a' ∧ Grew s bs gs s') err := by
  rw [← ha, ← hb]
  exact Post.pure ⟨hP, hQ, rfl, hg⟩

/-! ## Opening gaps -/

theorem setWriter_bind {f : CertWriter → CertWriter} {k : PUnit → EncM σ α}
    {s : Enc σ} {ok : α → Enc σ → Prop} {err : Stop → Enc σ → Prop}
    (h : Post (k ⟨⟩) { s with writer := f s.writer } ok err) :
    Post (EncM.setWriter f >>= k) s ok err := ⟨h.holds⟩

/-- The span of the CSR is no part of the block. -/
theorem Grew.setRange {range : Nat × Nat} {f : PUnit → EncM σ β}
    {err : Stop → Enc σ → Prop} (hg : Grew s xs gs s1)
    (hf : ∀ s2, s2.writer.csrRange = some range → Grew s xs gs s2 →
      Post (f ⟨⟩) s2 ok err) :
    Post (EncM.setWriter (fun w => { w with csrRange := some range }) >>= f) s1
      ok err :=
  setWriter_bind (hf _ rfl ⟨⟨⟨hg.opened.shape, hg.opened.front,
    hg.opened.offset, hg.opened.bytes⟩, hg.opened.backtracks⟩, hg.saved,
    hg.sig, hg.env⟩)

/-- Skipping a gap is writing what is there. -/
theorem wrote_gap (w : CertWriter) (backtracks : List (Nat × Nat))
    (trace : List Event) :
    ∃ gap : Bytes, gap.length = 3 ∧
      Wrote w gap { w with
        backtracks := backtracks, offset := w.offset + 3, trace := trace } := by
  by_cases hin : w.offset + 3 ≤ w.certificate.capacity
  · have hlen : ((w.certificate.bytes.drop w.offset).take 3).length = 3 := by
      rw [List.length_take, List.length_drop, ResponseBuffer.length_bytes]
      omega
    refine ⟨(w.certificate.bytes.drop w.offset).take 3, hlen, rfl, rfl, ?_, ?_⟩
    · rw [hlen]
    · intro _
      refine (splice_self ?_).symm
      rw [ResponseBuffer.length_bytes]
      exact hin
  · refine ⟨[0, 0, 0], rfl, rfl, rfl, rfl, ?_⟩
    intro hcap
    exact absurd hcap hin

/-- **OPENING A GAP** takes a place on the stack. -/
theorem pushBacktrack_spec (s : Enc σ) :
    Post (EncM.pushBacktrack SIZE_TAG_OFFSET) s
      (fun off s' => s.writer.backtracks.length < MAX_BACKTRACKS ∧
        off = s.writer.offset + 3 ∧
        ∃ gap : Bytes, gap.length = 3 ∧
          Grew s gap [(s.writer.offset, s.writer.offset + 3)] s')
      (fun _ s' => ¬ s.writer.backtracks.length < MAX_BACKTRACKS ∧ s' = s) := by
  refine Post.get_bind (Post.rejectIf_bind ?_ fun hroom => ?_)
  · intro hfull
    exact ⟨Nat.not_lt_of_le (by simpa using hfull), rfl⟩
  · obtain ⟨gap, hgap, hwrote⟩ := wrote_gap s.writer
      ((s.writer.offset, s.writer.offset + 3) :: s.writer.backtracks)
      (s.writer.trace ++ [.reserved s.writer.offset])
    exact setWriter_bind (Post.pure ⟨Nat.lt_of_not_le (by simpa using hroom), rfl,
      gap, hgap, ⟨hwrote, rfl⟩, rfl, rfl, rfl⟩)

/-- A gap opened by a program that has appended `xs` so far. -/
theorem Grew.push {f : Nat → EncM σ β} (hg : Grew s xs gs s1)
    (hR : ∀ env, R env env)
    (hO : P → s.writer.backtracks.length + gs.length < MAX_BACKTRACKS)
    (hf : ∀ gap s2, gap.length = 3 →
      s.writer.backtracks.length + gs.length < MAX_BACKTRACKS →
      Grew s (xs ++ gap) ((s.writer.offset + xs.length,
        s.writer.offset + xs.length + 3) :: gs) s2 →
      Post (f (s.writer.offset + xs.length + 3)) s2 ok
        (fun e s' => Lost R P Q e s s')) :
    Post (EncM.pushBacktrack SIZE_TAG_OFFSET >>= f) s1 ok
      (fun e s' => Lost R P Q e s s') := by
  have hoff := hg.opened.offset
  have hstack : s1.writer.backtracks.length
      = s.writer.backtracks.length + gs.length := by
    rw [hg.opened.backtracks, List.length_append, Nat.add_comm]
  refine Post.bind ((pushBacktrack_spec s1).mono (fun _ _ h => h) ?_) ?_
  · rintro e _ ⟨hfull, rfl⟩
    rw [hstack] at hfull
    exact .refused hg (hR _) fun hP => hfull (hO hP)
  · rintro off s2 ⟨hroom, rfl, gap, hgap, hs2⟩
    rw [hstack] at hroom
    rw [hoff] at hs2 ⊢
    exact hf gap s2 hgap hroom (hg.comp hs2)

end Rules

/-! ## Filling gaps -/

/-- Going back to the last gap. -/
theorem popBacktrack_spec {width : Nat} {s : Enc σ} {g : Nat × Nat}
    {gs : List (Nat × Nat)} (hsaved : s.writer.savedOffset.isSome)
    (hstack : s.writer.backtracks = g :: gs) :
    Post (EncM.popBacktrack width) s
      (fun _ s' => g.2 - g.1 = width ∧ s' = { s with writer :=
        { s.writer with backtracks := gs, offset := g.1 } })
      (fun e s' => Lost Eq (g.2 - g.1 = width) True e s s') := by
  refine Post.get_bind (Post.rejectIf_bind ?_ fun _ => ?_)
  · intro hnone
    rw [Option.isNone_iff_eq_none] at hnone
    rw [hnone] at hsaved
    cases hsaved
  · rw [hstack]
    refine setWriter_bind (Post.rejectIf_bind ?_ fun hwidth => ?_)
    · intro hne
      exact ⟨rfl, rfl, rfl, fun hwidth => absurd hwidth (by simpa using hne)⟩
    · exact Post.modify ⟨by simpa using hwidth, rfl⟩

/-- The lengths `ns` go into the gaps on top of the stack. -/
def patches (stop : Nat) : List (Nat × Nat) → List Nat → List Event
  | g :: gs, n :: ns => .patched g.1 n stop :: patches stop gs ns
  | _, _ => []

/-- What filling in `ns` leaves of the writer. -/
structure Filled (s : Enc σ) (gaps rest : List (Nat × Nat)) (ns : List Nat)
    (s' : Enc σ) : Prop where
  width : ∀ n ∈ ns, lengthWidth n = 3
  shape : s'.writer.certificate.shape = s.writer.certificate.shape
  front : s'.writer.certificate.front = s.writer.certificate.front
  csrRange : s'.writer.csrRange = s.writer.csrRange
  backtracks : s'.writer.backtracks = rest
  savedOffset : s'.writer.savedOffset = s.writer.savedOffset
  trace : ∀ stop, s.writer.savedOffset = some stop →
    s'.writer.trace = s.writer.trace ++ patches stop gaps ns
  sig : s'.sig = s.sig
  env : s'.env = s.env
  bytes : (∀ g ∈ gaps, g.1 + 3 ≤ s.writer.certificate.capacity) →
    s'.writer.certificate.bytes = fillAll s.writer.certificate.bytes gaps ns

/-- The size field in the place of one gap. -/
theorem encodeSizeField_spec (n : Nat) (s : Enc σ) :
    Post (EncM.emit (CertWriter.encodeSizeField n)) s
      (fun m s' => m = (lengthField n).length ∧
        Wrote s.writer (lengthField n) s'.writer ∧ Idle s.writer s'.writer ∧
        s'.sig = s.sig ∧ s'.env = s.env)
      (fun _ _ => False) := by
  obtain ⟨hm, hw, hi⟩ := CertWriter.emits_encodeSizeField n s.writer
  exact ⟨⟨hm, hw, hi, rfl, rfl⟩⟩

theorem encodeSizes_spec {ns : List Nat} {s : Enc σ}
    {gaps rest : List (Nat × Nat)} (hsaved : s.writer.savedOffset.isSome)
    (hstack : s.writer.backtracks = gaps ++ rest)
    (hlen : gaps.length = ns.length) (hgap : ∀ g ∈ gaps, g.2 = g.1 + 3) :
    Post (EncM.encodeSizes ns) s
      (fun n s' => n = 3 * ns.length ∧ Filled s gaps rest ns s')
      (fun e s' => Lost Eq (∀ n ∈ ns, lengthWidth n = 3) True e s s') := by
  induction ns generalizing s gaps with
  | nil =>
      have hnil := List.length_eq_zero_iff.mp hlen
      rw [hnil] at hstack
      refine Post.pure ⟨rfl, ?_, rfl, rfl, rfl, hstack, rfl, ?_, rfl, rfl, ?_⟩
      · intro n hn
        cases hn
      · intro stop _
        rw [hnil]
        exact (List.append_nil _).symm
      · intro _
        rw [hnil]
        rfl
  | cons n ns ih =>
      obtain ⟨g, gs, rfl⟩ := List.exists_cons_of_length_eq_add_one hlen
      have hg := hgap g (List.mem_cons_self ..)
      rw [List.cons_append] at hstack
      refine Post.bind ((popBacktrack_spec hsaved hstack).mono
        (fun _ _ h => h) ?_) ?_
      · intro e s' h
        refine h.after (.refl s) id ?_ (fun _ h => h)
        intro hall
        rw [hg, CertWriter.getSizeWidth_eq, hall n (List.mem_cons_self ..)]
        omega
      rintro _ s1 ⟨hwidth, rfl⟩
      have hn : lengthWidth n = 3 := by
        rw [CertWriter.getSizeWidth_eq] at hwidth
        omega
      have hfield : (lengthField n).length = 3 := (lengthField_length n).trans hn
      refine setWriter_bind ?_
      refine Post.bind ((encodeSizeField_spec n _).mono
        (fun _ _ h => h) (fun _ _ h => h.elim)) ?_
      rintro m s2 ⟨rfl, hwrote, hidle, hsig, henv⟩
      have hsaved2 : s2.writer.savedOffset.isSome := by
        rw [hidle.savedOffset]
        exact hsaved
      have hlen2 : gs.length = ns.length := by simpa using hlen
      refine Post.bind ((ih hsaved2 hidle.backtracks hlen2 fun g' hg' =>
        hgap g' (List.mem_cons_of_mem _ hg')).mono (fun _ _ h => h) ?_) ?_
      · intro e s' h
        refine ⟨h.shape.trans hwrote.shape, h.front.trans hwrote.front,
          henv.symm.trans h.env, fun hall => h.blame fun m hm => ?_⟩
        exact hall m (List.mem_cons_of_mem _ hm)
      rintro m s3 ⟨rfl, hfilled⟩
      refine Post.pure ⟨?_, ?_⟩
      · rw [hfield, List.length_cons]
        omega
      · refine ⟨?_, hfilled.shape.trans hwrote.shape,
          hfilled.front.trans hwrote.front, hfilled.csrRange.trans hidle.csrRange,
          hfilled.backtracks, hfilled.savedOffset.trans hidle.savedOffset, ?_,
          hfilled.sig.trans hsig, hfilled.env.trans henv, ?_⟩
        · intro m hm
          rcases List.mem_cons.mp hm with rfl | hm
          · exact hn
          · exact hfilled.width m hm
        · intro stop hstop
          have hpatch : s2.writer.trace = s.writer.trace ++ [.patched g.1 n stop] := by
            rw [hidle.trace]
            show s.writer.trace ++ [.patched g.1 n (s.writer.savedOffset.getD g.1)] = _
            rw [hstop]
            rfl
          rw [hfilled.trace stop (hidle.savedOffset.trans hstop), hpatch,
            List.append_assoc]
          rfl
        · intro hin
          have hcap := hwrote.capacity
          have hg3 := hin g (List.mem_cons_self ..)
          have hinner : s2.writer.certificate.bytes
              = splice s.writer.certificate.bytes g.1 (lengthField n) := by
            refine hwrote.bytes ?_
            rw [hwrote.offset, hfield]
            exact hg3
          rw [hfilled.bytes, hinner]
          · rfl
          · intro g' hg'
            rw [hcap]
            exact hin g' (List.mem_cons_of_mem _ hg')

/-- **FILLING THE GAPS** of a block that has been appended. -/
theorem backtrack_spec {ns : List Nat} {s s1 : Enc σ} {bs bs' : Bytes}
    {gaps rest : List (Nat × Nat)} (hgrew : Grew s bs (gaps ++ rest) s1)
    (hfill : Fill s.writer.offset bs gaps ns bs') :
    Post (EncM.backtrackAndEncodeSize ns) s1
      (fun n s' => n = 3 * ns.length ∧ s.writer.savedOffset = none ∧
        (∀ n ∈ ns, lengthWidth n = 3) ∧
        s'.writer.csrRange = s1.writer.csrRange ∧ Grew s bs' rest s')
      (fun e s' => Lost Eq (s.writer.savedOffset = none ∧
        ∀ n ∈ ns, lengthWidth n = 3) True e s s') := by
  obtain ⟨hlen, hwide⟩ := hfill.gap_width
  have hstack : s1.writer.backtracks = gaps ++ (rest ++ s.writer.backtracks) := by
    rw [hgrew.opened.backtracks, List.append_assoc]
  have hstart : Post EncM.startBacktrack s1
      (fun _ s2 => s.writer.savedOffset = none ∧ s2 = { s1 with writer :=
        { s1.writer with savedOffset := some s1.writer.offset } })
      (fun e s' => Lost Eq (s.writer.savedOffset = none ∧
        ∀ n ∈ ns, lengthWidth n = 3) True e s s') := by
    refine Post.get_bind (Post.rejectIf_bind ?_ fun hnone => ?_)
    · intro hsome
      refine .refused hgrew rfl ?_
      rintro ⟨hnone, -⟩
      rw [hgrew.saved, hnone] at hsome
      cases hsome
    · rw [hgrew.saved, Option.isSome_eq_false_iff, Option.isNone_iff_eq_none]
        at hnone
      exact Post.modify ⟨hnone, rfl⟩
  refine Post.bind hstart ?_
  rintro _ s2 ⟨hsaved, hs2⟩
  have hstack2 : s2.writer.backtracks = gaps ++ (rest ++ s.writer.backtracks) := by
    rw [hs2]
    exact hstack
  have hsaved2 : s2.writer.savedOffset.isSome := by
    rw [hs2]
    rfl
  refine Post.bind ((encodeSizes_spec hsaved2 hstack2 hlen hwide).mono
    (fun _ _ h => h) ?_) ?_
  · intro e s' h
    rw [hs2] at h
    exact ⟨h.shape.trans hgrew.opened.shape, h.front.trans hgrew.opened.front,
      hgrew.env.symm.trans h.env, fun ho => h.blame ho.2⟩
  rintro n s3 ⟨rfl, hfilled⟩
  have hsaved3 : s3.writer.savedOffset = some s1.writer.offset := by
    rw [hfilled.savedOffset, hs2]
  have hend : Post EncM.endBacktrack s3
      (fun _ s4 => s4 = { s3 with writer :=
        { s3.writer with offset := s1.writer.offset, savedOffset := none } })
      (fun e s' => Lost Eq (s.writer.savedOffset = none ∧
        ∀ n ∈ ns, lengthWidth n = 3) True e s s') := by
    unfold EncM.endBacktrack
    refine Post.get_bind ?_
    rw [hsaved3]
    exact Post.modify rfl
  refine Post.bind hend ?_
  rintro _ s4 rfl
  rw [hs2] at hfilled
  refine Post.pure ⟨rfl, hsaved, hfilled.width, hfilled.csrRange,
    ⟨⟨⟨?_, ?_, ?_, ?_⟩, hfilled.backtracks⟩, hsaved.symm, ?_, ?_⟩⟩
  · exact hfilled.shape.trans hgrew.opened.shape
  · exact hfilled.front.trans hgrew.opened.front
  · rw [hfill.length_eq hfilled.width]
    exact hgrew.opened.offset
  · intro hcap
    have hoff := hgrew.opened.offset
    have hcap1 : s1.writer.offset ≤ s.writer.certificate.capacity := hcap
    have hin : ∀ g ∈ gaps, g.1 + 3 ≤ s1.writer.certificate.capacity := by
      intro g hg
      have hle := hfill.gap_le hfilled.width g hg
      rw [hgrew.opened.capacity]
      omega
    show s3.writer.certificate.bytes = _
    rw [hfilled.bytes hin]
    show fillAll s1.writer.certificate.bytes gaps ns = _
    rw [hgrew.opened.bytes hcap1]
    refine hfill.fillAll_eq hfilled.width ?_
    rw [ResponseBuffer.length_bytes]
    omega
  · exact hfilled.sig.trans hgrew.sig
  · exact hfilled.env.trans hgrew.env

section Rules

variable {R : σ → σ → Prop} {P Q : Prop} {s s1 : Enc σ} {f : Nat → EncM σ β}
  {rest : List (Nat × Nat)} {ok : β → Enc σ → Prop}

/-- Gaps filled in by a program that has appended `bs` so far. -/
theorem Grew.fill {ns : List Nat} {bs bs' : Bytes} {gaps : List (Nat × Nat)}
    (hg : Grew s bs (gaps ++ rest) s1)
    (hfill : Fill s.writer.offset bs gaps ns bs') (hR : ∀ env, R env env)
    (hO : P → s.writer.savedOffset = none ∧ ∀ n ∈ ns, lengthWidth n = 3)
    (hf : ∀ s2, s.writer.savedOffset = none → (∀ n ∈ ns, lengthWidth n = 3) →
      s2.writer.csrRange = s1.writer.csrRange → Grew s bs' rest s2 →
      Post (f (3 * ns.length)) s2 ok (fun e s' => Lost R P Q e s s')) :
    Post (EncM.backtrackAndEncodeSize ns >>= f) s1 ok
      (fun e s' => Lost R P Q e s s') := by
  refine Post.bind ((backtrack_spec hg hfill).mono (fun _ _ h => h) ?_) ?_
  · intro e s' h
    exact h.after (.refl s) (fun h => h ▸ hR _) hO fun _ _ => trivial
  · rintro n s2 ⟨rfl, hsaved, hw, hrange, hs2⟩
    exact hf s2 hsaved hw hrange hs2

/-- Filling in the last two gaps. -/
theorem Grew.fillTwo {n1 n2 : Nat} {A g1 B g2 Y : Bytes}
    (hg : Grew s (A ++ g1 ++ B ++ g2 ++ Y)
      ((s.writer.offset + (A ++ g1 ++ B).length,
          s.writer.offset + (A ++ g1 ++ B).length + 3)
        :: (s.writer.offset + A.length, s.writer.offset + A.length + 3)
        :: rest) s1)
    (h1 : g1.length = 3) (h2 : g2.length = 3) (hR : ∀ env, R env env)
    (hO : P → s.writer.savedOffset = none ∧ lengthWidth n2 = 3 ∧
      lengthWidth n1 = 3)
    (hf : ∀ s2, lengthWidth n2 = 3 → lengthWidth n1 = 3 →
      s2.writer.csrRange = s1.writer.csrRange →
      Grew s (A ++ lengthField n1 ++ (B ++ lengthField n2 ++ Y)) rest s2 →
      Post (f 6) s2 ok (fun e s' => Lost R P Q e s s')) :
    Post (EncM.backtrackAndEncodeSize [n2, n1] >>= f) s1 ok
      (fun e s' => Lost R P Q e s s') := by
  have hfill := Fill.two s.writer.offset n1 n2 A B Y h1 h2
  refine Grew.fill hg hfill hR ?_ fun s2 _ hw hrange hs2 => ?_
  · simpa using hO
  · exact hf s2 (hw n2 (by simp)) (hw n1 (by simp)) hrange hs2

/-- Filling in the last three gaps. -/
theorem Grew.fillThree {n1 n2 n3 : Nat} {A g1 B g2 C g3 Y : Bytes}
    (hg : Grew s (A ++ g1 ++ B ++ g2 ++ C ++ g3 ++ Y)
      ((s.writer.offset + (A ++ g1 ++ B ++ g2 ++ C).length,
          s.writer.offset + (A ++ g1 ++ B ++ g2 ++ C).length + 3)
        :: (s.writer.offset + (A ++ g1 ++ B).length,
          s.writer.offset + (A ++ g1 ++ B).length + 3)
        :: (s.writer.offset + A.length, s.writer.offset + A.length + 3)
        :: rest) s1)
    (h1 : g1.length = 3) (h2 : g2.length = 3) (h3 : g3.length = 3)
    (hR : ∀ env, R env env)
    (hO : P → s.writer.savedOffset = none ∧ lengthWidth n3 = 3 ∧
      lengthWidth n2 = 3 ∧ lengthWidth n1 = 3)
    (hf : ∀ s2, s.writer.savedOffset = none → lengthWidth n3 = 3 →
      lengthWidth n2 = 3 → lengthWidth n1 = 3 →
      Grew s (A ++ lengthField n1
        ++ (B ++ lengthField n2 ++ (C ++ lengthField n3 ++ Y))) rest s2 →
      Post (f 9) s2 ok (fun e s' => Lost R P Q e s s')) :
    Post (EncM.backtrackAndEncodeSize [n3, n2, n1] >>= f) s1 ok
      (fun e s' => Lost R P Q e s s') := by
  have hfill := Fill.three s.writer.offset n1 n2 n3 A B C Y h1 h2 h3
  refine Grew.fill hg hfill hR ?_ fun s2 hsaved hw _ hs2 => ?_
  · simpa using hO
  · exact hf s2 hsaved (hw n3 (by simp)) (hw n2 (by simp)) (hw n1 (by simp)) hs2

end Rules

end Dpe
