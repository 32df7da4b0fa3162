import Dpe.Model.ResponseBuffer
import Dpe.Proofs.Buffer

/-! # Windows — an offset buffer is the slice behind its base

    Two buffers mirror each other when every method, called on both with
    the same arguments, gives the same reply and leaves them mirrored.  A
    window over a slice mirrors the slice behind its base, mirroring goes
    through a further window, and it composes: that is all there is to a
    window, and to a window in a window. -/

namespace Dpe

open Splice

variable {p : PointerWidth} {S T U τ : Type}

/-! ## The slice -/

namespace ByteSlice

variable {s : ByteSlice p} {start stop : Usize p}

theorem getMut_some {q : s.Part} (h : s.getMut start stop = some q) :
    start.toNat ≤ stop.toNat ∧ q.start = start.toNat ∧
      q.len = stop.toNat - start.toNat := by
  unfold getMut at h
  split at h
  · rename_i hrange
    cases h
    exact ⟨BitVec.le_def.mp hrange.1, rfl, rfl⟩
  · cases h

theorem getMut_none (h : s.getMut start stop = none) :
    ¬ (start.toNat ≤ stop.toNat ∧ stop.toNat ≤ s.bytes.length) := by
  intro hin
  unfold getMut at h
  rw [dif_pos ⟨BitVec.le_def.mpr hin.1, BitVec.le_def.mpr hin.2⟩] at h
  cases h

/-- The part that a write asks for is as long as what is written: the
    copy does not panic. -/
theorem len_of_getMut {bytes : ByteSlice p} {q : s.Part}
    (hstop : Usize.checkedAdd start bytes.len = some stop)
    (h : s.getMut start stop = some q) : q.len = bytes.bytes.length := by
  obtain ⟨-, -, hlen⟩ := getMut_some h
  have hsum := Usize.checkedAdd_some hstop
  rw [toNat_len] at hsum
  omega

end ByteSlice

namespace SliceResponseBuffer

variable {s : SliceResponseBuffer p} {offset start stop : Usize p}
  {bytes : ByteSlice p}

/-- **A WRITE INSIDE** splices the bytes. -/
theorem writeAt_inside (s : SliceResponseBuffer p) (offset : Usize p)
    (bytes : ByteSlice p)
    (h : offset.toNat + bytes.bytes.length ≤ s.buf.bytes.length) :
    (s.writeAt offset bytes).1 = .ok () ∧
      (s.writeAt offset bytes).2.buf.bytes
        = splice s.buf.bytes offset.toNat bytes.bytes := by
  have hfits := s.buf.fits
  cases hstop : Usize.checkedAdd offset bytes.len with
  | none =>
      have hover := Usize.checkedAdd_none hstop
      rw [ByteSlice.toNat_len] at hover
      omega
  | some stop =>
      have hsum := Usize.checkedAdd_some hstop
      rw [ByteSlice.toNat_len] at hsum
      cases hpart : s.buf.getMut offset stop with
      | none => exact absurd ⟨by omega, by omega⟩ (ByteSlice.getMut_none hpart)
      | some part =>
          have hwrite : s.writeAt offset bytes
              = (.ok (), { s with buf := part.copyFromSlice bytes }) := by
            simp only [writeAt, hstop, hpart]
          have hlen := ByteSlice.len_of_getMut hstop hpart
          obtain ⟨-, hstart, -⟩ := ByteSlice.getMut_some hpart
          rw [hwrite]
          refine ⟨rfl, ?_⟩
          show splice s.buf.bytes part.start (bytes.bytes.take part.len) = _
          rw [hstart, hlen, List.take_length]

/-- **A WRITE PAST THE END** changes nothing. -/
theorem writeAt_past
    (h : s.buf.bytes.length < offset.toNat + bytes.bytes.length) :
    s.writeAt offset bytes = (.error .overflow, s) := by
  cases hstop : Usize.checkedAdd offset bytes.len with
  | none => simp only [writeAt, hstop]
  | some stop =>
      have hsum := Usize.checkedAdd_some hstop
      rw [ByteSlice.toNat_len] at hsum
      cases hpart : s.buf.getMut offset stop with
      | none => simp only [writeAt, hstop, hpart]
      | some part =>
          have hinside := part.inside
          have hlen := ByteSlice.len_of_getMut hstop hpart
          obtain ⟨-, hstart, -⟩ := ByteSlice.getMut_some hpart
          omega

/-- **A READ INSIDE** hands the bytes of the range to the closure. -/
theorem readRange_inside {f : Reader p τ} {t : τ} (chunk : ByteSlice p)
    (h : start.toNat ≤ stop.toNat ∧ stop.toNat ≤ s.buf.bytes.length)
    (hchunk : chunk.bytes
      = (s.buf.bytes.drop start.toNat).take (stop.toNat - start.toNat)) :
    s.readRange start stop f t = f chunk t := by
  cases hpart : s.buf.getMut start stop with
  | none => exact absurd h (ByteSlice.getMut_none hpart)
  | some part =>
      obtain ⟨-, hstart, hlen⟩ := ByteSlice.getMut_some hpart
      have hread : part.read = chunk := by
        apply ByteSlice.ext
        show (s.buf.bytes.drop part.start).take part.len = chunk.bytes
        rw [hstart, hlen, hchunk]
      simp only [readRange, ByteSlice.get, hpart, Option.map_some, hread]

/-- **A READ PAST THE END** does not call the closure. -/
theorem readRange_past {f : Reader p τ} {t : τ}
    (h : ¬ (start.toNat ≤ stop.toNat ∧ stop.toNat ≤ s.buf.bytes.length)) :
    s.readRange start stop f t = (.error .overflow, t) := by
  cases hpart : s.buf.getMut start stop with
  | none => simp only [readRange, ByteSlice.get, hpart, Option.map_none]
  | some part =>
      have hinside := part.inside
      obtain ⟨hle, hstart, hlen⟩ := ByteSlice.getMut_some hpart
      exact absurd ⟨hle, by omega⟩ h

end SliceResponseBuffer

/-! ## Mirrors -/

section Mirrors

variable [ResponseBufferTrait S p] [ResponseBufferTrait T p]
  [ResponseBufferTrait U p]

/-- Two methods that end alike: the same reply, and buffers related by
    `R`. -/
structure Alike (R : S → T → Prop) (m : BufferOutcome S)
    (n : BufferOutcome T) : Prop where
  reply : m.1 = n.1
  buffers : R m.2 n.2

/-- Every method keeps `R` and replies the same on both sides of it. -/
structure Mirrors (R : S → T → Prop) : Prop where
  clear : ∀ {s t}, R s t →
    Alike R (ResponseBufferTrait.clear s) (ResponseBufferTrait.clear t)
  writeAt : ∀ {s t} (offset : Usize p) (bytes : ByteSlice p), R s t →
    Alike R (ResponseBufferTrait.writeAt s offset bytes)
      (ResponseBufferTrait.writeAt t offset bytes)
  readRange : ∀ {s t} {τ : Type} (start stop : Usize p) (f : Reader p τ) (x : τ),
    R s t → ResponseBufferTrait.readRange s start stop f x
      = ResponseBufferTrait.readRange t start stop f x
  capacity : ∀ {s t}, R s t →
    ResponseBufferTrait.capacity s = ResponseBufferTrait.capacity t

namespace Mirrors

variable {R : S → T → Prop} {R' : T → U → Prop} {s : S} {t : T}

/-- One call on mirrored buffers. -/
theorem call (h : Mirrors R) (hst : R s t) (op : BufferOp p τ) (x : τ) :
    (op.call s x).1 = (op.call t x).1 ∧
      R (op.call s x).2.1 (op.call t x).2.1 ∧
      (op.call s x).2.2 = (op.call t x).2.2 := by
  cases op with
  | clear =>
      obtain ⟨hreply, hbuffers⟩ := h.clear hst
      exact ⟨congrArg BufferReply.result hreply, hbuffers, rfl⟩
  | writeAt offset bytes =>
      obtain ⟨hreply, hbuffers⟩ := h.writeAt offset bytes hst
      exact ⟨congrArg BufferReply.result hreply, hbuffers, rfl⟩
  | readRange start stop f =>
      have hread := h.readRange start stop f x hst
      exact ⟨congrArg (fun r : Except ResponseBufError Unit × τ =>
        BufferReply.result r.1) hread, hst,
        congrArg Prod.snd hread⟩
  | capacity => exact ⟨congrArg BufferReply.capacity (h.capacity hst), hst, rfl⟩

/-- **A SEQUENCE OF CALLS** on mirrored buffers. -/
theorem runAll (h : Mirrors R) (hst : R s t) (ops : List (BufferOp p τ)) (x : τ) :
    (BufferOp.runAll ops s x).replies = (BufferOp.runAll ops t x).replies ∧
      R (BufferOp.runAll ops s x).buffer (BufferOp.runAll ops t x).buffer ∧
      (BufferOp.runAll ops s x).captured = (BufferOp.runAll ops t x).captured := by
  induction ops generalizing s t x with
  | nil => exact ⟨rfl, hst, rfl⟩
  | cons op ops ih =>
      obtain ⟨hreply, hbuffers, hcaptured⟩ := h.call hst op x
      obtain ⟨hreplies, hend, hlast⟩ := ih hbuffers (op.call s x).2.2
      rw [hcaptured] at hreplies hend hlast
      simp only [BufferOp.runAll]
      rw [hreply, hcaptured]
      exact ⟨congrArg _ hreplies, hend, hlast⟩

/-- Mirroring composes. -/
theorem trans (h : Mirrors R) (h' : Mirrors R') : Mirrors (Relation.Comp R R') where
  clear := by
    rintro s u ⟨t, hst, htu⟩
    obtain ⟨hreply, hbuffers⟩ := h.clear hst
    obtain ⟨hreply', hbuffers'⟩ := h'.clear htu
    exact ⟨hreply.trans hreply', _, hbuffers, hbuffers'⟩
  writeAt := by
    rintro s u offset bytes ⟨t, hst, htu⟩
    obtain ⟨hreply, hbuffers⟩ := h.writeAt offset bytes hst
    obtain ⟨hreply', hbuffers'⟩ := h'.writeAt offset bytes htu
    exact ⟨hreply.trans hreply', _, hbuffers, hbuffers'⟩
  readRange := by
    rintro s u τ start stop f x ⟨t, hst, htu⟩
    exact (h.readRange start stop f x hst).trans (h'.readRange start stop f x htu)
  capacity := by
    rintro s u ⟨t, hst, htu⟩
    exact (h.capacity hst).trans (h'.capacity htu)

end Mirrors

end Mirrors

/-! ## A window over mirrored buffers -/

namespace OffsetResponseBuffer

variable [ResponseBufferTrait S p] [ResponseBufferTrait T p] {R : S → T → Prop}
  {s : OffsetResponseBuffer S p} {t : OffsetResponseBuffer T p}

/-- Windows at one base over buffers related by `R`. -/
structure Over (R : S → T → Prop) (s : OffsetResponseBuffer S p)
    (t : OffsetResponseBuffer T p) : Prop where
  inner : R s.inner t.inner
  base : s.base = t.base

theorem Over.writeAt (hR : Mirrors R) (h : Over R s t) (offset : Usize p)
    (bytes : ByteSlice p) :
    Alike (Over R) (s.writeAt offset bytes) (t.writeAt offset bytes) := by
  unfold OffsetResponseBuffer.writeAt
  rw [h.base]
  cases Usize.checkedAdd t.base offset with
  | none => exact ⟨rfl, h⟩
  | some adjusted =>
      obtain ⟨hreply, hbuffers⟩ := hR.writeAt adjusted bytes h.inner
      exact ⟨hreply, hbuffers, rfl⟩

/-- The loops of `clear` run in step. -/
theorem Over.clearFrom (hR : Mirrors R) (h : Over R s t) (n : Nat) (i : Usize p) :
    Alike (Over R) (clearFrom n i s) (clearFrom n i t) := by
  induction n generalizing s t i with
  | zero => exact ⟨rfl, h⟩
  | succ n ih =>
      obtain ⟨hreply, hbuffers⟩ := h.writeAt hR i (ByteSlice.zero p)
      simp only [OffsetResponseBuffer.clearFrom]
      cases hs : s.writeAt i (ByteSlice.zero p) with
      | mk r s' =>
          cases ht : t.writeAt i (ByteSlice.zero p) with
          | mk r' t' =>
              rw [hs, ht] at hreply hbuffers
              cases hreply
              cases r with
              | ok _ => exact ih hbuffers (i + 1)
              | error e => exact ⟨rfl, hbuffers⟩

/-- **MIRRORING GOES THROUGH A WINDOW.** -/
theorem Over.mirrors (hR : Mirrors R) :
    Mirrors (Over (p := p) R) where
  clear := by
    intro s t h
    have hcap : s.capacity = t.capacity := by
      unfold OffsetResponseBuffer.capacity
      rw [hR.capacity h.inner, h.base]
    show Alike (Over R) (OffsetResponseBuffer.clear s) (OffsetResponseBuffer.clear t)
    unfold OffsetResponseBuffer.clear
    rw [hcap]
    exact h.clearFrom hR _ 0
  writeAt := fun offset bytes h => h.writeAt hR offset bytes
  readRange := by
    intro s t τ start stop f x h
    show s.readRange start stop f x = t.readRange start stop f x
    unfold OffsetResponseBuffer.readRange
    rw [h.base]
    cases Usize.checkedAdd t.base start with
    | none => rfl
    | some start' =>
        cases Usize.checkedAdd t.base stop with
        | none => rfl
        | some stop' => exact hR.readRange start' stop' f x h.inner
  capacity := by
    intro s t h
    show s.capacity = t.capacity
    unfold OffsetResponseBuffer.capacity
    rw [hR.capacity h.inner, h.base]

/-! ## A window over a slice -/

variable {front : Bytes} {w : OffsetResponseBuffer (SliceResponseBuffer p) p}
  {v : SliceResponseBuffer p}

/-- The window `w` shows `v`, and `front` lies before it. -/
structure Shows (front : Bytes) (w : OffsetResponseBuffer (SliceResponseBuffer p) p)
    (v : SliceResponseBuffer p) : Prop where
  base : w.base.toNat = front.length
  bytes : w.inner.buf.bytes = front ++ v.buf.bytes

theorem Shows.length (h : Shows front w v) :
    front.length + v.buf.bytes.length < 2 ^ p.bits := by
  have hfits := w.inner.buf.fits
  rw [h.bytes, List.length_append] at hfits
  exact hfits

/-- An addition to the base overflows only past the end. -/
theorem Shows.checkedAdd (h : Shows front w v) {i : Usize p}
    (hi : i.toNat ≤ v.buf.bytes.length) :
    ∃ j, Usize.checkedAdd w.base i = some j ∧ j.toNat = front.length + i.toNat := by
  have hlength := h.length
  cases hj : Usize.checkedAdd w.base i with
  | none =>
      have hover := Usize.checkedAdd_none hj
      rw [h.base] at hover
      omega
  | some j =>
      have hsum := Usize.checkedAdd_some hj
      rw [h.base] at hsum
      exact ⟨j, rfl, hsum⟩

theorem Shows.writeAt (h : Shows front w v) (offset : Usize p)
    (bytes : ByteSlice p) :
    Alike (Shows front) (w.writeAt offset bytes) (v.writeAt offset bytes) := by
  have hlen : w.inner.buf.bytes.length = front.length + v.buf.bytes.length := by
    rw [h.bytes, List.length_append]
  by_cases hin : offset.toNat + bytes.bytes.length ≤ v.buf.bytes.length
  · obtain ⟨adjusted, hadd, hsum⟩ := h.checkedAdd (Nat.le_of_add_right_le hin)
    obtain ⟨hr, hbuf⟩ := SliceResponseBuffer.writeAt_inside v offset bytes hin
    obtain ⟨hr', hbuf'⟩ := SliceResponseBuffer.writeAt_inside w.inner adjusted bytes
      (by omega)
    have hwrite : w.writeAt offset bytes
        = ((w.inner.writeAt adjusted bytes).1,
            { w with inner := (w.inner.writeAt adjusted bytes).2 }) := by
      unfold OffsetResponseBuffer.writeAt
      rw [hadd]
      rfl
    rw [hwrite]
    refine ⟨hr'.trans hr.symm, h.base, ?_⟩
    rw [hbuf', hbuf, h.bytes, hsum, splice_append_left]
  · have hpast := Nat.lt_of_not_le hin
    rw [SliceResponseBuffer.writeAt_past hpast]
    unfold OffsetResponseBuffer.writeAt
    cases hadd : Usize.checkedAdd w.base offset with
    | none => exact ⟨rfl, h⟩
    | some adjusted =>
        have hsum := Usize.checkedAdd_some hadd
        rw [h.base] at hsum
        have hfail : w.inner.writeAt adjusted bytes = (.error .overflow, w.inner) :=
          SliceResponseBuffer.writeAt_past (by omega)
        show Alike (Shows front)
          ((w.inner.writeAt adjusted bytes).1,
            { w with inner := (w.inner.writeAt adjusted bytes).2 }) _
        rw [hfail]
        exact ⟨rfl, h⟩

theorem Shows.readRange (h : Shows front w v) (start stop : Usize p)
    (f : Reader p τ) (x : τ) :
    w.readRange start stop f x = v.readRange start stop f x := by
  have hlen : w.inner.buf.bytes.length = front.length + v.buf.bytes.length := by
    rw [h.bytes, List.length_append]
  by_cases hin : start.toNat ≤ stop.toNat ∧ stop.toNat ≤ v.buf.bytes.length
  · obtain ⟨start', hstart, hsum⟩ := h.checkedAdd (Nat.le_trans hin.1 hin.2)
    obtain ⟨stop', hstop, hsum'⟩ := h.checkedAdd hin.2
    have hfits : ((v.buf.bytes.drop start.toNat).take
        (stop.toNat - start.toNat)).length < 2 ^ p.bits := by
      have hlength := h.length
      rw [List.length_take, List.length_drop]
      omega
    rw [SliceResponseBuffer.readRange_inside ⟨_, hfits⟩ hin rfl]
    unfold OffsetResponseBuffer.readRange
    rw [hstart, hstop]
    refine SliceResponseBuffer.readRange_inside _ ⟨by omega, by omega⟩ ?_
    show _ = (w.inner.buf.bytes.drop start'.toNat).take (stop'.toNat - start'.toNat)
    rw [h.bytes, hsum, hsum', List.drop_length_add_append, Nat.add_sub_add_left]
  · rw [SliceResponseBuffer.readRange_past hin]
    unfold OffsetResponseBuffer.readRange
    cases hstart : Usize.checkedAdd w.base start with
    | none => rfl
    | some start' =>
        cases hstop : Usize.checkedAdd w.base stop with
        | none => rfl
        | some stop' =>
            have hsum := Usize.checkedAdd_some hstart
            have hsum' := Usize.checkedAdd_some hstop
            rw [h.base] at hsum hsum'
            exact SliceResponseBuffer.readRange_past (by omega)

theorem Shows.capacity (h : Shows front w v) : w.capacity = v.capacity := by
  apply BitVec.eq_of_toNat_eq
  show (Usize.saturatingSub w.inner.buf.len w.base).toNat = v.buf.bytes.length
  rw [Usize.toNat_saturatingSub, ByteSlice.toNat_len, h.bytes, h.base,
    List.length_append]
  omega

/-- Round `i` of the loop zeroes place `i`. -/
theorem Shows.clearFrom (h : Shows front w v) {n : Nat} {i : Usize p}
    {rest : Bytes} (hrest : rest.length = n)
    (hzero : v.buf.bytes = List.replicate i.toNat 0 ++ rest) :
    Alike (Shows front) (clearFrom n i w) v.clear := by
  induction n generalizing w v i rest with
  | zero =>
      have hclear : v.clear.2 = v := by
        apply SliceResponseBuffer.ext
        apply ByteSlice.ext
        show List.replicate v.buf.bytes.length 0 = v.buf.bytes
        rw [hzero, List.length_eq_zero_iff.mp hrest, List.append_nil,
          List.length_replicate]
      refine ⟨rfl, ?_⟩
      rw [hclear]
      exact h
  | succ n ih =>
      obtain ⟨x, rest', rfl⟩ := List.exists_cons_of_length_eq_add_one hrest
      have hlength := h.length
      have hlen : v.buf.bytes.length = i.toNat + (n + 1) := by
        rw [hzero, List.length_append, List.length_replicate, hrest]
      have hnext : (i + 1).toNat = i.toNat + 1 := by
        have hone : (1 : Usize p).toNat = 1 := Nat.mod_eq_of_lt p.one_lt
        rw [BitVec.toNat_add_of_lt (by omega), hone]
      obtain ⟨hr, hbuf⟩ := SliceResponseBuffer.writeAt_inside v i (ByteSlice.zero p)
        (by rw [hlen]; exact Nat.add_le_add_left (Nat.succ_le_succ n.zero_le) _)
      have hstep : (v.writeAt i (ByteSlice.zero p)).2.buf.bytes
          = List.replicate (i + 1).toNat 0 ++ rest' := by
        have hdone := splice_append_cons (List.replicate i.toNat 0) rest' x 0
        rw [List.length_replicate] at hdone
        rw [hbuf, hzero, hnext, List.replicate_succ', List.append_assoc]
        exact hdone
      have hclear : (v.writeAt i (ByteSlice.zero p)).2.clear = v.clear := by
        refine Prod.ext rfl ?_
        apply SliceResponseBuffer.ext
        apply ByteSlice.ext
        show List.replicate (v.writeAt i (ByteSlice.zero p)).2.buf.bytes.length 0
          = List.replicate v.buf.bytes.length 0
        rw [hstep, hlen, List.length_append, List.length_replicate, hnext]
        congr 1
        rw [List.length_cons] at hrest
        omega
      obtain ⟨hreply, hbuffers⟩ := h.writeAt i (ByteSlice.zero p)
      simp only [OffsetResponseBuffer.clearFrom]
      cases hw : w.writeAt i (ByteSlice.zero p) with
      | mk r w' =>
          rw [hw, hr] at hreply
          rw [hw] at hbuffers
          cases hreply
          rw [← hclear]
          exact ih hbuffers (Nat.succ.inj hrest) hstep

/-- **A WINDOW MIRRORS** the slice that it shows. -/
theorem Shows.mirrors (front : Bytes) : Mirrors (Shows (p := p) front) where
  clear := by
    intro w v h
    have hcap : w.capacity.toNat = v.buf.bytes.length := congrArg BitVec.toNat h.capacity
    show Alike (Shows front)
      (OffsetResponseBuffer.clearFrom w.capacity.toNat 0 w) v.clear
    exact h.clearFrom hcap.symm rfl
  writeAt := fun offset bytes h => h.writeAt offset bytes
  readRange := fun start stop f x h => h.readRange start stop f x
  capacity := fun h => h.capacity

/-- A window is opened on the bytes from its base on. -/
theorem shows_new {buf : ByteSlice p} {base : Usize p} (h : base ≤ buf.len) :
    Shows (buf.bytes.take base.toNat) (new (SliceResponseBuffer.new buf) base)
      (SliceResponseBuffer.new (buf.drop base.toNat)) where
  base := by
    have hle : base.toNat ≤ buf.bytes.length := BitVec.le_def.mp h
    rw [List.length_take]
    exact (Nat.min_eq_left hle).symm
  bytes := (List.take_append_drop base.toNat buf.bytes).symm

/-! ## Runs -/

variable {buf : ByteSlice p} {base : Usize p}

/-- A run through a window is a run on the slice behind its base. -/
theorem run_window (h : base ≤ buf.len) (ops : List (BufferOp p τ)) (t : τ) :
    let plain := BufferOp.runAll ops (SliceResponseBuffer.new (buf.drop base.toNat)) t
    let window := BufferOp.runAll ops (new (SliceResponseBuffer.new buf) base) t
    window.replies = plain.replies ∧ window.captured = plain.captured ∧
      window.buffer.inner.buf.bytes
        = buf.bytes.take base.toNat ++ plain.buffer.buf.bytes := by
  obtain ⟨hreplies, hend, hcaptured⟩ :=
    (Shows.mirrors _).runAll (shows_new h) ops t
  exact ⟨hreplies, hcaptured, hend.bytes⟩

/-- A run through a window in a window is a run on the slice behind both
    bases. -/
theorem run_nested {base₁ base₂ : Usize p} (h : base ≤ buf.len)
    (hsum : base₁.toNat + base₂.toNat = base.toNat)
    (ops : List (BufferOp p τ)) (t : τ) :
    let plain := BufferOp.runAll ops (SliceResponseBuffer.new (buf.drop base.toNat)) t
    let nested := BufferOp.runAll ops
      (new (new (SliceResponseBuffer.new buf) base₁) base₂) t
    nested.replies = plain.replies ∧ nested.captured = plain.captured ∧
      nested.buffer.inner.inner.buf.bytes
        = buf.bytes.take base.toNat ++ plain.buffer.buf.bytes := by
  have hle : base.toNat ≤ buf.bytes.length := BitVec.le_def.mp h
  have houter : base₁ ≤ buf.len := BitVec.le_def.mpr (by
    rw [ByteSlice.toNat_len]
    omega)
  have hinner : base₂ ≤ (buf.drop base₁.toNat).len := BitVec.le_def.mpr (by
    rw [ByteSlice.toNat_len]
    show base₂.toNat ≤ (buf.bytes.drop base₁.toNat).length
    rw [List.length_drop]
    omega)
  have hdrop : (buf.drop base₁.toNat).drop base₂.toNat = buf.drop base.toNat := by
    apply ByteSlice.ext
    show (buf.bytes.drop base₁.toNat).drop base₂.toNat = buf.bytes.drop base.toNat
    rw [List.drop_drop, hsum]
  have hshows := shows_new hinner
  rw [hdrop] at hshows
  have hover : Over (Shows (buf.bytes.take base₁.toNat))
      (new (new (SliceResponseBuffer.new buf) base₁) base₂)
      (new (SliceResponseBuffer.new (buf.drop base₁.toNat)) base₂) :=
    ⟨shows_new houter, rfl⟩
  obtain ⟨hreplies, ⟨mid, hmid, hend⟩, hcaptured⟩ :=
    ((Over.mirrors (Shows.mirrors _)).trans (Shows.mirrors _)).runAll
      ⟨_, hover, hshows⟩ ops t
  refine ⟨hreplies, hcaptured, ?_⟩
  rw [hmid.inner.bytes, hend.bytes, ← List.append_assoc, ← hsum]
  congr 1
  exact List.take_add.symm

/-- **A WINDOW IS A SLICE.**  Whatever is called through a window, the
    replies, what the closures were handed and the bytes behind the base
    are those of the slice behind the base; the bytes before it are
    neither changed nor of any account, and two windows are one at the sum
    of their bases. -/
theorem runAll_window (buf : ByteSlice p) (base : Usize p) (hbase : base ≤ buf.len)
    (ops : List (BufferOp p τ)) (t : τ) :
    let plain := BufferOp.runAll ops (SliceResponseBuffer.new (buf.drop base.toNat)) t
    let window := BufferOp.runAll ops (new (SliceResponseBuffer.new buf) base) t
    (window.replies = plain.replies ∧ window.captured = plain.captured ∧
      window.buffer.inner.buf.bytes
        = buf.bytes.take base.toNat ++ plain.buffer.buf.bytes) ∧
    (∀ other : ByteSlice p, other.len = buf.len →
      other.drop base.toNat = buf.drop base.toNat →
      let apart := BufferOp.runAll ops (new (SliceResponseBuffer.new other) base) t
      apart.replies = window.replies ∧ apart.captured = window.captured) ∧
    ∀ base₁ base₂ : Usize p, base₁.toNat + base₂.toNat = base.toNat →
      let nested := BufferOp.runAll ops
        (new (new (SliceResponseBuffer.new buf) base₁) base₂) t
      nested.replies = window.replies ∧ nested.captured = window.captured ∧
        nested.buffer.inner.inner.buf = window.buffer.inner.buf := by
  obtain ⟨hreplies, hcaptured, hbytes⟩ := run_window hbase ops t
  refine ⟨⟨hreplies, hcaptured, hbytes⟩, ?_, ?_⟩
  · intro other hlen hdrop
    have hother : base ≤ other.len := hlen ▸ hbase
    obtain ⟨hreplies', hcaptured', -⟩ := run_window hother ops t
    rw [hdrop] at hreplies' hcaptured'
    exact ⟨hreplies'.trans hreplies.symm, hcaptured'.trans hcaptured.symm⟩
  · intro base₁ base₂ hsum
    obtain ⟨hreplies', hcaptured', hbytes'⟩ := run_nested hbase hsum ops t
    refine ⟨hreplies'.trans hreplies.symm, hcaptured'.trans hcaptured.symm, ?_⟩
    exact ByteSlice.ext (hbytes'.trans hbytes.symm)

def sampleStore : ByteSlice .bits32 := ⟨[1, 2, 3, 4], by decide⟩

/-- A write, a write that would wrap around, a read into the captured
    state, and a clear. -/
def sampleCalls : List (BufferOp .bits32 Bytes) :=
  [.writeAt 1 ⟨[9], by decide⟩, .writeAt 0xFFFFFFFF ⟨[9], by decide⟩,
    .readRange 0 2 fun chunk seen => (.ok (), seen ++ chunk.bytes),
    .clear, .capacity]

/-- The last two of four bytes as a window. -/
theorem runAll_window_sample :
    let window := BufferOp.runAll sampleCalls
      (new (SliceResponseBuffer.new sampleStore) (2 : Usize .bits32)) []
    window.replies = [.result (.ok ()), .result (.error .overflow),
        .result (.ok ()), .result (.ok ()), .capacity 2] ∧
      window.captured = [3, 9] ∧
      window.buffer.inner.buf.bytes = [1, 2, 0, 0] := by
  obtain ⟨hreplies, hcaptured, hbytes⟩ :=
    (runAll_window sampleStore 2 (by decide) sampleCalls []).1
  refine ⟨hreplies.trans ?_, hcaptured.trans ?_, hbytes.trans ?_⟩
  · decide +kernel
  · decide +kernel
  · decide +kernel

end OffsetResponseBuffer

/-! ## The buffers that the commands write to -/

section Offsets

variable [ResponseBufferTrait S p] {view : S → ResponseBuffer}

/-- Seen through `view`, the buffer is a buffer whose offsets are numbers:
    the methods agree wherever a `usize` can point, and past that the
    buffer of numbers fails as well. -/
structure Models (view : S → ResponseBuffer) : Prop where
  capacity : ∀ s, (ResponseBufferTrait.capacity s).toNat = (view s).capacity
  writeAt_ok : ∀ {s offset bytes r},
    (view s).writeAt offset.toNat bytes.bytes = .ok r →
      (ResponseBufferTrait.writeAt s offset bytes).1 = .ok () ∧
        view (ResponseBufferTrait.writeAt s offset bytes).2 = r
  writeAt_error : ∀ {s offset bytes e},
    (view s).writeAt offset.toNat bytes.bytes = .error e →
      ResponseBufferTrait.writeAt s offset bytes = (.error e, s)
  writeAt_beyond : ∀ {s offset bytes}, 2 ^ p.bits ≤ offset →
    (view s).writeAt offset bytes = .error .overflow
  readRange_ok : ∀ {s start stop bytes},
    (view s).readRange start.toNat stop.toNat = .ok bytes →
      ∃ chunk : ByteSlice p, chunk.bytes = bytes ∧
        ∀ {τ : Type} (f : Reader p τ) (t : τ),
          ResponseBufferTrait.readRange s start stop f t = f chunk t
  readRange_error : ∀ {s start stop e},
    (view s).readRange start.toNat stop.toNat = .error e →
      ∀ {τ : Type} (f : Reader p τ) (t : τ),
        ResponseBufferTrait.readRange s start stop f t = (.error e, t)
  readRange_beyond : ∀ {s start stop},
    2 ^ p.bits ≤ start ∨ 2 ^ p.bits ≤ stop →
      (view s).readRange start stop = .error .overflow

/-- The slice of the commands. -/
theorem SliceResponseBuffer.models :
    Models fun s : SliceResponseBuffer p => ResponseBuffer.slice s.buf.bytes where
  capacity := fun _ => rfl
  writeAt_ok := by
    intro s offset bytes r h
    unfold ResponseBuffer.writeAt at h
    split at h
    · rename_i hin
      cases h
      obtain ⟨hr, hbuf⟩ := writeAt_inside s offset bytes hin
      exact ⟨hr, congrArg ResponseBuffer.slice hbuf⟩
    · cases h
  writeAt_error := by
    intro s offset bytes e h
    unfold ResponseBuffer.writeAt at h
    split at h
    · cases h
    · rename_i hpast
      cases h
      exact writeAt_past (Nat.lt_of_not_le hpast)
  writeAt_beyond := by
    intro s offset bytes h
    have hfits := s.buf.fits
    exact if_neg (by omega)
  readRange_ok := by
    intro s start stop bytes h
    unfold ResponseBuffer.readRange at h
    split at h
    · rename_i hin
      cases h
      have hfits := s.buf.fits
      refine ⟨⟨_, ?_⟩, rfl, fun f t => readRange_inside _ hin rfl⟩
      rw [List.length_take, List.length_drop]
      omega
    · cases h
  readRange_error := by
    intro s start stop e h τ f t
    unfold ResponseBuffer.readRange at h
    split at h
    · cases h
    · rename_i hpast
      cases h
      exact readRange_past hpast
  readRange_beyond := by
    intro s start stop h
    have hfits := s.buf.fits
    exact if_neg (by omega)

/-- A window of the commands over a buffer of the commands. -/
theorem OffsetResponseBuffer.models (hview : Models view) :
    Models fun s : OffsetResponseBuffer S p =>
      ResponseBuffer.offset (view s.inner) s.base.toNat where
  capacity := by
    intro s
    show (Usize.saturatingSub (ResponseBufferTrait.capacity s.inner) s.base).toNat = _
    rw [Usize.toNat_saturatingSub, hview.capacity]
    rfl
  writeAt_ok := by
    intro s offset bytes r h
    unfold ResponseBuffer.writeAt at h
    split at h
    · rename_i inner' hinner
      cases h
      show (s.writeAt offset bytes).1 = .ok () ∧
        ResponseBuffer.offset (view (s.writeAt offset bytes).2.inner)
          (s.writeAt offset bytes).2.base.toNat = _
      unfold OffsetResponseBuffer.writeAt
      cases hadd : Usize.checkedAdd s.base offset with
      | none =>
          rw [hview.writeAt_beyond (Usize.checkedAdd_none hadd)] at hinner
          cases hinner
      | some adjusted =>
          rw [← Usize.checkedAdd_some hadd] at hinner
          obtain ⟨hr, hbuf⟩ := hview.writeAt_ok hinner
          exact ⟨hr, congrArg (ResponseBuffer.offset · s.base.toNat) hbuf⟩
    · cases h
  writeAt_error := by
    intro s offset bytes e h
    unfold ResponseBuffer.writeAt at h
    split at h
    · cases h
    · rename_i e' hinner
      cases h
      show s.writeAt offset bytes = _
      unfold OffsetResponseBuffer.writeAt
      cases hadd : Usize.checkedAdd s.base offset with
      | none =>
          cases e'
          rfl
      | some adjusted =>
          rw [← Usize.checkedAdd_some hadd] at hinner
          have hfail := hview.writeAt_error hinner
          simp only [hfail]
  writeAt_beyond := by
    intro s offset bytes h
    rw [ResponseBuffer.writeAt, hview.writeAt_beyond (Nat.le_add_left_of_le h)]
  readRange_ok := by
    intro s start stop bytes h
    rw [ResponseBuffer.readRange] at h
    cases hstart : Usize.checkedAdd s.base start with
    | none =>
        rw [hview.readRange_beyond (.inl (Usize.checkedAdd_none hstart))] at h
        cases h
    | some start' =>
        cases hstop : Usize.checkedAdd s.base stop with
        | none =>
            rw [hview.readRange_beyond (.inr (Usize.checkedAdd_none hstop))] at h
            cases h
        | some stop' =>
            rw [← Usize.checkedAdd_some hstart, ← Usize.checkedAdd_some hstop] at h
            obtain ⟨chunk, hchunk, hread⟩ := hview.readRange_ok h
            refine ⟨chunk, hchunk, fun f t => ?_⟩
            show s.readRange start stop f t = _
            simp only [OffsetResponseBuffer.readRange, hstart, hstop]
            exact hread f t
  readRange_error := by
    intro s start stop e h τ f t
    rw [ResponseBuffer.readRange] at h
    show s.readRange start stop f t = _
    unfold OffsetResponseBuffer.readRange
    cases hstart : Usize.checkedAdd s.base start with
    | none =>
        cases e
        rfl
    | some start' =>
        cases hstop : Usize.checkedAdd s.base stop with
        | none =>
            cases e
            rfl
        | some stop' =>
            rw [← Usize.checkedAdd_some hstart, ← Usize.checkedAdd_some hstop] at h
            exact hview.readRange_error h f t
  readRange_beyond := by
    intro s start stop h
    rw [ResponseBuffer.readRange]
    exact hview.readRange_beyond (by omega)

end Offsets

end Dpe
