import Mathlib.Data.List.Basic
import Mathlib.Tactic.Common

/-! # Layouts — values of a fixed size in memory

    A layout says which bytes a value has and which value the bytes at the
    front of a buffer are.  The two are tied by one law: reading finds the
    valid value whose bytes the buffer starts with, and no other.  A
    structure without padding is the sequence of its fields. -/

universe u v

structure Layout (α : Type u) where
  /-- Width of every valid value. -/
  size : Nat
  /-- Addresses at which a value can be referred to. -/
  align : Nat
  Valid : α → Prop
  toBytes : α → List UInt8
  ofBytes : List UInt8 → Option α
  length_toBytes : ∀ a, Valid a → (toBytes a).length = size
  ofBytes_iff : ∀ bs a, ofBytes bs = some a ↔ Valid a ∧ toBytes a <+: bs

namespace Layout

variable {α : Type u} {β : Type v}

/-! ## Reading -/

/-- Reading behind the bytes of a valid value gives it back. -/
theorem ofBytes_append (l : Layout α) {a : α} (h : l.Valid a) (tail : List UInt8) :
    l.ofBytes (l.toBytes a ++ tail) = some a :=
  (l.ofBytes_iff _ _).mpr ⟨h, List.prefix_append _ _⟩

/-- Valid values with the same bytes are the same. -/
theorem toBytes_inj (l : Layout α) {a a' : α} (h : l.Valid a) (h' : l.Valid a')
    (heq : l.toBytes a = l.toBytes a') : a = a' := by
  have hread := l.ofBytes_append h []
  rw [heq, l.ofBytes_append h' []] at hread
  exact (Option.some.inj hread).symm

/-- What is read has its bytes at the front of the buffer. -/
theorem take_of_ofBytes (l : Layout α) {bs : List UInt8} {a : α}
    (h : l.ofBytes bs = some a) : bs.take l.size = l.toBytes a := by
  obtain ⟨hvalid, tail, rfl⟩ := (l.ofBytes_iff bs a).mp h
  rw [← l.length_toBytes a hvalid, List.take_left]

/-- A buffer of the very size is the bytes of what is read from it. -/
theorem toBytes_of_ofBytes (l : Layout α) {bs : List UInt8} {a : α}
    (h : l.ofBytes bs = some a) (hsize : bs.length = l.size) : l.toBytes a = bs := by
  rw [← l.take_of_ofBytes h, ← hsize, List.take_length]

/-- A reference to a value at `address`, which is the address of the
    buffer. -/
def refFromPrefix (l : Layout α) (address : Nat) (bs : List UInt8) : Option α :=
  if address % l.align = 0 then l.ofBytes bs else none

theorem refFromPrefix_iff (l : Layout α) {address : Nat} {bs : List UInt8} {a : α} :
    l.refFromPrefix address bs = some a
      ↔ address % l.align = 0 ∧ l.Valid a ∧ l.toBytes a <+: bs := by
  unfold refFromPrefix
  rw [← l.ofBytes_iff]
  split
  · rename_i haligned
    exact (and_iff_right haligned).symm
  · rename_i haligned
    exact iff_of_false nofun fun h => haligned h.1

/-- The value that a buffer of the very size is. -/
def tryReadFromBytes (l : Layout α) (bs : List UInt8) : Option α :=
  if bs.length = l.size then l.ofBytes bs else none

theorem tryReadFromBytes_some (l : Layout α) {bs : List UInt8} {a : α}
    (h : l.tryReadFromBytes bs = some a) :
    bs.length = l.size ∧ l.Valid a ∧ l.toBytes a = bs := by
  unfold tryReadFromBytes at h
  split at h
  · rename_i hsize
    exact ⟨hsize, ((l.ofBytes_iff bs a).mp h).1, l.toBytes_of_ofBytes h hsize⟩
  · cases h

/-! ## Fields -/

/-- No field at all. -/
def unit (a : α) (h : ∀ x : α, x = a) : Layout α where
  size := 0
  align := 1
  Valid _ := True
  toBytes _ := []
  ofBytes _ := some a
  length_toBytes _ _ := rfl
  ofBytes_iff bs x := by
    rw [h x]
    exact ⟨fun _ => ⟨trivial, List.nil_prefix⟩, fun _ => rfl⟩

/-- As many bytes. -/
def bytes (n : Nat) : Layout (Vector UInt8 n) where
  size := n
  align := 1
  Valid _ := True
  toBytes v := v.toList
  ofBytes bs :=
    if h : n ≤ bs.length then
      some ⟨(bs.take n).toArray, by rw [List.size_toArray, List.length_take_of_le h]⟩
    else none
  length_toBytes v _ := v.length_toList
  ofBytes_iff bs v := by
    rw [List.prefix_iff_eq_take, v.length_toList]
    constructor
    · intro h
      split at h
      · cases h
        exact ⟨trivial, rfl⟩
      · cases h
    · rintro ⟨-, htake⟩
      have hlen : n ≤ bs.length := by
        have hlen := congrArg List.length htake
        rw [v.length_toList, List.length_take] at hlen
        omega
      rw [dif_pos hlen, Option.some.injEq, ← Vector.toList_inj]
      exact htake.symm

/-- As many bytes, of a list. -/
def list (n : Nat) : Layout (List UInt8) where
  size := n
  align := 1
  Valid l := l.length = n
  toBytes l := l
  ofBytes bs := if n ≤ bs.length then some (bs.take n) else none
  length_toBytes _ h := h
  ofBytes_iff bs l := by
    constructor
    · intro h
      split at h
      · rename_i hlen
        cases h
        exact ⟨List.length_take_of_le hlen, List.take_prefix n bs⟩
      · cases h
    · rintro ⟨rfl, tail, rfl⟩
      rw [if_pos (by rw [List.length_append]; omega), List.take_left]

/-- A little-endian half word. -/
def word16 : Layout UInt16 where
  size := 2
  align := 2
  Valid _ := True
  toBytes x := [x.toUInt8, (x >>> 8).toUInt8]
  ofBytes
    | b0 :: b1 :: _ => some (.ofNat (b0.toNat + 256 * b1.toNat))
    | _ => none
  length_toBytes _ _ := rfl
  ofBytes_iff bs x := by
    rw [true_and]
    rcases bs with - | ⟨b0, - | ⟨b1, bs⟩⟩
    · exact iff_of_false nofun fun h => by simpa using h.length_le
    · exact iff_of_false nofun fun h => by simpa using h.length_le
    · have h0 := b0.toNat_lt
      have h1 := b1.toNat_lt
      have hx := x.toNat_lt
      simp only [Option.some.injEq, List.cons_prefix_cons, List.nil_prefix, and_true,
        ← UInt16.toNat_inj, ← UInt8.toNat_inj, UInt16.toNat_ofNat', UInt16.toNat_toUInt8,
        UInt16.toNat_shiftRight, UInt16.reduceToNat, Nat.shiftRight_eq_div_pow,
        Nat.reduceMod, Nat.reducePow]
      omega

/-- A little-endian word. -/
def word32 : Layout UInt32 where
  size := 4
  align := 4
  Valid _ := True
  toBytes x :=
    [x.toUInt8, (x >>> 8).toUInt8, (x >>> 16).toUInt8, (x >>> 24).toUInt8]
  ofBytes
    | b0 :: b1 :: b2 :: b3 :: _ =>
        some (.ofNat (b0.toNat + 256 * b1.toNat + 65536 * b2.toNat
          + 16777216 * b3.toNat))
    | _ => none
  length_toBytes _ _ := rfl
  ofBytes_iff bs x := by
    rw [true_and]
    rcases bs with - | ⟨b0, - | ⟨b1, - | ⟨b2, - | ⟨b3, bs⟩⟩⟩⟩
    · exact iff_of_false nofun fun h => by simpa using h.length_le
    · exact iff_of_false nofun fun h => by simpa using h.length_le
    · exact iff_of_false nofun fun h => by simpa using h.length_le
    · exact iff_of_false nofun fun h => by simpa using h.length_le
    · have h0 := b0.toNat_lt
      have h1 := b1.toNat_lt
      have h2 := b2.toNat_lt
      have h3 := b3.toNat_lt
      have hx := x.toNat_lt
      simp only [Option.some.injEq, List.cons_prefix_cons, List.nil_prefix, and_true,
        ← UInt32.toNat_inj, ← UInt8.toNat_inj, UInt32.toNat_ofNat', UInt32.toNat_toUInt8,
        UInt32.toNat_shiftRight, UInt32.reduceToNat, Nat.shiftRight_eq_div_pow,
        Nat.reduceMod, Nat.reducePow]
      omega

/-! ## Structures -/

/-- One field behind the other. -/
def seq (l : Layout α) (m : Layout β) : Layout (α × β) where
  size := l.size + m.size
  align := max l.align m.align
  Valid x := l.Valid x.1 ∧ m.Valid x.2
  toBytes x := l.toBytes x.1 ++ m.toBytes x.2
  ofBytes bs :=
    (l.ofBytes bs).bind fun a => (m.ofBytes (bs.drop l.size)).map fun b => (a, b)
  length_toBytes x h := by
    rw [List.length_append, l.length_toBytes x.1 h.1, m.length_toBytes x.2 h.2]
  ofBytes_iff bs x := by
    obtain ⟨a, b⟩ := x
    constructor
    · intro h
      obtain ⟨a', ha, h⟩ := Option.bind_eq_some_iff.mp h
      obtain ⟨b', hb, heq⟩ := Option.map_eq_some_iff.mp h
      cases heq
      obtain ⟨hvalid, tail, rfl⟩ := (l.ofBytes_iff _ _).mp ha
      rw [← l.length_toBytes a hvalid, List.drop_left] at hb
      obtain ⟨hvalid', hfront⟩ := (m.ofBytes_iff _ _).mp hb
      exact ⟨⟨hvalid, hvalid'⟩, (List.prefix_append_right_inj _).mpr hfront⟩
    · rintro ⟨⟨hvalid, hvalid'⟩, tail, rfl⟩
      rw [List.append_assoc, l.ofBytes_append hvalid, Option.bind_some,
        ← l.length_toBytes a hvalid, List.drop_left, m.ofBytes_append hvalid']
      rfl

@[simp] theorem toBytes_seq (l : Layout α) (m : Layout β) (x : α × β) :
    (l.seq m).toBytes x = l.toBytes x.1 ++ m.toBytes x.2 := rfl

/-- A type whose values are seen as those of another. -/
def view (l : Layout α) (f : β → α) (g : α → Option β)
    (h : ∀ a b, g a = some b ↔ f b = a) : Layout β where
  size := l.size
  align := l.align
  Valid b := l.Valid (f b)
  toBytes b := l.toBytes (f b)
  ofBytes bs := (l.ofBytes bs).bind g
  length_toBytes b := l.length_toBytes (f b)
  ofBytes_iff bs b := by
    rw [Option.bind_eq_some_iff]
    constructor
    · rintro ⟨a, ha, hg⟩
      cases (h a b).mp hg
      exact (l.ofBytes_iff bs _).mp ha
    · intro hb
      exact ⟨f b, (l.ofBytes_iff bs _).mpr hb, (h _ _).mpr rfl⟩

/-- `repr(align(n))`. -/
def aligned (n : Nat) (l : Layout α) : Layout α :=
  { l with align := max n l.align }

/-- Some values are not allowed. -/
def only (l : Layout α) (p : α → Bool) : Layout α where
  size := l.size
  align := l.align
  Valid a := l.Valid a ∧ p a = true
  toBytes := l.toBytes
  ofBytes bs := (l.ofBytes bs).filter p
  length_toBytes a h := l.length_toBytes a h.1
  ofBytes_iff bs a := by
    rw [Option.filter_eq_some_iff, l.ofBytes_iff]
    exact ⟨fun ⟨⟨hvalid, hbytes⟩, hp⟩ => ⟨⟨hvalid, hp⟩, hbytes⟩,
      fun ⟨⟨hvalid, hp⟩, hbytes⟩ => ⟨⟨hvalid, hbytes⟩, hp⟩⟩

/-! ## Every bit pattern -/

/-- Every buffer with `P` that is long enough is read. -/
def Reads (l : Layout α) (P : List UInt8 → Prop) : Prop :=
  ∀ bs : List UInt8, P bs → l.size ≤ bs.length → ∃ a, l.ofBytes bs = some a

/-- Every buffer that is long enough is read. -/
def Total (l : Layout α) : Prop := l.Reads fun _ => True

theorem total_bytes (n : Nat) : (bytes n).Total :=
  fun _ _ h => ⟨_, dif_pos h⟩

theorem total_list (n : Nat) : (list n).Total :=
  fun _ _ h => ⟨_, if_pos h⟩

theorem total_word16 : word16.Total := by
  rintro (- | ⟨b0, - | ⟨b1, bs⟩⟩) - h
  · cases h
  · simp [word16] at h
  · exact ⟨_, rfl⟩

theorem total_word32 : word32.Total := by
  rintro (- | ⟨b0, - | ⟨b1, - | ⟨b2, - | ⟨b3, bs⟩⟩⟩⟩) - h
  · cases h
  · simp [word32] at h
  · simp [word32] at h
  · simp [word32] at h
  · exact ⟨_, rfl⟩

variable {l : Layout α} {m : Layout β} {P : List UInt8 → Prop}

/-- What decides is the first field, if the second one takes everything. -/
theorem Reads.seq (hl : l.Reads P) (hm : m.Total) : (l.seq m).Reads P := by
  intro bs hP h
  have hlen : l.size + m.size ≤ bs.length := h
  obtain ⟨a, ha⟩ := hl bs hP (by omega)
  obtain ⟨x, hx⟩ := hm (bs.drop l.size) trivial (by rw [List.length_drop]; omega)
  refine ⟨(a, x), ?_⟩
  show (l.ofBytes bs).bind _ = _
  rw [ha, Option.bind_some, hx]
  rfl

/-- Nor does a view that has a value for each one of the fields. -/
theorem Reads.view (hl : l.Reads P) {g : α → Option β} (hsize : m.size = l.size)
    (hread : ∀ bs, m.ofBytes bs = (l.ofBytes bs).bind g)
    (honto : ∀ a, ∃ b, g a = some b) : m.Reads P := by
  intro bs hP hlen
  rw [hsize] at hlen
  obtain ⟨a, ha⟩ := hl bs hP hlen
  obtain ⟨b, hb⟩ := honto a
  refine ⟨b, ?_⟩
  rw [hread, ha, Option.bind_some, hb]

/-- A value is read from a buffer of its size. -/
theorem Reads.tryReadFromBytes (hl : l.Reads P) {bs : List UInt8} (hP : P bs)
    (hlen : bs.length = l.size) : ∃ a, l.tryReadFromBytes bs = some a := by
  obtain ⟨a, ha⟩ := hl bs hP (Nat.le_of_eq hlen.symm)
  exact ⟨a, (if_pos hlen).trans ha⟩

end Layout
