import Dpe.Model.Context
import Mathlib.Data.List.FinRange
import Mathlib.Logic.Function.Basic

/-! # The DPE state — a table of contexts

    The slots are indexed by `Fin b.maxHandles`.  An index found by a
    search of the table or by iterating over child bits is in range by
    its type, so the source's bounds checks on such an index have no
    counterpart here; a parent index is a number, and looking it up can
    fail. -/

namespace Dpe

variable {b : Build}

structure State (b : Build) where
  marker : UInt32
  version : UInt32
  contexts : Fin b.maxHandles → Context b
  support : Support
  flags : DpeFlags
  hasInitialized : Bool

namespace State

/-- `b"DPES"`, big endian. -/
def MAGIC : UInt32 := 0x44504553

def VERSION : UInt32 := 1

def new (b : Build) (support : Support) (flags : DpeFlags) : State b where
  marker := MAGIC
  version := VERSION
  contexts := fun _ => .new b
  support := support.preprocessSupport b
  flags := flags
  hasInitialized := false

/-- `self.contexts.get(idx)`. -/
def get? (s : State b) (idx : Nat) : Option (Context b) :=
  if h : idx < b.maxHandles then some (s.contexts ⟨idx, h⟩) else none

/-- `self.contexts[idx] = c`. -/
def set (s : State b) (idx : Fin b.maxHandles) (c : Context b) : State b :=
  { s with contexts := Function.update s.contexts idx c }

/-- Finds the index of the context having `handle` in `locality`.  The
    two filters are separate to tell a wrong locality from a wrong
    handle. -/
def getActiveContextPos (s : State b) (handle : ContextHandle)
    (locality : UInt32) : Except DpeErrorCode (Fin b.maxHandles) :=
  let validLocalities := (List.finRange b.maxHandles).filter fun i =>
    (s.contexts i).state == .active && (s.contexts i).locality == locality
  if validLocalities.isEmpty then .error .invalidLocality
  else
    let validHandlesAndLocalities := validLocalities.filter fun i =>
      (s.contexts i).handle == handle
    if validHandlesAndLocalities.isEmpty then .error .invalidHandle
    else
      match validHandlesAndLocalities.find? fun i =>
        (s.contexts i).state == .active && (s.contexts i).handle == handle
          && (s.contexts i).locality == locality with
      | some i => .ok i
      | none => .error InternalErrorCode.activeContextNotFound

def getNextInactiveContextPos (s : State b) : Option (Fin b.maxHandles) :=
  (List.finRange b.maxHandles).find? fun i =>
    (s.contexts i).state == .inactive

/-- All of `context`'s descendants.  The recursion follows child bits; it
    is given `MAX_HANDLES + 1` levels, which only a cycle can use up. -/
def getDescendants (s : State b) : Nat → Context b → Except Stop Children
  | 0, _ => .error .noReturn
  | fuel + 1, context =>
      if context.state = .inactive then
        .error (.err .invalidHandle)
      else
        (context.children.iter b).foldlM (fun descendants idx =>
          do
            let below ← s.getDescendants fuel (s.contexts idx)
            .ok (descendants.addChildren below))
          context.children

/-- Count number of contexts satisfying some predicate. -/
def countContexts (s : State b) (f : Context b → Bool) : Nat :=
  ((List.finRange b.maxHandles).filter fun i => f (s.contexts i)).length

/-! ## Looking things up -/

@[simp] theorem get?_fin (s : State b) (i : Fin b.maxHandles) :
    s.get? i.val = some (s.contexts i) :=
  dif_pos i.isLt

@[simp] theorem set_self (s : State b) (i : Fin b.maxHandles)
    (c : Context b) : (s.set i c).contexts i = c :=
  Function.update_self ..

theorem set_of_ne {s : State b} {i j : Fin b.maxHandles} {c : Context b}
    (h : j ≠ i) : (s.set i c).contexts j = s.contexts j :=
  Function.update_of_ne h ..

theorem set_apply (s : State b) (i j : Fin b.maxHandles) (c : Context b) :
    (s.set i c).contexts j = if j = i then c else s.contexts j :=
  Function.update_apply ..

@[simp] theorem set_support (s : State b) (i : Fin b.maxHandles)
    (c : Context b) : (s.set i c).support = s.support := rfl

@[simp] theorem set_hasInitialized (s : State b) (i : Fin b.maxHandles)
    (c : Context b) : (s.set i c).hasInitialized = s.hasInitialized := rfl

@[simp] theorem set_contexts_self (s : State b) (i : Fin b.maxHandles) :
    s.set i (s.contexts i) = s := by
  show { s with contexts := Function.update s.contexts i (s.contexts i) } = s
  rw [Function.update_eq_self]

/-- **RESOLUTION**: a handle that resolves names an active context of the
    caller's locality. -/
theorem getActiveContextPos_ok {s : State b} {handle : ContextHandle}
    {locality : UInt32} {i : Fin b.maxHandles}
    (h : s.getActiveContextPos handle locality = .ok i) :
    (s.contexts i).state = .active ∧ (s.contexts i).handle = handle
      ∧ (s.contexts i).locality = locality := by
  unfold getActiveContextPos at h
  dsimp only at h
  split at h
  · cases h
  · split at h
    · cases h
    · split at h
      · rename_i j hj
        cases h
        have hp := List.find?_some hj
        simp only [Bool.and_eq_true, beq_iff_eq] at hp
        exact ⟨hp.1.1, hp.1.2, hp.2⟩
      · cases h

/-- A handle fails to resolve only when no active context of the locality
    carries it. -/
theorem getActiveContextPos_error {s : State b} {handle : ContextHandle}
    {locality : UInt32} {e : DpeErrorCode}
    (h : s.getActiveContextPos handle locality = .error e)
    (i : Fin b.maxHandles) (hs : (s.contexts i).state = .active)
    (hl : (s.contexts i).locality = locality) :
    (s.contexts i).handle ≠ handle := by
  intro hh
  have hmem : i ∈ (List.finRange b.maxHandles).filter fun i =>
      (s.contexts i).state == .active && (s.contexts i).locality == locality := by
    simp [hs, hl]
  have hmem' : i ∈ ((List.finRange b.maxHandles).filter fun i =>
      (s.contexts i).state == .active && (s.contexts i).locality == locality).filter
        fun i => (s.contexts i).handle == handle :=
    List.mem_filter.mpr ⟨hmem, by simp [hh]⟩
  unfold getActiveContextPos at h
  dsimp only at h
  rw [if_neg (by rw [List.isEmpty_iff]; exact List.ne_nil_of_mem hmem),
    if_neg (by rw [List.isEmpty_iff]; exact List.ne_nil_of_mem hmem')] at h
  split at h
  · cases h
  · rename_i hnone
    have hno := List.find?_eq_none.mp hnone i hmem'
    simp [hs, hh, hl] at hno

theorem getNextInactiveContextPos_some {s : State b} {i : Fin b.maxHandles}
    (h : s.getNextInactiveContextPos = some i) :
    (s.contexts i).state = .inactive := by
  have hp := List.find?_some h
  simpa using hp

end State

end Dpe
