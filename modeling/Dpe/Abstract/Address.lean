import Dpe.Abstract.Shape

/-! # Addresses — under which name a context can be reached

    An active context is reached from its locality under its handle; no
    other context is reached at all.  The addresses of a state are a map
    from slots to such pairs.  This module says what each edit does to
    the map, and when an address leads to the slot that holds it. -/

namespace Dpe

variable {b : Build}

/-- A locality and a handle. -/
abbrev Address := UInt32 × ContextHandle

/-- The address of a context, if it is active. -/
def Context.address (c : Context b) : Option Address :=
  if c.state = .active then some (c.locality, c.handle) else none

/-- The addresses of a state. -/
def State.address (s : State b) (i : Fin b.maxHandles) : Option Address :=
  (s.contexts i).address

/-! ## Contexts -/

namespace Context

variable {c : Context b}

theorem address_some {locality : UInt32} {handle : ContextHandle} :
    c.address = some (locality, handle) ↔
      c.state = .active ∧ c.locality = locality ∧ c.handle = handle := by
  unfold address
  by_cases h : c.state = .active
  · rw [if_pos h, Option.some.injEq, Prod.mk.injEq]
    exact ⟨fun hp => ⟨h, hp⟩, fun hp => hp.2⟩
  · rw [if_neg h]
    exact ⟨fun hn => (by cases hn), fun hp => absurd hp.1 h⟩

theorem address_active (h : c.state = .active) :
    c.address = some (c.locality, c.handle) := if_pos h

theorem address_none (h : c.state ≠ .active) : c.address = none := if_neg h

theorem address_rename (h : c.state = .active) (handle : ContextHandle) :
    (c.rename handle).address = some (c.locality, handle) := if_pos h

@[simp] theorem address_measure (measurement cumulative : TciMeasurement b) :
    (c.measure measurement cumulative).address = c.address := rfl

@[simp] theorem address_retype (tciType : UInt32) :
    (c.retype tciType).address = c.address := rfl

@[simp] theorem address_retire : c.retire.address = none :=
  if_neg fun h => by cases h

theorem address_keep (h : c.state = .active) (kept : Option ContextHandle) :
    (c.keep kept).address = kept.map fun handle => (c.locality, handle) := by
  cases kept with
  | some handle => exact address_rename h handle
  | none => exact address_retire

@[simp] theorem address_withChild (idx : Fin b.maxHandles) :
    (c.withChild idx).address = c.address := rfl

@[simp] theorem address_without (marked : Children) :
    (c.without marked).address = c.address := rfl

@[simp] theorem address_destroy : c.destroy.address = none :=
  if_neg fun h => by cases h

@[simp] theorem address_activate (args : ActiveContextArgs) :
    (c.activate args).address = some (args.locality, args.handle) := if_pos rfl

end Context

/-! ## States -/

namespace State

variable {s : State b} {i j : Fin b.maxHandles} {locality : UInt32}
  {handle : ContextHandle}

theorem address_some : s.address i = some (locality, handle) ↔
    (s.contexts i).state = .active ∧ (s.contexts i).locality = locality ∧
      (s.contexts i).handle = handle := Context.address_some

/-- Replacing a context replaces its address. -/
theorem address_set (s : State b) (i : Fin b.maxHandles) (c : Context b) :
    (s.set i c).address = Function.update s.address i c.address := by
  funext j
  by_cases hj : j = i
  · rw [hj, Function.update_self, address, set_self]
  · rw [Function.update_of_ne hj, address, set_of_ne hj]
    rfl

/-- A handle that resolves is the address of the context found. -/
theorem address_of_resolves (h : s.getActiveContextPos handle locality = .ok i) :
    s.address i = some (locality, handle) := by
  obtain ⟨hactive, hhandle, hlocality⟩ := getActiveContextPos_ok h
  exact address_some.mpr ⟨hactive, hlocality, hhandle⟩

/-- A search of the slots finds the first that fits. -/
theorem find?_finRange {n : Nat} {p : Fin n → Bool} {i : Fin n} :
    (List.finRange n).find? p = some i ↔
      p i = true ∧ ∀ j < i, ¬ p j = true := by
  rw [List.find?_eq_some_iff_getElem]
  refine and_congr_right fun _ => ⟨?_, fun h => ?_⟩
  · rintro ⟨k, hk, rfl, hbefore⟩ j hj
    have hno := hbefore j.val (by simpa [Fin.lt_def] using hj)
    simpa using hno
  · refine ⟨i.val, by simp, by simp, fun j hj => ?_⟩
    have hno := h ⟨j, by omega⟩ (Fin.lt_def.mpr hj)
    simpa using hno

/-- **RESOLUTION BY ADDRESS**: a handle resolves to the first slot with
    its address. -/
theorem resolves_iff : s.getActiveContextPos handle locality = .ok i ↔
    s.address i = some (locality, handle) ∧
      ∀ j < i, s.address j ≠ some (locality, handle) := by
  have hfits : ∀ j, ((((s.contexts j).state = .active
      ∧ (s.contexts j).locality = locality) ∧ (s.contexts j).handle = handle
        ∧ ((s.contexts j).state = .active ∧ (s.contexts j).handle = handle)
          ∧ (s.contexts j).locality = locality) ↔
      s.address j = some (locality, handle)) := by
    intro j
    rw [address_some]
    tauto
  have hfind : s.address i = some (locality, handle) ∧
      (∀ j < i, s.address j ≠ some (locality, handle)) ↔
      (((List.finRange b.maxHandles).filter fun i =>
        (s.contexts i).state == .active && (s.contexts i).locality == locality).filter
          fun i => (s.contexts i).handle == handle).find? (fun i =>
            (s.contexts i).state == .active && (s.contexts i).handle == handle
              && (s.contexts i).locality == locality) = some i := by
    rw [List.find?_filter, List.find?_filter, find?_finRange]
    simp only [decide_eq_true_eq, Bool.and_eq_true, beq_iff_eq, hfits, ne_eq]
  constructor
  · intro h
    rw [hfind]
    unfold getActiveContextPos at h
    dsimp only at h
    split at h
    · cases h
    · split at h
      · cases h
      · split at h
        · rename_i j hj
          cases h
          exact hj
        · cases h
  · intro h
    obtain ⟨hactive, hlocality, hhandle⟩ := address_some.mp h.1
    cases hr : s.getActiveContextPos handle locality with
    | error e =>
        exact absurd hhandle (getActiveContextPos_error hr i hactive hlocality)
    | ok j =>
        have hj := address_of_resolves hr
        rw [hfind] at h
        unfold getActiveContextPos at hr
        dsimp only at hr
        rw [h] at hr
        split at hr
        · cases hr
        · split at hr
          · cases hr
          · exact hr.symm

/-- A handle resolves to nothing if it is nobody's address. -/
theorem not_resolves (h : ∀ j, s.address j ≠ some (locality, handle))
    (j : Fin b.maxHandles) : s.getActiveContextPos handle locality ≠ .ok j :=
  fun hj => h j (address_of_resolves hj)

end State

/-! ## Edits -/

namespace Edit

variable {s : State b}

theorem address_rename {i : Fin b.maxHandles} {locality : UInt32}
    {old : ContextHandle} (h : s.address i = some (locality, old))
    (handle : ContextHandle) : ((rename i handle).apply s).address
      = Function.update s.address i (some (locality, handle)) := by
  obtain ⟨hactive, hlocality, -⟩ := State.address_some.mp h
  rw [apply, State.address_set, Context.address_rename hactive, hlocality]

@[simp] theorem address_measure (i : Fin b.maxHandles)
    (measurement cumulative : TciMeasurement b) :
    ((measure i measurement cumulative).apply s).address = s.address := by
  rw [apply, State.address_set, Context.address_measure]
  exact Function.update_eq_self ..

/-- A context that has been measured, itself or another, is renamed. -/
theorem address_measure_rename {i j : Fin b.maxHandles} {locality : UInt32}
    {old : ContextHandle} (h : s.address i = some (locality, old))
    (measurement cumulative : TciMeasurement b) (handle : ContextHandle) :
    ((rename i handle).apply ((measure j measurement cumulative).apply s)).address
      = Function.update s.address i (some (locality, handle)) := by
  rw [address_rename ((congrFun (address_measure ..) i).trans h), address_measure]

@[simp] theorem address_retype (i : Fin b.maxHandles) (tciType : UInt32) :
    ((retype i tciType).apply s).address = s.address := by
  rw [apply, State.address_set, Context.address_retype]
  exact Function.update_eq_self ..

@[simp] theorem address_retire (i : Fin b.maxHandles) :
    ((retire i).apply s).address = Function.update s.address i none := by
  rw [apply, State.address_set, Context.address_retire]

@[simp] theorem address_plant (i : Fin b.maxHandles) (args : ActiveContextArgs) :
    ((plant i args).apply s).address
      = Function.update s.address i (some (args.locality, args.handle)) := by
  rw [← Context.address_activate (c := s.contexts i) args, ← State.address_set]
  rfl

/-- The parent first: its old address may be given to the child. -/
theorem address_adopt {parent child : Fin b.maxHandles}
    {kept : Option ContextHandle} {args : ActiveContextArgs}
    {measurement cumulative : TciMeasurement b} {locality : UInt32}
    {old : ContextHandle} (h : s.address parent = some (locality, old))
    (hne : child ≠ parent) :
    ((adopt parent child kept args measurement cumulative).apply s).address
      = Function.update (Function.update s.address parent
          (kept.map fun handle => (locality, handle))) child
          (some (args.locality, args.handle)) := by
  obtain ⟨hactive, hlocality, -⟩ := State.address_some.mp h
  rw [apply, State.address_set, State.address_set, Context.address_withChild,
    Context.address_keep hactive, Context.address_measure,
    Context.address_activate, hlocality, Function.update_comm hne]

theorem address_prune (marked : Children) (i : Fin b.maxHandles) :
    ((prune marked).apply s).address i
      = if marked.hasChild b i then none else s.address i := by
  by_cases h : marked.hasChild b i = true
  · rw [if_pos h, State.address, prune_marked h, Context.address_destroy]
  · rw [if_neg h, State.address, prune_other h, Context.address_without]
    rfl

end Edit

end Dpe
