import Dpe.Model.Instance
import Dpe.Proofs.WellFormed

/-! # The walk from the root to a context

    The iterator of the code stores the indices from the leaf up and
    yields the contexts from the root down.  In a well-formed state it
    succeeds on every live context, and what it yields is the path of the
    forest. -/

namespace Dpe

open Forest

variable {b : Build} {s : State b} {i : Fin b.maxHandles}
  {l : List (Fin b.maxHandles)}

/-- The contexts of a path, from the root to the leaf. -/
def State.chain (s : State b) (l : List (Fin b.maxHandles)) :
    List (Context b) := l.reverse.map s.contexts

@[simp] theorem State.slice_getElem? (s : State b) (i : Fin b.maxHandles) :
    s.slice[i.val]? = some (s.contexts i) := by
  rw [State.slice, List.getElem?_ofFn, dif_pos i.isLt]

namespace RootToChildIter

/-- A live context passes the validation of the iterator. -/
theorem getContext_live (h : s.WellFormed) (hlive : s.Live i) :
    getContext s.slice i.val = .ok (s.contexts i) := by
  have hstate : ((s.contexts i).state == .inactive) = false := by
    simpa [State.Live] using hlive
  have hparent : (decide ((s.contexts i).parentIdx.toNat ≤ b.maxHandles - 1)
      || (s.contexts i).parentIdx == Context.ROOT_INDEX) = true := by
    by_cases hroot : (s.contexts i).parentIdx = Context.ROOT_INDEX
    · simp [hroot]
    · obtain ⟨p, -, hp⟩ := h.parentIdx_lt hroot
      have hlt := p.isLt
      have hle : (s.contexts i).parentIdx.toNat ≤ b.maxHandles - 1 := by omega
      simp [hle]
  unfold getContext
  rw [State.slice_getElem?]
  dsimp only
  rw [hstate, hparent]
  rfl

/-- **UP**: with room for the path, the walk finds it. -/
theorem walk_path (h : s.WellFormed) (hpath : Path s.up i l)
    (hlive : s.Live i) {room : Nat} (hroom : l.length ≤ room) :
    walk s.slice room i.val = .ok (l.map (·.val)) := by
  induction hpath generalizing room with
  | @root i hroot =>
      obtain ⟨room, rfl⟩ : ∃ n, room = n + 1 :=
        ⟨room - 1, by simp at hroom; omega⟩
      have hidx : ((s.contexts i).parentIdx == Context.ROOT_INDEX) = true := by
        rw [h.root i hroot]
        rfl
      unfold walk
      rw [getContext_live h hlive]
      dsimp only
      rw [if_pos hidx]
      rfl
  | @step i p l hup hpath ih =>
      obtain ⟨room, rfl⟩ : ∃ n, room = n + 1 :=
        ⟨room - 1, by simp at hroom; omega⟩
      have hidx : ¬ ((s.contexts i).parentIdx == Context.ROOT_INDEX) = true := by
        intro hroot
        rw [State.up_of_root (beq_iff_eq.mp hroot)] at hup
        cases hup
      have hlen : l.length ≤ room := by
        rw [List.length_cons] at hroom
        omega
      unfold walk
      rw [getContext_live h hlive]
      dsimp only
      rw [if_neg hidx, State.parentIdx_of_up hup, ih (h.live_parent hup) hlen]
      rfl

/-- **DOWN**: what the iterator yields for live contexts. -/
theorem yields_live (h : s.WellFormed) (is : List (Fin b.maxHandles))
    (hlive : ∀ i ∈ is, s.Live i) :
    yields s.slice (is.map (·.val)) = (is.map s.contexts).map .ok := by
  induction is with
  | nil => rfl
  | cons i is ih =>
      rw [List.map_cons, yields,
        getContext_live h (hlive i (List.mem_cons_self ..))]
      dsimp only
      rw [ih fun j hj => hlive j (List.mem_cons_of_mem _ hj)]
      rfl

/-- **THE ITERATOR** of a live context yields its path, root first. -/
theorem new_path (h : s.WellFormed) (hpath : Path s.up i l)
    (hlive : s.Live i) :
    ∃ it, new i.val s.slice = .ok it ∧ it.contexts = s.slice ∧
      it.path.length = l.length ∧ it.items = (s.chain l).map .ok := by
  have hlen := hpath.length_le
  rw [Fintype.card_fin] at hlen
  refine ⟨⟨s.slice, l.map (·.val)⟩, ?_, rfl, List.length_map .., ?_⟩
  · unfold new
    rw [walk_path h hpath hlive hlen]
  · show yields s.slice (l.map (·.val)).reverse = _
    rw [← List.map_reverse, State.chain]
    refine yields_live h _ fun j hj => ?_
    exact h.live_above hlive (hpath.mem_iff.mp (List.mem_reverse.mp hj))

/-! ## Any walk -/

/-- A node that is validated is in use. -/
theorem getContext_ok {contexts : List (Context b)} {idx : Nat} {context : Context b}
    (h : getContext contexts idx = .ok context) :
    contexts[idx]? = some context ∧ context.state ≠ .inactive := by
  unfold getContext at h
  cases hc : contexts[idx]? with
  | none =>
      rw [hc] at h
      cases h
  | some c =>
      rw [hc] at h
      dsimp only at h
      split at h
      · cases h
      · rename_i hvalid
        cases h
        simp only [Bool.or_eq_true, not_or, beq_iff_eq] at hvalid
        exact ⟨rfl, hvalid.2⟩

/-- A walk that ends has validated each of its nodes. -/
theorem walk_ok {contexts : List (Context b)} {room idx : Nat}
    {path : List Nat} (h : walk contexts room idx = .ok path) :
    path ≠ [] ∧ ∀ i ∈ path, ∃ c, getContext contexts i = .ok c := by
  induction room generalizing idx path with
  | zero =>
      unfold walk at h
      split at h <;> cases h
  | succ room ih =>
      unfold walk at h
      split at h
      · cases h
      · rename_i c hc
        dsimp only at h
        split at h
        · cases h
          refine ⟨by simp, ?_⟩
          intro i hi
          rw [List.mem_singleton.mp hi]
          exact ⟨c, hc⟩
        · split at h
          · cases h
          · rename_i rest hrest
            cases h
            refine ⟨by simp, ?_⟩
            intro i hi
            rcases List.mem_cons.mp hi with rfl | hi
            · exact ⟨c, hc⟩
            · exact (ih hrest).2 i hi

/-- Validated nodes are yielded. -/
theorem yields_ok {contexts : List (Context b)} {is : List Nat}
    (h : ∀ i ∈ is, ∃ c, getContext contexts i = .ok c) :
    ∃ chain : List (Context b), yields contexts is = chain.map .ok ∧
      chain.length = is.length := by
  induction is with
  | nil => exact ⟨[], rfl, rfl⟩
  | cons i is ih =>
      obtain ⟨c, hc⟩ := h i (List.mem_cons_self ..)
      obtain ⟨chain, hchain, hlen⟩ :=
        ih fun j hj => h j (List.mem_cons_of_mem _ hj)
      refine ⟨c :: chain, ?_, congrArg (· + 1) hlen⟩
      rw [yields, hc]
      dsimp only
      rw [hchain]
      rfl

/-- Nothing is yielded that is not in the slice. -/
theorem mem_of_yields {contexts : List (Context b)} {is : List Nat} {c : Context b}
    (h : .ok c ∈ yields contexts is) : c ∈ contexts := by
  induction is with
  | nil => cases h
  | cons i is ih =>
      unfold yields at h
      split at h
      · simp at h
      · rename_i c' hget
        rcases List.mem_cons.mp h with hc | hrest
        · cases hc
          exact List.mem_of_getElem? (getContext_ok hget).1
        · exact ih hrest

theorem new_contexts {contexts : List (Context b)} {leafIdx : Nat} {it : RootToChildIter b}
    (h : new leafIdx contexts = .ok it) : it.contexts = contexts := by
  unfold new at h
  split at h
  · cases h
  · cases h
    rfl

/-- Whatever `new` returns yields a chain of contexts. -/
theorem items_ok {contexts : List (Context b)} {leafIdx : Nat} {it : RootToChildIter b}
    (h : new leafIdx contexts = .ok it) :
    ∃ chain : List (Context b), it.items = chain.map .ok := by
  unfold new at h
  split at h
  · cases h
  · rename_i path hwalk
    cases h
    obtain ⟨chain, hchain, -⟩ := yields_ok
      fun i (hi : i ∈ path.reverse) => (walk_ok hwalk).2 i (List.mem_reverse.mp hi)
    exact ⟨chain, hchain⟩

end RootToChildIter

end Dpe
