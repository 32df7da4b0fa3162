import Dpe.Proofs.Sample
import Dpe.Proofs.Walk

/-! # Iteration — from the root to a leaf, on any slice

    The parent indices of a slice are a graph of pointers, and the code
    follows them with no more of a guard against cycles than the room in
    its path.  That room is enough: a walk that fills it has been
    somewhere twice. -/

namespace Dpe

open Forest

variable {b : Build}

namespace RootToChildIter

/-! ## The graph of parent indices -/

/-- The parent of a node, if there is a node and it is not a root. -/
def parent (contexts : List (Context b)) (idx : Nat) : Option Nat :=
  match contexts[idx]? with
  | none => none
  | some context =>
      if context.parentIdx = Context.ROOT_INDEX then none
      else some context.parentIdx.toNat

/-- The index is out of range, or the context there is not in use. -/
def Broken (contexts : List (Context b)) (idx : Nat) : Prop :=
  ∀ context, contexts[idx]? = some context → context.state = .inactive

section Walks

variable {contexts : List (Context b)} {room idx : Nat} {seen path : List Nat}

theorem parent_root {context : Context b} (h : contexts[idx]? = some context)
    (hroot : context.parentIdx = Context.ROOT_INDEX) : parent contexts idx = none := by
  unfold parent
  rw [h]
  exact if_pos hroot

theorem parent_step {context : Context b} (h : contexts[idx]? = some context)
    (hroot : context.parentIdx ≠ Context.ROOT_INDEX) :
    parent contexts idx = some context.parentIdx.toNat := by
  unfold parent
  rw [h]
  exact if_neg hroot

/-- A node that is refused is broken, or its parent is. -/
theorem getContext_error {e : DpeErrorCode} (hlen : contexts.length ≤ b.maxHandles)
    (h : getContext contexts idx = .error e) :
    Astray (parent contexts) (Broken contexts) seen idx := by
  unfold getContext at h
  cases hc : contexts[idx]? with
  | none =>
      refine .bad fun c hsome => ?_
      rw [hc] at hsome
      cases hsome
  | some c =>
      rw [hc] at h
      dsimp only at h
      split at h
      · rename_i hvalid
        simp only [Bool.or_eq_true, Bool.not_eq_true', Bool.or_eq_false_iff,
          decide_eq_false_iff_not, beq_eq_false_iff_ne, beq_iff_eq] at hvalid
        rcases hvalid with ⟨hfar, hroot⟩ | hidle
        · -- the parent index lies beyond every slice
          refine .step (parent_step hc hroot) (.bad fun c' hc' => ?_)
          have hlt := (List.getElem?_eq_some_iff.mp hc').1
          omega
        · refine .bad fun c' hc' => ?_
          rw [hc] at hc'
          cases hc'
          exact hidle
      · cases h

/-- **A WALK THAT FAILS** has gone astray: nodes that are all different
    and fill the room are all there are. -/
theorem walk_error {e : DpeErrorCode} (hlen : contexts.length ≤ b.maxHandles)
    (hnodup : seen.Nodup) (hseen : ∀ j ∈ seen, j < contexts.length)
    (hroom : b.maxHandles ≤ seen.length + room)
    (h : walk contexts room idx = .error e) :
    Astray (parent contexts) (Broken contexts) seen idx := by
  induction room generalizing seen idx e with
  | zero =>
      unfold walk at h
      split at h
      · rename_i hget
        exact getContext_error hlen hget
      · rename_i c hget
        have hlt := (List.getElem?_eq_some_iff.mp (getContext_ok hget).1).1
        exact .again (mem_of_full hnodup hseen (by omega) hlt)
  | succ room ih =>
      unfold walk at h
      split at h
      · rename_i hget
        exact getContext_error hlen hget
      · rename_i c hget
        have hc := (getContext_ok hget).1
        dsimp only at h
        split at h
        · cases h
        · rename_i hroot
          split at h
          · rename_i hrest
            by_cases hagain : idx ∈ seen
            · exact .again hagain
            · refine .step (parent_step hc (by simpa using hroot))
                (ih (List.nodup_cons.mpr ⟨hagain, hnodup⟩) ?_ ?_ hrest)
              · intro j hj
                rcases List.mem_cons.mp hj with rfl | hj
                · exact (List.getElem?_eq_some_iff.mp hc).1
                · exact hseen j hj
              · rw [List.length_cons]
                omega
          · cases h

/-- **A WALK THAT RETURNS** has followed the parents to a root. -/
theorem walk_returns (h : walk contexts room idx = .ok path) :
    Path (parent contexts) idx path := by
  induction room generalizing idx path with
  | zero =>
      unfold walk at h
      split at h <;> cases h
  | succ room ih =>
      unfold walk at h
      split at h
      · cases h
      · rename_i c hget
        have hc := (getContext_ok hget).1
        dsimp only at h
        split at h
        · rename_i hroot
          cases h
          exact .root (parent_root hc (by simpa using hroot))
        · rename_i hroot
          split at h
          · cases h
          · rename_i rest hrest
            cases h
            exact .step (parent_step hc (by simpa using hroot)) (ih hrest)

/-- Nodes that are validated are yielded as they are. -/
theorem yields_valid {is : List Nat} (h : ∀ i ∈ is, ∃ c, getContext contexts i = .ok c) :
    ∃ chain : List (Context b), yields contexts is = chain.map .ok ∧
      is.map (contexts[·]?) = chain.map some := by
  induction is with
  | nil => exact ⟨[], rfl, rfl⟩
  | cons i is ih =>
      obtain ⟨c, hc⟩ := h i (List.mem_cons_self ..)
      obtain ⟨chain, hyields, hchain⟩ := ih fun j hj => h j (List.mem_cons_of_mem _ hj)
      refine ⟨c :: chain, ?_, ?_⟩
      · rw [yields, hc, List.map_cons, ← hyields]
      · rw [List.map_cons, List.map_cons, (getContext_ok hc).1, hchain]

end Walks

end RootToChildIter

/-! ## Stepping the iterator -/

namespace RootToChildCursor

open RootToChildIter

theorem nexts_done {it : RootToChildCursor b} (h : it.done = true) (n : Nat) :
    nexts n it = .replicate n none := by
  induction n with
  | zero => rfl
  | succ n ih =>
      have hnext : it.next = (none, it) := if_pos h
      rw [nexts, hnext, ih]
      rfl

/-- The nodes that are left at an index of the path. -/
def left (path : List UInt8) (k : Nat) : List Nat :=
  ((path.take (k + 1)).map UInt8.toNat).reverse

theorem left_zero {path : List UInt8} (h : 0 < path.length) :
    left path 0 = [path[0].toNat] := by
  rw [left, List.take_add_one, List.getElem?_eq_getElem h]
  rfl

theorem left_succ {path : List UInt8} {k : Nat} (h : k + 1 < path.length) :
    left path (k + 1) = path[k + 1].toNat :: left path k := by
  rw [left, List.take_add_one, List.getElem?_eq_getElem h, List.map_append,
    List.reverse_append]
  rfl

/-- One step, at an index of the path. -/
theorem next_at (contexts : List (Context b)) {path : List UInt8} {k : Nat}
    (hk : k < path.length) (hsmall : k < 2 ^ 64) :
    next ⟨contexts, UInt64.ofNat k, path, false⟩
      = match getContext contexts path[k].toNat with
        | .error e => (some (.error e), ⟨contexts, UInt64.ofNat k, path, true⟩)
        | .ok context =>
            if UInt64.ofNat k == 0 then
              (some (.ok context), ⟨contexts, UInt64.ofNat k, path, true⟩)
            else (some (.ok context), ⟨contexts, UInt64.ofNat k - 1, path, false⟩) := by
  have hindex : (UInt64.ofNat k).toNat = k := by
    rw [UInt64.toNat_ofNat']
    exact Nat.mod_eq_of_lt hsmall
  have hlook : path[(UInt64.ofNat k).toNat]? = some path[k] := by
    rw [hindex]
    exact List.getElem?_eq_getElem hk
  unfold next
  rw [if_neg (Bool.false_ne_true)]
  cases hget : getContext contexts path[k].toNat with
  | error e => simp only [hlook, hget]
  | ok context => simp only [hlook, hget]

theorem ofNat_succ_ne {k : Nat} (h : k + 1 < 2 ^ 64) :
    ¬ (UInt64.ofNat (k + 1) == 0) = true := by
  intro hzero
  have htoNat := congrArg UInt64.toNat (beq_iff_eq.mp hzero)
  rw [UInt64.toNat_ofNat', Nat.mod_eq_of_lt h] at htoNat
  cases htoNat

theorem ofNat_succ_sub (k : Nat) : UInt64.ofNat (k + 1) - 1 = UInt64.ofNat k := by
  rw [UInt64.ofNat_add]
  exact UInt64.add_sub_cancel _ _

/-- **STEPPING**: the nodes from an index of the path down to its start,
    then nothing more. -/
theorem nexts_yields (contexts : List (Context b)) {path : List UInt8} {k : Nat}
    (hk : k < path.length) (hsmall : k < 2 ^ 64) (n : Nat) :
    nexts ((yields contexts (left path k)).length + n)
        ⟨contexts, UInt64.ofNat k, path, false⟩
      = (yields contexts (left path k)).map some ++ .replicate n none := by
  induction k with
  | zero =>
      have hnext := next_at contexts hk hsmall
      rw [left_zero hk, yields]
      cases hget : getContext contexts path[0].toNat with
      | error e =>
          rw [hget] at hnext
          rw [List.length_singleton, Nat.add_comm, nexts, hnext, nexts_done rfl]
          rfl
      | ok context =>
          rw [hget] at hnext
          dsimp only at hnext ⊢
          rw [if_pos (by rfl)] at hnext
          rw [yields, List.length_singleton, Nat.add_comm, nexts, hnext, nexts_done rfl]
          rfl
  | succ k ih =>
      have hnext := next_at contexts hk hsmall
      rw [left_succ hk, yields]
      cases hget : getContext contexts path[k + 1].toNat with
      | error e =>
          rw [hget] at hnext
          rw [List.length_singleton, Nat.add_comm, nexts, hnext, nexts_done rfl]
          rfl
      | ok context =>
          rw [hget] at hnext
          dsimp only at hnext ⊢
          rw [if_neg (ofNat_succ_ne hsmall), ofNat_succ_sub] at hnext
          rw [List.length_cons, Nat.add_right_comm, nexts, hnext,
            ih (by omega) (by omega)]
          rfl

/-- **THE ITEMS** of an iterator are what its steps return. -/
theorem nexts_cursor (it : RootToChildIter b) (hne : it.path ≠ [])
    (hsmall : ∀ idx ∈ it.path, idx < 256) (hlen : it.path.length < 2 ^ 64) (n : Nat) :
    nexts (it.items.length + n) it.cursor = it.items.map some ++ .replicate n none := by
  obtain ⟨k, hk⟩ : ∃ k, it.path.length = k + 1 :=
    Nat.exists_eq_succ_of_ne_zero (List.length_pos_iff.mpr hne).ne'
  have hback : (it.path.map UInt8.ofNat).map UInt8.toNat = it.path := by
    rw [List.map_map]
    refine (List.map_congr_left fun idx hidx => ?_).trans (List.map_id _)
    exact UInt8.toNat_ofNat_of_lt' (hsmall idx hidx)
  have hleft : left (it.path.map UInt8.ofNat) k = it.path.reverse := by
    rw [left, ← hk, List.take_of_length_le (by simp), hback]
  have hcursor : it.cursor
      = ⟨it.contexts, UInt64.ofNat k, it.path.map UInt8.ofNat, false⟩ := by
    unfold RootToChildIter.cursor
    rw [hk, ofNat_succ_sub]
  have hindex : k < (it.path.map UInt8.ofNat).length := by
    rw [List.length_map]
    omega
  have hsteps := nexts_yields it.contexts hindex (by omega) n
  rw [hleft] at hsteps
  rw [hcursor]
  exact hsteps

end RootToChildCursor

open RootToChildCursor RootToChildIter

/-- **ITERATION IS EXACT**: on any slice that is not too long, the walk
    fails exactly when it goes astray, and when it does not, the steps
    of the iterator return the nodes of the path, root first, and then
    nothing. -/
theorem iteration_exact (contexts : List (Context b))
    (hlen : contexts.length ≤ b.maxHandles) (leafIdx : Nat) :
    ((∃ e, new leafIdx contexts = .error e)
      ↔ Astray (parent contexts) (Broken contexts) [] leafIdx) ∧
    ∀ it, new leafIdx contexts = .ok it →
      ∃ (path : List Nat) (chain : List (Context b)),
        Path (parent contexts) leafIdx path ∧ path.Nodup ∧
        path.reverse.map (contexts[·]?) = chain.map some ∧
        it.numNodes = chain.length ∧
        ∀ n, nexts (chain.length + n) it.cursor
          = chain.map (fun context => some (.ok context)) ++ .replicate n none := by
  refine ⟨⟨?_, fun hastray => ?_⟩, fun it hnew => ?_⟩
  · rintro ⟨e, hnew⟩
    unfold new at hnew
    split at hnew
    · rename_i hwalk
      exact walk_error hlen List.nodup_nil (by simp) (by simp) hwalk
    · cases hnew
  · cases hnew : new leafIdx contexts with
    | error e => exact ⟨e, rfl⟩
    | ok it =>
        unfold new at hnew
        split at hnew
        · cases hnew
        · rename_i path hwalk
          refine absurd hastray ((walk_returns hwalk).not_astray ?_ (by simp))
          intro j hj hbroken
          obtain ⟨c, hc⟩ := (walk_ok hwalk).2 j hj
          exact (getContext_ok hc).2 (hbroken c (getContext_ok hc).1)
  · unfold new at hnew
    split at hnew
    · cases hnew
    · rename_i path hwalk
      cases hnew
      have hpath := walk_returns hwalk
      obtain ⟨hne, hvalid⟩ := walk_ok hwalk
      obtain ⟨chain, hyields, hchain⟩ := yields_valid
        fun j (hj : j ∈ path.reverse) => hvalid j (List.mem_reverse.mp hj)
      have hlt : ∀ j ∈ path, j < b.maxHandles := by
        intro j hj
        obtain ⟨c, hc⟩ := hvalid j hj
        have hj := (List.getElem?_eq_some_iff.mp (getContext_ok hc).1).1
        omega
      have hcount := (hpath.nodup.subperm fun j hj =>
        List.mem_range.mpr (hlt j hj)).length_le
      rw [List.length_range] at hcount
      have hmax := b.maxHandles_le
      have hlength : path.length = chain.length := by
        have hlengths := congrArg List.length hchain
        simpa using hlengths
      refine ⟨path, chain, hpath, hpath.nodup, hchain, hlength, fun n => ?_⟩
      have hsteps := nexts_cursor ⟨contexts, path⟩ hne
        (fun j hj => by have := hlt j hj; omega)
        (by show path.length < 2 ^ 64; omega) n
      have hitems : RootToChildIter.items ⟨contexts, path⟩ = chain.map .ok := hyields
      rw [hitems, List.length_map, List.map_map] at hsteps
      exact hsteps

/-- A slice of contexts in use with the given parents. -/
def sampleSlice (parents : List UInt8) : List (Context sampleBuild) :=
  parents.map fun parentIdx =>
    { Context.new sampleBuild with state := .active, parentIdx := parentIdx }

/-- A cycle of two is an error; of a chain of three, each node is returned
    once. -/
theorem iteration_exact_slices :
    Astray (parent (sampleSlice [1, 0])) (Broken (sampleSlice [1, 0])) [] 0 ∧
    ∃ it, ∃ chain : List (Context sampleBuild),
      new 1 (sampleSlice [0xff, 2, 0]) = .ok it ∧
      [0, 2, 1].map ((sampleSlice [0xff, 2, 0])[·]?) = chain.map some ∧
      nexts 4 it.cursor = chain.map (fun context => some (.ok context)) ++ [none] := by
  refine ⟨(iteration_exact _ (by decide) 0).1.mp ⟨_, rfl⟩, ?_⟩
  obtain ⟨path, chain, hpath, -, hchain, -, hsteps⟩ :=
    (iteration_exact (sampleSlice [0xff, 2, 0]) (by decide) 1).2 _ rfl
  have hone : path = [1, 2, 0] :=
    hpath.unique (.step rfl (.step rfl (.root rfl)))
  rw [hone] at hchain
  have hlength := congrArg List.length hchain
  rw [List.length_map, List.length_map] at hlength
  have hfour := hsteps 1
  rw [← hlength] at hfour
  exact ⟨_, chain, rfl, hchain, hfour⟩

end Dpe
