import Dpe.Proofs.Outputs
import Dpe.Proofs.Sample

/-! # Atomicity — UpdateContextMeasurement between its two handles

    The command rolls the handle of the parent and stores it, and then
    rolls the handle of the child.  A failure is without a trace unless
    it is the second handle that cannot be drawn. -/

namespace Dpe

open Prog

variable {b : Build} {W : Type}

/-! ## The condition -/

/-- Of the values `outputs`, the parent takes the first that is free, and
    finds it within its attempts; of those behind it, none within as many
    attempts is free then. -/
def State.RunsDry (s : State b) (parent : Fin b.maxHandles)
    (outputs : List (Vector UInt8 16)) : Prop :=
  ∃ refused v rest, outputs = refused ++ v :: rest ∧
    refused.length < MAX_NEW_HANDLE_ATTEMPTS ∧ FirstFree s refused ⟨v⟩ ∧
    ∀ u ∈ rest.take MAX_NEW_HANDLE_ATTEMPTS,
      (⟨u⟩ : ContextHandle) = .default ∨ u = v ∨
        ∃ i, i ≠ parent ∧ (s.contexts i).handle = ⟨u⟩

namespace UpdateContextMeasurementCmd

/-- The parent and the child are found, the child has a handle to be
    rolled, the measurement can be hashed, and the values that the random
    number generator gives after that are enough for the parent alone. -/
structure Strands (d : Deps b W) (cmd : UpdateContextMeasurementCmd b)
    (locality : UInt32) (env : Env b W) (parent child : Fin b.maxHandles) :
    Prop where
  named : cmd.parentHandle.isDefault = false
  resolves : env.state.getActiveContextPos cmd.parentHandle locality = .ok parent
  found : cmd.findChild env.state parent = some child
  rolled : (env.state.contexts child).handle.isDefault = false
  hashed : ∃ digest w, digest.asSlice.length = b.tciSize ∧
    d.crypto.hash [(env.state.contexts child).tci.tciCumulative.toList,
      cmd.data.toList] env.world = (.ok digest, w) ∧
    env.state.RunsDry parent (d.crypto.outputs (2 * MAX_NEW_HANDLE_ATTEMPTS) w)

/-- The command strands a parent. -/
def Stranding (d : Deps b W) (cmd : UpdateContextMeasurementCmd b)
    (locality : UInt32) (env : Env b W) : Prop :=
  ∃ parent child, Strands d cmd locality env parent child

variable {d : Deps b W} {cmd : UpdateContextMeasurementCmd b} {locality : UInt32}
  {env : Env b W} {parent child : Fin b.maxHandles}

theorem Strands.unique {parent' child' : Fin b.maxHandles}
    (h : Strands d cmd locality env parent' child')
    (hpos : env.state.getActiveContextPos cmd.parentHandle locality = .ok parent)
    (hfound : cmd.findChild env.state parent = some child) :
    Strands d cmd locality env parent child := by
  have hp := h.resolves
  rw [hpos] at hp
  cases hp
  have hc := h.found
  rw [hfound] at hc
  cases hc
  exact h

/-- What is taken once the parent has a new handle. -/
theorem taken_rename {s : State b} {handle other : ContextHandle} :
    Taken (s.set parent ((s.contexts parent).rename handle)) other ↔
      other = .default ∨ other = handle ∨
        ∃ i, i ≠ parent ∧ (s.contexts i).handle = other := by
  refine or_congr_right ⟨?_, ?_⟩
  · rintro ⟨i, hi⟩
    by_cases hip : i = parent
    · rw [hip, State.set_self] at hi
      exact .inl hi.symm
    · rw [State.set_of_ne hip] at hi
      exact .inr ⟨i, hip, hi⟩
  · rintro (rfl | ⟨i, hip, hi⟩)
    · exact ⟨parent, by rw [State.set_self]; rfl⟩
    · exact ⟨i, by rw [State.set_of_ne hip]; exact hi⟩

/-- The values are enough for the parent alone, seen from the world `w'`
    behind the parent's. -/
theorem runsDry_iff {s : State b} {refused : List (Vector UInt8 16)}
    {v : Vector UInt8 16} {w w' : W} (hlt : refused.length < MAX_NEW_HANDLE_ATTEMPTS)
    (hfirst : FirstFree s refused ⟨v⟩)
    (hmore : ∀ n, d.crypto.outputs (n + (refused.length + 1)) w
      = refused ++ v :: d.crypto.outputs n w') :
    s.RunsDry parent (d.crypto.outputs (2 * MAX_NEW_HANDLE_ATTEMPTS) w) ↔
      ∀ u ∈ d.crypto.outputs MAX_NEW_HANDLE_ATTEMPTS w',
        Taken (s.set parent ((s.contexts parent).rename ⟨v⟩)) ⟨u⟩ := by
  obtain ⟨n, hn⟩ : ∃ n, 2 * MAX_NEW_HANDLE_ATTEMPTS
      = MAX_NEW_HANDLE_ATTEMPTS + n + (refused.length + 1) :=
    ⟨MAX_NEW_HANDLE_ATTEMPTS - (refused.length + 1), by omega⟩
  have htaken : ∀ u, Taken (s.set parent ((s.contexts parent).rename ⟨v⟩)) ⟨u⟩ ↔
      ((⟨u⟩ : ContextHandle) = .default ∨ u = v ∨
        ∃ i, i ≠ parent ∧ (s.contexts i).handle = ⟨u⟩) := by
    intro u
    rw [taken_rename, show ((⟨u⟩ : ContextHandle) = ⟨v⟩ ↔ u = v) by simp]
  have htake : (d.crypto.outputs (MAX_NEW_HANDLE_ATTEMPTS + n) w').take
      MAX_NEW_HANDLE_ATTEMPTS = d.crypto.outputs MAX_NEW_HANDLE_ATTEMPTS w' :=
    d.crypto.take_outputs (Nat.le_add_right _ _) w'
  rw [hn, hmore]
  constructor
  · rintro ⟨refused', v', rest, hsplit, -, hfirst', hdry⟩ u hu
    obtain ⟨rfl, rfl, rfl⟩ := hfirst.unique hfirst' hsplit
    rw [htake] at hdry
    exact (htaken u).mpr (hdry u hu)
  · intro hdry
    refine ⟨refused, v, _, rfl, hlt, hfirst, fun u hu => ?_⟩
    rw [htake] at hu
    exact (htaken u).mp (hdry u hu)

/-- The child is rolled unless the values have run dry behind the
    parent's. -/
theorem roll_child (context : Context b) {S : Prop}
    (hdry : S ↔ context.handle.isDefault = false ∧
      ∀ u ∈ d.crypto.outputs MAX_NEW_HANDLE_ATTEMPTS env.world, Taken env.state ⟨u⟩) :
    Post (rollOnetimeUseHandle d context) env (fun _ _ => ¬ S) (fun _ _ => S) := by
  rw [hdry]
  cases hdefault : context.handle.isDefault with
  | true =>
      unfold rollOnetimeUseHandle
      rw [hdefault]
      exact Post.pure (by simp)
  | false =>
      refine (rollOnetimeUseHandle_outputs d hdefault env).mono ?_ fun _ _ h => ⟨rfl, h⟩
      rintro _ env1 ⟨v, refused, -, hlt, hfirst, hmore⟩ ⟨-, hall⟩
      refine hfirst.free (hall v ?_)
      exact mem_outputs d hlt hmore

/-- **THE TWO ENDS** of the command: it fails without a trace, or with the
    parent under a handle that nobody has been told. -/
theorem executeSerialized_ends (dpe : DpeInstance b)
    (cmd : UpdateContextMeasurementCmd b) (locality : UInt32) (env : Env b W)
    (hroom : 44 ≤ env.out.capacity) :
    Post (cmd.executeSerialized d dpe locality) env
      (fun _ _ => ¬ Stranding d cmd locality env)
      (fun _ env' =>
        (env'.state = env.state ∧ ¬ Stranding d cmd locality env) ∨
        (env'.state ≠ env.state ∧ Stranding d cmd locality env)) := by
  refine Post.rejectIf_bind (fun hdefault => .inl ⟨rfl, ?_⟩) fun hnamed => ?_
  · rintro ⟨parent, child, h⟩
    rw [h.named] at hdefault
    cases hdefault
  refine Post.get_bind ?_
  cases hpos : env.state.getActiveContextPos cmd.parentHandle locality with
  | error e =>
      refine ⟨.inl ⟨rfl, ?_⟩⟩
      rintro ⟨parent, child, h⟩
      have hp := h.resolves
      rw [hpos] at hp
      cases hp
  | ok parent =>
      show Post (okOr (cmd.findChild env.state parent) .invalidArgument >>= _)
        env _ _
      cases hfound : cmd.findChild env.state parent with
      | none =>
          refine ⟨.inl ⟨rfl, ?_⟩⟩
          rintro ⟨parent', child, h⟩
          have hp := h.resolves
          rw [hpos] at hp
          cases hp
          have hc := h.found
          rw [hfound] at hc
          cases hc
      | some child =>
          show Post (addTciMeasurement d (env.state.contexts child) cmd.data
            (env.state.contexts child).locality >>= _) env _ _
          have hactive : (env.state.contexts child).state = .active :=
            (findChild_some hfound).2.1
          have hadd := (addTciMeasurement_spec d (env.state.contexts child) cmd.data
            (env.state.contexts child).locality env).and
            (addTciMeasurement_follows d hactive cmd.data env)
          refine Post.bind_run (fun tmpChild env1 hrun1 => ?_)
            fun e env1 hrun1 => .inl ⟨(hadd.of_error hrun1).1.state, ?_⟩
          swap
          · rintro ⟨parent', child', h⟩
            obtain ⟨digest, w, hlen, hhash, -⟩ := (h.unique hpos hfound).hashed
            exact (hadd.of_error hrun1).2 digest w hhash hlen
          obtain ⟨⟨_, h1, -, -, -, cumulative, -, rfl⟩, digest, hlen, hhash⟩ :=
            hadd.of_ok hrun1
          -- the values that the generator gives are those behind the hash
          have hdry : Stranding d cmd locality env ↔
              (env.state.contexts child).handle.isDefault = false ∧
              env.state.RunsDry parent
                (d.crypto.outputs (2 * MAX_NEW_HANDLE_ATTEMPTS) env1.world) := by
            constructor
            · rintro ⟨parent', child', h⟩
              have h := h.unique hpos hfound
              obtain ⟨digest', w, -, hhash', hdry⟩ := h.hashed
              rw [hhash] at hhash'
              cases hhash'
              exact ⟨h.rolled, hdry⟩
            · rintro ⟨hrolled, hdry⟩
              exact ⟨parent, child, by simpa using hnamed, hpos, hfound, hrolled,
                digest, env1.world, hlen, hhash, hdry⟩
          have hno : (env.state.contexts parent).handle.isDefault = false := by
            rw [(State.getActiveContextPos_ok hpos).2.1]
            simpa using hnamed
          refine Post.get_bind ?_
          rw [h1.state]
          have hroll := (rollOnetimeUseHandle_spec d (env.state.contexts parent)
            env1).and (rollOnetimeUseHandle_outputs d hno env1)
          rw [h1.state] at hroll
          refine Post.bind_run (fun tmpParent env2 hrun2 => ?_)
            fun e env2 hrun2 => .inl ⟨(hroll.of_error hrun2).1.state.trans h1.state, ?_⟩
          swap
          · rw [hdry]
            rintro ⟨-, refused, v, rest, houtputs, hlt, hfirst, -⟩
            refine hfirst.free ((hroll.of_error hrun2).2 v ?_)
            rw [← d.crypto.take_outputs (by decide : _ ≤ 2 * MAX_NEW_HANDLE_ATTEMPTS),
              houtputs, List.take_append]
            refine List.mem_append_right _ ?_
            rw [List.take_cons (by omega)]
            exact List.mem_cons_self ..
          obtain ⟨⟨draws, h2, -⟩, v, refused, rfl, hlt, hfirst, hmore⟩ :=
            hroll.of_ok hrun2
          rw [runsDry_iff hlt hfirst hmore] at hdry
          have h12 := h1.trans h2
          refine Post.modify_bind ?_
          show Post _ { env2 with state := env2.state.set parent _ } _ _
          rw [h12.state]
          -- the parent is stored; what is left is the handle of the child
          have hrest := (rollOnetimeUseHandle_spec d _ { env2 with
            state := env.state.set parent ((env.state.contexts parent).rename ⟨v⟩)
            }).and (roll_child (d := d)
              ((env.state.contexts child).measure cmd.data cumulative) hdry)
          refine Post.bind_run (fun tmpChild' env4 hrun4 => ?_)
            fun e env4 hrun4 => .inr ⟨?_, (hrest.of_error hrun4).2⟩
          · obtain ⟨⟨_, h4, -⟩, hnot⟩ := hrest.of_ok hrun4
            refine Post.modify_bind ?_
            refine Post.bind ((writeAt_spec 0 _ _ _).mono (fun _ _ _ => hnot) ?_)
              fun _ _ h => Post.pure h
            rintro e env5 ⟨-, -, hshort⟩
            have hcap : env4.out.capacity = env.out.capacity := by
              rw [h4.out]
              exact congrArg _ h12.out
            have hlen := UpdateContextMeasurementResp.asBytes_length
              { respHdr := dpe.responseHdr .noError
                newContextHandle := tmpChild'.handle
                newParentContextHandle :=
                  ((env.state.contexts parent).rename ⟨v⟩).handle }
            rcases hshort with hnil | hshort
            · rw [hnil] at hlen
              cases hlen
            · have hle : env4.out.capacity < 0 + 44 := hlen ▸ hshort
              omega
          · rw [(hrest.of_error hrun4).1.state]
            exact rename_ne hfirst.free

end UpdateContextMeasurementCmd

/-- **UPDATECONTEXTMEASUREMENT IS ATOMIC** exactly if it does not strand
    its parent: whatever makes it fail, with room for its response, has
    left the state as it was, unless the handle of the child could not be
    rolled behind that of the parent. -/
theorem update_atomic_iff (d : Deps b W) (dpe : DpeInstance b)
    (cmd : UpdateContextMeasurementCmd b) (locality : UInt32) (env : Env b W)
    (hroom : 44 ≤ env.out.capacity) :
    (∀ e env', cmd.executeSerialized d dpe locality env = .error e env' →
      env'.state = env.state) ↔ ¬ cmd.Stranding d locality env := by
  have hends := cmd.executeSerialized_ends (d := d) dpe locality env hroom
  constructor
  · intro hatomic hstrands
    cases hrun : cmd.executeSerialized d dpe locality env with
    | ok n env' => exact hends.of_ok hrun hstrands
    | error e env' =>
        rcases hends.of_error hrun with ⟨-, hnot⟩ | ⟨hchanged, -⟩
        · exact hnot hstrands
        · exact hchanged (hatomic e env' hrun)
  · intro hnot e env' hrun
    rcases hends.of_error hrun with ⟨hsame, -⟩ | ⟨-, hstrands⟩
    · exact hsame
    · exact absurd hstrands hnot

/-! ## A parent that is stranded -/

/-- A parent under the handle of bytes 9 with a child under that of
    bytes 1. -/
def strandingCalls : List SampleCall :=
  [sampleSimulation 0 8,
    sampleDerive 0 8 DeriveContextFlags.RETAIN_PARENT_CONTEXT 5 0 [9, 1] 44]

def strandingUpdate : UpdateContextMeasurementCmd sampleBuild where
  parentHandle := sampleHandle 9
  data := .replicate _ 1
  reserved := 0
  tciType := 5
  reservedSvn := 0

/-- The generator gives the bytes 10 once, and from then on the handle of
    the child itself. -/
def strandingEnv : Env sampleBuild (List UInt8) :=
  sampleEnv (played strandingCalls) [10] 44

/-- The parent has lost its handle, and the command has failed. -/
theorem not_update_atomic : Reachable (played strandingCalls) ∧
    ∃ env', strandingUpdate.executeSerialized sampleDeps sampleDpe 0 strandingEnv
      = .error (.err InternalErrorCode.handleGenerationExhausted) env' ∧
    (env'.state.contexts (sampleSlot 0)).handle
      ≠ ((played strandingCalls).contexts (sampleSlot 0)).handle := by
  refine ⟨reachable_played (by decide +kernel), _,
    ending_of_fails (by decide +kernel), ?_⟩
  decide +kernel

/-- The update that strands its parent is not atomic. -/
theorem update_atomic_iff_stranding :
    (∀ e env', strandingUpdate.executeSerialized sampleDeps sampleDpe 0 strandingEnv
      = .error e env' → env'.state = strandingEnv.state) ↔
    ¬ strandingUpdate.Stranding sampleDeps 0 strandingEnv :=
  update_atomic_iff sampleDeps sampleDpe strandingUpdate 0 strandingEnv (by decide)

end Dpe
