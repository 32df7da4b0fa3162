import Dpe.Abstract.Measured
import Dpe.Properties.ShortResponses

/-! # The history of a context

    A run keeps a record of the measurements of each slot: a call that
    succeeds adds the measurement it was given to the slot it was about,
    and a slot that falls out of use loses its record.  The TCIs of a
    context are the fold of its record, if every command that measures
    has room for its response. -/

namespace Dpe

open Runs

variable {b : Build}

/-! ## Records -/

/-- The slot a call measures, and the measurement. -/
def Call.measures (s : State b) :
    Call b → Option (Fin b.maxHandles × TciMeasurement b)
  | new => none
  | newAutoInit _ measurement => s.getNextInactiveContextPos.map (·, measurement)
  | command locality cmd => cmd.measures s locality

/-- The call returns no error. -/
def Exec.succeeds (x : Exec b) : Bool :=
  match x.call.run x.deps x.dpe x.env with
  | .ok .. => true
  | .error .. => false

/-- What a call that succeeds has measured. -/
def Exec.recorded (x : Exec b) : Option (Fin b.maxHandles × TciMeasurement b) :=
  if x.succeeds then x.call.measures x.env.state else none

/-- The measurements of each slot, oldest first. -/
abbrev History (b : Build) := Fin b.maxHandles → List (TciMeasurement b)

/-- Add `r` to the record, and drop the records of unused slots. -/
def History.record (h : History b)
    (r : Option (Fin b.maxHandles × TciMeasurement b)) (s' : State b) : History b :=
  fun i =>
    if (s'.contexts i).state = .inactive then []
    else
      match r with
      | some (j, m) => if j = i then h i ++ [m] else h i
      | none => h i

section Record

variable {h : History b} {r : Option (Fin b.maxHandles × TciMeasurement b)}
  {s' : State b} {i : Fin b.maxHandles}

theorem History.record_idle (hi : (s'.contexts i).state = .inactive) :
    h.record r s' i = [] := if_pos hi

theorem History.record_other (hi : s'.Live i) (hr : ∀ m, r ≠ some (i, m)) :
    h.record r s' i = h i := by
  refine (if_neg hi).trans ?_
  cases r with
  | none => rfl
  | some p =>
      refine if_neg fun hp => ?_
      rw [← hp] at hr
      exact hr p.2 rfl

theorem History.record_self (hi : s'.Live i) (m : TciMeasurement b) :
    h.record (some (i, m)) s' i = h i ++ [m] := by
  refine (if_neg hi).trans ?_
  exact if_pos rfl

end Record

/-- The record after one more call. -/
def Exec.history (h : History b) (x : Exec b) : History b :=
  h.record x.recorded x.final.state

/-- The record of a run from a new state. -/
def history (xs : List (Exec b)) : History b :=
  xs.foldl Exec.history fun _ => []

/-! ## Folds -/

/-- The fold of `H (c ‖ m)` from zero. -/
def foldTci (H : Bytes → Digest) (ms : List (TciMeasurement b)) : Bytes :=
  ms.foldl (fun c m => (H (c ++ m.toList)).asSlice) (TciMeasurement.zero b).toList

/-- The TCIs of every slot are those of its record. -/
def State.Traces (H : Bytes → Digest) (h : History b) (s : State b) : Prop :=
  ∀ i, (s.tcis i).1 = (h i).getLastD (.zero b) ∧
    (s.tcis i).2.toList = foldTci H (h i)

theorem foldTci_append (H : Bytes → Digest) (ms : List (TciMeasurement b))
    (m : TciMeasurement b) : foldTci H (ms ++ [m])
      = (H (foldTci H ms ++ m.toList)).asSlice :=
  List.foldl_append ..

section Folds

variable {W : Type} {d : Deps b W} {H : Bytes → Digest} {s s' : State b}
  {h : History b} {r : Option (Fin b.maxHandles × TciMeasurement b)}

/-- **ONE STEP**: the record follows the TCIs. -/
theorem Recorded.traces (hhash : d.crypto.HashesBy H) (hr : Recorded d r s s')
    (h0 : s.Traces H h) : s'.Traces H (h.record r s') := by
  intro i
  by_cases hidle : (s'.contexts i).state = .inactive
  · rw [State.tcis_idle hidle, History.record_idle hidle]
    exact ⟨rfl, rfl⟩
  obtain ⟨hlast, hfold⟩ := h0 i
  rcases hr i hidle with ⟨hsame, hother⟩ | ⟨m, cumulative, rfl, hextends, hnew⟩
  · rw [History.record_other hidle hother, hsame]
    exact ⟨hlast, hfold⟩
  · rw [History.record_self hidle, hnew, foldTci_append, ← hfold,
      ← hextends.hash hhash]
    exact ⟨(List.getLastD_concat ..).symm, rfl⟩

end Folds

/-! ## Calls -/

/-- A command that measures a slot, if its handle resolves and the other
    guards let it through in the state that it finds, has room for its
    response. -/
def Exec.Roomy (x : Exec b) : Prop :=
  ∀ locality cmd draws es, x.call = .command locality cmd →
    Effect x.deps x.env.state locality cmd draws es →
    (cmd.measures x.env.state locality).isSome = true →
    cmd.responseSize ≤ x.env.out.capacity

/-- The call executes a command. -/
def Call.isCommand : Call b → Bool
  | command .. => true
  | new | newAutoInit .. => false

section Calls

open Edit

variable {W : Type} {d : Deps b W} {dpe : DpeInstance b} {locality : UInt32}
  {s : State b}

/-- Making the default context measures nothing. -/
theorem CallEffect.recorded_new {draws : List (Vector UInt8 16)}
    {es : List (Edit b)} (he : CallEffect d s .new draws es) :
    Recorded d none s (applyAll s es) := by
  cases he with
  | newIdle | failed => exact .same rfl
  | new _ planted =>
      obtain ⟨_, -, effect⟩ := planted
      exact effect.recorded

/-- Where nothing was live, the default context of `new` is the only live
    context. -/
theorem CallEffect.default_new {draws : List (Vector UInt8 16)}
    {es : List (Edit b)} {idx : Fin b.maxHandles} (hblank : ∀ i, ¬ s.Live i)
    (he : CallEffect d s .new draws es)
    (hpos : (applyAll s es).getActiveContextPos .default locality = .ok idx) :
    s.getNextInactiveContextPos = some idx ∧ (applyAll s es).tcis = s.tcis := by
  cases he with
  | newIdle | failed => exact absurd (State.live_of_resolves hpos) (hblank idx)
  | new _ planted =>
      obtain ⟨_, -, effect⟩ := planted
      cases effect with
      | @initCtx _ slot _ _ _ hslot =>
          have hidx : idx = slot := by
            by_contra hne
            have hlive := State.live_of_resolves hpos
            refine hblank idx ?_
            unfold State.Live at hlive ⊢
            rwa [applyAll_cons, applyAll_nil, plant_other hne] at hlive
          rw [hidx]
          exact ⟨hslot, tcis_plant (State.getNextInactiveContextPos_some hslot)⟩

/-- A command that fails has measured nothing, if it has room for its
    response. -/
theorem Fell.recorded {cmd : Command b} {e : Stop} {env env' : Env b W}
    (h : Fell d dpe locality env cmd e env')
    (hroom : ∀ draws es, Effect d env.state locality cmd draws es →
      (cmd.measures env.state locality).isSome = true →
      cmd.responseSize ≤ env.out.capacity) :
    Recorded d none env.state env'.state := by
  have hstored : Stored d locality env cmd env' →
      cmd.measures env.state locality = none →
      Recorded d none env.state env'.state := by
    rintro ⟨draws, es, heffect, hdid⟩ hnone
    rw [← hnone, hdid.state]
    exact heffect.recorded
  cases h with
  | early state => exact .same (congrArg State.tcis state)
  | late stored _ _ short =>
      refine hstored stored ?_
      obtain ⟨draws, es, heffect, -⟩ := stored
      by_contra hsome
      have hle := hroom draws es heffect (Option.isSome_iff_ne_none.mpr hsome)
      omega
  | halfway _ _ resolves _ _ did =>
      rw [did.state]
      exact .same (tcis_rename (State.live_of_resolves resolves) _)
  | mistyped isCertify stored =>
      refine hstored stored ?_
      rw [isCertify]
      rfl

/-- **WHAT A CALL MEASURES**, if it is a command or the first call. -/
theorem Call.run_recorded (call : Call b) (env : Env b W) (h : env.state.WellFormed)
    (hfirst : call.isCommand = true ∨ ∀ i, ¬ env.state.Live i)
    (hroom : ∀ locality cmd draws es, call = .command locality cmd →
      Effect d env.state locality cmd draws es →
      (cmd.measures env.state locality).isSome = true →
      cmd.responseSize ≤ env.out.capacity) :
    Prog.Post (call.run d dpe) env
      (fun _ env' => Recorded d (call.measures env.state) env.state env'.state)
      (fun _ env' => Recorded d none env.state env'.state) := by
  cases call with
  | new =>
      refine (new_spec d dpe env).mono ?_ ?_
      · rintro _ env' ⟨draws, es, heffect, -, hdid⟩
        rw [hdid.state]
        exact heffect.recorded_new
      · rintro e env' ⟨hstate, -⟩
        exact .same (congrArg State.tcis hstate)
  | newAutoInit tciType measurement =>
      have hblank : ∀ i, ¬ env.state.Live i := by
        rcases hfirst with hno | hblank
        · cases hno
        · exact hblank
      refine (newAutoInit_spec d dpe tciType measurement env).mono ?_ ?_
      · rintro _ env' ⟨draws, es, locality, idx, cumulative, hauto, hplanted, hpos,
          hextends, hdid⟩
        have heffect : CallEffect d env.state .new draws es := .new hauto hplanted
        obtain ⟨hslot, hsame⟩ := heffect.default_new hblank hpos
        have hlive := State.live_of_resolves hpos
        have hmeasures : (Call.newAutoInit tciType measurement).measures env.state
            = some (idx, measurement) := by
          show env.state.getNextInactiveContextPos.map (·, measurement) = _
          rw [hslot]
          rfl
        rw [hmeasures, hdid.state, applyAll_append]
        rw [show ((applyAll env.state es).contexts idx).tci.tciCumulative
          = (env.state.tcis idx).2 by rw [← hsame, State.tcis_live hlive]] at hextends
        refine .update ?_ hextends
        simp only [applyAll_cons, applyAll_nil]
        rw [tcis_retype (live_measure _ _ _ hlive), tcis_measure hlive, hsame]
      · rintro e env' ⟨draws, es, heffect, hdid⟩
        rw [hdid.state]
        exact heffect.recorded_new
  | command locality cmd =>
      refine Prog.Post.bind ((cmd.executeSerialized_spec d dpe locality env h).mono
        (fun _ _ h => h) ?_) ?_
      · intro e env' hfell
        exact hfell.recorded fun draws es => hroom locality cmd draws es rfl
      · rintro n env' ⟨draws, es, _, heffect, hdid, -⟩
        refine Prog.Post.pure ?_
        show Recorded d (cmd.measures env.state locality) _ _
        rw [hdid.state]
        exact heffect.recorded

end Calls

/-! ## Runs -/

/-- **ONE CALL** keeps the record. -/
theorem Exec.Step.traces {H : Bytes → Digest} {s s' : State b} {x : Exec b}
    {h : History b} (hwell : s.WellFormed) (hstep : Exec.Step s x s')
    (hfirst : x.call.isCommand = true ∨ ∀ i, ¬ s.Live i)
    (hhash : x.deps.crypto.HashesBy H) (hroom : x.Roomy) (h0 : s.Traces H h) :
    s'.Traces H (x.history h) := by
  obtain ⟨rfl, hend⟩ := hstep
  have hspec : Prog.Post (x.call.run x.deps x.dpe) x.env _ _ :=
    x.call.run_recorded x.env hwell hfirst hroom
  unfold Exec.history Exec.recorded Exec.succeeds Exec.final
  rcases hend with ⟨env', hrun, rfl⟩ | ⟨e, env', hrun, rfl⟩
  · rw [hrun]
    exact (hspec.of_ok hrun).traces hhash h0
  · rw [hrun]
    exact (hspec.of_error hrun).traces hhash h0

/-- **TCI VALUES ARE THE HISTORY**: in a run that creates an instance and
    executes commands, each of which, if it is let through and measures,
    has room for its response, the cumulative TCI of a context is the fold of its record
    and the current TCI is the last measurement in it. -/
theorem history_run {H : Bytes → Digest} {support : Support} {flags : DpeFlags}
    {x : Exec b} {xs : List (Exec b)} {s : State b}
    (hrun : Run Exec.Step (State.new b support flags) (x :: xs) s)
    (hcommands : ∀ y ∈ xs, y.call.isCommand = true)
    (hhash : ∀ y ∈ x :: xs, y.deps.crypto.HashesBy H)
    (hroom : ∀ y ∈ x :: xs, y.Roomy) (i : Fin b.maxHandles) (hlive : s.Live i) :
    (s.contexts i).tci.tciCumulative.toList = foldTci H (history (x :: xs) i) ∧
      (s.contexts i).tci.tciCurrent = (history (x :: xs) i).getLastD (.zero b) := by
  have hblank : ∀ i, ¬ (State.new b support flags).Live i := fun i hno => hno rfl
  have hstart : (State.new b support flags).Traces H fun _ => [] := fun i => by
    rw [State.tcis_idle rfl]
    exact ⟨rfl, rfl⟩
  have hrest : s.WellFormed ∧ s.Traces H (history (x :: xs)) := by
    cases hrun with
    | cons hstep hrun =>
        have hwell := State.wellFormed_new (b := b) support flags
        have hallowed : ∀ y ∈ xs, y.call.isCommand = true ∧
            y.deps.crypto.HashesBy H ∧ y.Roomy := fun y hy =>
          ⟨hcommands y hy, hhash y (List.mem_cons_of_mem _ hy),
            hroom y (List.mem_cons_of_mem _ hy)⟩
        refine hrun.ghost (I := fun h s => s.WellFormed ∧ s.Traces H h) ?_ hallowed
          ⟨hstep.wellFormed hwell, hstep.traces hwell (.inr hblank)
            (hhash x (List.mem_cons_self ..)) (hroom x (List.mem_cons_self ..))
            hstart⟩
        rintro h s y s' ⟨hwell, h0⟩ ⟨hcommand, hhash, hroom⟩ hstep
        exact ⟨hstep.wellFormed hwell,
          hstep.traces hwell (.inl hcommand) hhash hroom h0⟩
  obtain ⟨hlast, hfold⟩ := hrest.2 i
  rw [State.tcis_live hlive] at hlast hfold
  exact ⟨hfold, hlast⟩

/-- The hash of the sample suite. -/
def sampleHash (bs : Bytes) : Digest :=
  .sha384 (.replicate 48 (UInt8.ofNat bs.length))

theorem sampleCrypto_hashesBy : sampleCrypto.HashesBy sampleHash := by
  intro bs w digest w' hrun
  cases hrun
  rfl

/-- Creating an instance with a default context. -/
def sampleCreate : SampleCall := ⟨.new, [], 0⟩

/-- A recursive derivation on the default context. -/
def sampleRecursive (room : Nat) : SampleCall :=
  sampleDerive 1 0 DeriveContextFlags.RECURSIVE 0 0 [] room

/-- A recursive derivation with room for its response is recorded. -/
theorem history_run_played : ∃ xs : List (Exec sampleBuild),
    Run Exec.Step sampleNew xs (played [sampleCreate, sampleRecursive 44]) ∧
    ((played [sampleCreate, sampleRecursive 44]).contexts
      (sampleSlot 0)).tci.tciCumulative.toList
        = foldTci sampleHash (history xs (sampleSlot 0)) ∧
    history xs (sampleSlot 0) = [.replicate _ 1] := by
  have hplays : (play sampleNew ([] ++ [sampleCreate])).isSome = true := by
    decide +kernel
  have hplays' : (play sampleNew ([sampleCreate] ++ [sampleRecursive 44])).isSome
      = true := by
    decide +kernel
  have hrun := Run.cons (step_played hplays) (Run.single (step_played hplays'))
  have hlive : (played [sampleCreate, sampleRecursive 44]).Live (sampleSlot 0) := by
    unfold State.Live
    decide +kernel
  refine ⟨_, hrun, (history_run hrun ?_ ?_ ?_ (sampleSlot 0) hlive).1,
    by decide +kernel⟩
  · intro y hy
    rw [List.mem_singleton.mp hy]
    rfl
  · intro y hy
    simp only [List.mem_cons, List.not_mem_nil, or_false] at hy
    rcases hy with rfl | rfl <;> exact sampleCrypto_hashesBy
  · intro y hy locality cmd _ _ hcall _ _
    simp only [List.mem_cons, List.not_mem_nil, or_false] at hy
    rcases hy with rfl | rfl <;> cases hcall
    decide

/-- A recursive derivation whose response is a byte too long fails, and
    has measured. -/
theorem not_history_played : ∃ xs : List (Exec sampleBuild),
    Run Exec.Step sampleNew xs (played [sampleCreate, sampleRecursive 43]) ∧
    xs.map (·.succeeds) = [true, false] ∧
    history xs (sampleSlot 0) = [] ∧
    ((played [sampleCreate, sampleRecursive 43]).contexts
      (sampleSlot 0)).tci.tciCurrent = .replicate _ 1 ∧
    ((played [sampleCreate, sampleRecursive 43]).contexts
      (sampleSlot 0)).tci.tciCumulative.toList
        ≠ foldTci sampleHash (history xs (sampleSlot 0)) := by
  have hplays : (play sampleNew ([] ++ [sampleCreate])).isSome = true := by
    decide +kernel
  have hplays' : (play sampleNew ([sampleCreate] ++ [sampleRecursive 43])).isSome
      = true := by
    decide +kernel
  exact ⟨_, Run.cons (step_played hplays) (Run.single (step_played hplays')),
    by decide +kernel, by decide +kernel, by decide +kernel, by decide +kernel⟩

end Dpe
