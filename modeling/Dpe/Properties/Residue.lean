import Dpe.Proofs.Sample
import Dpe.Proofs.TwinCommands

/-! # Residue — nothing of a destroyed context is seen again

    A device serves requests one after the other; crypto suite and
    platform share one world from request to request.  Two devices whose
    states differ in the stale fields of inactive slots only answer every
    sequence of requests alike, and are left with such states again. -/

namespace Dpe

open Prog

variable {b : Build} {W : Type} {stale : ContextHandle → Prop}

/-! ## Serving requests -/

/-- A command from a locality, and the buffer for its response. -/
structure Request (b : Build) where
  locality : UInt32
  cmd : Command b
  out : ResponseBuffer

/-- What comes back: the size of the response or the error, and the
    buffer. -/
structure Answer where
  result : Except DpeErrorCode Nat
  out : ResponseBuffer

/-- The answer of a run, unless it does not return. -/
def Answer.of? : EStateM.Result Stop (Env b W) Nat → Option Answer
  | .ok n env => some ⟨.ok n, env.out⟩
  | .error (.err e) env => some ⟨.error e, env.out⟩
  | .error .noReturn _ => none

/-- The requests answered, and what is left behind. -/
structure Served (b : Build) (W : Type) where
  answers : List Answer
  state : State b
  world : W

variable (d : Deps b W) (dpe : DpeInstance b)

def Request.run (r : Request b) (s : State b) (w : W) :
    EStateM.Result Stop (Env b W) Nat :=
  r.cmd.executeSerialized d dpe r.locality ⟨s, w, r.out, [], []⟩

/-- Serve the requests in order, unless one of them never returns.  A
    command that fails leaves its state behind too. -/
def serve : List (Request b) → State b → W → Option (Served b W)
  | [], s, w => some ⟨[], s, w⟩
  | r :: rs, s, w =>
      match Answer.of? (r.run d dpe s w) with
      | none => none
      | some answer =>
          let env := final (r.run d dpe s w)
          (serve rs env.state env.world).map fun served =>
            { served with answers := answer :: served.answers }

/-- No request draws a random value that is the handle of an inactive slot
    of either state at that time. -/
def DrawsFresh : List (Request b) → State b → State b → W → Prop
  | [], _, _, _ => True
  | r :: rs, s, s', w =>
      (∀ v ∈ (final (r.run d dpe s w)).drawn, ∀ i,
        (s.contexts i).state = .inactive →
          (s.contexts i).handle ≠ ⟨v⟩ ∧ (s'.contexts i).handle ≠ ⟨v⟩) ∧
      DrawsFresh rs (final (r.run d dpe s w)).state (final (r.run d dpe s' w)).state
        (final (r.run d dpe s w)).world

/-- The check goes through the values drawn, not through all values. -/
instance DrawsFresh.decidable : (rs : List (Request b)) → (s s' : State b) → (w : W) →
    Decidable (DrawsFresh d dpe rs s s' w)
  | [], _, _, _ => .isTrue trivial
  | r :: rs, s, s', w =>
      @instDecidableAnd _ _ (List.decidableBAll _ (final (r.run d dpe s w)).drawn)
        (DrawsFresh.decidable rs (final (r.run d dpe s w)).state
          (final (r.run d dpe s' w)).state (final (r.run d dpe s w)).world)

variable {d dpe}

/-! ## One request -/

/-- The handles that are left in the inactive slots of two states. -/
def staleHandles (s s' : State b) (handle : ContextHandle) : Prop :=
  ∃ i, (s.contexts i).state = .inactive ∧
    ((s.contexts i).handle = handle ∨ (s'.contexts i).handle = handle)

theorem State.SameButStale.residual {s s' : State b} (h : s.SameButStale s') :
    State.Residual (staleHandles s s') (fun _ => False) s s' := by
  refine ⟨h.rest, fun i => ?_, fun _ hno => hno.elim⟩
  rcases h.slots i with heq | ⟨hidle, heq⟩
  · exact .inl heq
  · exact .inr ⟨hidle, heq, .inr ⟨⟨i, hidle, .inl rfl⟩, i, hidle, .inr rfl⟩⟩

/-- **ONE REQUEST**: the two runs agree, and what they leave behind
    differs in stale fields again. -/
theorem agree_run {s s' : State b} {w : W} (h : s.SameButStale s') (r : Request b)
    (hfresh : ∀ v ∈ (final (r.run d dpe s w)).drawn, ∀ i,
      (s.contexts i).state = .inactive →
        (s.contexts i).handle ≠ ⟨v⟩ ∧ (s'.contexts i).handle ≠ ⟨v⟩) :
    Agree (residue b W (staleHandles s s') fun _ => False) Eq
      (r.run d dpe s w) (r.run d dpe s' w) := by
  refine (twin_command d dpe r.cmd r.locality).agree _ _
    ⟨h.residual, rfl, rfl, rfl, rfl⟩ ?_
  rintro v hv ⟨i, hidle, hhandle⟩
  obtain ⟨hne, hne'⟩ := hfresh v hv i hidle
  rcases hhandle with heq | heq
  · exact hne heq
  · exact hne' heq

/-- Runs that agree give one answer. -/
theorem same_answer {r r' : EStateM.Result Stop (Env b W) Nat}
    {pinned : Fin b.maxHandles → Prop}
    (h : Agree (residue b W stale pinned) Eq r r') :
    Answer.of? r' = Answer.of? r ∧ Env.Residual stale pinned (final r) (final r') := by
  cases r with
  | ok n env =>
      cases r' with
      | ok n' env' =>
          obtain ⟨rfl, henv⟩ := h
          have hout : env'.out = env.out := henv.out
          exact ⟨congrArg (fun out => some (Answer.mk (.ok n) out)) hout, henv⟩
      | error e' env' => exact h.elim
  | error e env =>
      cases r' with
      | ok n' env' => exact h.elim
      | error e' env' =>
          obtain ⟨rfl, henv⟩ := h
          have hout : env'.out = env.out := henv.out
          cases e with
          | err e =>
              exact ⟨congrArg (fun out => some (Answer.mk (.error e) out)) hout, henv⟩
          | noReturn => exact ⟨rfl, henv⟩

/-! ## Every sequence of requests -/

/-- **NO RESIDUE**: whatever is left in the inactive slots, every sequence
    of requests is answered alike, and the states that are left behind
    differ in stale fields of inactive slots only.  The states need not
    be reachable, nor forests. -/
theorem serve_alike {rs : List (Request b)} {s s' : State b} {w : W}
    (hsame : s.SameButStale s') (hfresh : DrawsFresh d dpe rs s s' w) :
    (serve d dpe rs s w = none → serve d dpe rs s' w = none) ∧
    ∀ served, serve d dpe rs s w = some served →
      ∃ t, serve d dpe rs s' w = some { served with state := t } ∧
        served.state.SameButStale t := by
  induction rs generalizing s s' w with
  | nil =>
      refine ⟨(by intro hno; cases hno), fun served hserved => ?_⟩
      cases hserved
      exact ⟨s', rfl, hsame⟩
  | cons r rs ih =>
      obtain ⟨hdraws, hrest⟩ := hfresh
      obtain ⟨hanswer, henv⟩ := same_answer (agree_run hsame r hdraws)
      obtain ⟨hnone, hsome⟩ := ih henv.state.sameButStale hrest
      unfold serve
      dsimp only
      rw [hanswer, henv.world]
      cases Answer.of? (r.run d dpe s w) with
      | none => exact ⟨fun _ => rfl, fun served hserved => by cases hserved⟩
      | some answer =>
          refine ⟨fun hno => ?_, fun served hserved => ?_⟩
          · exact Option.map_eq_none_iff.mpr (hnone (Option.map_eq_none_iff.mp hno))
          · obtain ⟨later, hlater, rfl⟩ := Option.map_eq_some_iff.mp hserved
            obtain ⟨t, ht, hstale⟩ := hsome later hlater
            exact ⟨t, Option.map_eq_some_iff.mpr ⟨_, ht, rfl⟩, hstale⟩

/-! ## A slot that is used again -/

/-- Slot 1 after its context has been destroyed. -/
def sampleReused : State sampleBuild :=
  played [sampleInit 0, sampleSimulation 1 5,
    ⟨.command 1 (.destroyCtx ⟨sampleHandle 5⟩), [], 12⟩]

theorem one_lt_sampleSlots : 1 < 4 := by decide

/-- The same state with other values in the stale fields of that slot. -/
def sampleTampered : State sampleBuild :=
  let slot := sampleSlot ⟨1, one_lt_sampleSlots⟩
  sampleReused.set slot { sampleReused.contexts slot with
    handle := sampleHandle 9
    contextType := .normal
    allowX509 := true
    allowExportCdi := false
    allowRecursive := true }

/-- A context is made in the slot and derived from, and its handle is
    rotated. -/
def sampleRequests : List (Request sampleBuild) := [
  ⟨2, .initCtx .newSimulation, .slice (.replicate 28 0)⟩,
  ⟨2, .deriveContext ⟨sampleHandle 7, .replicate _ 1,
    ⟨DeriveContextFlags.RETAIN_PARENT_CONTEXT⟩, 5, 0, 0⟩, .slice (.replicate 44 0)⟩,
  ⟨2, .rotateCtx ⟨sampleHandle 8, 0⟩, .slice (.replicate 28 0)⟩]

theorem serve_alike_sample :
    ∃ served, serve sampleDeps sampleDpe sampleRequests sampleReused [7, 8, 6, 4]
        = some served ∧ ∃ t,
      serve sampleDeps sampleDpe sampleRequests sampleTampered [7, 8, 6, 4]
        = some { served with state := t } ∧ served.state.SameButStale t := by
  have hserved : (serve sampleDeps sampleDpe sampleRequests sampleReused
      [7, 8, 6, 4]).isSome = true := by decide +kernel
  obtain ⟨served, hserved⟩ := Option.isSome_iff_exists.mp hserved
  have hsame : sampleReused.SameButStale sampleTampered := ⟨rfl, by decide +kernel⟩
  have hfresh : DrawsFresh sampleDeps sampleDpe sampleRequests sampleReused
      sampleTampered [7, 8, 6, 4] := by decide +kernel
  exact ⟨served, hserved, (serve_alike hsame hfresh).2 served hserved⟩

end Dpe
