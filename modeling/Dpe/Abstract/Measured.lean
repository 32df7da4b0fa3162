import Dpe.Abstract.Effect

/-! # Measurements — what has been measured into a slot

    A context holds its last measurement and the hash of all of them; an
    unused slot holds nothing.  This module says what each edit does to
    these values, and which slot a command measures.  What else the key
    of a context depends on, no command changes while it lives. -/

namespace Dpe

variable {b : Build}

/-! ## The TCIs of a slot -/

/-- The current and the cumulative TCI of a slot; zero if it is unused. -/
def State.tcis (s : State b) (i : Fin b.maxHandles) :
    TciMeasurement b × TciMeasurement b :=
  if (s.contexts i).state = .inactive then (.zero b, .zero b)
  else ((s.contexts i).tci.tciCurrent, (s.contexts i).tci.tciCumulative)

namespace State

variable {s : State b} {i : Fin b.maxHandles}

theorem tcis_live (h : s.Live i) : s.tcis i
    = ((s.contexts i).tci.tciCurrent, (s.contexts i).tci.tciCumulative) := if_neg h

theorem tcis_idle (h : (s.contexts i).state = .inactive) :
    s.tcis i = (.zero b, .zero b) := if_pos h

theorem tcis_congr {t : State b} (h : t.contexts i = s.contexts i) :
    t.tcis i = s.tcis i := by
  unfold tcis
  rw [h]

/-- A context that stays live and keeps its TCIs may be replaced. -/
theorem tcis_set (hlive : s.Live i) {c : Context b} (hc : c.state ≠ .inactive)
    (htci : c.tci = (s.contexts i).tci) : (s.set i c).tcis = s.tcis := by
  funext j
  by_cases hj : j = i
  · rw [hj, tcis_live hlive, tcis, set_self, if_neg hc, htci]
  · exact tcis_congr (set_of_ne hj)

/-- A live context whose TCIs are replaced. -/
theorem tcis_set_update {c : Context b} (hc : c.state ≠ .inactive) :
    (s.set i c).tcis
      = Function.update s.tcis i (c.tci.tciCurrent, c.tci.tciCumulative) := by
  funext j
  by_cases hj : j = i
  · rw [hj, Function.update_self, tcis, set_self, if_neg hc]
  · rw [Function.update_of_ne hj]
    exact tcis_congr (set_of_ne hj)

end State

/-! ## Edits -/

namespace Edit

variable {s : State b} {i : Fin b.maxHandles}

theorem tcis_rename (h : s.Live i) (handle : ContextHandle) :
    ((rename i handle).apply s).tcis = s.tcis := State.tcis_set h h rfl

theorem tcis_retype (h : s.Live i) (tciType : UInt32) :
    ((retype i tciType).apply s).tcis = s.tcis := by
  rw [apply, State.tcis_set_update (by exact h)]
  exact Function.update_eq_self_iff.mpr (State.tcis_live h).symm

theorem tcis_retire (h : s.Live i) : ((retire i).apply s).tcis = s.tcis :=
  State.tcis_set h (fun hno => by cases hno) rfl

theorem tcis_measure (h : s.Live i) (measurement cumulative : TciMeasurement b) :
    ((measure i measurement cumulative).apply s).tcis
      = Function.update s.tcis i (measurement, cumulative) :=
  State.tcis_set_update (c := (s.contexts i).measure measurement cumulative) h

/-- A new root holds nothing, as its slot did before. -/
theorem tcis_plant {args : ActiveContextArgs}
    (h : (s.contexts i).state = .inactive) :
    ((plant i args).apply s).tcis = s.tcis := by
  show (s.set i ((s.contexts i).activate args)).tcis = s.tcis
  rw [State.tcis_set_update (fun hno => by cases hno)]
  exact Function.update_eq_self_iff.mpr (State.tcis_idle h).symm

/-- A child holds its first measurement; its parent keeps what it has. -/
theorem tcis_adopt {parent child : Fin b.maxHandles} {kept : Option ContextHandle}
    {args : ActiveContextArgs} {measurement cumulative : TciMeasurement b}
    (hlive : s.Live parent) (hidle : (s.contexts child).state = .inactive) :
    ((adopt parent child kept args measurement cumulative).apply s).tcis
      = Function.update s.tcis child (measurement, cumulative) := by
  have hne : parent ≠ child := by
    rintro rfl
    exact hlive hidle
  have hstays : (s.set child (((Context.new b).activate args).measure measurement
      cumulative)).contexts parent = s.contexts parent := State.set_of_ne hne
  rw [apply, State.tcis_set]
  · exact State.tcis_set_update (fun hno => by cases hno)
  · unfold State.Live
    rw [hstays]
    exact hlive
  · exact Context.keep_live _ hlive
  · rw [hstays]
    exact Context.keep_tci _ kept

/-- What is pruned holds nothing. -/
theorem tcis_prune {marked : Children} {j : Fin b.maxHandles}
    (h : ((prune marked).apply s).Live j) :
    ((prune marked).apply s).tcis j = s.tcis j := by
  by_cases hj : marked.hasChild b j = true
  · refine absurd ?_ h
    rw [prune_marked hj]
    rfl
  · rw [State.tcis, State.tcis, prune_other hj]
    rfl

end Edit

/-! ## A hash that is a function -/

/-- The hasher computes `H`, whatever the world is. -/
def CryptoSuite.HashesBy {W : Type} (crypto : CryptoSuite W)
    (H : Bytes → Digest) : Prop :=
  ∀ bs w digest w', crypto.hasherFinish bs w = (.ok digest, w') → digest = H bs

section Hash

variable {W : Type} {d : Deps b W} {H : Bytes → Digest}
  {old m cumulative cumulative' : TciMeasurement b}

/-- A measurement is hashed onto the cumulative TCI. -/
theorem Extends.hash (hhash : d.crypto.HashesBy H)
    (h : Extends d old m cumulative) :
    cumulative.toList = (H (old.toList ++ m.toList)).asSlice := by
  obtain ⟨digest, ⟨w, w', hrun⟩, hc⟩ := h
  rw [← hhash _ _ _ _ hrun]
  unfold measurementOfDigest at hc
  split at hc
  · cases hc
    exact List.toList_toArray
  · cases hc

theorem Extends.unique (hhash : d.crypto.HashesBy H)
    (h : Extends d old m cumulative) (h' : Extends d old m cumulative') :
    cumulative = cumulative' :=
  Vector.toList_inj.mp ((h.hash hhash).trans (h'.hash hhash).symm)

end Hash

/-! ## Which slot is measured -/

/-- The slot a command measures, and the measurement. -/
def Command.measures (s : State b) (locality : UInt32) :
    Command b → Option (Fin b.maxHandles × TciMeasurement b)
  | deriveContext cmd =>
      if cmd.flags.isRecursive then
        (s.getActiveContextPos cmd.handle locality).toOption.map (·, cmd.data)
      else if cmd.flags.createsCertificate && cmd.flags.exportsCdi then none
      else s.getNextInactiveContextPos.map (·, cmd.data)
  | updateContextMeasurement cmd =>
      (s.getActiveContextPos cmd.parentHandle locality).toOption.bind
        fun parent => (cmd.findChild s parent).map (·, cmd.data)
  | getProfile _ | initCtx _ | certifyKey _ | sign _ | rotateCtx _ | destroyCtx _
  | getCertificateChain _ => none

/-- What `r` names is all that has been measured between the
    states, up to contexts that are gone. -/
def Recorded {W : Type} (d : Deps b W)
    (r : Option (Fin b.maxHandles × TciMeasurement b)) (s s' : State b) : Prop :=
  ∀ j, s'.Live j → (s'.tcis j = s.tcis j ∧ ∀ m, r ≠ some (j, m)) ∨
    ∃ m cumulative, r = some (j, m) ∧ Extends d (s.tcis j).2 m cumulative ∧
      s'.tcis j = (m, cumulative)

namespace Recorded

variable {W : Type} {d : Deps b W} {s s' : State b} {i : Fin b.maxHandles}

theorem nothing (h : ∀ j, s'.Live j → s'.tcis j = s.tcis j) :
    Recorded d none s s' := by
  intro j hj
  exact .inl ⟨h j hj, fun m hno => by cases hno⟩

theorem same (h : s'.tcis = s.tcis) : Recorded d none s s' :=
  nothing fun _ _ => congrFun h _

theorem update {m cumulative : TciMeasurement b}
    (h : s'.tcis = Function.update s.tcis i (m, cumulative))
    (hextends : Extends d (s.tcis i).2 m cumulative) :
    Recorded d (some (i, m)) s s' := by
  intro j _
  rw [h]
  by_cases hj : j = i
  · rw [hj, Function.update_self]
    exact .inr ⟨m, cumulative, rfl, hextends, rfl⟩
  · rw [Function.update_of_ne hj]
    refine .inl ⟨rfl, fun m' hno => ?_⟩
    cases hno
    exact hj rfl

end Recorded

section Effects

open Edit

variable {W : Type} {d : Deps b W} {s : State b} {locality : UInt32}
  {cmd : Command b} {draws : List (Vector UInt8 16)} {es : List (Edit b)}

/-- An export measures nothing. -/
theorem DeriveContextCmd.measures_export (cmd : DeriveContextCmd b)
    (hrecursive : cmd.flags.isRecursive = false)
    (hexport : (cmd.flags.createsCertificate && cmd.flags.exportsCdi) = true) :
    (Command.deriveContext cmd).measures s locality = none := by
  simp only [Command.measures, hrecursive, hexport, Bool.false_eq_true, if_false,
    if_true]

/-- **MEASURING**: a command measures the slot it is said to, and no
    other. -/
theorem Effect.recorded (he : Effect d s locality cmd draws es) :
    Recorded d (cmd.measures s locality) s (applyAll s es) := by
  cases he with
  | getProfile | getCertificateChain => exact .same rfl
  | initCtx _ slot => exact .same (tcis_plant (State.getNextInactiveContextPos_some slot))
  | rotateCtx _ resolves | sign resolves | certifyKey resolves =>
      exact .same (tcis_rename (State.live_of_resolves resolves) _)
  | destroyCtx => exact .nothing fun j hj => tcis_prune hj
  | @updateContextMeasurement cmd parent child _ _ handle handle' cumulative _
      resolves found extended =>
      have hparent := State.live_of_resolves resolves
      have hchild := State.live_of_active
        (UpdateContextMeasurementCmd.findChild_some found).2.1
      have hchild1 := live_rename parent handle hchild
      have hchild2 := live_measure child cmd.data cumulative hchild1
      have hmeasures : (Command.updateContextMeasurement cmd).measures s locality
          = some (child, cmd.data) := by
        simp only [Command.measures, resolves, Except.toOption, Option.bind_some,
          found, Option.map_some]
      rw [hmeasures]
      refine .update ?_ (by rwa [State.tcis_live hchild])
      simp only [applyAll_cons, applyAll_nil]
      rw [tcis_rename hchild2, tcis_measure hchild1, tcis_rename hparent]
  | @recursive cmd idx _ _ cumulative accepted isRecursive _ _ extended =>
      have hlive := State.live_of_resolves accepted.resolves
      have hmeasures : (Command.deriveContext cmd).measures s locality
          = some (idx, cmd.data) := by
        simp only [Command.measures, isRecursive, if_true, accepted.resolves,
          Except.toOption, Option.map_some]
      rw [hmeasures]
      refine .update ?_ (by rwa [State.tcis_live hlive])
      simp only [applyAll_cons, applyAll_nil]
      rw [tcis_rename (live_measure _ _ _ hlive), tcis_measure hlive]
  | @child cmd parent idx _ _ _ _ _ accepted notExported _ slot _ _ extended =>
      have hidle := State.getNextInactiveContextPos_some slot
      have hmeasures : (Command.deriveContext cmd).measures s locality
          = some (idx, cmd.data) := by
        simp only [Command.measures, accepted.notRecursive, notExported, slot,
          Bool.false_eq_true, if_false, Option.map_some]
      rw [hmeasures]
      refine .update ?_ (by rwa [State.tcis_idle hidle])
      exact tcis_adopt (State.live_of_resolves accepted.resolves) hidle
  | @exportDestroyed cmd _ _ _ accepted exported =>
      rw [cmd.measures_export accepted.notRecursive exported]
      exact .nothing fun j hj => tcis_prune hj
  | @exportRetired cmd _ accepted exported =>
      rw [cmd.measures_export accepted.notRecursive exported]
      exact .same (tcis_retire (State.live_of_resolves accepted.resolves))
  | @exportRetained cmd _ _ _ accepted exported =>
      rw [cmd.measures_export accepted.notRecursive exported]
      exact .same (tcis_rename (State.live_of_resolves accepted.resolves) _)

end Effects

end Dpe
