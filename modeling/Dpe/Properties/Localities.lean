import Dpe.Proofs.Roots
import Dpe.Proofs.Sample
import Dpe.Proofs.Validation

/-! # Localities — the default context is alone

    Deriving and rotating keep a default context alone in its locality.
    Initializing does not look at the locality at all: a root may join
    contexts that are there, and the validator rejects what comes of
    it. -/

namespace Dpe

open Prog Runs

variable {b : Build}

/-! ## Addresses -/

/-- A default address is the only address of its locality. -/
def Alone {ι : Type} (a : ι → Option Address) : Prop :=
  ∀ i j locality handle, a i = some (locality, .default) →
    a j = some (locality, handle) → j = i

namespace Alone

variable {ι : Type} {a a' : ι → Option Address} {i : ι} {x : Option Address}

/-- No default address meets another address. -/
theorem update [DecidableEq ι] (h : Alone a)
    (hx : ∀ j, j ≠ i → ∀ locality handle handle', x = some (locality, handle) →
      a j = some (locality, handle') →
      handle ≠ .default ∧ handle' ≠ .default) :
    Alone (Function.update a i x) := by
  intro p q locality handle hp hq
  by_cases hpi : p = i
  · by_cases hqi : q = i
    · rw [hpi, hqi]
    · rw [hpi, Function.update_self] at hp
      rw [Function.update_of_ne hqi] at hq
      exact absurd rfl (hx q hqi locality _ _ hp hq).1
  · rw [Function.update_of_ne hpi] at hp
    by_cases hqi : q = i
    · rw [hqi, Function.update_self] at hq
      exact absurd rfl (hx p hpi locality _ _ hq hp).2
    · rw [Function.update_of_ne hqi] at hq
      exact h p q locality handle hp hq

/-- Addresses may be given up. -/
theorem restrict (h : Alone a) (ha : ∀ i, a' i = none ∨ a' i = a i) :
    Alone a' := by
  have hold : ∀ {i : ι} {y : Address}, a' i = some y → a i = some y := by
    intro i y hi
    rcases ha i with hn | hs
    · rw [hn] at hi
      cases hi
    · rw [← hs, hi]
  intro p q locality handle hp hq
  exact h p q locality handle (hold hp) (hold hq)

theorem update_none [DecidableEq ι] (h : Alone a) :
    Alone (Function.update a i none) :=
  h.update fun _ _ _ _ _ hno => by cases hno

/-- Beside an address that is not default there is no default one. -/
theorem others (h : Alone a) {j : ι} {locality : UInt32}
    {handle handle' : ContextHandle} (hi : a i = some (locality, handle))
    (hne : handle ≠ .default) (hj : a j = some (locality, handle')) :
    handle' ≠ .default := by
  rintro rfl
  have heq := h j i locality handle hj hi
  rw [heq, hj] at hi
  cases hi
  exact hne rfl

end Alone

theorem State.exclusive_iff {s : State b} : s.Exclusive ↔ Alone s.address := by
  constructor
  · intro h i j locality handle hi hj
    obtain ⟨hactive, hl, hh⟩ := State.address_some.mp hi
    obtain ⟨hactive', hl', -⟩ := State.address_some.mp hj
    exact h i j hactive hactive' (hl.trans hl'.symm) hh
  · intro h i j hi hj hl hh
    exact h i j (s.contexts j).locality (s.contexts j).handle
      (State.address_some.mpr ⟨hi, hl, hh⟩)
      (State.address_some.mpr ⟨hj, rfl, rfl⟩)

/-! ## Effects -/

section Effects

open Edit

variable {W : Type} {d : Deps b W} {s : State b} {locality : UInt32}
  {i : Fin b.maxHandles} {old handle : ContextHandle} {isDefault : Bool}
  {draws : List (Vector UInt8 16)}

/-- A drawn handle is not the default one. -/
theorem Fresh.ne_default (h : Fresh s draws handle) : handle ≠ .default :=
  fun he => h.free (.inl he)

/-- No context carries a drawn handle. -/
theorem Fresh.ne_handle (h : Fresh s draws handle) (i : Fin b.maxHandles) :
    (s.contexts i).handle ≠ handle := fun he => h.free (.inr ⟨i, he⟩)

/-- A context that is renamed by its kind stays alone, or with others. -/
theorem alone_rename (h : Alone s.address)
    (hi : s.address i = some (locality, old))
    (hchosen : Chosen s old.isDefault draws handle) :
    Alone ((rename i handle).apply s).address := by
  rw [address_rename hi]
  by_cases hold : old = .default
  · -- a default context keeps its address
    rw [hold] at hchosen hi
    cases hchosen with
    | default => rwa [Function.update_eq_self_iff.mpr hi.symm]
  · rw [show old.isDefault = false by simpa [ContextHandle.isDefault] using hold]
      at hchosen
    cases hchosen with
    | fresh hfresh =>
        refine h.update fun j _ locality' handle' handle'' hx hj => ?_
        cases hx
        exact ⟨hfresh.ne_default, h.others hi hold hj⟩

/-- The guard of a new default child: its locality is empty, or the
    default context there is its parent and goes. -/
theorem safe_cases {cmd : DeriveContextCmd b} {parent : Fin b.maxHandles}
    {target : UInt32} (hdefault : cmd.flags.makesDefault = true)
    (hsafe : cmd.safeToMakeChild s parent target = true) :
    (∀ j handle, s.address j ≠ some (target, handle)) ∨
      (s.getActiveContextPos .default target = .ok parent ∧
        cmd.flags.retainsParent = false) := by
  unfold DeriveContextCmd.safeToMakeChild at hsafe
  dsimp only at hsafe
  rw [if_pos hdefault] at hsafe
  unfold DeriveContextCmd.safeToMakeDefault at hsafe
  split at hsafe
  · rename_i hcount _
    refine .inl fun j handle hj => ?_
    unfold State.countContexts at hcount
    rw [List.length_eq_zero_iff, List.filter_eq_nil_iff] at hcount
    obtain ⟨hactive, hl, -⟩ := State.address_some.mp hj
    refine absurd ?_ (hcount j (List.mem_finRange j))
    simp [hactive, hl]
  · rename_i defaultIdx hd
    cases hr : s.getActiveContextPos .default target with
    | error e =>
        rw [hr] at hd
        cases hd
    | ok k =>
        rw [hr] at hd
        cases hd
        split at hsafe
        · rename_i hp
          rw [hp]
          exact .inr ⟨rfl, by simpa using hsafe⟩
        · cases hsafe
  · cases hsafe

/-- A new default child has no context beside it, its parent apart. -/
theorem safe_default {cmd : DeriveContextCmd b} {parent : Fin b.maxHandles}
    {target : UInt32} (h : Alone s.address)
    (hdefault : cmd.flags.makesDefault = true)
    (hsafe : cmd.safeToMakeChild s parent target = true)
    {j : Fin b.maxHandles} (hj : s.address j = some (target, handle)) :
    j = parent ∧ cmd.flags.retainsParent = false := by
  rcases safe_cases hdefault hsafe with hnone | ⟨hr, hgone⟩
  · exact absurd hj (hnone j handle)
  · exact ⟨h _ j target handle (State.address_of_resolves hr) hj, hgone⟩

/-- The guard of another child leaves no default context beside it. -/
theorem safe_nonDefault {cmd : DeriveContextCmd b} {parent : Fin b.maxHandles}
    {target : UInt32} (h : Alone s.address)
    (hdefault : cmd.flags.makesDefault = false)
    (hsafe : cmd.safeToMakeChild s parent target = true)
    {j : Fin b.maxHandles} (hj : s.address j = some (target, handle)) :
    handle ≠ .default ∨ (j = parent ∧ cmd.flags.retainsParent = false) := by
  unfold DeriveContextCmd.safeToMakeChild at hsafe
  dsimp only at hsafe
  rw [if_neg (by rw [hdefault]; exact Bool.false_ne_true)] at hsafe
  unfold DeriveContextCmd.safeToMakeNonDefault at hsafe
  cases hr : s.getActiveContextPos .default target with
  | error e =>
      obtain ⟨hactive, hl, hh⟩ := State.address_some.mp hj
      rw [← hh]
      exact .inl (State.getActiveContextPos_error hr j hactive hl)
  | ok k =>
      rw [hr] at hsafe
      have heq := h _ j target handle (State.address_of_resolves hr) hj
      dsimp only [Except.toOption] at hsafe
      split at hsafe
      · rename_i hp
        exact .inr ⟨heq.trans hp, by simpa using hsafe⟩
      · cases hsafe

/-- A child joins its locality, or replaces its parent there. -/
theorem alone_adopt (h : Alone s.address)
    {cmd : DeriveContextCmd b} {parent child : Fin b.maxHandles}
    {draws' : List (Vector UInt8 16)} {kept : Option ContextHandle}
    {args : ActiveContextArgs} {measurement cumulative : TciMeasurement b}
    (hparent : s.address parent = some (locality, cmd.handle))
    (hidle : (s.contexts child).state = .inactive)
    (hkept : Kept s cmd.handle cmd.flags.retainsParent draws kept)
    (hsafe : cmd.safeToMakeChild s parent args.locality = true)
    (hchosen : Chosen s cmd.flags.makesDefault draws' args.handle) :
    Alone ((adopt parent child kept args measurement cumulative).apply s).address := by
  have hne : child ≠ parent := by
    rintro rfl
    obtain ⟨hactive, -⟩ := State.address_some.mp hparent
    rw [hidle] at hactive
    cases hactive
  have hkeep : Alone (Function.update s.address parent
      (kept.map fun handle => (locality, handle))) := by
    generalize cmd.flags.retainsParent = retains at hkept
    cases hkept with
    | retained hkept =>
        have hrenamed := alone_rename h hparent hkept
        rwa [address_rename hparent] at hrenamed
    | retired => exact h.update_none
  rw [address_adopt hparent hne]
  refine hkeep.update fun j hj target handle handle' hx haddr => ?_
  cases hx
  by_cases hjp : j = parent
  · -- the parent is still there, so it was retained
    rw [hjp, Function.update_self] at haddr
    have hretained : cmd.flags.retainsParent = true := by
      cases hr : cmd.flags.retainsParent with
      | true => rfl
      | false =>
          rw [hr] at hkept
          cases hkept
          cases haddr
    rw [hretained] at hkept
    cases hkept with
    | retained hkept =>
        cases haddr
        cases hd : cmd.flags.makesDefault with
        | true =>
            have hno := (safe_default h hd hsafe hparent).2
            rw [hretained] at hno
            cases hno
        | false =>
            rw [hd] at hchosen
            cases hchosen with
            | fresh hfresh =>
                refine ⟨hfresh.ne_default, ?_⟩
                have hold : cmd.handle ≠ .default := by
                  rcases safe_nonDefault h hd hsafe hparent with hne | ⟨-, hno⟩
                  · exact hne
                  · rw [hretained] at hno
                    cases hno
                rw [show cmd.handle.isDefault = false by
                  simpa [ContextHandle.isDefault] using hold] at hkept
                cases hkept with
                | fresh hfresh' => exact hfresh'.ne_default
  · rw [Function.update_of_ne hjp] at haddr
    cases hd : cmd.flags.makesDefault with
    | true => exact absurd (safe_default h hd hsafe haddr).1 hjp
    | false =>
        rw [hd] at hchosen
        cases hchosen with
        | fresh hfresh =>
            refine ⟨hfresh.ne_default, ?_⟩
            rcases safe_nonDefault h hd hsafe haddr with hne' | ⟨heq, -⟩
            · exact hne'
            · exact absurd heq hjp

/-- Rotation to the default handle finds nothing else in the locality. -/
theorem alone_rotate (h : Alone s.address) {cmd : RotateCtxCmd}
    (hi : s.address i = some (locality, cmd.handle))
    (hallowed : (cmd.usesTargetIsDefault
      && RotateCtxCmd.targetIsTaken s locality i) = false)
    (hchosen : Chosen s cmd.usesTargetIsDefault draws handle) :
    Alone ((rename i handle).apply s).address := by
  cases ht : cmd.usesTargetIsDefault with
  | false =>
      rw [ht] at hchosen
      cases hchosen with
      | fresh hfresh =>
          rw [address_rename hi]
          refine h.update fun j hj locality' handle' handle'' hx hja => ?_
          cases hx
          refine ⟨hfresh.ne_default, ?_⟩
          rintro rfl
          exact hj (h j i locality cmd.handle hja hi).symm
  | true =>
      rw [ht, Bool.true_and] at hallowed
      unfold RotateCtxCmd.targetIsTaken at hallowed
      rw [Bool.or_eq_false_iff] at hallowed
      rw [address_rename hi]
      refine h.update fun j hj locality' handle' handle'' hx hja => ?_
      cases hx
      obtain ⟨hactive, hl, hh⟩ := State.address_some.mp hja
      exfalso
      by_cases hd : handle'' = .default
      · cases hr : s.getActiveContextPos .default locality with
        | error e =>
            exact State.getActiveContextPos_error hr j hactive hl (hh.trans hd)
        | ok k =>
            rw [hr] at hallowed
            cases hallowed.1
      · have hany := hallowed.2
        unfold RotateCtxCmd.nonDefaultValidHandlesExist at hany
        rw [List.any_eq_false] at hany
        refine hany j (List.mem_finRange j) ?_
        rw [← hh] at hd
        simp [hactive, hl, hj, ContextHandle.isDefault, hd]

/-! ## The condition -/

/-- The locality has no active context. -/
def State.Vacant (s : State b) (locality : UInt32) : Prop :=
  ∀ i, (s.contexts i).state = .active → (s.contexts i).locality ≠ locality

/-- The locality has no active default context. -/
def State.Undefaulted (s : State b) (locality : UInt32) : Prop :=
  ∀ i, (s.contexts i).state = .active → (s.contexts i).locality = locality →
    (s.contexts i).handle ≠ .default

instance (s : State b) (locality : UInt32) : Decidable (s.Vacant locality) :=
  inferInstanceAs (Decidable (∀ _, _ → _))

instance (s : State b) (locality : UInt32) : Decidable (s.Undefaulted locality) :=
  inferInstanceAs (Decidable (∀ _, _ → _ → _))

/-- A root leaves its locality exclusive: the locality is vacant if the
    root is a default context, else it has no default context. -/
def InitCtxCmd.Clear (cmd : InitCtxCmd) (s : State b) (locality : UInt32) : Prop :=
  if cmd.flagIsDefault then s.Vacant locality else s.Undefaulted locality

/-- The call makes a root for the locality, by `cmd`. -/
def Exec.Plants (x : Exec b) (cmd : InitCtxCmd) (locality : UInt32) : Prop :=
  match x.call with
  | .command caller (.initCtx icmd) => icmd = cmd ∧ caller = locality ∧
      cmd.Plants x.deps x.env.state x.env.world
  | .command _ _ => False
  | .new | .newAutoInit .. => cmd = .newUseDefault ∧
      x.env.state.support.autoInit = true ∧
      ∃ w, x.deps.platform.getAutoInitLocality x.env.world = (.ok locality, w) ∧
        cmd.Plants x.deps x.env.state w

/-- The root that the call makes, if it makes one, leaves its locality
    exclusive. -/
def Exec.Clear (x : Exec b) : Prop :=
  ∀ cmd locality, x.Plants cmd locality → cmd.Clear x.env.state locality

/-- A root leaves localities exclusive exactly if its own is clear. -/
theorem alone_plant_iff (h : Alone s.address) {cmd : InitCtxCmd}
    (hidle : (s.contexts i).state = .inactive)
    (hchosen : Chosen s cmd.flagIsDefault draws handle) :
    Alone ((plant i (cmd.activeContextArgs cmd.contextType handle
      locality)).apply s).address ↔ cmd.Clear s locality := by
  rw [address_plant]
  show Alone (Function.update s.address i (some (locality, handle))) ↔ _
  have hother : ∀ {j}, (s.contexts j).state = .active → j ≠ i := by
    rintro j hactive rfl
    rw [hidle] at hactive
    cases hactive
  unfold InitCtxCmd.Clear
  cases hd : cmd.flagIsDefault with
  | true =>
      rw [if_pos rfl]
      rw [hd] at hchosen
      cases hchosen
      constructor
      · intro halone j hactive hl
        refine hother hactive (halone i j locality (s.contexts j).handle ?_ ?_)
        · exact Function.update_self ..
        · rw [Function.update_of_ne (hother hactive)]
          exact State.address_some.mpr ⟨hactive, hl, rfl⟩
      · intro hvacant
        refine h.update fun j _ locality' handle' handle'' hx hj => ?_
        cases hx
        obtain ⟨hactive, hl, -⟩ := State.address_some.mp hj
        exact absurd hl (hvacant j hactive)
  | false =>
      rw [if_neg Bool.false_ne_true]
      rw [hd] at hchosen
      cases hchosen with
      | fresh hfresh =>
          constructor
          · intro halone j hactive hl hh
            refine hother hactive (halone j i locality handle ?_ ?_).symm
            · rw [Function.update_of_ne (hother hactive)]
              exact State.address_some.mpr ⟨hactive, hl, hh⟩
            · exact Function.update_self ..
          · intro hundefaulted
            refine h.update fun j _ locality' handle' handle'' hx hj => ?_
            cases hx
            obtain ⟨hactive, hl, hh⟩ := State.address_some.mp hj
            refine ⟨hfresh.ne_default, ?_⟩
            rw [← hh]
            exact hundefaulted j hactive hl

/-- What InitCtx leaves behind is exclusive exactly if the root that it
    makes is clear. -/
theorem alone_ends {w : W} {s' : State b} (h : Alone s.address) {cmd : InitCtxCmd}
    (hends : cmd.Ends d locality s w s') :
    Alone s'.address ↔ (cmd.Plants d s w → cmd.Clear s locality) := by
  cases hends with
  | planted plants slot chosen =>
      rw [alone_plant_iff h (State.getNextInactiveContextPos_some slot) chosen]
      exact ⟨fun hclear _ => hclear, fun hclear => hclear plants⟩
  | unplanted no => exact iff_of_true h fun hplants => absurd hplants no

/-- The child of an update keeps its address when its parent is
    renamed. -/
theorem updated_child (hwell : s.WellFormed) {cmd : UpdateContextMeasurementCmd b}
    {parent child : Fin b.maxHandles}
    (hresolves : s.getActiveContextPos cmd.parentHandle locality = .ok parent)
    (hfound : cmd.findChild s parent = some child) (handle : ContextHandle) :
    child ≠ parent ∧ ((rename parent handle).apply s).address child
      = some ((s.contexts child).locality, (s.contexts child).handle) := by
  obtain ⟨hbit, hactive, -⟩ := UpdateContextMeasurementCmd.findChild_some hfound
  have hne : child ≠ parent := by
    rintro rfl
    exact (hwell.rooted _ (State.live_of_resolves hresolves)).not_child_self
      ((hwell.child_iff _ _).mp hbit)
  refine ⟨hne, ?_⟩
  rw [address_rename (State.address_of_resolves hresolves),
    Function.update_of_ne hne]
  exact Context.address_active hactive

/-- **EFFECTS KEEP LOCALITIES EXCLUSIVE**, but for those of InitCtx. -/
theorem alone_effect (hwell : s.WellFormed) (h : Alone s.address)
    {cmd : Command b} {es : List (Edit b)}
    (he : Effect d s locality cmd draws es) (hno : ∀ icmd, cmd ≠ .initCtx icmd) :
    Alone (applyAll s es).address := by
  cases he with
  | getProfile | getCertificateChain => exact h
  | initCtx => exact absurd rfl (hno _)
  | rotateCtx _ resolves allowed chosen =>
      exact alone_rotate h (State.address_of_resolves resolves) allowed chosen
  | destroyCtx | exportDestroyed =>
      refine h.restrict fun j => ?_
      simp only [applyAll_cons, applyAll_nil, address_prune]
      split
      · exact .inl rfl
      · exact .inr rfl
  | sign resolves _ chosen =>
      exact alone_rename h (State.address_of_resolves resolves) chosen
  | certifyKey resolves _ _ chosen =>
      exact alone_rename h (State.address_of_resolves resolves) chosen
  | @updateContextMeasurement cmd parent child _ _ handle handle' _ named resolves
      found _ parentChosen childChosen =>
      have hparent := State.address_of_resolves resolves
      have hbool : cmd.parentHandle.isDefault = false := by
        simpa [ContextHandle.isDefault] using named
      rw [← hbool] at parentChosen
      have h1 := alone_rename h hparent parentChosen
      have hchild := (updated_child hwell resolves found handle).2
      have h2 := alone_rename h1 hchild childChosen
      rw [address_rename hchild] at h2
      simp only [applyAll_cons, applyAll_nil]
      rw [address_measure_rename hchild]
      exact h2
  | @recursive cmd idx _ handle _ accepted _ _ _ _ chosen =>
      have hidx := State.address_of_resolves accepted.resolves
      have h1 := alone_rename h hidx chosen
      simp only [applyAll_cons, applyAll_nil]
      rw [address_measure_rename hidx, ← address_rename hidx]
      exact h1
  | child accepted _ isKept slot safe chosen =>
      exact alone_adopt h (State.address_of_resolves accepted.resolves)
        (State.getNextInactiveContextPos_some slot) isKept safe chosen
  | exportRetired =>
      simp only [applyAll_cons, applyAll_nil, address_retire]
      exact h.update_none
  | exportRetained accepted _ _ chosen =>
      exact alone_rename h (State.address_of_resolves accepted.resolves) chosen

end Effects

/-! ## Runs -/

/-- A command that is no InitCtx keeps localities exclusive. -/
theorem alone_command {W : Type} {d : Deps b W} {s : State b} {locality : UInt32}
    {cmd : Command b} {draws : List (Vector UInt8 16)} {es : List (Edit b)}
    (hwell : s.WellFormed) (h : Alone s.address)
    (he : CallEffect d s (.command locality cmd) draws es)
    (hno : ∀ icmd, cmd ≠ .initCtx icmd) : Alone (Edit.applyAll s es).address := by
  cases he with
  | failed => exact h
  | command effect => exact alone_effect hwell h effect hno
  | @parentRolled cmd _ _ _ _ _ _ named resolves _ chosen =>
      have hbool : cmd.parentHandle.isDefault = false := by
        simpa [ContextHandle.isDefault] using named
      rw [← hbool] at chosen
      exact alone_rename h (State.address_of_resolves resolves) chosen

/-- What a new instance is left with is exclusive exactly if its root is
    clear. -/
theorem NewEnds.alone {W : Type} {d : Deps b W} {s s' : State b} {w : W}
    (h : Alone s.address) (hends : NewEnds d s w s') :
    Alone s'.address ↔ (s.support.autoInit = true → ∀ locality w',
      d.platform.getAutoInitLocality w = (.ok locality, w') →
      InitCtxCmd.newUseDefault.Plants d s w' →
      InitCtxCmd.newUseDefault.Clear s locality) := by
  cases hends with
  | asked autoInit owner ends =>
      rw [alone_ends h ends]
      refine ⟨fun hclear _ locality' w' howner hplants => ?_,
        fun hclear => hclear autoInit _ _ owner⟩
      rw [owner] at howner
      cases howner
      exact hclear hplants
  | idle idle =>
      refine iff_of_true h fun hauto locality' w' howner => ?_
      obtain ⟨e, he⟩ := idle hauto
      rw [howner] at he
      cases he

/-- **ONE STEP** keeps localities exclusive exactly if the root that it
    makes, if it makes one, is clear. -/
theorem Exec.Step.alone_iff {x : Exec b} {s s' : State b} (hwell : s.WellFormed)
    (h : Alone s.address) (hstep : Exec.Step s x s') :
    Alone s'.address ↔ x.Clear := by
  have heffect := hstep.effect hwell
  obtain ⟨rfl, hend⟩ := hstep
  have hpost : ∀ {Q : State b → Prop}, Post (x.call.run x.deps x.dpe) x.env
      (fun _ env' => Q env'.state) (fun _ env' => Q env'.state) → Q s' := by
    intro Q hQ
    rcases hend with ⟨env', hrun, rfl⟩ | ⟨e, env', hrun, rfl⟩
    · exact hQ.of_ok hrun
    · exact hQ.of_error hrun
  have hnew : ∀ {s₁ : State b}, NewEnds x.deps x.env.state x.env.world s₁ →
      (∀ cmd locality, x.Plants cmd locality ↔ cmd = .newUseDefault ∧
        x.env.state.support.autoInit = true ∧
        ∃ w, x.deps.platform.getAutoInitLocality x.env.world = (.ok locality, w) ∧
          cmd.Plants x.deps x.env.state w) → (Alone s₁.address ↔ x.Clear) := by
    intro s₁ hends hplants
    rw [hends.alone h]
    constructor
    · intro hclear cmd locality hcmd
      obtain ⟨rfl, hauto, w, howner, hplanted⟩ := (hplants cmd locality).mp hcmd
      exact hclear hauto locality w howner hplanted
    · intro hclear hauto locality w howner hplanted
      exact hclear _ _ ((hplants _ _).mpr ⟨rfl, hauto, w, howner, hplanted⟩)
  cases hcall : x.call with
  | new =>
      rw [hcall] at hpost
      exact hnew (hpost (new_ends x.deps x.dpe x.env)) fun cmd locality => by
        rw [Exec.Plants, hcall]
  | newAutoInit tciType measurement =>
      rw [hcall] at hpost
      obtain ⟨s₁, hends, haddress⟩ :=
        hpost (Q := fun s' => ∃ s, NewEnds x.deps x.env.state x.env.world s ∧
          s'.address = s.address)
          (newAutoInit_ends x.deps x.dpe tciType measurement x.env)
      rw [haddress]
      exact hnew hends fun cmd locality => by rw [Exec.Plants, hcall]
  | command locality cmd =>
      rw [hcall] at hpost
      by_cases hinit : ∃ icmd, cmd = .initCtx icmd
      · obtain ⟨icmd, rfl⟩ := hinit
        have hends := hpost (Post.bind (initCtx_ends x.deps x.dpe icmd locality x.env)
          fun _ _ h => Post.pure h)
        rw [alone_ends h hends]
        have hplants : ∀ cmd caller, x.Plants cmd caller ↔ icmd = cmd ∧
            locality = caller ∧ cmd.Plants x.deps x.env.state x.env.world := by
          intro cmd caller
          rw [Exec.Plants, hcall]
        constructor
        · intro hclear cmd caller hcmd
          obtain ⟨rfl, rfl, hplanted⟩ := (hplants cmd caller).mp hcmd
          exact hclear hplanted
        · intro hclear hplanted
          exact hclear icmd locality ((hplants _ _).mpr ⟨rfl, rfl, hplanted⟩)
      · have hno : ∀ cmd caller, ¬ x.Plants cmd caller := by
          intro icmd caller
          rw [Exec.Plants, hcall]
          cases cmd with
          | initCtx icmd => exact absurd ⟨icmd, rfl⟩ hinit
          | getProfile | deriveContext | certifyKey | sign | rotateCtx | destroyCtx
          | getCertificateChain | updateContextMeasurement => exact id
        obtain ⟨draws, es, he, rfl⟩ := heffect
        rw [hcall] at he
        exact iff_of_true
          (alone_command hwell h he fun icmd hcmd => hinit ⟨icmd, hcmd⟩)
          fun cmd caller hcmd => absurd hcmd (hno cmd caller)

/-- **EXCLUSIVE LOCALITIES**: a run in which every root that is made is
    clear leads to a state that the check of the handles accepts. -/
theorem exclusive_run {support : Support} {flags : DpeFlags}
    {xs : List (Exec b)} {s : State b}
    (hrun : Run Exec.Step (State.new b support flags) xs s)
    (hclear : ∀ x ∈ xs, x.Clear) :
    s.Exclusive ∧ s.checkContextHandlesPerLocality = .ok () := by
  have hinv : s.WellFormed ∧ Alone s.address := by
    refine hrun.invariant (I := fun s => s.WellFormed ∧ Alone s.address) ?_ hclear
      ⟨State.wellFormed_new support flags, ?_⟩
    · rintro s x s' ⟨hwell, h⟩ hx hstep
      exact ⟨hstep.wellFormed hwell, (hstep.alone_iff hwell h).mpr hx⟩
    · intro i j locality handle hi
      cases hi
  have hexclusive := State.exclusive_iff.mpr hinv.2
  exact ⟨hexclusive, State.checkContextHandlesPerLocality_ok.mpr hexclusive⟩

/-- A default context in one locality and two simulations in another. -/
def exclusiveCalls : List SampleCall :=
  [sampleInit 0, sampleSimulation 1 5, sampleSimulation 1 6]

theorem exclusive_run_played : (played exclusiveCalls).Exclusive ∧
    (played exclusiveCalls).checkContextHandlesPerLocality = .ok () := by
  have hplays : (play sampleNew exclusiveCalls).isSome = true := by decide +kernel
  have hplays₂ : (play sampleNew [sampleInit 0, sampleSimulation 1 5]).isSome = true := by
    decide +kernel
  have hplays₁ : (play sampleNew [sampleInit 0]).isSome = true := by decide +kernel
  have hstep₁ : Exec.Step sampleNew ((sampleInit 0).exec sampleNew)
      (played [sampleInit 0]) := @step_played [] _ hplays₁
  have hstep₂ := @step_played [sampleInit 0] _ hplays₂
  have hstep₃ := @step_played [sampleInit 0, sampleSimulation 1 5] _ hplays
  have hclear : sampleNew.Vacant 0 ∧ (played [sampleInit 0]).Undefaulted 1 ∧
      (played [sampleInit 0, sampleSimulation 1 5]).Undefaulted 1 := by
    decide +kernel
  refine exclusive_run (.cons hstep₁ (.cons hstep₂ (Run.single hstep₃))) fun x hx => ?_
  simp only [List.mem_cons, List.not_mem_nil, or_false] at hx
  rcases hx with rfl | rfl | rfl
  · rintro cmd locality ⟨rfl, rfl, -⟩
    exact hclear.1
  · rintro cmd locality ⟨rfl, rfl, -⟩
    exact hclear.2.1
  · rintro cmd locality ⟨rfl, rfl, -⟩
    exact hclear.2.2

/-- A simulation joins the default context of locality 0. -/
theorem not_exclusive_played :
    Reachable (played [sampleInit 0, sampleSimulation 0 5]) ∧
      ¬ (played [sampleInit 0, sampleSimulation 0 5]).Exclusive ∧
      (played [sampleInit 0, sampleSimulation 0 5]).checkContextHandlesPerLocality
        = .error .mixedContextLocality := by
  have hmixed : (played [sampleInit 0,
      sampleSimulation 0 5]).checkContextHandlesPerLocality
        = .error .mixedContextLocality := by
    decide +kernel
  refine ⟨reachable_played (by decide +kernel), fun h => ?_, hmixed⟩
  rw [State.checkContextHandlesPerLocality_ok.mpr h] at hmixed
  cases hmixed

end Dpe
