import Dpe.Proofs.Destroy
import Dpe.Proofs.Search
import Dpe.Proofs.Walk
import Dpe.Properties.Forest

/-! # The validator — sound and complete

    The validator accepts a state exactly if it is orderly: marked, a
    forest, with exclusive localities, and with nothing in a context that
    should not be there.  In such a state the walks over the links end
    and find what they should. -/

namespace Dpe

open Forest

variable {b : Build} {s : State b}

/-- A state that may be used. -/
structure State.Orderly (s : State b) : Prop where
  marker : s.marker = State.MAGIC
  version : s.version = State.VERSION
  forest : s.IsForest
  exclusive : s.Exclusive
  supported : ∀ i, (s.contexts i).Supported s.support
  locality : ∀ i, (s.contexts i).locality = (s.contexts i).tci.locality
  initialized : ∀ i, (s.contexts i).state = .active →
    (s.contexts i).contextType = .normal → s.hasInitialized = true
  blank : ∀ i, (s.contexts i).state = .inactive → (s.contexts i).Blank

namespace State

/-- A forest with a truthful flag is well formed. -/
theorem IsForest.wellFormed (h : s.IsForest)
    (hinit : ∀ i, (s.contexts i).state = .active →
      (s.contexts i).contextType = .normal → s.hasInitialized = true) :
    s.WellFormed := by
  have hlive : ∀ p c, s.up c = some p → s.Live c := by
    intro p c hup hc
    rw [up_of_root (h.inactive c hc).1] at hup
    cases hup
  have hpath : ∀ i, s.Live i → ∃ l, Path s.up i l ∧ ∀ j ∈ l, s.Live j := by
    intro i hi
    obtain ⟨l, r, hl, hall, -⟩ := h.rooted i hi
    exact ⟨l, hl, hall⟩
  have hparent : ∀ p c, s.up c = some p → s.Live p := by
    intro p c hup
    obtain ⟨l, hl, hall⟩ := hpath c (hlive p c hup)
    exact hall p (hl.mem_iff.mpr ((Subtree.refl p).child hup))
  have hroot : ∀ i, s.up i = none →
      (s.contexts i).parentIdx = Context.ROOT_INDEX := by
    intro i hup
    by_cases hi : s.Live i
    · obtain ⟨l, r, hl, -, hlast, hr⟩ := h.rooted i hi
      cases hl with
      | root =>
          cases hlast
          exact hr
      | step hs =>
          rw [hup] at hs
          cases hs
    · exact (h.inactive i (by simpa [Live] using hi)).1
  refine ⟨fun p c => ?_, hroot, ?_, ?_, ?_, ?_, ?_, h.inactive, h.inRange⟩
  · constructor
    · intro hc
      have hp : s.Live p := by
        intro hp
        rw [(h.inactive p hp).2.1, Children.hasChild_empty] at hc
        cases hc
      exact up_eq_some.mpr ((h.linked p c hp (h.liveChild p c hc)).mp hc)
    · intro hup
      exact (h.linked p c (hparent p c hup) (hlive p c hup)).mpr
        (up_eq_some.mp hup)
  · intro i hi
    obtain ⟨l, hl, -⟩ := hpath i hi
    exact ⟨l, hl⟩
  · intro p c hup
    exact h.oneType p c p ((Subtree.refl p).child hup) (Subtree.refl p)
  · intro i j hi hj hti htj hui huj
    exact h.oneNormal i j hi hj (hroot i hui) (hroot j huj) hti htj
  · intro i hi hn
    cases hs : (s.contexts i).state with
    | inactive => exact absurd hs hi
    | active => exact hinit i hs hn
    | retired =>
        obtain ⟨-, j, hbelow, hj⟩ := h.retired i hs
        have ht := h.oneType i j i hbelow.to_reflTransGen (Subtree.refl i)
        exact hinit j hj (ht.trans hn)
  · intro i hi
    obtain ⟨⟨c, hc⟩, -⟩ := h.retired i hi
    refine ⟨c, up_eq_some.mpr ((h.linked i c ?_ (h.liveChild i c hc)).mp hc)⟩
    intro hdead
    rw [hi] at hdead
    cases hdead

/-- The contexts of an orderly state pass their checks. -/
theorem Orderly.checked (h : s.Orderly) (i : Fin b.maxHandles) :
    s.Checked i := by
  have hwell := h.forest.wellFormed h.initialized
  refine ⟨h.supported i, h.blank i, fun hi => ⟨?_, ?_, h.forest.inRange i⟩,
    h.initialized i, fun hi => (h.forest.retired i hi).1, h.locality i⟩
  · cases hup : s.up i with
    | none => exact .inl (hwell.root i hup)
    | some p => exact .inr ⟨p, rfl, hwell.live_parent hup,
        (hwell.child_iff p i).mpr hup⟩
  · intro c hc
    have hup := (hwell.child_iff i c).mp hc
    exact ⟨hwell.live_child hup, hup⟩

/-- The validator accepts the orderly states. -/
theorem validateDpe_iff : s.validateDpe = .ok () ↔ s.Orderly := by
  rw [validateDpe_ok]
  constructor
  · rintro ⟨hmarker, hversion, hchecked, hexclusive, hwell⟩
    exact ⟨hmarker, hversion, hwell.isForest, hexclusive,
      fun i => (hchecked i).supported, fun i => (hchecked i).locality,
      fun i => (hchecked i).initialized, fun i => (hchecked i).blank⟩
  · intro h
    exact ⟨h.marker, h.version, h.checked, h.exclusive,
      h.forest.wellFormed h.initialized⟩

end State

/-- **THE VALIDATOR IS A GUARD**: on every state it ends; it accepts a
    state exactly if it is orderly; and in a state that it accepts, each
    live context has one root and is on no cycle, the iterator over its
    path can be made, and the walk to its descendants finds them. -/
theorem validateDpe_guards (s : State b) :
    s.validateDpe ≠ .error .noReturn ∧
    (s.validateDpe = .ok () ↔ s.Orderly) ∧
    (s.validateDpe = .ok () → ∀ i, s.Live i →
      (∃! r, s.Live r ∧ s.up r = none ∧ Subtree s.up r i) ∧
      ¬ Below s.up i i ∧
      (∃ it, RootToChildIter.new i.val s.slice = .ok it) ∧
      ∃ below, s.getDescendants (b.maxHandles + 1) (s.contexts i) = .ok below ∧
        ∀ j : Fin b.maxHandles, below.hasChild b j = true ↔ Below s.up i j) := by
  refine ⟨State.validateDpe_ends s, State.validateDpe_iff, fun hok i hi => ?_⟩
  obtain ⟨-, -, -, -, hwell⟩ := State.validateDpe_ok.mp hok
  obtain ⟨l, hpath⟩ := hwell.rooted i hi
  obtain ⟨r, hroot, hsub⟩ := (hwell.rooted i hi).exists_root
  refine ⟨⟨r, ⟨hwell.live_above hi hsub, hroot, hsub⟩, ?_⟩,
    hwell.not_below_self hi, ?_, ?_⟩
  · rintro r' ⟨-, hroot', hsub'⟩
    exact hsub'.root_unique hsub hroot' hroot
  · obtain ⟨it, hit, -⟩ := RootToChildIter.new_path hwell hpath hi
    exact ⟨it, hit⟩
  · exact State.getDescendants_spec hwell.wellLinked hpath hi (Nat.le_add_right ..)

end Dpe
