import Mathlib.Data.List.Basic
import Mathlib.Tactic.Ring

/-! # Records of one width

    Records that are all as wide as each other need no delimiters: their
    concatenation determines them. -/

namespace Records

universe u v

variable {α : Type u} {β : Type v} {f : α → List β} {n : Nat}

theorem length_flatten (hwidth : ∀ a, (f a).length = n) (l : List α) :
    (l.map f).flatten.length = n * l.length := by
  induction l with
  | nil => rfl
  | cons a l ih =>
      rw [List.map_cons, List.flatten_cons, List.length_append, hwidth, ih,
        List.length_cons]
      ring

/-- **NO DELIMITERS**: as many records of one width, laid side by side,
    are the same if their bytes are. -/
theorem map_eq_of_flatten_eq (hwidth : ∀ a, (f a).length = n) {l l' : List α}
    (hlen : l.length = l'.length) (h : (l.map f).flatten = (l'.map f).flatten) :
    l.map f = l'.map f := by
  induction l generalizing l' with
  | nil =>
      cases l' with
      | nil => rfl
      | cons => cases hlen
  | cons a l ih =>
      cases l' with
      | nil => cases hlen
      | cons a' l' =>
          rw [List.map_cons, List.map_cons, List.flatten_cons, List.flatten_cons] at h
          obtain ⟨hhead, htail⟩ := List.append_inj h ((hwidth a).trans (hwidth a').symm)
          rw [List.map_cons, List.map_cons, hhead, ih (Nat.succ.inj hlen) htail]

end Records
