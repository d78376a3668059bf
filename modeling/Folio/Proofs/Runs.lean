import Mathlib.Data.List.TakeWhile

/-! The longest run of one class at the start of a list. Where something else follows the run, it
and the rest are told apart. -/

namespace Folio

variable {α : Type} {p : α → Bool} {a a' b b' s : List α}

theorem span_append (ha : ∀ x ∈ a, p x = true) (hb : ∀ x ∈ b.head?, p x = false) :
    (a ++ b).takeWhile p = a ∧ (a ++ b).dropWhile p = b := by
  rw [List.takeWhile_append_of_pos ha, List.dropWhile_append_of_pos ha]
  cases b with
  | nil => simp
  | cons x b =>
    have hx := hb x rfl
    simp [hx]

/-- A run ends where it would if something else follows the text. -/
theorem span_append_of_stop (hb : ∀ x ∈ b.head?, p x = false) :
    (a ++ b).takeWhile p = a.takeWhile p ∧ (a ++ b).dropWhile p = a.dropWhile p ++ b := by
  induction a with
  | nil => simpa using span_append (a := []) (by simp) hb
  | cons x a ih =>
    rw [List.cons_append]
    cases hx : p x with
    | true => simpa [hx] using ih
    | false => simp [hx]

theorem append_inj_of_stops (ha : ∀ x ∈ a, p x = true) (hb : ∀ x ∈ b.head?, p x = false)
    (ha' : ∀ x ∈ a', p x = true) (hb' : ∀ x ∈ b'.head?, p x = false)
    (h : a ++ b = a' ++ b') : a = a' ∧ b = b' := by
  have hs := span_append ha hb
  have hs' := span_append ha' hb'
  rw [h] at hs
  exact ⟨hs.1.symm.trans hs'.1, hs.2.symm.trans hs'.2⟩

theorem head?_dropWhile_eq_false : ∀ x ∈ (s.dropWhile p).head?, p x = false := by
  intro x hx
  have hstop := List.head?_dropWhile_not p s
  rw [Option.mem_def.mp hx] at hstop
  simpa using hstop

theorem decide_ne_of_notMem [DecidableEq α] {x : α} (h : x ∉ s) :
    ∀ y ∈ s, decide (y ≠ x) = true :=
  fun _ hy => decide_eq_true fun he => h (he ▸ hy)

end Folio
