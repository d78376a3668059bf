import Folio.Text.Search

/-! One text inside another: at its start, and at the first place where it stands. -/

namespace Folio

theorem eq_append_of_dropPrefix? {p s r : List Char} (h : Text.dropPrefix? p s = some r) :
    s = p ++ r := by
  simp only [Text.dropPrefix?, Option.ite_none_right_eq_some, List.isPrefixOf_iff_prefix,
    Option.some.injEq] at h
  obtain ⟨⟨q, rfl⟩, rfl⟩ := h
  simp

theorem dropPrefix?_append (p r : List Char) : Text.dropPrefix? p (p ++ r) = some r := by
  simp [Text.dropPrefix?]

theorem dropPrefix?_eq_none_iff {p s : List Char} : Text.dropPrefix? p s = none ↔ ¬ p <+: s := by
  simp [Text.dropPrefix?]

/-- A text stands nowhere before a place if its first character does not. -/
theorem cut?_append {c : Char} {p before : List Char} (h : c ∉ before) (after : List Char) :
    Text.cut? (c :: p) (before ++ (c :: p ++ after)) = some (before, after) := by
  induction before with
  | nil => simp [Text.cut?]
  | cons x before ih =>
    obtain ⟨hx, hbefore⟩ : c ≠ x ∧ c ∉ before := by simpa using h
    have hno : (c :: p).isPrefixOf (x :: (before ++ (c :: p ++ after))) = false := by
      simp [List.isPrefixOf, hx]
    rw [List.cons_append, Text.cut?, hno, if_neg Bool.false_ne_true, ih hbefore]
    rfl

end Folio
