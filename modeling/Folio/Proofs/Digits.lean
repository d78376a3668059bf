import Mathlib.Data.List.Forall2
import Mathlib.Data.Nat.Digits.Defs
import Folio.Proofs.LowerCase
import Folio.Text.Search

/-! Numbers in digits, and the characters that have them as codes. -/

namespace Folio.Text

/-- The character is a digit of a base up to sixteen, in either case. -/
def IsDigit (base : Nat) (c : Char) (d : Nat) : Prop :=
  d < base ∧ (c = d.digitChar ∨ c = d.digitChar.toUpper)

/-- The characters are one digit or more, and the number is theirs. -/
def Writes (base : Nat) (s : List Char) (n : Nat) : Prop :=
  s ≠ [] ∧ ∃ digits, List.Forall₂ (IsDigit base) s digits ∧ Nat.ofDigits base digits.reverse = n

theorem digitValue?_bounds {c : Char} {d : Nat} (h : digitValue? c = some d) :
    d < 16 ∧ c.toNat < 128 := by
  have hval : c.val.toNat = c.toNat := rfl
  simp only [digitValue?, ↓Char.isValue, Char.le_def, Char.reduceVal, UInt32.le_iff_toNat_le,
    UInt32.reduceToNat, hval] at h
  split_ifs at h
  · cases h
    omega
  · cases h
    omega
  · cases h
    omega

theorem digitValue?_eq_some_iff {c : Char} {d : Nat} :
    digitValue? c = some d ↔ IsDigit 16 c d := by
  constructor
  · intro h
    have hall : ∀ n < 128, ∀ d ∈ digitValue? (.ofNat n),
        d < 16 ∧ (Char.ofNat n = d.digitChar ∨ Char.ofNat n = d.digitChar.toUpper) := by
      decide +kernel
    exact forall_ascii (P := fun c => ∀ d ∈ digitValue? c, IsDigit 16 c d) hall
      (digitValue?_bounds h).2 d h
  · rintro ⟨hd, hc⟩
    have hall : ∀ d < 16, digitValue? d.digitChar = some d ∧
        digitValue? d.digitChar.toUpper = some d := by
      decide +kernel
    rcases hc with rfl | rfl
    · exact (hall d hd).1
    · exact (hall d hd).2

theorem isDigit_iff {base : Nat} (hbase : base ≤ 16) {c : Char} {d : Nat} :
    IsDigit base c d ↔ digitValue? c = some d ∧ d < base := by
  rw [digitValue?_eq_some_iff, IsDigit, IsDigit]
  constructor
  · rintro ⟨hd, hc⟩
    exact ⟨⟨Nat.lt_of_lt_of_le hd hbase, hc⟩, hd⟩
  · rintro ⟨⟨-, hc⟩, hd⟩
    exact ⟨hd, hc⟩

theorem not_writes_cons {base : Nat} (hbase : base ≤ 16) {c : Char} (hc : digitValue? c = none)
    {s : List Char} {n : Nat} : ¬ Writes base (c :: s) n := by
  rintro ⟨-, digits, hdigits, -⟩
  obtain ⟨d, rest, hd, -, -⟩ := List.forall₂_cons_left_iff.mp hdigits
  rw [isDigit_iff hbase, hc] at hd
  cases hd.1

/-- The number after one more digit, if the character is one. -/
def addDigit? (base n : Nat) (c : Char) : Option Nat :=
  (digitValue? c).bind fun d => if d < base then some (n * base + d) else none

theorem addDigit?_eq_some_iff {base : Nat} (hbase : base ≤ 16) {n m : Nat} {c : Char} :
    addDigit? base n c = some m ↔ ∃ d, IsDigit base c d ∧ n * base + d = m := by
  simp only [addDigit?, Option.bind_eq_some_iff, Option.ite_none_right_eq_some, Option.some.injEq,
    isDigit_iff hbase, and_assoc]

theorem foldlM_addDigit?_eq_some_iff {base : Nat} (hbase : base ≤ 16) {s : List Char} {n m : Nat} :
    s.foldlM (addDigit? base) n = some m ↔
      ∃ digits, List.Forall₂ (IsDigit base) s digits ∧
        digits.foldl (fun n d => n * base + d) n = m := by
  induction s generalizing n with
  | nil => simp
  | cons c s ih =>
    rw [List.foldlM_cons, Option.bind_eq_bind, Option.bind_eq_some_iff]
    constructor
    · rintro ⟨k, hk, hrest⟩
      obtain ⟨d, hd, rfl⟩ := (addDigit?_eq_some_iff hbase).mp hk
      obtain ⟨digits, hdigits, rfl⟩ := ih.mp hrest
      exact ⟨d :: digits, .cons hd hdigits, rfl⟩
    · rintro ⟨digits, hdigits, rfl⟩
      obtain ⟨d, rest, hd, hrest, rfl⟩ := List.forall₂_cons_left_iff.mp hdigits
      exact ⟨n * base + d, (addDigit?_eq_some_iff hbase).mpr ⟨d, hd, rfl⟩, ih.mpr ⟨rest, hrest, rfl⟩⟩

theorem ofDigits_reverse (base : Nat) (digits : List Nat) :
    Nat.ofDigits base digits.reverse = digits.foldl (fun n d => n * base + d) 0 := by
  rw [Nat.ofDigits_eq_foldr, List.foldr_reverse]
  congr
  funext n d
  rw [Nat.cast_id, Nat.add_comm, Nat.mul_comm]

theorem number?_eq_some_iff {base : Nat} (hbase : base ≤ 16) {s : List Char} {n : Nat} :
    number? base s = some n ↔ Writes base s n := by
  have hfold : number? base s = if s.isEmpty then none else s.foldlM (addDigit? base) 0 := rfl
  simp only [Writes, ofDigits_reverse]
  rw [hfold, ← foldlM_addDigit?_eq_some_iff hbase]
  cases s with
  | nil => simp
  | cons c s => simp

theorem scalar?_eq_some_iff {n : Nat} {c : Char} : scalar? n = some c ↔ c.toNat = n := by
  rw [scalar?]
  constructor
  · intro h
    split at h
    · rename_i hn
      obtain rfl := Option.some.inj h
      have hc : Char.ofNat n = Char.ofNatAux n hn := dif_pos hn
      rw [hc]
      rfl
    · cases h
  · rintro rfl
    have hc : c.toNat < 0xD800 ∨ 0xDFFF < c.toNat ∧ c.toNat < 0x110000 := c.valid
    rw [if_pos hc, Char.ofNat_toNat]

end Folio.Text
