import Folio.Markup.Fragment
import Folio.Proofs.Digits

/-! References to characters by number. Behind `&#` stand decimal digits, or an `x` and hexadecimal
ones, and a reference that is no such number, or the number of no character, stays as it is written.
A plus sign in front of the digits is the one thing that goes through all the same. -/

namespace Folio.Markup

open Text (IsDigit Writes)

/-- The number of a character as it stands behind the `#` of a reference, with `sign` in front of
its digits. -/
inductive Numeral (sign : List Char) : List Char → Nat → Prop
  | decimal {s : List Char} {n : Nat} (h : Writes 10 s n) : Numeral sign (sign ++ s) n
  | hexadecimal {x : Char} {s : List Char} {n : Nat} (hx : x = 'x' ∨ x = 'X') (h : Writes 16 s n) :
    Numeral sign (x :: (sign ++ s)) n

/-- What a numeric reference stands for by its grammar: the character with its number, or itself if
it has no number or no character has it. -/
inductive Denotes (body : String) : String → Prop
  | character {c : Char} (h : Numeral [] body.toList c.toNat) : Denotes body (.singleton c)
  | itself (h : ∀ c : Char, ¬ Numeral [] body.toList c.toNat) : Denotes body ("&#" ++ body ++ ";")

theorem numeral_iff {sign s : List Char} {n : Nat} :
    Numeral sign s n ↔ (∃ t, s = sign ++ t ∧ Writes 10 t n) ∨
      ∃ x t, (x = 'x' ∨ x = 'X') ∧ s = x :: (sign ++ t) ∧ Writes 16 t n := by
  constructor
  · rintro (h | ⟨hx, h⟩)
    · exact .inl ⟨_, rfl, h⟩
    · exact .inr ⟨_, _, hx, rfl, h⟩
  · rintro (⟨t, rfl, h⟩ | ⟨x, t, hx, rfl, h⟩)
    · exact .decimal h
    · exact .hexadecimal hx h

theorem digitValue?_hexMark {x : Char} (hx : x = 'x' ∨ x = 'X') : Text.digitValue? x = none := by
  rcases hx with rfl | rfl <;> rfl

/-- A reference is read with one sign only, so the two readings do not meet. -/
theorem Numeral.not_signed {s : List Char} {n m : Nat} (h : Numeral [] s n) :
    ¬ Numeral ['+'] s m := by
  have hplus : Text.digitValue? '+' = none := rfl
  intro hs
  rw [numeral_iff] at h hs
  rcases h with ⟨t, rfl, h⟩ | ⟨x, t, hx, rfl, h⟩
  · rcases hs with ⟨u, rfl, -⟩ | ⟨x, u, hx, rfl, -⟩
    · exact Text.not_writes_cons (by decide) hplus h
    · exact Text.not_writes_cons (by decide) (digitValue?_hexMark hx) h
  · rcases hs with ⟨u, hu, -⟩ | ⟨y, u, -, hu, -⟩
    · obtain rfl := (List.cons.inj hu).1
      simp at hx
    · obtain rfl := (List.cons.inj hu).2
      exact Text.not_writes_cons (by decide) hplus h

theorem referenceNumber?_eq_some_iff {base : Nat} (hbase : base ≤ 16) {s : List Char} {n : Nat} :
    referenceNumber? base s = some n ↔
      ∃ sign ∈ [[], ['+']], ∃ t, s = sign ++ t ∧ Writes base t n := by
  simp only [List.mem_cons, List.not_mem_nil, or_false, exists_eq_or_imp, exists_eq_left,
    List.nil_append, exists_eq_left', List.singleton_append]
  unfold referenceNumber?
  split
  · rename_i digits
    rw [Text.number?_eq_some_iff hbase, or_iff_right (Text.not_writes_cons hbase rfl)]
    simp
  · rename_i hno
    rw [Text.number?_eq_some_iff hbase, or_iff_left]
    rintro ⟨t, rfl, -⟩
    exact hno t rfl

/-- The number behind the `#` of a reference. -/
def code? : List Char → Option Nat
  | 'x' :: digits | 'X' :: digits => referenceNumber? 16 digits
  | digits => referenceNumber? 10 digits

theorem code?_hexMark {x : Char} (hx : x = 'x' ∨ x = 'X') (s : List Char) :
    code? (x :: s) = referenceNumber? 16 s := by
  rcases hx with rfl | rfl <;> rfl

theorem code?_of_ne {s : List Char} (h : ∀ x t, s = x :: t → ¬ (x = 'x' ∨ x = 'X')) :
    code? s = referenceNumber? 10 s := by
  unfold code?
  split
  · exact absurd (.inl rfl) (h _ _ rfl)
  · exact absurd (.inr rfl) (h _ _ rfl)
  · rfl

theorem code?_eq_some_iff {s : List Char} {n : Nat} :
    code? s = some n ↔ ∃ sign ∈ [[], ['+']], Numeral sign s n := by
  by_cases hmark : ∃ x t, (x = 'x' ∨ x = 'X') ∧ s = x :: t
  · obtain ⟨x, t, hx, rfl⟩ := hmark
    rw [code?_hexMark hx, referenceNumber?_eq_some_iff (by decide)]
    refine exists_congr fun sign => and_congr_right fun hsign => ?_
    constructor
    · rintro ⟨u, rfl, h⟩
      exact .hexadecimal hx h
    · intro h
      rcases numeral_iff.mp h with ⟨u, hu, h⟩ | ⟨y, u, -, hu, h⟩
      · rcases List.mem_pair.mp hsign with rfl | rfl
        · obtain rfl : x :: t = u := hu
          exact absurd h (Text.not_writes_cons (by decide) (digitValue?_hexMark hx))
        · obtain rfl := (List.cons.inj hu).1
          simp at hx
      · exact ⟨u, (List.cons.inj hu).2, h⟩
  · rw [code?_of_ne fun x t ht hx => hmark ⟨x, t, hx, ht⟩, referenceNumber?_eq_some_iff (by decide)]
    refine exists_congr fun sign => and_congr_right fun _ => ?_
    constructor
    · rintro ⟨u, rfl, h⟩
      exact .decimal h
    · intro h
      rcases numeral_iff.mp h with hdecimal | ⟨y, u, hy, hu, -⟩
      · exact hdecimal
      · exact absurd ⟨y, _, hy, hu⟩ hmark

theorem decodeReference_hash (body : String) : decodeReference ("#" ++ body) =
    match (code? body.toList).bind Text.scalar? with
    | some c => .singleton c
    | none => "&#" ++ body ++ ";" := by
  have hname : ("#" ++ body).toList = '#' :: body.toList := by simp
  have hitself : decodeReference.itself ("#" ++ body) = "&#" ++ body ++ ";" := by
    rw [decodeReference.itself, ← String.toList_inj]
    simp
  rw [← hitself, decodeReference, hname]
  by_cases hmark : ∃ x t, (x = 'x' ∨ x = 'X') ∧ body.toList = x :: t
  · obtain ⟨x, t, hx, ht⟩ := hmark
    rw [ht, code?_hexMark hx]
    rcases hx with rfl | rfl <;> rfl
  · have hno : ∀ x t, body.toList = x :: t → ¬ (x = 'x' ∨ x = 'X') :=
      fun x t ht hx => hmark ⟨x, t, hx, ht⟩
    rw [code?_of_ne hno]
    split
    · rename_i t ht
      exact absurd (.inl rfl) (hno _ t (List.cons.inj ht).2)
    · rename_i t ht
      exact absurd (.inr rfl) (hno _ t (List.cons.inj ht).2)
    · rename_i t _ _ ht
      rw [(List.cons.inj ht).2]
      rfl
    · rename_i hne
      exact absurd rfl (hne body.toList)

theorem decodeReference_of_numeral {body : String} {sign : List Char} (hsign : sign ∈ [[], ['+']])
    {c : Char} (h : Numeral sign body.toList c.toNat) :
    decodeReference ("#" ++ body) = .singleton c := by
  have hcode : code? body.toList = some c.toNat := code?_eq_some_iff.mpr ⟨sign, hsign, h⟩
  rw [decodeReference_hash, hcode, Option.bind_some, Text.scalar?_eq_some_iff.mpr rfl]

theorem decodeReference_of_no_numeral {body : String}
    (h : ∀ sign ∈ [[], ['+']], ∀ c : Char, ¬ Numeral sign body.toList c.toNat) :
    decodeReference ("#" ++ body) = "&#" ++ body ++ ";" := by
  rw [decodeReference_hash]
  cases hc : (code? body.toList).bind Text.scalar? with
  | none => rfl
  | some c =>
    obtain ⟨n, hn, hscalar⟩ := Option.bind_eq_some_iff.mp hc
    obtain rfl := Text.scalar?_eq_some_iff.mp hscalar
    obtain ⟨sign, hsign, hnumeral⟩ := code?_eq_some_iff.mp hn
    exact absurd hnumeral (h sign hsign c)

/-- With a sign in front of the digits, no character is what the grammar gives. -/
theorem not_denotes_of_signed {body : String} {c : Char}
    (h : Numeral ['+'] body.toList c.toNat) : ¬ Denotes body (.singleton c) := by
  intro hd
  generalize hresult : String.singleton c = result at hd
  cases hd with
  | character hplain => exact hplain.not_signed h
  | itself =>
    have hlength := congrArg (·.toList.length) hresult
    simp at hlength

/-- A numeric reference is decoded by its grammar except that it may have a plus sign in front of
the digits, as if it stood there without. -/
theorem denotes_decodeReference_iff (body : String) :
    (Denotes body (decodeReference ("#" ++ body)) ↔
        ∀ c : Char, ¬ Numeral ['+'] body.toList c.toNat) ∧
      ∀ c : Char, Numeral ['+'] body.toList c.toNat →
        decodeReference ("#" ++ body) = .singleton c := by
  have hplus : ['+'] ∈ [[], ['+']] := by decide
  constructor
  · constructor
    · intro hd c hc
      rw [decodeReference_of_numeral hplus hc] at hd
      exact not_denotes_of_signed hc hd
    · intro hno
      by_cases h : ∃ c : Char, Numeral [] body.toList c.toNat
      · obtain ⟨c, hc⟩ := h
        rw [decodeReference_of_numeral (by decide) hc]
        exact .character hc
      · have hplain : ∀ c : Char, ¬ Numeral [] body.toList c.toNat := fun c hc => h ⟨c, hc⟩
        rw [decodeReference_of_no_numeral]
        · exact .itself hplain
        · intro sign hsign c
          rcases List.mem_pair.mp hsign with rfl | rfl
          · exact hplain c
          · exact hno c
  · intro c hc
    exact decodeReference_of_numeral hplus hc

/-- A text takes a number with a sign for the character, an attribute value does not, and the
grammar has no such number. -/
theorem decodeReference_signed :
    decodeReference "#+65" = "A" ∧ ¬ Denotes "+65" (decodeReference "#+65") ∧
      attributeCharacter? "#+65".toList = none := by
  have hdecoded : decodeReference "#+65" = "A" := by decide +kernel
  have hwrites : Writes 10 "65".toList 65 := (Text.number?_eq_some_iff (by decide)).mp rfl
  refine ⟨hdecoded, ?_, by decide +kernel⟩
  rw [hdecoded]
  exact not_denotes_of_signed (c := 'A') (.decimal hwrites)

end Folio.Markup
