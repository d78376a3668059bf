import Mathlib.Data.List.Basic
import Folio.Proofs.Digits
import Folio.Text.Percent

/-! Percent-encoding. What the bytes of a text stand for is read from left to right, so a percent
sign that an escape writes is never taken for the start of another escape. -/

namespace Folio.Text

def utf8 (s : List Char) : List UInt8 :=
  s.flatMap String.utf8EncodeChar

/-- Two hexadecimal digits, each of either case, that write a byte. -/
def WritesByte (high low : Char) (b : UInt8) : Prop :=
  ∃ h l, digitValue? high = some h ∧ digitValue? low = some l ∧ b.toNat = 16 * h + l

instance (high low : Char) (b : UInt8) : Decidable (WritesByte high low b) :=
  decidable_of_iff
    (((digitValue? high).bind fun h => (digitValue? low).map (16 * h + ·)) = some b.toNat)
    (by simp only [Option.bind_eq_some_iff, Option.map_eq_some_iff, WritesByte, exists_and_left,
          eq_comm (a := b.toNat)])

/-- The bytes that some bytes stand for: an escape stands for the byte that it writes, and a byte
that starts no escape for itself. -/
inductive Resolves : List UInt8 → List UInt8 → Prop
  | nil : Resolves [] []
  | escape {high low b : UInt8} {s t : List UInt8}
      (hb : WritesByte (.ofUInt8 high) (.ofUInt8 low) b) (h : Resolves s t) :
      Resolves (37 :: high :: low :: s) (b :: t)
  | other {b : UInt8} {s t : List UInt8}
      (hb : ∀ high low v rest, b :: s = 37 :: high :: low :: rest →
        ¬ WritesByte (.ofUInt8 high) (.ofUInt8 low) v)
      (h : Resolves s t) : Resolves (b :: s) (b :: t)

/-- The second text spells the first: each percent sign, and any other characters too, have all
bytes of their UTF-8 form written as escapes, and the rest stands as it is. -/
inductive Spelled : List Char → List Char → Prop
  | nil : Spelled [] []
  | plain {c : Char} {s e : List Char} (hc : c ≠ '%') (h : Spelled s e) : Spelled (c :: s) (c :: e)
  | escaped {c : Char} {s e : List Char} {pairs : List (Char × Char)}
      (hc : List.Forall₂ (fun b p => WritesByte p.1 p.2 b) (String.utf8EncodeChar c) pairs)
      (h : Spelled s e) : Spelled (c :: s) (pairs.flatMap (fun p => ['%', p.1, p.2]) ++ e)

/-! ### Bytes -/

theorem toList_loop (bytes : ByteArray) (i : Nat) (before : List UInt8) :
    ByteArray.toList.loop bytes i before = before.reverse ++ bytes.data.toList.drop i := by
  fun_induction ByteArray.toList.loop bytes i before with
  | case1 i before h ih =>
    have hdrop : bytes.data.toList.drop i = bytes.get! i :: bytes.data.toList.drop (i + 1) := by
      rw [List.drop_eq_getElem_cons (by simpa using h)]
      simp [ByteArray.get!, h]
    rw [ih, hdrop, List.reverse_cons, List.append_assoc, List.singleton_append]
  | case2 i before h =>
    have hnil : bytes.data.toList.drop i = [] := List.drop_of_length_le (by simpa using h)
    rw [hnil, List.append_nil]

theorem toList_eq_data (bytes : ByteArray) : bytes.toList = bytes.data.toList := by
  simp [ByteArray.toList, toList_loop]

theorem toByteArray_toList (bytes : ByteArray) : bytes.toList.toByteArray = bytes := by
  rw [toList_eq_data]
  exact ByteArray.ext List.data_toByteArray

theorem toList_toByteArray (bytes : List UInt8) : bytes.toByteArray.toList = bytes := by
  rw [toList_eq_data, List.toList_data_toByteArray]

theorem toList_utf8 (s : String) : s.toByteArray.toList = utf8 s.toList := by
  rw [← String.utf8Encode_toList, List.utf8Encode, toList_toByteArray, utf8]

theorem hexByteValue?_eq (b : UInt8) :
    hexByteValue? b = (digitValue? (.ofUInt8 b)).map .ofNat := by
  have hall : ∀ n < 256, hexByteValue? (.ofNat n) =
      (digitValue? (.ofUInt8 (.ofNat n))).map .ofNat := by decide +kernel
  have hb := hall b.toNat b.toNat_lt
  rwa [UInt8.ofNat_toNat] at hb

theorem hexPair?_eq_some_iff {high low b : UInt8} :
    hexPair? high low = some b ↔ WritesByte (.ofUInt8 high) (.ofUInt8 low) b := by
  rw [hexPair?, hexByteValue?_eq, hexByteValue?_eq, WritesByte]
  cases hh : digitValue? (.ofUInt8 high) with
  | none => simp
  | some h =>
    cases hl : digitValue? (.ofUInt8 low) with
    | none => simp
    | some l =>
      obtain ⟨h16, -⟩ := digitValue?_bounds hh
      obtain ⟨l16, -⟩ := digitValue?_bounds hl
      have hvalue : (16 * UInt8.ofNat h + UInt8.ofNat l).toNat = 16 * h + l := by
        simp [UInt8.toNat_add, UInt8.toNat_mul]
        omega
      simp [← UInt8.toNat_inj, hvalue, eq_comm]

theorem percentBytes_escape {high low b : UInt8} (hb : hexPair? high low = some b)
    (s : List UInt8) : percentBytes (37 :: high :: low :: s) = b :: percentBytes s := by
  rw [percentBytes, if_pos rfl, hb]

theorem percentBytes_other {b : UInt8} {s : List UInt8}
    (hb : ∀ high low rest, b :: s = 37 :: high :: low :: rest → hexPair? high low = none) :
    percentBytes (b :: s) = b :: percentBytes s := by
  match s with
  | [] => rfl
  | [_] => rfl
  | high :: low :: rest =>
    rw [percentBytes]
    split
    · rename_i h37
      rw [hb high low rest (by rw [h37])]
    · rfl

theorem resolves_percentBytes (s : List UInt8) : Resolves s (percentBytes s) := by
  induction hn : s.length using Nat.strongRecOn generalizing s with
  | _ n ih =>
    subst hn
    cases s with
    | nil => exact .nil
    | cons b s =>
      by_cases he : ∃ high low v rest, b :: s = 37 :: high :: low :: rest ∧
          hexPair? high low = some v
      · obtain ⟨high, low, v, rest, hs, hv⟩ := he
        rw [hs, percentBytes_escape hv]
        have hlt : rest.length < (b :: s).length := by
          rw [hs, List.length_cons, List.length_cons, List.length_cons]
          omega
        exact .escape (hexPair?_eq_some_iff.mp hv) (ih rest.length hlt rest rfl)
      · have hnone : ∀ high low rest, b :: s = 37 :: high :: low :: rest →
            hexPair? high low = none := by
          intro high low rest hs
          by_contra hv
          obtain ⟨v, hv⟩ := Option.ne_none_iff_exists'.mp hv
          exact he ⟨high, low, v, rest, hs, hv⟩
        rw [percentBytes_other hnone]
        refine .other (fun high low v rest hs hv => ?_) (ih s.length (by simp) s rfl)
        have hsome := hexPair?_eq_some_iff.mpr hv
        rw [hnone high low rest hs] at hsome
        cases hsome

theorem Resolves.eq_percentBytes {s t : List UInt8} (h : Resolves s t) : t = percentBytes s := by
  induction h with
  | nil => rfl
  | escape hb _ ih => rw [percentBytes_escape (hexPair?_eq_some_iff.mpr hb), ← ih]
  | other hb _ ih =>
    rw [percentBytes_other, ← ih]
    intro high low rest hs
    by_contra hv
    obtain ⟨v, hv⟩ := Option.ne_none_iff_exists'.mp hv
    exact hb high low v rest hs (hexPair?_eq_some_iff.mp hv)

theorem percentBytes_ne_nil {bytes : List UInt8} (h : bytes ≠ []) : percentBytes bytes ≠ [] := by
  fun_cases percentBytes bytes <;> simp at h ⊢

/-! ### Texts -/

theorem utf8_append (s t : List Char) : utf8 (s ++ t) = utf8 s ++ utf8 t :=
  List.flatMap_append

/-- A byte of a character other than the percent sign starts no escape. -/
theorem ne_percent_of_mem_utf8EncodeChar {c : Char} (hc : c ≠ '%') {b : UInt8}
    (hb : b ∈ String.utf8EncodeChar c) : b ≠ 37 := by
  have hval : c.toNat ≠ 37 := fun h => hc (Char.toNat_inj.mp h)
  rintro rfl
  simp only [String.utf8EncodeChar, Char.toNat_val] at hb
  split_ifs at hb
  all_goals simp [← UInt8.toNat_inj] at hb
  all_goals omega

theorem utf8EncodeChar_of_digitValue? {c : Char} {d : Nat} (h : digitValue? c = some d) :
    ∃ b, String.utf8EncodeChar c = [b] ∧ Char.ofUInt8 b = c := by
  obtain ⟨-, hascii⟩ := digitValue?_bounds h
  have hbyte : (UInt8.ofNat c.toNat).toNat = c.toNat := by
    rw [UInt8.toNat_ofNat']
    omega
  exact ⟨.ofNat c.toNat, if_pos (Nat.le_of_lt_succ hascii), Char.toNat_inj.mp hbyte⟩

theorem utf8_escape {high low : Char} {b : UInt8} (h : WritesByte high low b) :
    ∃ x y, utf8 ['%', high, low] = [37, x, y] ∧ hexPair? x y = some b := by
  obtain ⟨h, l, hh, hl, hb⟩ := h
  obtain ⟨x, hx, rfl⟩ := utf8EncodeChar_of_digitValue? hh
  obtain ⟨y, hy, rfl⟩ := utf8EncodeChar_of_digitValue? hl
  refine ⟨x, y, ?_, hexPair?_eq_some_iff.mpr ⟨h, l, hh, hl, hb⟩⟩
  simp only [utf8, List.flatMap_cons, List.flatMap_nil, hx, hy]
  rfl

theorem percentBytes_escapes {bytes : List UInt8} {pairs : List (Char × Char)}
    (h : List.Forall₂ (fun b p => WritesByte p.1 p.2 b) bytes pairs) (rest : List UInt8) :
    percentBytes (utf8 (pairs.flatMap fun p => ['%', p.1, p.2]) ++ rest) =
      bytes ++ percentBytes rest := by
  induction h with
  | nil => rfl
  | cons hb _ ih =>
    obtain ⟨x, y, hxy, hv⟩ := utf8_escape hb
    rw [List.flatMap_cons, utf8_append, hxy, List.append_assoc]
    exact (percentBytes_escape hv _).trans (congrArg _ ih)

theorem percentBytes_plain {bytes : List UInt8} (h : ∀ b ∈ bytes, b ≠ 37) (rest : List UInt8) :
    percentBytes (bytes ++ rest) = bytes ++ percentBytes rest := by
  induction bytes with
  | nil => rfl
  | cons b bytes ih =>
    obtain ⟨hb, hbytes⟩ := List.forall_mem_cons.mp h
    rw [List.cons_append, percentBytes_other, ih hbytes, List.cons_append]
    intro high low tail hs
    exact absurd (List.cons.inj hs).1 hb

theorem Spelled.percentBytes_utf8 {s e : List Char} (h : Spelled s e) :
    percentBytes (utf8 e) = utf8 s := by
  induction h with
  | nil => rfl
  | plain hc _ ih =>
    rw [utf8, List.flatMap_cons, percentBytes_plain fun b => ne_percent_of_mem_utf8EncodeChar hc]
    exact congrArg _ ih
  | escaped hc _ ih =>
    rw [utf8_append, percentBytes_escapes hc, ih]
    rfl

theorem percentDecode_eq (s : String) :
    percentDecode s =
      (String.fromUTF8? (percentBytes s.toByteArray.toList).toByteArray).getD s := by
  have hbytes : ∀ bytes : List UInt8, (⟨⟨bytes⟩⟩ : ByteArray) = bytes.toByteArray :=
    fun bytes => ByteArray.ext List.data_toByteArray.symm
  rw [percentDecode, hbytes]

theorem percentDecode_of_valid {s t : String}
    (h : percentBytes s.toByteArray.toList = t.toByteArray.toList) : percentDecode s = t := by
  rw [percentDecode_eq, h, toByteArray_toList, String.fromUTF8?, dif_pos t.isValidUTF8]
  rfl

theorem percentDecode_of_not_valid {s : String}
    (h : ¬ (percentBytes s.toByteArray.toList).toByteArray.IsValidUTF8) : percentDecode s = s := by
  rw [percentDecode_eq, String.fromUTF8?, dif_neg h]
  rfl

theorem percentDecode_of_spelled {s e : String} (h : Spelled s.toList e.toList) :
    percentDecode e = s := by
  apply percentDecode_of_valid
  rw [toList_utf8, toList_utf8, h.percentBytes_utf8]

/-- Only the empty text is decoded to the empty text. -/
theorem eq_empty_of_percentDecode {s : String} (h : percentDecode s = "") : s = "" := by
  by_cases hv : (percentBytes s.toByteArray.toList).toByteArray.IsValidUTF8
  · have hbytes : percentBytes s.toByteArray.toList = (String.fromUTF8 _ hv).toByteArray.toList :=
      (toList_toByteArray _).symm
    have hempty : "".toByteArray.toList = [] := by
      rw [String.toByteArray_empty, ByteArray.toList_empty]
    rw [← percentDecode_of_valid hbytes, h, hempty] at hbytes
    have hnil : s.toByteArray.toList = [] := by
      by_contra hne
      exact percentBytes_ne_nil hne hbytes
    rw [← String.toByteArray_eq_empty_iff, ← toByteArray_toList s.toByteArray, hnil]
    rfl
  · rwa [percentDecode_of_not_valid hv] at h

end Folio.Text
