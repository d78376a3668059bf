import Folio.Text.Casing

/-! Lower case character by character. The one for ASCII leaves what is no letter alone, so runs of
a class that knows no case stay where they are. Where the full one neither changes a class nor
yields it, a text of such characters stands in the lower-case text where it stood before. -/

namespace Folio

theorem forall_ascii {P : Char → Prop} (h : ∀ n < 128, P (Char.ofNat n)) {c : Char}
    (hc : c.toNat < 128) : P c := by
  simpa using h c.toNat hc

/-- A class of characters that knows no case. -/
def CaseBlind (p : Char → Bool) : Prop :=
  ∀ c, p c.toLower = p c

theorem toLower_of_le {c : Char} (hc : 128 ≤ c.toNat) : c.toLower = c := by
  refine dif_neg fun hupper => ?_
  have hle : c.toNat ≤ 90 := hupper.2
  omega

theorem CaseBlind.of_ascii {p : Char → Bool}
    (h : ∀ n < 128, p (Char.ofNat n).toLower = p (Char.ofNat n)) : CaseBlind p := by
  intro c
  by_cases hc : c.toNat < 128
  · exact forall_ascii (P := fun c => p c.toLower = p c) h hc
  · rw [toLower_of_le (Nat.le_of_not_lt hc)]

theorem toLower_of_isDigit {c : Char} (h : c.isDigit = true) : c.toLower = c := by
  by_cases hc : c.toNat < 128
  · exact forall_ascii (P := fun c => c.isDigit = true → c.toLower = c) (by decide) hc h
  · exact toLower_of_le (Nat.le_of_not_lt hc)

theorem toLower_toLower (c : Char) : c.toLower.toLower = c.toLower := by
  by_cases hc : c.toNat < 128
  · exact forall_ascii (P := fun c => c.toLower.toLower = c.toLower) (by decide) hc
  · simp only [toLower_of_le (Nat.le_of_not_lt hc)]

theorem map_toLower_map_toLower (s : List Char) :
    (s.map Char.toLower).map Char.toLower = s.map Char.toLower := by
  rw [List.map_map]
  exact List.map_congr_left fun c _ => toLower_toLower c

theorem toLower_eq_iff {c x : Char} (hx : x.isAlpha = false) : c.toLower = x ↔ c = x := by
  have hcases : c.toLower = c ∨ c.isAlpha = true ∧ c.toLower.isAlpha = true := by
    by_cases hc : c.toNat < 128
    · exact forall_ascii
        (P := fun c => c.toLower = c ∨ c.isAlpha = true ∧ c.toLower.isAlpha = true) (by decide) hc
    · exact .inl (toLower_of_le (Nat.le_of_not_lt hc))
  rcases hcases with hsame | ⟨halpha, hlower⟩
  · rw [hsame]
  · refine ⟨?_, ?_⟩ <;> rintro rfl
    · rw [hx] at hlower
      cases hlower
    · rw [hx] at halpha
      cases halpha

section

variable {p : Char → Bool} {s : List Char}

theorem CaseBlind.takeWhile_map (hp : CaseBlind p) :
    (s.map Char.toLower).takeWhile p = (s.takeWhile p).map Char.toLower := by
  rw [List.takeWhile_map]
  exact congrArg (fun q => (s.takeWhile q).map Char.toLower) (funext hp)

theorem CaseBlind.dropWhile_map (hp : CaseBlind p) :
    (s.map Char.toLower).dropWhile p = (s.dropWhile p).map Char.toLower := by
  rw [List.dropWhile_map]
  exact congrArg (fun q => (s.dropWhile q).map Char.toLower) (funext hp)

end

namespace Text

/-- Lower case leaves the characters of a class alone and makes no others into such. -/
structure LowerStable (p : Char → Bool) : Prop where
  kept : ∀ c, p c = true → lowerChar c = [c]
  foreign : ∀ c, p c = false → ∀ d ∈ lowerChar c, p d = false
  sigma : p 'Σ' = false ∧ p 'σ' = false ∧ p 'ς' = false

/-- The text `w` stands somewhere in a text, but not behind a character of the class `q`; `free`
says whether it may stand at the start. -/
def StandsFree (q : Char → Bool) (w : List Char) (free : Bool) : List Char → Prop
  | [] => False
  | c :: s => (free = true ∧ w <+: c :: s) ∨ StandsFree q w (!q c) s

variable {p q : Char → Bool} {w s : List Char}

theorem lowerChar_ne_nil (c : Char) : lowerChar c ≠ [] := by
  unfold lowerChar
  split
  · simp
  · split <;> simp

theorem LowerStable.lowerAfter_of_kept (h : LowerStable p) {c : Char} (hc : p c = true)
    (before s : List Char) : lowerAfter before (c :: s) = c :: lowerAfter (c :: before) s := by
  have hsigma : c ≠ 'Σ' := by
    rintro rfl
    rw [h.sigma.1] at hc
    cases hc
  rw [lowerAfter, if_neg hsigma, h.kept c hc]
  rfl

theorem LowerStable.lowerAfter_of_foreign (h : LowerStable p) {c : Char} (hc : p c = false)
    (before s : List Char) :
    ∃ d here, lowerAfter before (c :: s) = d :: here ++ lowerAfter (c :: before) s ∧
      ∀ x ∈ d :: here, p x = false := by
  by_cases hsigma : c = 'Σ'
  · rw [lowerAfter, if_pos hsigma]
    refine ⟨_, [], rfl, fun x hx => ?_⟩
    obtain rfl := List.mem_singleton.mp hx
    split
    · exact h.sigma.2.2
    · exact h.sigma.2.1
  · obtain ⟨d, here, hd⟩ := List.exists_cons_of_ne_nil (lowerChar_ne_nil c)
    rw [lowerAfter, if_neg hsigma, hd]
    exact ⟨d, here, rfl, hd ▸ h.foreign c hc⟩

theorem LowerStable.prefix_lowerAfter_iff (h : LowerStable p) (hw : ∀ x ∈ w, p x = true)
    (before : List Char) : w <+: lowerAfter before s ↔ w <+: s := by
  induction w generalizing before s with
  | nil => exact ⟨fun _ => List.nil_prefix, fun _ => List.nil_prefix⟩
  | cons x w ih =>
    have hx := hw x List.mem_cons_self
    cases s with
    | nil => exact .rfl
    | cons c s =>
      cases hc : p c with
      | true =>
        rw [h.lowerAfter_of_kept hc, List.cons_prefix_cons, List.cons_prefix_cons,
          ih fun y hy => hw y (List.mem_cons_of_mem x hy)]
      | false =>
        obtain ⟨d, here, hlower, hhere⟩ := h.lowerAfter_of_foreign hc before s
        have hne : ∀ y, p y = false → x ≠ y := fun y hy he => by
          rw [← he, hx] at hy
          cases hy
        rw [hlower, List.cons_append, List.cons_prefix_cons, List.cons_prefix_cons]
        exact ⟨fun hh => absurd hh.1 (hne d (hhere d List.mem_cons_self)),
          fun hh => absurd hh.1 (hne c hc)⟩

theorem standsFree_cons_of_foreign (hq : ∀ c, q c = true → p c = true)
    (hw : ∀ x ∈ w, p x = true) (hne : w ≠ []) {d : Char} (hd : p d = false) (free : Bool)
    (s : List Char) : StandsFree q w free (d :: s) ↔ StandsFree q w true s := by
  obtain ⟨x, w, rfl⟩ := List.exists_cons_of_ne_nil hne
  have hqd : q d = false := by
    refine Bool.eq_false_iff.mpr fun hh => ?_
    rw [hq d hh] at hd
    cases hd
  have hxd : x ≠ d := by
    rintro rfl
    rw [hw x List.mem_cons_self] at hd
    cases hd
  rw [StandsFree, List.cons_prefix_cons, hqd]
  simp [hxd]

theorem standsFree_append_of_foreign (hq : ∀ c, q c = true → p c = true)
    (hw : ∀ x ∈ w, p x = true) (hne : w ≠ []) {d : Char} {here : List Char}
    (hhere : ∀ x ∈ d :: here, p x = false) (free : Bool) (s : List Char) :
    StandsFree q w free (d :: here ++ s) ↔ StandsFree q w true s := by
  have hd := hhere d List.mem_cons_self
  induction here generalizing d free with
  | nil => exact standsFree_cons_of_foreign hq hw hne hd free s
  | cons e here ih =>
    have hrest : ∀ x ∈ e :: here, p x = false := fun x hx => hhere x (List.mem_cons_of_mem d hx)
    rw [List.cons_append, standsFree_cons_of_foreign hq hw hne hd]
    exact ih hrest true (hrest e List.mem_cons_self)

theorem LowerStable.standsFree_lowerAfter_iff (h : LowerStable p)
    (hq : ∀ c, q c = true → p c = true) (hw : ∀ x ∈ w, p x = true) (hne : w ≠ [])
    (free : Bool) (before s : List Char) :
    StandsFree q w free (lowerAfter before s) ↔ StandsFree q w free s := by
  induction s generalizing free before with
  | nil => exact .rfl
  | cons c s ih =>
    cases hc : p c with
    | true =>
      have hprefix := h.prefix_lowerAfter_iff (s := c :: s) hw before
      rw [h.lowerAfter_of_kept hc] at hprefix ⊢
      rw [StandsFree, StandsFree, hprefix, ih]
    | false =>
      obtain ⟨d, here, hlower, hhere⟩ := h.lowerAfter_of_foreign hc before s
      rw [hlower, standsFree_append_of_foreign hq hw hne hhere,
        standsFree_cons_of_foreign hq hw hne hc, ih]

theorem standsFree_iff (hne : w ≠ []) (free : Bool) :
    StandsFree q w free s ↔
      ∃ a b, s = a ++ w ++ b ∧ (a = [] → free = true) ∧ ∀ y ∈ a.getLast?, q y = false := by
  induction s generalizing free with
  | nil =>
    refine ⟨False.elim, ?_⟩
    rintro ⟨a, b, h, -⟩
    simp [hne] at h
  | cons c s ih =>
    rw [StandsFree, ih]
    constructor
    · rintro (⟨hfree, b, hb⟩ | ⟨a, b, rfl, hfree, hlast⟩)
      · exact ⟨[], b, hb.symm, fun _ => hfree, nofun⟩
      · refine ⟨c :: a, b, rfl, nofun, fun y hy => ?_⟩
        cases a with
        | nil =>
          obtain rfl : c = y := by simpa using hy
          simpa using hfree rfl
        | cons x a => exact hlast y (by rwa [List.getLast?_cons_cons] at hy)
    · rintro ⟨a, b, h, hfree, hlast⟩
      cases a with
      | nil => exact .inl ⟨hfree rfl, b, h.symm⟩
      | cons x a =>
        obtain ⟨rfl, rfl⟩ := List.cons.inj h
        refine .inr ⟨a, b, rfl, ?_, fun y hy => hlast y ?_⟩
        · rintro rfl
          simpa using hlast c rfl
        · rw [List.getLast?_cons, Option.mem_def.mp hy]
          rfl

end Text

end Folio
