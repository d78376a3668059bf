import Mathlib.Data.List.Nodup
import Folio.Slug

/-! Slugs of one document. A slugger never hands out a slug again: among one candidate more than
there are slugs taken, some candidate is free. Its counters pass over no free candidate. -/

namespace Folio.Slugger

theorem isTaken_iff {s : Slugger} {slug : String} :
    s.isTaken slug = true ↔ slug ∈ s.taken.map (·.1) := by
  simp only [isTaken, List.any_eq_true, beq_iff_eq, List.mem_map]

theorem isTaken_setCounter {s : Slugger} {base slug : String} {n : Nat} :
    (s.setCounter base n).isTaken slug = true ↔ slug = base ∨ s.isTaken slug = true := by
  rw [isTaken_iff, isTaken_iff, setCounter, List.map_cons, List.mem_cons]
  by_cases h : slug = base
  · simp [h]
  · simp only [h, false_or, List.mem_map, List.mem_filter, bne_iff_ne]
    constructor
    · rintro ⟨x, ⟨hx, -⟩, rfl⟩
      exact ⟨x, hx, rfl⟩
    · rintro ⟨x, hx, rfl⟩
      exact ⟨x, ⟨hx, h⟩, rfl⟩

theorem suffixed_injective (base : String) : Function.Injective (suffixed base) := by
  intro m n h
  simp only [suffixed, ← String.toList_inj, String.toList_append, List.append_cancel_left_eq] at h
  simpa [Nat.ofDigitChars_toDigits] using congrArg (fun digits => Nat.ofDigitChars 10 digits 0) h

/-- The search passes over taken candidates only, and it ends at a free one or at its limit. -/
theorem exists_firstFree_eq (s : Slugger) (base : String) (n fuel : Nat) :
    ∃ k, s.firstFree base n fuel = n + k ∧
      (∀ i < k, s.isTaken (suffixed base (n + i)) = true) ∧
      (k = fuel ∨ s.isTaken (suffixed base (n + k)) = false) := by
  induction fuel generalizing n with
  | zero => exact ⟨0, rfl, fun i hi => absurd hi (Nat.not_lt_zero i), .inl rfl⟩
  | succ fuel ih =>
    rw [firstFree]
    split
    · rename_i hn
      obtain ⟨k, hk, hall, hend⟩ := ih (n + 1)
      refine ⟨k + 1, by omega, fun i hi => ?_, ?_⟩
      · cases i with
        | zero => exact hn
        | succ i =>
          have hh := hall i (by omega)
          rwa [Nat.add_assoc, Nat.add_comm 1 i] at hh
      · rw [Nat.add_assoc, Nat.add_comm 1 k] at hend
        exact hend.imp_left (congrArg (· + 1))
    · rename_i hn
      exact ⟨0, rfl, fun i hi => absurd hi (Nat.not_lt_zero i), .inr (Bool.eq_false_iff.mpr hn)⟩

theorem firstFree_isFree (s : Slugger) (base : String) (n : Nat) :
    s.isTaken (suffixed base (s.firstFree base n s.taken.length)) = false := by
  obtain ⟨k, hk, hall, hend | hfree⟩ := exists_firstFree_eq s base n s.taken.length
  · by_contra h
    rw [hk, Bool.not_eq_false] at h
    -- All candidates would be taken, and there are more of them than slugs.
    have hnodup : ((List.range (k + 1)).map fun i => suffixed base (n + i)).Nodup :=
      List.nodup_range.map fun i j hij => Nat.add_left_cancel (suffixed_injective base hij)
    have hsubset : ((List.range (k + 1)).map fun i => suffixed base (n + i)) ⊆
        s.taken.map (·.1) := by
      intro slug hslug
      obtain ⟨i, hi, rfl⟩ := List.mem_map.mp hslug
      rcases Nat.lt_succ_iff_lt_or_eq.mp (List.mem_range.mp hi) with hlt | rfl
      · exact isTaken_iff.mp (hall i hlt)
      · exact isTaken_iff.mp h
    have hlength := hnodup.length_le_of_subset hsubset
    simp only [List.length_map, List.length_range] at hlength
    omega
  · rw [hk]
    exact hfree

/-- A new slug was not taken before, and then it is, besides those that were. -/
theorem slug_spec (s : Slugger) (text : String) :
    s.isTaken (s.slug text).2 = false ∧ (s.slug text).1.isTaken (s.slug text).2 = true ∧
      ∀ slug, s.isTaken slug = true → (s.slug text).1.isTaken slug = true := by
  unfold slug
  dsimp only
  split
  · refine ⟨firstFree_isFree s _ _, isTaken_setCounter.mpr (.inl rfl), fun slug h => ?_⟩
    exact isTaken_setCounter.mpr (.inr (isTaken_setCounter.mpr (.inr h)))
  · rename_i h
    refine ⟨by simpa using h, isTaken_setCounter.mpr (.inl rfl), fun slug h => ?_⟩
    exact isTaken_setCounter.mpr (.inr h)

/-- The slugs for some texts, one after the other. -/
def slugs (s : Slugger) : List String → List String
  | [] => []
  | text :: texts => (s.slug text).2 :: slugs (s.slug text).1 texts

theorem isTaken_eq_false_of_mem_slugs {s : Slugger} {texts : List String} {slug : String}
    (h : slug ∈ s.slugs texts) : s.isTaken slug = false := by
  induction texts generalizing s with
  | nil => cases h
  | cons text texts ih =>
    obtain ⟨hfree, -, hkeep⟩ := slug_spec s text
    rcases List.mem_cons.mp h with rfl | h
    · exact hfree
    · by_contra ht
      have hh := ih h
      rw [hkeep slug (by simpa using ht)] at hh
      cases hh

theorem slugs_nodup (s : Slugger) (texts : List String) : (s.slugs texts).Nodup := by
  induction texts generalizing s with
  | nil => exact .nil
  | cons text texts ih =>
    refine List.nodup_cons.mpr ⟨fun h => ?_, ih _⟩
    have hfree := isTaken_eq_false_of_mem_slugs h
    rw [(slug_spec s text).2.1] at hfree
    cases hfree

/-! ### Numbering from the first free candidate -/

/-- The first of `base`, `base-1`, `base-2`, … that is not taken. -/
inductive FirstFree (taken : List String) (base : String) : String → Prop
  | plain (h : base ∉ taken) : FirstFree taken base base
  | numbered (n : Nat) (hb : base ∈ taken) (hn : ∀ i < n, suffixed base (i + 1) ∈ taken)
      (h : suffixed base (n + 1) ∉ taken) : FirstFree taken base (suffixed base (n + 1))

/-- Each text has the first free candidate of its own; the slugs before it are taken. -/
inductive Numbered : List String → List String → List String → Prop
  | nil (taken : List String) : Numbered taken [] []
  | cons {taken texts slugs : List String} {text slug : String}
      (h : FirstFree taken (slugify text) slug) (hs : Numbered (slug :: taken) texts slugs) :
      Numbered taken (text :: texts) (slug :: slugs)

/-- Every candidate that a counter has passed is taken. -/
def Counted (s : Slugger) : Prop :=
  ∀ base, ∀ i < s.counter base, s.isTaken (suffixed base (i + 1)) = true

theorem counter_setCounter (s : Slugger) (base slug : String) (n : Nat) :
    (s.setCounter base n).counter slug = if slug = base then n else s.counter slug := by
  rw [counter, setCounter]
  by_cases h : slug = base
  · rw [if_pos h, h, List.lookup_cons_self, Option.getD_some]
  · rw [if_neg h, List.lookup_cons, beq_false_of_ne h, counter]
    obtain ⟨taken⟩ := s
    dsimp only
    congr 1
    induction taken with
    | nil => rfl
    | cons x taken ih =>
      rw [List.filter_cons]
      split
      · rw [List.lookup_cons, List.lookup_cons, ih]
      · rename_i hx
        have hxb : x.1 = base := by simpa using hx
        rw [ih, List.lookup_cons, hxb, beq_false_of_ne h]

theorem slug_firstFree {s : Slugger} {taken : List String} (hc : s.Counted)
    (ht : ∀ slug, s.isTaken slug = true ↔ slug ∈ taken) (text : String) :
    FirstFree taken (slugify text) (s.slug text).2 ∧ (s.slug text).1.Counted ∧
      ∀ slug, (s.slug text).1.isTaken slug = true ↔ slug ∈ (s.slug text).2 :: taken := by
  have hfree := (slug_spec s text).1
  unfold slug at hfree ⊢
  dsimp only at hfree ⊢
  generalize slugify text = base at hfree ⊢
  split
  · rename_i hb
    rw [if_pos hb] at hfree
    obtain ⟨k, hk, hall, -⟩ := exists_firstFree_eq s base (s.counter base + 1) s.taken.length
    rw [hk, show s.counter base + 1 + k = s.counter base + k + 1 by omega] at hfree ⊢
    -- What the counter has passed before, and what the search has passed now.
    have hpassed : ∀ i < s.counter base + k, s.isTaken (suffixed base (i + 1)) = true := by
      intro i hi
      by_cases hlt : i < s.counter base
      · exact hc base i hlt
      · have hh := hall (i - s.counter base) (by omega)
        rwa [show s.counter base + 1 + (i - s.counter base) = i + 1 by omega] at hh
    refine ⟨.numbered _ ((ht base).mp hb) (fun i hi => (ht _).mp (hpassed i hi)) ?_, ?_, ?_⟩
    · intro hm
      rw [(ht _).mpr hm] at hfree
      cases hfree
    · intro b i hi
      rw [counter_setCounter, counter_setCounter] at hi
      rw [isTaken_setCounter, isTaken_setCounter]
      split_ifs at hi with hresult hbase
      · omega
      · subst hbase
        by_cases hlast : i = s.counter b + k
        · exact .inl (by rw [hlast])
        · exact .inr (.inr (hpassed i (by omega)))
      · exact .inr (.inr (hc b i hi))
    · intro slug
      rw [isTaken_setCounter, isTaken_setCounter, ht, List.mem_cons]
      refine or_congr_right ⟨?_, .inr⟩
      rintro (rfl | h)
      · exact (ht _).mp hb
      · exact h
  · rename_i hb
    refine ⟨.plain fun hm => hb ((ht base).mpr hm), ?_, fun slug => ?_⟩
    · intro b i hi
      rw [counter_setCounter] at hi
      rw [isTaken_setCounter]
      split_ifs at hi
      · omega
      · exact .inr (hc b i hi)
    · rw [isTaken_setCounter, ht, List.mem_cons]

theorem numbered_slugs {s : Slugger} {taken : List String} (hc : s.Counted)
    (ht : ∀ slug, s.isTaken slug = true ↔ slug ∈ taken) (texts : List String) :
    Numbered taken texts (s.slugs texts) := by
  induction texts generalizing s taken with
  | nil => exact .nil taken
  | cons text texts ih =>
    obtain ⟨hfree, hc', ht'⟩ := slug_firstFree hc ht text
    exact .cons hfree (ih hc' ht')

theorem numbered_slugs_empty (texts : List String) : Numbered [] texts (slugs {} texts) := by
  refine numbered_slugs (fun base i hi => ?_) (fun slug => ?_) texts
  · cases hi
  · simp [isTaken]

theorem slugify_mem_of_numbered {taken texts slugs : List String} (h : Numbered taken texts slugs)
    {text : String} (ht : text ∈ texts) : slugify text ∈ taken ∨ slugify text ∈ slugs := by
  induction h with
  | nil => cases ht
  | @cons taken texts slugs text' slug hfree _ ih =>
    rcases List.mem_cons.mp ht with rfl | ht
    · cases hfree with
      | plain => exact .inr List.mem_cons_self
      | numbered n hb => exact .inl hb
    · rcases ih ht with hm | hm
      · rcases List.mem_cons.mp hm with heq | hm
        · exact .inr (heq ▸ List.mem_cons_self)
        · exact .inl hm
      · exact .inr (List.mem_cons_of_mem _ hm)

end Folio.Slugger
