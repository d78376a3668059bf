import Mathlib.Data.List.Induction
import Mathlib.Data.String.Basic
import Folio.Node.Properties
import Folio.Table

/-! Tables and properties as finite maps: what is found after an insertion, and the order of the
keys of a table. -/

namespace Folio

theorem Properties.get?_set (p : Properties) (name : String) (value : PropertyValue) :
    (p.set name value).get? name = some value := by
  obtain ⟨entries⟩ := p
  rw [set, get?]
  induction entries with
  | nil => exact List.lookup_cons_self
  | cons x entries ih =>
    dsimp only [setIn]
    split
    · rename_i h
      rw [h, List.lookup_cons_self]
    · rename_i h
      rw [List.lookup_cons, beq_false_of_ne (Ne.symm h)]
      exact ih

theorem Properties.get?_set_of_ne (p : Properties) {name other : String} (value : PropertyValue)
    (h : other ≠ name) : (p.set name value).get? other = p.get? other := by
  obtain ⟨entries⟩ := p
  rw [set, get?, get?]
  induction entries with
  | nil => rw [setIn, List.lookup_cons, beq_false_of_ne h]
  | cons x entries ih =>
    dsimp only [setIn]
    split
    · rename_i hx
      rw [List.lookup_cons, List.lookup_cons, hx, beq_false_of_ne h]
    · rw [List.lookup_cons, List.lookup_cons, ih]

theorem Properties.set_of_get? {p : Properties} {name : String} {value : PropertyValue}
    (h : p.get? name = some value) : p.set name value = p := by
  obtain ⟨entries⟩ := p
  rw [get?] at h
  rw [set, mk.injEq]
  induction entries with
  | nil => cases h
  | cons x entries ih =>
    obtain ⟨n, v⟩ := x
    rw [List.lookup_cons] at h
    dsimp only [setIn]
    by_cases hn : n = name
    · subst hn
      rw [if_pos rfl]
      simp only [beq_self_eq_true, Option.some.injEq] at h
      rw [h]
    · rw [if_neg hn]
      simp only [beq_false_of_ne (Ne.symm hn)] at h
      rw [ih h]

namespace Table

variable {α : Type} {t : Table α}

def Sorted (t : Table α) : Prop :=
  t.keys.Pairwise (· < ·)

theorem find?_nil (k : String) : find? ([] : Table α) k = none :=
  rfl

theorem find?_cons (key : String) (value : α) (t : Table α) (k : String) :
    find? ((key, value) :: t) k = if k = key then some value else t.find? k := by
  by_cases h : k = key
  · simp [find?, h]
  · simp [find?, List.lookup_cons, h, beq_false_of_ne h]

theorem contains_eq_isSome_find? (t : Table α) (k : String) :
    t.contains k = (t.find? k).isSome := by
  induction t with
  | nil => rfl
  | cons x t ih =>
    obtain ⟨key, value⟩ := x
    rw [find?_cons, contains, List.any_cons]
    by_cases h : k = key
    · simp [h]
    · rw [if_neg h, ← ih, beq_false_of_ne (Ne.symm h), Bool.false_or, contains]

theorem contains_iff_mem_keys {k : String} : t.contains k = true ↔ k ∈ t.keys := by
  simp [contains, keys]

theorem mem_keys_iff {k : String} : k ∈ t.keys ↔ (t.find? k).isSome = true := by
  rw [← contains_iff_mem_keys, contains_eq_isSome_find?]

theorem find?_eq_none {k : String} (h : k ∉ t.keys) : t.find? k = none := by
  refine List.lookup_eq_none_iff.mpr fun x hx => bne_iff_ne.mpr ?_
  rintro rfl
  exact h (List.mem_map_of_mem hx)

theorem mem_of_mem_insert {key : String} {value : α} {x : String × α}
    (h : x ∈ t.insert key value) : x = (key, value) ∨ x ∈ t := by
  induction t with
  | nil => exact .inl (List.mem_singleton.mp h)
  | cons y t ih =>
    rw [Table.insert] at h
    split_ifs at h
    · exact (List.mem_cons.mp h).imp_right (List.mem_cons_of_mem y)
    · exact List.mem_cons.mp h
    · rcases List.mem_cons.mp h with rfl | h
      · exact .inr List.mem_cons_self
      · exact (ih h).imp_right (List.mem_cons_of_mem y)

theorem mem_of_find? {key : String} {value : α} (h : t.find? key = some value) :
    (key, value) ∈ t := by
  obtain ⟨l, r, rfl, -⟩ := List.lookup_eq_some_iff.mp h
  simp

theorem mem_keys_of_mem_keys_insert {key k : String} {value : α}
    (h : k ∈ (t.insert key value).keys) : k = key ∨ k ∈ t.keys := by
  obtain ⟨x, hx, rfl⟩ := List.mem_map.mp h
  rcases mem_of_mem_insert hx with rfl | hx
  · exact .inl rfl
  · exact .inr (List.mem_map_of_mem hx)

/-- This holds of unsorted lists too: the first entry with the key is replaced, or another one put
before it. -/
theorem find?_insert (t : Table α) (key : String) (value : α) (k : String) :
    (t.insert key value).find? k = if k = key then some value else t.find? k := by
  induction t with
  | nil => rw [insert, find?_cons]
  | cons x t ih =>
    obtain ⟨k', v⟩ := x
    rw [insert]
    split
    · rename_i h
      subst h
      simp only [find?_cons]
      split <;> rfl
    · rename_i h
      split
      · rw [find?_cons]
      · rw [find?_cons, ih, find?_cons]
        by_cases hk : k = k'
        · subst hk
          rw [if_pos rfl, if_neg (Ne.symm h), if_pos rfl]
        · rw [if_neg hk, if_neg hk]

theorem contains_insert {key k : String} {value : α} :
    (t.insert key value).contains k = true ↔ k = key ∨ t.contains k = true := by
  rw [contains_eq_isSome_find?, contains_eq_isSome_find?, find?_insert]
  split
  · rename_i h
    simp [h]
  · rename_i h
    simp [h]

theorem find?_of_mem (h : t.keys.Nodup) {key : String} {value : α} (hm : (key, value) ∈ t) :
    t.find? key = some value := by
  obtain ⟨l, r, rfl⟩ := List.append_of_mem hm
  refine List.lookup_eq_some_iff.mpr ⟨l, r, rfl, fun x hx => bne_iff_ne.mpr (Ne.symm ?_)⟩
  rw [keys, List.map_append, List.map_cons] at h
  exact (List.nodup_append.mp h).2.2 x.1 (List.mem_map_of_mem hx) key List.mem_cons_self

theorem Sorted.find?_of_mem (h : t.Sorted) {key : String} {value : α} (hm : (key, value) ∈ t) :
    t.find? key = some value :=
  Table.find?_of_mem (h.imp fun hlt => ne_of_lt hlt) hm

theorem Sorted.nodup (h : t.Sorted) : t.Nodup :=
  (List.pairwise_map.mp h).imp fun hlt he => absurd (he ▸ hlt) (lt_irrefl _)

theorem Sorted.ext {t' : Table α} (h : t.Sorted) (h' : t'.Sorted)
    (hfind : ∀ k, t.find? k = t'.find? k) : t = t' := by
  have hmem : ∀ x, x ∈ t ↔ x ∈ t' := by
    rintro ⟨k, v⟩
    constructor
    · intro hm
      exact mem_of_find? ((hfind k).symm.trans (h.find?_of_mem hm))
    · intro hm
      exact mem_of_find? ((hfind k).trans (h'.find?_of_mem hm))
  refine ((List.perm_ext_iff_of_nodup h.nodup h'.nodup).mpr hmem).eq_of_pairwise ?_
    (List.pairwise_map.mp h) (List.pairwise_map.mp h')
  intro x y _ _ hxy hyx
  exact absurd hyx (lt_asymm hxy)

theorem Sorted.insert (h : t.Sorted) (key : String) (value : α) :
    (Table.insert t key value).Sorted := by
  induction t with
  | nil => exact List.pairwise_singleton _ _
  | cons x t ih =>
    obtain ⟨k, v⟩ := x
    obtain ⟨hk, ht⟩ := List.pairwise_cons.mp h
    rw [Table.insert]
    split_ifs with heq hlt
    · subst heq
      exact h
    · refine List.pairwise_cons.mpr ⟨fun j hj => ?_, h⟩
      rcases List.mem_cons.mp hj with rfl | hj
      · exact hlt
      · exact lt_trans hlt (hk j hj)
    · refine List.pairwise_cons.mpr ⟨fun j hj => ?_, ih ht⟩
      rcases mem_keys_of_mem_keys_insert hj with rfl | hj
      · exact lt_of_le_of_ne (not_lt.mp hlt) (Ne.symm heq)
      · exact hk j hj

theorem sorted_ofEntries (entries : List (String × α)) : (ofEntries entries).Sorted :=
  List.foldlRecOn (motive := Sorted) entries _ List.Pairwise.nil fun _ h e _ => h.insert e.1 e.2

theorem insert_of_forall_lt {key : String} (h : ∀ k ∈ t.keys, k < key) (value : α) :
    t.insert key value = t ++ [(key, value)] := by
  induction t with
  | nil => rfl
  | cons x t ih =>
    have hlt : x.1 < key := h x.1 List.mem_cons_self
    have hrest := ih fun k hk => h k (List.mem_cons_of_mem x.1 hk)
    rw [Table.insert, if_neg (ne_of_gt hlt), if_neg (not_lt_of_gt hlt), hrest]
    rfl

theorem ofEntries_of_sorted (h : t.Sorted) : ofEntries t = t := by
  induction t using List.reverseRecOn with
  | nil => rfl
  | append_singleton t x ih =>
    rw [Sorted, keys, List.map_append, List.pairwise_append] at h
    obtain ⟨ht, -, hlt⟩ := h
    have hfold : ofEntries (t ++ [x]) = (ofEntries t).insert x.1 x.2 := List.foldl_concat ..
    rw [hfold, ih ht]
    exact insert_of_forall_lt (fun k hk => hlt k hk x.1 (List.mem_singleton_self _)) x.2

theorem find?_ofEntries {entries : List (String × α)} (h : (entries.map (·.1)).Nodup) (k : String) :
    (ofEntries entries).find? k = entries.lookup k := by
  suffices hfold : ∀ t : Table α, find? (entries.foldl (fun t e => t.insert e.1 e.2) t) k =
      (entries.lookup k).or (t.find? k) by
    rw [ofEntries, hfold, find?_nil, Option.or_none]
  induction entries with
  | nil => exact fun t => rfl
  | cons e entries ih =>
    intro t
    obtain ⟨hnew, hrest⟩ := List.nodup_cons.mp h
    rw [List.foldl_cons, ih hrest, find?_insert]
    by_cases hk : k = e.1
    · subst hk
      have hnone : entries.lookup e.1 = none := find?_eq_none hnew
      rw [if_pos rfl, hnone, Option.none_or, List.lookup_cons_self, Option.some_or]
    · rw [if_neg hk, List.lookup_cons, beq_false_of_ne hk]

end Table

end Folio
