import Mathlib.Data.List.Induction
import Mathlib.Data.List.Nodup
import Mathlib.Data.Set.Function
import Mathlib.Order.Interval.Set.Defs
import Folio.Document.Basic

/-! Lists that take in an item when it first comes and pass over it from then on. -/

namespace Folio

/-- The list has each of the items once, in the order in which they first come. -/
structure FirstUses (items list : List String) : Prop where
  nodup : list.Nodup
  mem_iff : ∀ x, x ∈ list ↔ x ∈ items
  order : ∀ x ∈ list, ∀ y ∈ list,
    (list.idxOf x < list.idxOf y ↔ items.idxOf x < items.idxOf y)

variable {items list : List String} {item x : String}

theorem mem_appendNew : x ∈ appendNew list item ↔ x ∈ list ∨ x = item := by
  rw [appendNew]
  split
  · rename_i h
    constructor
    · exact .inl
    · rintro (hx | rfl)
      · exact hx
      · simpa using h
  · simp

theorem idxOf_concat (h : item ∉ list) (hx : x ∈ list ++ [item]) :
    (list ++ [item]).idxOf x = if x = item then list.length else list.idxOf x := by
  split
  · rename_i he
    rw [he, List.idxOf_append_of_notMem h, List.idxOf_cons_self, Nat.add_zero]
  · rename_i hne
    have hold : x ∈ list := by simpa [hne] using hx
    rw [List.idxOf_append_of_mem hold]

theorem FirstUses.concat (h : FirstUses items list) (item : String) :
    FirstUses (items ++ [item]) (appendNew list item) := by
  have hmem : ∀ x, x ∈ appendNew list item ↔ x ∈ items ++ [item] := by
    intro x
    rw [mem_appendNew, h.mem_iff]
    simp
  by_cases hitem : item ∈ list
  · have hsame : appendNew list item = list := if_pos (by simpa using hitem)
    rw [hsame] at hmem ⊢
    refine ⟨h.nodup, hmem, fun x hx y hy => ?_⟩
    rw [List.idxOf_append_of_mem ((h.mem_iff x).mp hx),
      List.idxOf_append_of_mem ((h.mem_iff y).mp hy)]
    exact h.order x hx y hy
  · have hmore : appendNew list item = list ++ [item] := if_neg (by simpa using hitem)
    have hnew : item ∉ items := mt (h.mem_iff item).mpr hitem
    rw [hmore] at hmem ⊢
    refine ⟨?_, hmem, fun x hx y hy => ?_⟩
    · exact List.nodup_append_comm.mp (List.nodup_cons.mpr ⟨hitem, h.nodup⟩)
    · have hlt : ∀ z ∈ list ++ [item], z ≠ item →
          z ∈ list ∧ list.idxOf z < list.length ∧ items.idxOf z < items.length := by
        intro z hz hne
        have hold : z ∈ list := by simpa [hne] using hz
        exact ⟨hold, List.idxOf_lt_length_of_mem hold,
          List.idxOf_lt_length_of_mem ((h.mem_iff z).mp hold)⟩
      rw [idxOf_concat hitem hx, idxOf_concat hitem hy, idxOf_concat hnew ((hmem x).mp hx),
        idxOf_concat hnew ((hmem y).mp hy)]
      split <;> rename_i hxi <;> split <;> rename_i hyi
      · simp
      · have := hlt y hy hyi
        omega
      · have := hlt x hx hxi
        omega
      · exact h.order x (hlt x hx hxi).1 y (hlt y hy hyi).1

theorem firstUses_foldl (items : List String) : FirstUses items (items.foldl appendNew []) := by
  induction items using List.reverseRecOn with
  | nil => exact ⟨List.nodup_nil, fun _ => Iff.rfl, nofun⟩
  | append_singleton items item ih =>
    rw [List.foldl_append]
    exact ih.concat item

theorem prefix_foldl_appendNew (items list : List String) :
    list <+: items.foldl appendNew list := by
  induction items generalizing list with
  | nil => exact List.prefix_rfl
  | cons item items ih =>
    have hone : list <+: appendNew list item := by
      rw [appendNew]
      split
      · exact List.prefix_rfl
      · exact List.prefix_append list [item]
    exact hone.trans (ih _)

theorem mem_foldl_appendNew (h : x ∈ items) : x ∈ items.foldl appendNew list := by
  induction items generalizing list with
  | nil => cases h
  | cons item items ih =>
    rcases List.mem_cons.mp h with rfl | hx
    · exact (prefix_foldl_appendNew items _).subset (mem_appendNew.mpr (.inr rfl))
    · exact ih hx

/-- What comes later does not change the place of an item. -/
theorem idxOf_foldl_appendNew (items : List String) (h : x ∈ list) :
    (items.foldl appendNew list).idxOf x = list.idxOf x := by
  obtain ⟨more, hmore⟩ := prefix_foldl_appendNew items list
  rw [← hmore, List.idxOf_append_of_mem h]

theorem FirstUses.bijOn (h : FirstUses items list) :
    Set.BijOn (fun x => list.idxOf x + 1) {x | x ∈ items} (Set.Icc 1 list.length) := by
  refine ⟨fun x hx => ?_, fun x hx y hy hxy => ?_, fun n hn => ?_⟩
  · have hlt := List.idxOf_lt_length_of_mem ((h.mem_iff x).mpr hx)
    exact ⟨Nat.le_add_left 1 _, hlt⟩
  · exact (List.idxOf_inj ((h.mem_iff x).mpr hx)).mp (Nat.succ.inj hxy)
  · obtain ⟨hpos, hle⟩ := hn
    have hlt : n - 1 < list.length := by omega
    refine ⟨list[n - 1], (h.mem_iff _).mp (List.getElem_mem hlt), ?_⟩
    show list.idxOf list[n - 1] + 1 = n
    rw [h.nodup.idxOf_getElem _ hlt]
    omega

end Folio
