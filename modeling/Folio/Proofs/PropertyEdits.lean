import Mathlib.Data.List.Forall2
import Mathlib.Data.Set.Card
import Folio.Proofs.Tables

/-! Properties as a map that keeps an order. What they hold after any edits is decided by the edits:
each name has the value it was last set to, and the names stand in the order in which they came in. -/

namespace Folio.Properties

inductive Edit
  | set (name : String) (value : PropertyValue)
  | remove (name : String)
  deriving DecidableEq, Repr

def Edit.name : Edit → String
  | .set name _ => name
  | .remove name => name

def apply (p : Properties) : Edit → Properties
  | .set name value => p.set name value
  | .remove name => p.remove name

/-- The names in the order of iteration. -/
def names (p : Properties) : List String :=
  p.entries.map (·.1)

/-- The last edit of the name sets it to the value. -/
def LastSet (edits : List Edit) (name : String) (value : PropertyValue) : Prop :=
  ∃ before after, edits = before ++ .set name value :: after ∧ ∀ e ∈ after, e.name ≠ name

/-- The edit at the place `i` is the first one to set the name since it was last removed. -/
def EntersAt (edits : List Edit) (name : String) (i : Nat) : Prop :=
  ∃ before value after, edits = before ++ .set name value :: after ∧ before.length = i ∧
    .remove name ∉ after ∧ ∀ old, ¬ LastSet before name old

/-- What one more edit preserves: the names are distinct, each has its last value, and they stand in
the order of the places where they came in. -/
structure Follows (edits : List Edit) (p : Properties) : Prop where
  nodup : p.names.Nodup
  get?_iff : ∀ name value, p.get? name = some value ↔ LastSet edits name value
  order : ∃ places : List Nat, places.Pairwise (· < ·) ∧
    List.Forall₂ (EntersAt edits) p.names places

/-- All that can be asked of the properties, answered by the edits. -/
structure Reflects (edits : List Edit) (p : Properties) : Prop extends Follows edits p where
  contains_iff : ∀ name, p.contains name = true ↔ ∃ value, LastSet edits name value
  mem_entries_iff : ∀ name value, (name, value) ∈ p.entries ↔ LastSet edits name value
  size_eq : p.size = {name | ∃ value, LastSet edits name value}.ncard
  isEmpty_iff : p.isEmpty = true ↔ ∀ name value, ¬ LastSet edits name value
  take_eq : ∀ name, p.take name = (p.get? name, p.remove name)
  names_set : ∀ name ∈ p.names, ∀ value, (p.set name value).names = p.names

/-! ### Setting and removing -/

theorem get?_cons (x : String × PropertyValue) (entries : List (String × PropertyValue))
    (name : String) : get? ⟨x :: entries⟩ name =
      if name = x.1 then some x.2 else get? ⟨entries⟩ name :=
  Table.find?_cons x.1 x.2 entries name

theorem contains_eq_isSome_get? (p : Properties) (name : String) :
    p.contains name = (p.get? name).isSome :=
  Table.contains_eq_isSome_find? p.entries name

theorem mem_names_iff {p : Properties} {name : String} :
    name ∈ p.names ↔ ∃ value, p.get? name = some value :=
  Table.mem_keys_iff.trans Option.isSome_iff_exists

theorem names_set_eq (p : Properties) (name : String) (value : PropertyValue) :
    (p.set name value).names = if name ∈ p.names then p.names else p.names ++ [name] := by
  obtain ⟨entries⟩ := p
  induction entries with
  | nil => rfl
  | cons x entries ih =>
    simp only [names, set, setIn, List.map_cons, List.mem_cons] at ih ⊢
    by_cases h : x.1 = name
    · simp [h]
    · rw [if_neg h, List.map_cons, ih]
      by_cases hm : name ∈ entries.map (·.1) <;> simp [hm, Ne.symm h]

theorem names_remove (p : Properties) (name : String) :
    (p.remove name).names = p.names.erase name := by
  obtain ⟨entries⟩ := p
  induction entries with
  | nil => rfl
  | cons x entries ih =>
    simp only [names, remove, removeFrom, List.map_cons] at ih ⊢
    by_cases h : x.1 = name
    · simp [h]
    · rw [if_neg h, List.map_cons, ih, List.erase_cons_tail (by simpa using h)]

theorem get?_remove_of_ne (p : Properties) {name other : String} (h : other ≠ name) :
    (p.remove name).get? other = p.get? other := by
  obtain ⟨entries⟩ := p
  induction entries with
  | nil => rfl
  | cons x entries ih =>
    rw [get?_cons]
    simp only [remove, removeFrom] at ih ⊢
    by_cases hx : x.1 = name
    · rw [if_pos hx, if_neg (fun he => h (he.trans hx))]
    · rw [if_neg hx, get?_cons, ih]

theorem get?_remove {p : Properties} (h : p.names.Nodup) (name : String) :
    (p.remove name).get? name = none := by
  have hno : name ∉ (p.remove name).names := by
    rw [names_remove]
    exact h.not_mem_erase
  rw [mem_names_iff] at hno
  exact Option.eq_none_iff_forall_ne_some.mpr fun value hv => hno ⟨value, hv⟩

theorem take_eq_get?_remove (p : Properties) (name : String) :
    p.take name = (p.get? name, p.remove name) := by
  obtain ⟨entries⟩ := p
  induction entries with
  | nil => rfl
  | cons x entries ih =>
    rw [get?_cons]
    simp only [take, remove, removeFrom, List.findIdx?_cons] at ih ⊢
    by_cases hx : x.1 = name
    · simp [hx]
    · rw [if_neg hx, if_neg (Ne.symm hx), beq_false_of_ne hx]
      cases hi : entries.findIdx? (·.1 == name) with
      | none =>
        obtain ⟨hvalue, hrest⟩ : none = get? ⟨entries⟩ name ∧ entries = removeFrom name entries := by
          simpa [hi] using ih
        rw [← hvalue, ← hrest]
        rfl
      | some i =>
        obtain ⟨hvalue, hrest⟩ : entries[i]?.map (·.2) = get? ⟨entries⟩ name ∧
            entries.eraseIdx i = removeFrom name entries := by
          simpa [hi] using ih
        rw [← hvalue, ← hrest]
        rfl

/-! ### The last value -/

theorem not_lastSet_nil (name : String) (value : PropertyValue) : ¬ LastSet [] name value := by
  rintro ⟨before, after, he, -⟩
  simp at he

theorem lastSet_concat_iff {edits : List Edit} {e : Edit} {name : String} {value : PropertyValue} :
    LastSet (edits ++ [e]) name value ↔
      e = .set name value ∨ e.name ≠ name ∧ LastSet edits name value := by
  constructor
  · rintro ⟨before, after, he, hafter⟩
    -- Either nothing stands behind the edit that counts, so it is the new one, or the new one does.
    cases after using List.reverseRecOn with
    | nil =>
      obtain ⟨-, he⟩ := List.append_inj' he rfl
      exact .inl (List.cons.inj he).1
    | append_singleton after last =>
      rw [← List.cons_append, ← List.append_assoc] at he
      obtain ⟨rfl, hlast⟩ := List.append_inj' he rfl
      obtain rfl := (List.cons.inj hlast).1
      exact .inr ⟨hafter e (by simp), before, after, rfl, fun d hd => hafter d (by simp [hd])⟩
  · rintro (rfl | ⟨hne, before, after, rfl, hafter⟩)
    · exact ⟨edits, [], rfl, nofun⟩
    · refine ⟨before, after ++ [e], by simp, fun d hd => ?_⟩
      rcases List.mem_append.mp hd with hd | hd
      · exact hafter d hd
      · obtain rfl := List.mem_singleton.mp hd
        exact hne

theorem get?_apply_iff {edits : List Edit} {p : Properties} (h : Follows edits p) (e : Edit)
    (name : String) (value : PropertyValue) :
    (p.apply e).get? name = some value ↔ LastSet (edits ++ [e]) name value := by
  rw [lastSet_concat_iff]
  cases e with
  | set n v =>
    by_cases hn : name = n
    · subst hn
      simp [apply, get?_set, Edit.name]
    · simp [apply, get?_set_of_ne p v hn, h.get?_iff, Edit.name, Ne.symm hn]
  | remove n =>
    by_cases hn : name = n
    · subst hn
      simp [apply, get?_remove h.nodup, Edit.name]
    · simp [apply, get?_remove_of_ne p hn, h.get?_iff, Edit.name, Ne.symm hn]

/-! ### The order -/

theorem EntersAt.lt_length {edits : List Edit} {name : String} {i : Nat}
    (h : EntersAt edits name i) : i < edits.length := by
  obtain ⟨before, value, after, rfl, rfl, -⟩ := h
  simp

theorem EntersAt.concat {edits : List Edit} {name : String} {i : Nat} (h : EntersAt edits name i)
    {e : Edit} (he : e ≠ .remove name) : EntersAt (edits ++ [e]) name i := by
  obtain ⟨before, value, after, rfl, hi, hafter, hbefore⟩ := h
  refine ⟨before, value, after ++ [e], by simp, hi, fun hm => ?_, hbefore⟩
  rcases List.mem_append.mp hm with hm | hm
  · exact hafter hm
  · exact he (List.mem_singleton.mp hm).symm

theorem entersAt_length {edits : List Edit} {name : String} (h : ∀ old, ¬ LastSet edits name old)
    (value : PropertyValue) : EntersAt (edits ++ [.set name value]) name edits.length :=
  ⟨edits, value, [], rfl, rfl, List.not_mem_nil, h⟩

theorem exists_forall₂_of_sublist {α β : Type} {R : α → β → Prop} {xs xs' : List α} {ys : List β}
    (hs : xs'.Sublist xs) (h : List.Forall₂ R xs ys) :
    ∃ ys' : List β, ys'.Sublist ys ∧ List.Forall₂ R xs' ys' := by
  induction hs generalizing ys with
  | slnil => exact ⟨[], List.nil_sublist ys, .nil⟩
  | cons x hs ih =>
    obtain ⟨y, ys, -, hrest, rfl⟩ := List.forall₂_cons_left_iff.mp h
    obtain ⟨ys', hsub, hys⟩ := ih hrest
    exact ⟨ys', hsub.cons y, hys⟩
  | cons_cons x hs ih =>
    obtain ⟨y, ys, hxy, hrest, rfl⟩ := List.forall₂_cons_left_iff.mp h
    obtain ⟨ys', hsub, hys⟩ := ih hrest
    exact ⟨y :: ys', hsub.cons_cons y, .cons hxy hys⟩

theorem lt_length_of_entersAt {edits : List Edit} {names : List String} {places : List Nat}
    (h : List.Forall₂ (EntersAt edits) names places) : ∀ i ∈ places, i < edits.length := by
  induction h with
  | nil => exact nofun
  | cons hi _ ih => exact List.forall_mem_cons.mpr ⟨hi.lt_length, ih⟩

/-- Names that are kept keep their places, if the edit removes none of them. -/
theorem Follows.places_kept {edits : List Edit} {p : Properties} (h : Follows edits p)
    {kept : List String} (hs : kept.Sublist p.names) {e : Edit}
    (he : ∀ name ∈ kept, e ≠ .remove name) :
    ∃ places : List Nat, places.Pairwise (· < ·) ∧ (∀ i ∈ places, i < edits.length) ∧
      List.Forall₂ (EntersAt (edits ++ [e])) kept places := by
  obtain ⟨places, hlt, hplaces⟩ := h.order
  obtain ⟨places', hsub, hplaces'⟩ := exists_forall₂_of_sublist hs hplaces
  refine ⟨places', hlt.sublist hsub, lt_length_of_entersAt hplaces', ?_⟩
  exact ((List.forall₂_and_left _ _).mpr ⟨he, hplaces'⟩).imp fun _ _ hi => hi.2.concat hi.1

theorem Follows.set {edits : List Edit} {p : Properties} (h : Follows edits p) (name : String)
    (value : PropertyValue) : Follows (edits ++ [.set name value]) (p.set name value) := by
  obtain ⟨places, hlt, hbound, hplaces⟩ :=
    h.places_kept (List.Sublist.refl _) (e := .set name value) nofun
  -- A name that is there keeps its place, and any other one comes in behind all places so far.
  by_cases hname : name ∈ p.names
  · have hnames : (p.set name value).names = p.names := by rw [names_set_eq, if_pos hname]
    refine ⟨?_, get?_apply_iff h (.set name value), places, hlt, ?_⟩
    · rw [hnames]
      exact h.nodup
    · rwa [hnames]
  · have hnames : (p.set name value).names = p.names ++ [name] := by
      rw [names_set_eq, if_neg hname]
    have habsent : ∀ old, ¬ LastSet edits name old := fun old hold =>
      hname (mem_names_iff.mpr ⟨old, (h.get?_iff name old).mpr hold⟩)
    refine ⟨?_, get?_apply_iff h (.set name value), places ++ [edits.length], ?_, ?_⟩
    · rw [hnames]
      exact List.nodup_append_comm.mp (List.nodup_cons.mpr ⟨hname, h.nodup⟩)
    · refine List.pairwise_append.mpr ⟨hlt, List.pairwise_singleton _ _, fun i hi j hj => ?_⟩
      obtain rfl := List.mem_singleton.mp hj
      exact hbound i hi
    · rw [hnames]
      exact List.rel_append hplaces (.cons (entersAt_length habsent value) .nil)

theorem Follows.remove {edits : List Edit} {p : Properties} (h : Follows edits p)
    (name : String) : Follows (edits ++ [.remove name]) (p.remove name) := by
  have hnames := names_remove p name
  have hkept : ∀ other ∈ p.names.erase name, Edit.remove name ≠ .remove other := by
    rintro other hother he
    obtain rfl := Edit.remove.inj he
    exact h.nodup.not_mem_erase hother
  obtain ⟨places, hlt, -, hplaces⟩ := h.places_kept List.erase_sublist hkept
  refine ⟨?_, get?_apply_iff h (.remove name), places, hlt, ?_⟩
  · rw [hnames]
    exact h.nodup.erase name
  · rwa [hnames]

theorem follows_foldl (edits : List Edit) : Follows edits (edits.foldl apply empty) := by
  induction edits using List.reverseRecOn with
  | nil =>
    refine ⟨List.nodup_nil, fun name value => ?_, [], .nil, .nil⟩
    exact iff_of_false nofun (not_lastSet_nil name value)
  | append_singleton edits e ih =>
    rw [List.foldl_concat]
    cases e with
    | set name value => exact ih.set name value
    | remove name => exact ih.remove name

theorem ofList_eq_foldl (start : List (String × PropertyValue)) :
    ofList start = (start.map fun x => Edit.set x.1 x.2).foldl apply empty := by
  rw [ofList, List.foldl_map]
  rfl

theorem Follows.mem_names_iff {edits : List Edit} {p : Properties} (h : Follows edits p)
    {name : String} : name ∈ p.names ↔ ∃ value, LastSet edits name value := by
  rw [Properties.mem_names_iff]
  simp only [h.get?_iff]

theorem Follows.reflects {edits : List Edit} {p : Properties} (h : Follows edits p) :
    Reflects edits p where
  toFollows := h
  contains_iff name := by
    rw [contains_eq_isSome_get?, Option.isSome_iff_exists]
    simp only [h.get?_iff]
  mem_entries_iff name value := by
    rw [← h.get?_iff]
    exact ⟨Table.find?_of_mem h.nodup, Table.mem_of_find?⟩
  size_eq := by
    have hset : {name | ∃ value, LastSet edits name value} = ↑p.names.toFinset := by
      ext name
      rw [List.coe_toFinset]
      exact h.mem_names_iff.symm
    rw [hset, Set.ncard_coe_finset, List.toFinset_card_of_nodup h.nodup, names, List.length_map]
    rfl
  isEmpty_iff := by
    rw [isEmpty, List.isEmpty_iff, ← List.map_eq_nil_iff (f := (·.1)),
      List.eq_nil_iff_forall_not_mem]
    constructor
    · intro hno name value hv
      exact hno name (h.mem_names_iff.mpr ⟨value, hv⟩)
    · intro hno name hm
      obtain ⟨value, hv⟩ := h.mem_names_iff.mp hm
      exact hno name value hv
  take_eq := take_eq_get?_remove p
  names_set name hname value := by rw [names_set_eq, if_pos hname]

/-- After any edits of properties made from any list, everything about them is as the list and the
edits, taken as one history, say. -/
theorem reflects_history (start : List (String × PropertyValue)) (edits : List Edit) :
    Reflects ((start.map fun x => .set x.1 x.2) ++ edits) (edits.foldl apply (ofList start)) := by
  rw [ofList_eq_foldl, ← List.foldl_append]
  exact (follows_foldl _).reflects

/-- A name that is set again stays in its place, and one that was removed comes in at the end. -/
example : ([.set "src" (.text "b"), .remove "alt", .set "alt" (.text "c")] : List Edit).foldl apply
    (ofList [("alt", .text "a"), ("src", .text "a"), ("width", .flag true)]) =
    ⟨[("src", .text "b"), ("width", .flag true), ("alt", .text "c")]⟩ := by
  decide

end Folio.Properties
