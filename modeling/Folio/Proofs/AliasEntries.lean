import Mathlib.Order.Bounds.Basic
import Folio.Proofs.CalloutAliases

/-! The entries of a table with its aliases. It has the kinds of the table and the names listed under
them. Each name that comes in has the entry of the least kind that lists it, in whatever order the
names are put in. -/

namespace Folio.Callout

/-- The kinds of a table that a name is listed under. -/
def kindsListing (t : Entries) (aliases : Aliases) (name : String) : Set String :=
  {kind | kind ∈ t.keys ∧ ∃ names, (kind, names) ∈ aliases ∧ name ∈ names}

/-- The table `t'` is `t` with the aliases: nothing of `t` changes, each name listed under a kind of
`t` comes in with the entry of the least such kind, and nothing else does. -/
structure WithAliases (t : Entries) (aliases : Aliases) (t' : Entries) : Prop where
  sorted : t'.Sorted
  mem_keys_iff : ∀ name, name ∈ t'.keys ↔
    name ∈ t.keys ∨ (kindsListing t aliases name).Nonempty
  kept : ∀ name ∈ t.keys, t'.find? name = t.find? name
  added : ∀ name ∈ t'.keys, name ∉ t.keys →
    ∃ kind, IsLeast (kindsListing t aliases name) kind ∧ t'.find? name = t.find? kind

theorem WithAliases.unique {t t₁ t₂ : Entries} {aliases : Aliases} (h₁ : WithAliases t aliases t₁)
    (h₂ : WithAliases t aliases t₂) : t₁ = t₂ := by
  refine h₁.sorted.ext h₂.sorted fun name => ?_
  have hkeys : name ∈ t₁.keys ↔ name ∈ t₂.keys :=
    (h₁.mem_keys_iff name).trans (h₂.mem_keys_iff name).symm
  by_cases hn : name ∈ t₁.keys
  · by_cases ht : name ∈ t.keys
    · rw [h₁.kept name ht, h₂.kept name ht]
    · obtain ⟨kind₁, hleast₁, hfind₁⟩ := h₁.added name hn ht
      obtain ⟨kind₂, hleast₂, hfind₂⟩ := h₂.added name (hkeys.mp hn) ht
      rw [hfind₁, hfind₂, hleast₁.unique hleast₂]
  · rw [Table.find?_eq_none hn, Table.find?_eq_none fun hm => hn (hkeys.mpr hm)]

theorem mem_kindsListing_iff {t : Entries} {aliases : Aliases} {name kind : String}
    (hname : name ∉ t.keys) : kind ∈ kindsListing t aliases name ↔
      (kind, name) ∈ aliases.pairs ∧ givesTarget t name (kind, name) = true := by
  have hno : t.contains name = false :=
    Bool.eq_false_iff.mpr fun hc => hname (Table.contains_iff_mem_keys.mp hc)
  rw [mem_pairs, givesTarget_iff, Table.contains_iff_mem_keys, and_comm]
  simp only [kindsListing, Set.mem_ofPred_eq, hno, true_and, and_true]

/-- The pairs come in the order of the kinds, so the first one that fits has the least kind. -/
theorem isLeast_of_find?_pairs {t : Entries} {aliases : Aliases} (ha : Table.Sorted aliases)
    {name : String} (hname : name ∉ t.keys) {p : String × String}
    (hp : aliases.pairs.find? (givesTarget t name) = some p) :
    IsLeast (kindsListing t aliases name) p.1 := by
  obtain ⟨kind, n⟩ := p
  have hgives := List.find?_some hp
  obtain ⟨rfl, -⟩ := givesTarget_iff.mp hgives
  constructor
  · exact (mem_kindsListing_iff hname).mpr ⟨List.mem_of_find?_eq_some hp, hgives⟩
  · intro k hk
    obtain ⟨hmem, hfits⟩ := (mem_kindsListing_iff hname).mp hk
    exact fst_le_of_find?_pairs ha hp hmem hfits

theorem sorted_expandAliases {t : Entries} (ht : t.Sorted) (aliases : Aliases) :
    (expandAliases t aliases).Sorted := by
  refine List.foldlRecOn (motive := Table.Sorted) _ _ ht fun expanded h x _ => ?_
  dsimp only
  split
  · exact h.insert _ _
  · exact h

theorem find?_expandAliases_kept {t : Entries} {name : String} (h : name ∈ t.keys)
    (aliases : Aliases) : (expandAliases t aliases).find? name = t.find? name := by
  have hnone : aliases.pairs.find? (givesTarget t name) = none := by
    refine List.find?_eq_none.mpr fun p _ hp => ?_
    have hno := (givesTarget_iff.mp hp).2.2
    rw [Table.contains_iff_mem_keys.mpr h] at hno
    cases hno
  rw [find?_expandAliases, hnone]
  rfl

theorem exists_isLeast_kindsListing {t : Entries} {aliases : Aliases} (ha : Table.Sorted aliases)
    {name : String} (hname : name ∉ t.keys) (h : (kindsListing t aliases name).Nonempty) :
    ∃ kind, IsLeast (kindsListing t aliases name) kind ∧
      (expandAliases t aliases).find? name = t.find? kind := by
  obtain ⟨k, hk⟩ := h
  obtain ⟨hmem, hfits⟩ := (mem_kindsListing_iff hname).mp hk
  obtain ⟨p, hp⟩ := Option.isSome_iff_exists.mp (List.find?_isSome.mpr ⟨_, hmem, hfits⟩)
  have hleast := isLeast_of_find?_pairs ha hname hp
  obtain ⟨e, he⟩ := Option.isSome_iff_exists.mp (Table.mem_keys_iff.mp hleast.1.1)
  refine ⟨p.1, hleast, ?_⟩
  rw [find?_expandAliases, hp, Option.map_some, Option.bind_some, he, Option.some_or]

theorem mem_keys_expandAliases_iff {t : Entries} {aliases : Aliases} (ha : Table.Sorted aliases)
    {name : String} : name ∈ (expandAliases t aliases).keys ↔
      name ∈ t.keys ∨ (kindsListing t aliases name).Nonempty := by
  by_cases hname : name ∈ t.keys
  · rw [Table.mem_keys_iff, find?_expandAliases_kept hname, ← Table.mem_keys_iff]
    exact iff_of_true hname (.inl hname)
  · rw [or_iff_right hname, Table.mem_keys_iff]
    constructor
    · intro hs
      rw [find?_expandAliases, Table.find?_eq_none hname, Option.or_none] at hs
      cases hp : aliases.pairs.find? (givesTarget t name) with
      | none => simp [hp] at hs
      | some p => exact ⟨p.1, (isLeast_of_find?_pairs ha hname hp).1⟩
    · intro h
      obtain ⟨kind, hleast, hfind⟩ := exists_isLeast_kindsListing ha hname h
      rw [hfind]
      exact Table.mem_keys_iff.mp hleast.1.1

theorem withAliases_expandAliases {t : Entries} {aliases : Aliases} (ht : t.Sorted)
    (ha : Table.Sorted aliases) : WithAliases t aliases (expandAliases t aliases) where
  sorted := sorted_expandAliases ht aliases
  mem_keys_iff _ := mem_keys_expandAliases_iff ha
  kept _ h := find?_expandAliases_kept h aliases
  added _ hn hname := exists_isLeast_kindsListing ha hname
    (((mem_keys_expandAliases_iff ha).mp hn).resolve_left hname)

/-- A table that has its aliases stays as it is, unless an alias is listed as a kind too. -/
theorem WithAliases.settled {t t' : Entries} {aliases : Aliases} (h : WithAliases t aliases t')
    (hkinds : ∀ kind names, (kind, names) ∈ aliases → ∀ name ∈ names, name ∉ aliases.keys) :
    WithAliases t' aliases t' where
  sorted := h.sorted
  mem_keys_iff name := by
    refine ⟨.inl, ?_⟩
    rintro (hn | ⟨kind, hkind, names, hm, hname⟩)
    · exact hn
    · have hold : kind ∈ t.keys := by
        rcases (h.mem_keys_iff kind).mp hkind with hk | ⟨_, -, names', hm', hk⟩
        · exact hk
        · exact absurd (List.mem_map_of_mem hm) (hkinds _ names' hm' kind hk)
      exact (h.mem_keys_iff name).mpr (.inr ⟨kind, hold, names, hm, hname⟩)
  kept _ _ := rfl
  added _ hn hname := absurd hn hname

/-- Exactly one table is `t` with the aliases, and a second expansion adds nothing to it unless an
alias is listed as a kind too. -/
theorem expandAliases_eq_iff_withAliases {t : Entries} {aliases : Aliases} (ht : t.Sorted)
    (ha : Table.Sorted aliases) :
    (∀ t', expandAliases t aliases = t' ↔ WithAliases t aliases t') ∧
      ((∀ kind names, (kind, names) ∈ aliases → ∀ name ∈ names, name ∉ aliases.keys) →
        expandAliases (expandAliases t aliases) aliases = expandAliases t aliases) := by
  have hwith := withAliases_expandAliases ht ha
  constructor
  · intro t'
    constructor
    · rintro rfl
      exact hwith
    · exact hwith.unique
  · intro hkinds
    exact (withAliases_expandAliases hwith.sorted ha).unique (hwith.settled hkinds)

/-- Here `memo` is an alias and listed as a kind, and its own alias comes in the second time. -/
example :
    let aliases : Aliases := [("memo", ["aside"]), ("note", ["memo"])]
    (expandAliases [("note", {})] aliases).keys = ["memo", "note"] ∧
      (expandAliases (expandAliases [("note", {})] aliases) aliases).keys =
        ["aside", "memo", "note"] := by
  decide +kernel

/-- Two kinds share an alias, one alias is a kind already, and one is listed under no kind. -/
def sharedEntries : Entries :=
  [("note", { title := some "Note" }), ("tip", { title := some "Tip" }), ("warning", {})]

def sharedAliases : Aliases :=
  [("ghost", ["phantom"]), ("note", ["memo"]), ("tip", ["advice", "memo", "warning"])]

theorem expandAliases_eq_iff_withAliases_shared :
    sharedEntries.Sorted ∧ Table.Sorted sharedAliases ∧
      (∀ kind names, (kind, names) ∈ sharedAliases → ∀ name ∈ names,
        name ∉ sharedAliases.keys) ∧
      (∀ t', expandAliases sharedEntries sharedAliases = t' ↔
        WithAliases sharedEntries sharedAliases t') ∧
      expandAliases (expandAliases sharedEntries sharedAliases) sharedAliases =
        expandAliases sharedEntries sharedAliases := by
  have ht : sharedEntries.Sorted := by
    rw [Table.Sorted]
    decide +kernel
  have ha : Table.Sorted sharedAliases := by
    rw [Table.Sorted]
    decide +kernel
  have hkinds : ∀ kind names, (kind, names) ∈ sharedAliases → ∀ name ∈ names,
      name ∉ sharedAliases.keys := by
    intro kind names hm
    have hall : ∀ x ∈ sharedAliases, ∀ name ∈ x.2, name ∉ sharedAliases.keys := by
      decide +kernel
    exact hall (kind, names) hm
  obtain ⟨hunique, hagain⟩ := expandAliases_eq_iff_withAliases ht ha
  exact ⟨ht, ha, hkinds, hunique, hagain hkinds⟩

end Folio.Callout
