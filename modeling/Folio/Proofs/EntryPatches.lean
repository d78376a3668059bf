import Folio.Proofs.CalloutAliases

/-! The entries of a resolved configuration, field by field. Several keys of the options may name
one kind, each patches what the ones before it left, and a field ends as the last of them sets it. -/

namespace Folio.Callout

/-- What a field of the entry for `kind` is after the patches: as set by the last key for the kind
that sets it, else as in the entry below them, else absent. -/
inductive PatchedField {α : Type} (base patches : Entries) (kind : String)
    (field : Entry → Option α) : Option α → Prop
  | patched {key : String} {patch : Entry} {value : α} (hm : (key, patch) ∈ patches)
      (hk : lowerCase key = kind) (hv : field patch = some value)
      (hlast : ∀ key' patch', (key', patch') ∈ patches → lowerCase key' = kind →
        field patch' ≠ none → key' ≤ key) :
      PatchedField base patches kind field (some value)
  | kept {entry : Entry} (hm : (kind, entry) ∈ base)
      (hno : ∀ key patch, (key, patch) ∈ patches → lowerCase key = kind → field patch = none) :
      PatchedField base patches kind field (field entry)
  | absent (hm : kind ∉ base.keys)
      (hno : ∀ key patch, (key, patch) ∈ patches → lowerCase key = kind → field patch = none) :
      PatchedField base patches kind field none

/-- A field of a patched entry depends on that field alone, and the patch comes first. -/
def Fieldwise {α : Type} (field : Entry → Option α) : Prop :=
  ∀ e patch, field (e.patched patch) = (field patch).or (field e)

theorem fieldwise_title : Fieldwise Entry.title :=
  fun _ _ => Option.orElse_eq_or

theorem fieldwise_indicator : Fieldwise Entry.indicator :=
  fun _ _ => Option.orElse_eq_or

theorem fieldwise_color : Fieldwise Entry.color :=
  fun _ _ => Option.orElse_eq_or

def applyPatch (t : Entries) (x : String × Entry) : Entries :=
  patchEntry t (lowerCase x.1) x.2

theorem resolvedEntries_eq (o : Options) :
    o.resolvedEntries = o.entries.foldl applyPatch (o.theme.getD default).entries :=
  rfl

section Field

variable {α : Type} {field : Entry → Option α}

theorem field_applyPatch (hf : Fieldwise field) (t : Entries) (x : String × Entry) (kind : String) :
    ((applyPatch t x).find? kind).bind field =
      if lowerCase x.1 = kind then (field x.2).or ((t.find? kind).bind field)
      else (t.find? kind).bind field := by
  have hfind : (applyPatch t x).find? kind = if kind = lowerCase x.1 then
      some (((t.find? (lowerCase x.1)).map fun e => e.patched x.2).getD x.2)
      else t.find? kind := by
    rw [applyPatch, patchEntry]
    split
    · rename_i e he
      rw [Table.find?_insert, he]
      rfl
    · rename_i hno
      rw [Table.find?_insert, hno]
      rfl
  rw [hfind]
  by_cases hk : lowerCase x.1 = kind
  · subst hk
    rw [if_pos rfl, if_pos rfl]
    cases t.find? (lowerCase x.1) with
    | none => exact Option.or_none.symm
    | some e => exact hf e x.2
  · rw [if_neg hk, if_neg (Ne.symm hk)]

theorem PatchedField.concat_of_none {base patches : Entries} {kind : String} {value : Option α}
    (h : PatchedField base patches kind field value) {x : String × Entry}
    (hx : lowerCase x.1 = kind → field x.2 = none) :
    PatchedField base (patches ++ [x]) kind field value := by
  have hnew : ∀ key patch, (key, patch) ∈ patches ++ [x] → lowerCase key = kind →
      field patch ≠ none → (key, patch) ∈ patches := by
    intro key patch hm hk hv
    rcases List.mem_append.mp hm with hm | hm
    · exact hm
    · obtain rfl := List.mem_singleton.mp hm
      exact absurd (hx hk) hv
  cases h with
  | patched hm hk hv hlast =>
    exact .patched (List.mem_append_left _ hm) hk hv fun key' patch' hm' hk' hv' =>
      hlast key' patch' (hnew key' patch' hm' hk' hv') hk' hv'
  | kept hm hno =>
    refine .kept hm fun key patch hm' hk => ?_
    by_contra hv
    exact hv (hno key patch (hnew key patch hm' hk hv) hk)
  | absent hm hno =>
    refine .absent hm fun key patch hm' hk => ?_
    by_contra hv
    exact hv (hno key patch (hnew key patch hm' hk hv) hk)

/-- The patches come in the order of their keys, so the last one so far has the greatest key. -/
theorem patchedField_foldl_applyPatch (hf : Fieldwise field) (base : Entries) {patches : Entries}
    (hs : patches.Sorted) (kind : String) :
    PatchedField base patches kind field
      ((Table.find? (patches.foldl applyPatch base) kind).bind field) := by
  induction patches using List.reverseRecOn with
  | nil =>
    rw [List.foldl_nil]
    cases hfind : base.find? kind with
    | none =>
      refine .absent (fun hm => ?_) nofun
      have hc := Table.contains_iff_mem_keys.mpr hm
      rw [Table.contains_eq_isSome_find?, hfind] at hc
      cases hc
    | some e => exact .kept (Table.mem_of_find? hfind) nofun
  | append_singleton patches x ih =>
    rw [Table.Sorted, Table.keys, List.map_append, List.pairwise_append] at hs
    obtain ⟨hs, -, hlt⟩ := hs
    have hbefore := ih hs
    rw [List.foldl_concat, field_applyPatch hf]
    split
    · rename_i hk
      cases hv : field x.2 with
      | none =>
        rw [Option.none_or]
        exact hbefore.concat_of_none fun _ => hv
      | some value =>
        rw [Option.some_or]
        refine .patched (List.mem_append_right patches (List.mem_singleton_self x)) hk hv ?_
        intro key' patch' hm' _ _
        rcases List.mem_append.mp hm' with hm' | hm'
        · exact le_of_lt (hlt key' (List.mem_map_of_mem hm') x.1 List.mem_cons_self)
        · obtain rfl := List.mem_singleton.mp hm'
          exact le_refl _
    · rename_i hk
      exact hbefore.concat_of_none fun h => absurd h hk

end Field

theorem sorted_entries (theme : Theme) : theme.entries.Sorted := by
  cases theme with
  | github => exact Table.sorted_ofEntries _
  | obsidian => exact Table.sorted_ofEntries _
  | vitepress => exact Table.sorted_ofEntries _

theorem sorted_resolvedEntries (o : Options) : o.resolvedEntries.Sorted := by
  rw [resolvedEntries_eq]
  refine List.foldlRecOn (motive := Table.Sorted) _ _ (sorted_entries _) fun t h x _ => ?_
  rw [applyPatch, patchEntry]
  split
  · exact h.insert _ _
  · exact h.insert _ _

/-- The options patch the theme. The kinds are those of the theme and, in lower case, those of the
options, each once; every field of an entry is as the options set it last, or as in the theme. -/
theorem resolve_patches (o : Options) (h : o.entries.Sorted) :
    o.resolve.entries.Sorted ∧
      (∀ kind, kind ∈ o.resolve.entries.keys ↔ kind ∈ (o.theme.getD default).entries.keys ∨
        ∃ key ∈ o.entries.keys, lowerCase key = kind) ∧
      ∀ kind entry, (kind, entry) ∈ o.resolve.entries →
        PatchedField (o.theme.getD default).entries o.entries kind Entry.title entry.title ∧
        PatchedField (o.theme.getD default).entries o.entries kind Entry.indicator
          entry.indicator ∧
        PatchedField (o.theme.getD default).entries o.entries kind Entry.color entry.color := by
  have hsorted : o.resolve.entries.Sorted := sorted_resolvedEntries o
  refine ⟨hsorted, fun kind => ?_, fun kind entry hm => ?_⟩
  · rw [← Table.contains_iff_mem_keys, ← Table.contains_iff_mem_keys]
    exact contains_foldl_patchEntry
  · have hfind : o.resolvedEntries.find? kind = some entry := hsorted.find?_of_mem hm
    rw [resolvedEntries_eq] at hfind
    have hfield : ∀ {α : Type} {field : Entry → Option α}, Fieldwise field →
        PatchedField (o.theme.getD default).entries o.entries kind field (field entry) := by
      intro α field hf
      have hpatched := patchedField_foldl_applyPatch hf (o.theme.getD default).entries h kind
      rwa [hfind] at hpatched
    exact ⟨hfield fieldwise_title, hfield fieldwise_indicator, hfield fieldwise_color⟩

/-- Two keys for one kind of the theme, and a kind that the theme does not have. -/
def noteTwice : Options :=
  { entries := [("NOTE", ⟨some "Heads up", some "!", none⟩), ("Note", ⟨some "Remark", none, none⟩),
      ("rumor", ⟨none, none, some (.single "gray")⟩)] }

theorem resolve_patches_noteTwice :
    noteTwice.entries.Sorted ∧ noteTwice.resolve.entries.Sorted ∧
      (∀ kind, kind ∈ noteTwice.resolve.entries.keys ↔
        kind ∈ (noteTwice.theme.getD default).entries.keys ∨
          ∃ key ∈ noteTwice.entries.keys, lowerCase key = kind) ∧
      ∀ kind entry, (kind, entry) ∈ noteTwice.resolve.entries →
        PatchedField (noteTwice.theme.getD default).entries noteTwice.entries kind Entry.title
          entry.title ∧
        PatchedField (noteTwice.theme.getD default).entries noteTwice.entries kind Entry.indicator
          entry.indicator ∧
        PatchedField (noteTwice.theme.getD default).entries noteTwice.entries kind Entry.color
          entry.color := by
  have hs : noteTwice.entries.Sorted := by
    rw [Table.Sorted]
    decide +kernel
  exact ⟨hs, resolve_patches noteTwice hs⟩

end Folio.Callout
