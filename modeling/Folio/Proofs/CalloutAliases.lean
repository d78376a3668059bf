import Mathlib.Data.List.Find
import Folio.Callout.Options
import Folio.Proofs.Tables

/-! Aliases of callouts. The check of the options refuses exactly what their resolution drops, the
names that are kinds themselves. A name that is kept under several kinds stands for the first. -/

namespace Folio.Callout

/-- Each listed name with its kind, by kind and then as listed. -/
def Aliases.pairs (aliases : Aliases) : List (String × String) :=
  aliases.flatMap fun (kind, names) => names.map fun name => (kind, name)

def Aliases.lists (aliases : Aliases) (kind name : String) : Bool :=
  ((Table.find? aliases kind).getD []).contains name

theorem mem_pairs {aliases : Aliases} {p : String × String} :
    p ∈ aliases.pairs ↔ ∃ names, (p.1, names) ∈ aliases ∧ p.2 ∈ names := by
  obtain ⟨kind, name⟩ := p
  simp [Aliases.pairs]

theorem lists_iff_mem_pairs {aliases : Aliases} (h : Table.Sorted aliases) {kind name : String} :
    aliases.lists kind name = true ↔ (kind, name) ∈ aliases.pairs := by
  rw [Aliases.lists, List.contains_iff_mem, mem_pairs]
  constructor
  · intro hl
    cases hf : Table.find? aliases kind with
    | none => simp [hf] at hl
    | some names => exact ⟨names, Table.mem_of_find? hf, by simpa [hf] using hl⟩
  · rintro ⟨names, hm, hn⟩
    rw [h.find?_of_mem hm]
    exact hn

theorem pairs_pairwise_le {aliases : Aliases} (h : Table.Sorted aliases) :
    aliases.pairs.Pairwise (·.1 ≤ ·.1) := by
  refine List.pairwise_flatMap.mpr ⟨fun x _ => ?_, ?_⟩
  · exact List.pairwise_map.mpr (List.pairwise_of_forall fun _ _ => le_refl x.1)
  · refine (List.pairwise_map.mp h).imp fun {x y} hlt p hp q hq => ?_
    obtain ⟨_, -, rfl⟩ := List.mem_map.mp hp
    obtain ⟨_, -, rfl⟩ := List.mem_map.mp hq
    exact le_of_lt hlt

theorem fst_le_of_find?_pairs {aliases : Aliases} (h : Table.Sorted aliases)
    {found : String × String → Bool} {p q : String × String}
    (hf : aliases.pairs.find? found = some p) (hq : q ∈ aliases.pairs) (hfq : found q = true) :
    p.1 ≤ q.1 := by
  obtain ⟨-, before, after, hsplit, hbefore⟩ := List.find?_eq_some_iff_append.mp hf
  have hle := pairs_pairwise_le h
  rw [hsplit] at hq hle
  rcases List.mem_append.mp hq with hq | hq
  · have hno := hbefore q hq
    rw [hfq] at hno
    cases hno
  · rcases List.mem_cons.mp hq with rfl | hq
    · exact le_refl _
    · exact (List.pairwise_cons.mp (List.pairwise_append.mp hle).2.1).1 q hq

/-! ### Which kinds there are -/

theorem contains_patchEntry {t : Entries} {kind k : String} {patch : Entry} :
    (patchEntry t kind patch).contains k = true ↔ k = kind ∨ t.contains k = true := by
  rw [patchEntry]
  split <;> exact Table.contains_insert

theorem contains_foldl_patchEntry {t patches : Entries} {k : String} :
    Table.contains
        (patches.foldl (fun t (kind, patch) => patchEntry t (lowerCase kind) patch) t) k = true ↔
      t.contains k = true ∨ ∃ kind ∈ patches.keys, lowerCase kind = k := by
  induction patches generalizing t with
  | nil => simp [Table.keys]
  | cons x patches ih =>
    have hh := ih (t := patchEntry t (lowerCase x.1) x.2)
    rw [contains_patchEntry, or_comm (a := k = _), or_assoc, eq_comm (a := k)] at hh
    simpa only [List.foldl_cons, Table.keys, List.map_cons, List.mem_cons, exists_eq_or_imp]
      using hh

/-- The check collects the kinds from the keys, and the resolution merges the entries. -/
theorem contains_resolvedEntries (o : Options) (k : String) :
    o.resolvedEntries.contains k = o.knows k := by
  rw [Bool.eq_iff_iff, Options.resolvedEntries, contains_foldl_patchEntry, Options.knows,
    Bool.or_eq_true, List.any_eq_true]
  simp only [beq_iff_eq]

/-! ### Which names are kept -/

theorem lists_addAlias {t : Entries} {aliases : Aliases} {kind name k n : String} :
    (addAlias t aliases kind name).lists k n = true ↔
      aliases.lists k n = true ∨ t.contains n = false ∧ k = kind ∧ n = name := by
  rw [addAlias]
  split
  · rename_i ht
    constructor
    · exact .inl
    · rintro (h | ⟨hn, -, rfl⟩)
      · exact h
      · rw [ht] at hn
        cases hn
  · rename_i ht
    dsimp only
    split
    · rename_i hm
      constructor
      · exact .inl
      · rintro (h | ⟨-, rfl, rfl⟩)
        · exact h
        · exact hm
    · rw [Aliases.lists, Table.find?_insert]
      by_cases hk : k = kind
      · subst hk
        rw [if_pos rfl, Option.getD_some, List.contains_iff_mem, List.mem_append,
          List.mem_singleton, Aliases.lists, List.contains_iff_mem]
        refine or_congr_right ⟨?_, fun h => h.2.2⟩
        rintro rfl
        exact ⟨by simpa using ht, rfl, rfl⟩
      · rw [if_neg hk]
        simp [hk, Aliases.lists]

theorem lists_foldl_addAlias {t : Entries} {pairs : List (String × String)} {aliases : Aliases}
    {k n : String} :
    Aliases.lists (pairs.foldl
        (fun aliases p => addAlias t aliases (lowerCase p.1) (lowerCase p.2)) aliases) k n = true ↔
      aliases.lists k n = true ∨
        t.contains n = false ∧ ∃ p ∈ pairs, lowerCase p.1 = k ∧ lowerCase p.2 = n := by
  induction pairs generalizing aliases with
  | nil => simp
  | cons p pairs ih =>
    rw [List.foldl_cons, ih, lists_addAlias, or_assoc, ← and_or_left]
    simp only [List.mem_cons, exists_eq_or_imp, eq_comm (a := k), eq_comm (a := n)]

theorem resolvedAliases_eq (o : Options) :
    o.resolvedAliases = o.aliases.pairs.foldl (fun aliases p =>
      addAlias o.resolvedEntries aliases (lowerCase p.1) (lowerCase p.2)) [] := by
  rw [Options.resolvedAliases, Aliases.pairs, List.foldl_flatMap]
  simp only [List.foldl_map]

theorem lists_resolve {o : Options} {k n : String} :
    o.resolve.aliases.lists k n = true ↔
      o.knows n = false ∧ ∃ p ∈ o.aliases.pairs, lowerCase p.1 = k ∧ lowerCase p.2 = n := by
  rw [show o.resolve.aliases = o.resolvedAliases from rfl, resolvedAliases_eq, lists_foldl_addAlias,
    contains_resolvedEntries]
  simp [Aliases.lists, Table.find?_nil]

theorem lists_of_mem_pairs {o : Options} {p : String × String} (h : p ∈ o.aliases.pairs) :
    o.resolve.aliases.lists (lowerCase p.1) (lowerCase p.2) = !o.knows (lowerCase p.2) := by
  rw [Bool.eq_iff_iff, lists_resolve, Bool.not_eq_true']
  exact and_iff_left ⟨p, h, rfl, rfl⟩

theorem shadowing?_eq_find?_pairs (o : Options) :
    o.shadowing? = (o.aliases.pairs.find? fun p => o.knows (lowerCase p.2)).map fun p =>
      ⟨lowerCase p.2, lowerCase p.1⟩ := by
  rw [Options.shadowing?, Aliases.pairs, List.find?_flatMap, List.map_findSome?]
  simp only [List.find?_map, Option.map_map, Function.comp_def]

/-- The options pass the check exactly if their resolution keeps every name under its kind, and
otherwise the check reports the first pair that the resolution drops. -/
theorem shadowing?_eq_firstDropped (o : Options) :
    (o.shadowing? = none ↔ ∀ kind names, (kind, names) ∈ o.aliases → ∀ name ∈ names,
        o.resolve.aliases.lists (lowerCase kind) (lowerCase name) = true) ∧
      o.shadowing? = (o.aliases.pairs.find? fun p =>
        !o.resolve.aliases.lists (lowerCase p.1) (lowerCase p.2)).map fun p =>
          ⟨lowerCase p.2, lowerCase p.1⟩ := by
  constructor
  · rw [shadowing?_eq_find?_pairs, Option.map_eq_none_iff, List.find?_eq_none]
    constructor
    · intro h kind names hm name hn
      have hp : (kind, name) ∈ o.aliases.pairs := mem_pairs.mpr ⟨names, hm, hn⟩
      rw [lists_of_mem_pairs hp, Bool.not_eq_true']
      exact Bool.eq_false_iff.mpr (h _ hp)
    · intro h p hp
      obtain ⟨names, hm, hn⟩ := mem_pairs.mp hp
      have hl := h p.1 names hm p.2 hn
      rw [lists_of_mem_pairs hp] at hl
      simpa using hl
  · rw [shadowing?_eq_find?_pairs]
    congr 1
    refine List.find?_congr fun p hp => ?_
    rw [lists_of_mem_pairs hp, Bool.not_not]

/-! ### What a name stands for -/

/-- Notes the kind of a listed name, unless the name is a kind or has one already. -/
def addTarget (t : Entries) (targets : Table String) (p : String × String) : Table String :=
  if t.contains p.1 then
    if t.contains p.2 || targets.contains p.2 then targets else targets.insert p.2 p.1
  else targets

theorem aliasTargets_eq (t : Entries) (aliases : Aliases) :
    aliasTargets t aliases = aliases.pairs.foldl (addTarget t) [] := by
  rw [aliasTargets, Aliases.pairs, List.foldl_flatMap]
  congr
  funext targets x
  simp only [List.foldl_map, addTarget]
  split
  · rfl
  · exact (List.foldl_fixed x.2).symm

/-- Whether a pair gives a name that is not a kind a kind to stand for. -/
def givesTarget (t : Entries) (name : String) (p : String × String) : Bool :=
  p.2 == name && t.contains p.1 && !t.contains name

theorem givesTarget_iff {t : Entries} {name : String} {p : String × String} :
    givesTarget t name p = true ↔
      p.2 = name ∧ t.contains p.1 = true ∧ t.contains name = false := by
  simp [givesTarget, and_assoc]

theorem find?_addTarget (t : Entries) (targets : Table String) (p : String × String)
    (name : String) :
    (addTarget t targets p).find? name =
      (targets.find? name).or (if givesTarget t name p then some p.1 else none) := by
  obtain ⟨kind, n⟩ := p
  rw [addTarget, Table.contains_eq_isSome_find? targets]
  by_cases hn : n = name
  · subst hn
    cases ht : t.contains n with
    | true => simp [givesTarget, ht]
    | false =>
      cases hk : t.contains kind with
      | false => simp [givesTarget, ht, hk]
      | true => cases hf : targets.find? n <;> simp [givesTarget, ht, hk, hf, Table.find?_insert]
  · have hno : givesTarget t name (kind, n) = false := by simp [givesTarget, hn]
    rw [hno, if_neg Bool.false_ne_true, Option.or_none]
    split_ifs
    · rfl
    · rw [Table.find?_insert, if_neg (Ne.symm hn)]
    · rfl

theorem find?_foldl_addTarget (t : Entries) (pairs : List (String × String))
    (targets : Table String) (name : String) :
    Table.find? (pairs.foldl (addTarget t) targets) name =
      (targets.find? name).or ((pairs.find? (givesTarget t name)).map (·.1)) := by
  induction pairs generalizing targets with
  | nil => simp
  | cons p pairs ih =>
    rw [List.foldl_cons, ih, find?_addTarget, Option.or_assoc, List.find?_cons]
    cases givesTarget t name p <;> simp

theorem find?_aliasTargets (t : Entries) (aliases : Aliases) (name : String) :
    (aliasTargets t aliases).find? name = (aliases.pairs.find? (givesTarget t name)).map (·.1) := by
  rw [aliasTargets_eq, find?_foldl_addTarget, Table.find?_nil, Option.none_or]

theorem sorted_aliasTargets (t : Entries) (aliases : Aliases) :
    (aliasTargets t aliases).Sorted := by
  rw [aliasTargets_eq]
  refine List.foldlRecOn (motive := Table.Sorted) _ _ List.Pairwise.nil fun targets h p _ => ?_
  rw [addTarget]
  split_ifs
  · exact h
  · exact h.insert _ _
  · exact h

def addEntry (t expanded : Entries) (x : String × String) : Entries :=
  match t.find? x.2 with
  | some e => expanded.insert x.1 e
  | none => expanded

theorem find?_addEntry (t expanded : Entries) (x : String × String) (name : String) :
    (addEntry t expanded x).find? name =
      (if name = x.1 then t.find? x.2 else none).or (expanded.find? name) := by
  rw [addEntry]
  split
  · rename_i e he
    rw [Table.find?_insert, he]
    split <;> rfl
  · rename_i he
    rw [he, ite_self, Option.none_or]

theorem find?_foldl_addEntry (t : Entries) {targets : Table String} (h : targets.keys.Nodup)
    (expanded : Entries) (name : String) :
    Table.find? (targets.foldl (addEntry t) expanded) name =
      ((targets.find? name).bind t.find?).or (expanded.find? name) := by
  induction targets generalizing expanded with
  | nil => rfl
  | cons x targets ih =>
    obtain ⟨n, kind⟩ := x
    obtain ⟨hn, hr⟩ := List.nodup_cons.mp h
    -- The names are distinct, so no later insertion hides the one for this name.
    rw [List.foldl_cons, ih hr, Table.find?_cons, find?_addEntry]
    by_cases hname : name = n
    · subst hname
      rw [if_pos rfl, if_pos rfl, Table.find?_eq_none hn]
      rfl
    · rw [if_neg hname, if_neg hname, Option.none_or]

/-- A name that an alias adds has the entry of its kind, and any other name keeps its own. -/
theorem find?_expandAliases (t : Entries) (aliases : Aliases) (name : String) :
    (expandAliases t aliases).find? name =
      (((aliases.pairs.find? (givesTarget t name)).map (·.1)).bind t.find?).or (t.find? name) := by
  have hnodup : (aliasTargets t aliases).keys.Nodup :=
    (sorted_aliasTargets t aliases).imp fun hlt => ne_of_lt hlt
  rw [show expandAliases t aliases = (aliasTargets t aliases).foldl (addEntry t) t from rfl,
    find?_foldl_addEntry t hnodup, find?_aliasTargets]

theorem sorted_addAlias {aliases : Aliases} (h : Table.Sorted aliases) (t : Entries)
    (kind name : String) : Table.Sorted (addAlias t aliases kind name) := by
  rw [addAlias]
  split
  · exact h
  · dsimp only
    split
    · exact h
    · exact h.insert _ _

theorem sorted_resolvedAliases (o : Options) : Table.Sorted o.resolve.aliases := by
  rw [show o.resolve.aliases = o.resolvedAliases from rfl, resolvedAliases_eq]
  exact List.foldlRecOn (motive := Table.Sorted) _ _ List.Pairwise.nil fun _ h p _ =>
    sorted_addAlias h _ _ _

/-- A name that is kept under some kind stands for the first kind it is kept under, and has the
entry of that kind. -/
theorem allEntries_of_lists (o : Options) {kind name : String}
    (hk : o.resolve.entries.contains kind = true)
    (hl : o.resolve.aliases.lists kind name = true) :
    ∃ first ≤ kind, o.resolve.entries.contains first = true ∧
      o.resolve.aliases.lists first name = true ∧
      (∀ k < first, o.resolve.entries.contains k = true →
        o.resolve.aliases.lists k name = false) ∧
      (aliasTargets o.resolve.entries o.resolve.aliases).find? name = some first ∧
      o.resolve.allEntries.find? name = o.resolve.entries.find? first := by
  have hsorted := sorted_resolvedAliases o
  have hnew : o.resolve.entries.contains name = false := by
    rw [show o.resolve.entries = o.resolvedEntries from rfl, contains_resolvedEntries]
    exact (lists_resolve.mp hl).1
  have hgives : ∀ k, o.resolve.entries.contains k = true →
      givesTarget o.resolve.entries name (k, name) = true :=
    fun k hc => givesTarget_iff.mpr ⟨rfl, hc, hnew⟩
  have hfound : (o.resolve.aliases.pairs.find? (givesTarget o.resolve.entries name)).isSome :=
    List.find?_isSome.mpr ⟨_, (lists_iff_mem_pairs hsorted).mp hl, hgives kind hk⟩
  obtain ⟨⟨first, n⟩, hf⟩ := Option.isSome_iff_exists.mp hfound
  obtain ⟨rfl, hfirst, -⟩ := givesTarget_iff.mp (List.find?_some hf)
  have hleast : ∀ k, o.resolve.entries.contains k = true →
      o.resolve.aliases.lists k n = true → first ≤ k := by
    intro k hc hkl
    exact fst_le_of_find?_pairs hsorted hf ((lists_iff_mem_pairs hsorted).mp hkl) (hgives k hc)
  refine ⟨first, hleast kind hk hl, hfirst, ?_, ?_, ?_, ?_⟩
  · exact (lists_iff_mem_pairs hsorted).mpr (List.mem_of_find?_eq_some hf)
  · intro k hlt hc
    exact Bool.eq_false_iff.mpr fun hkl => not_le_of_gt hlt (hleast k hc hkl)
  · rw [find?_aliasTargets, hf]
    rfl
  · obtain ⟨e, he⟩ := Option.isSome_iff_exists.mp
      ((Table.contains_eq_isSome_find? _ _).symm.trans hfirst)
    rw [Config.allEntries, find?_expandAliases, hf, Option.map_some, Option.bind_some, he,
      Option.some_or]

/-- One name for two kinds, in different case. -/
def memoTwice : Options :=
  { aliases := [("note", ["memo"]), ("tip", ["Memo", "advice"])] }

theorem allEntries_of_lists_memoTwice :
    memoTwice.resolve.entries.contains "tip" = true ∧
      memoTwice.resolve.aliases.lists "tip" "memo" = true ∧
      ∃ first ≤ "tip", memoTwice.resolve.entries.contains first = true ∧
        memoTwice.resolve.aliases.lists first "memo" = true ∧
        (∀ k < first, memoTwice.resolve.entries.contains k = true →
          memoTwice.resolve.aliases.lists k "memo" = false) ∧
        (aliasTargets memoTwice.resolve.entries memoTwice.resolve.aliases).find? "memo" =
          some first ∧
        memoTwice.resolve.allEntries.find? "memo" = memoTwice.resolve.entries.find? first := by
  have hk : memoTwice.resolve.entries.contains "tip" = true := by decide +kernel
  have hl : memoTwice.resolve.aliases.lists "tip" "memo" = true := by decide +kernel
  exact ⟨hk, hl, allEntries_of_lists memoTwice hk hl⟩

/-- These options pass the check, and yet the name has the entry of one of its kinds only. -/
theorem allEntries_memo_ne_tip :
    memoTwice.shadowing? = none ∧ memoTwice.resolve.entries.contains "tip" = true ∧
      memoTwice.resolve.aliases.lists "tip" "memo" = true ∧
      memoTwice.resolve.allEntries.find? "memo" = memoTwice.resolve.entries.find? "note" ∧
      memoTwice.resolve.allEntries.find? "memo" ≠ memoTwice.resolve.entries.find? "tip" := by
  decide +kernel

end Folio.Callout
