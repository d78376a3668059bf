import Mathlib.Data.List.DropRight
import Mathlib.Data.List.Forall2
import Folio.Frontmatter
import Folio.Proofs.Runs
import Folio.Proofs.Search

/-! The block of front matter in a document. What is read is the shortest block that there is.
Though its text is looked for anew to be replaced, it is first met at the place where it was read. -/

namespace Folio.Frontmatter

/-- What may stand in front of a block. -/
def IsLead (before : List Char) : Prop :=
  before = [] ∨ before = ['\ufeff'] ∨
    (∀ c ∈ before, Text.isBlank c = true) ∧ before.getLast? = some '\n'

/-- A document taken apart at two fences. -/
structure IsCut (code : List Char) (p : Parts) : Prop where
  text : code = p.before ++ (fence ++ (p.inner ++ (fence ++ p.after)))
  lead : IsLead p.before
  newline : p.inner.getLast? = some '\n'

/-- The cut with the shortest text between the fences. -/
structure IsBlock (code : List Char) (p : Parts) : Prop extends IsCut code p where
  shortest : ∀ q, IsCut code q → p.inner.length ≤ q.inner.length

variable {code s t before inner after : List Char} {p q : Parts}

theorem IsLead.hyphen_notMem (h : IsLead before) : '-' ∉ before := by
  intro hm
  rcases h with rfl | rfl | ⟨hblank, -⟩
  · cases hm
  · exact absurd hm (by decide)
  · exact absurd (hblank '-' hm) (by decide)

theorem eq_of_lead_append (hp : IsLead before) (hq : IsLead inner)
    (h : before ++ (fence ++ s) = inner ++ (fence ++ t)) : before = inner ∧ s = t := by
  obtain ⟨rfl, hst⟩ := append_inj_of_stops (decide_ne_of_notMem hp.hyphen_notMem)
    (by simp [fence]) (decide_ne_of_notMem hq.hyphen_notMem) (by simp [fence]) h
  exact ⟨rfl, List.append_cancel_left hst⟩

theorem IsBlock.unique (hp : IsBlock code p) (hq : IsBlock code q) : p = q := by
  obtain ⟨hbefore, hrest⟩ := eq_of_lead_append hp.lead hq.lead (hp.text.symm.trans hq.text)
  have hlength := Nat.le_antisymm (hp.shortest q hq.toIsCut) (hq.shortest p hp.toIsCut)
  obtain ⟨hinner, hafter⟩ := List.append_inj hrest hlength
  cases p
  cases q
  simp_all

/-! ### Finding the block -/

theorem inner?_eq_some (h : inner? s = some (inner, after)) :
    s = inner ++ (fence ++ after) ∧ inner.getLast? = some '\n' := by
  induction s generalizing inner with
  | nil => cases h
  | cons c s ih =>
    rw [inner?] at h
    split at h
    · rename_i hc
      obtain ⟨rfl, rfl⟩ := Prod.mk.inj (Option.some.inj h)
      obtain ⟨t, rfl⟩ := List.isPrefixOf_iff_prefix.mp hc.2
      simp [hc.1, fence]
    · obtain ⟨⟨a, b⟩, hs, he⟩ := Option.map_eq_some_iff.mp h
      obtain ⟨rfl, rfl⟩ := Prod.mk.inj he
      obtain ⟨rfl, hlast⟩ := ih hs
      refine ⟨rfl, ?_⟩
      rw [List.getLast?_cons, hlast]
      rfl

theorem exists_inner?_eq_some (after : List Char) (hlast : inner.getLast? = some '\n') :
    ∃ a b, inner? (inner ++ (fence ++ after)) = some (a, b) ∧ a.length ≤ inner.length := by
  induction inner with
  | nil => cases hlast
  | cons c inner ih =>
    rw [List.cons_append, inner?]
    split
    · exact ⟨[c], _, rfl, by simp⟩
    · rename_i hc
      have hne : inner ≠ [] := by
        rintro rfl
        exact hc ⟨by simpa using hlast, by simp [fence]⟩
      rw [List.getLast?_cons_of_ne_nil hne] at hlast
      obtain ⟨a, b, hs, hlength⟩ := ih hlast
      exact ⟨c :: a, b, by rw [hs]; rfl, Nat.succ_le_succ hlength⟩

theorem partsAfter?_fence (before s : List Char) :
    partsAfter? before (fence ++ s) =
      (inner? s).map fun (inner, after) => ⟨before, inner, after⟩ := by
  simp only [partsAfter?, dropPrefix?_append, Option.bind_eq_bind, Option.bind_some]
  cases inner? s <;> rfl

theorem exists_of_partsAfter? (h : partsAfter? before s = some p) :
    ∃ t, s = fence ++ t ∧ p.before = before ∧ inner? t = some (p.inner, p.after) := by
  cases ht : Text.dropPrefix? fence s with
  | none => simp [partsAfter?, ht] at h
  | some t =>
    obtain rfl := eq_append_of_dropPrefix? ht
    rw [partsAfter?_fence] at h
    obtain ⟨⟨inner, after⟩, hi, rfl⟩ := Option.map_eq_some_iff.mp h
    exact ⟨t, rfl, rfl, hi⟩

theorem exists_of_partsAfterBlanks? {n : Nat} (h : partsAfterBlanks? code n = some p) :
    ∃ m < n, code[m]? = some '\n' ∧
      partsAfter? (code.take (m + 1)) (code.drop (m + 1)) = some p := by
  induction n with
  | zero => cases h
  | succ n ih =>
    have hearlier (hn : partsAfterBlanks? code n = some p) : ∃ m < n + 1, code[m]? = some '\n' ∧
        partsAfter? (code.take (m + 1)) (code.drop (m + 1)) = some p := by
      obtain ⟨m, hm, hp⟩ := ih hn
      exact ⟨m, Nat.lt_succ_of_lt hm, hp⟩
    rw [partsAfterBlanks?] at h
    split at h
    · rename_i hnewline
      rcases Option.or_eq_some_iff.mp h with h | ⟨-, h⟩
      · exact ⟨n, n.lt_succ_self, hnewline, h⟩
      · exact hearlier h
    · exact hearlier h

theorem isLead_take {m : Nat} (hm : m < (code.takeWhile Text.isBlank).length)
    (hnewline : code[m]? = some '\n') : IsLead (code.take (m + 1)) := by
  refine .inr (.inr ⟨fun c hc => ?_, ?_⟩)
  · have htake : code.take (m + 1) <+: code.takeWhile Text.isBlank :=
      List.prefix_of_prefix_length_le (List.take_prefix _ _) (List.takeWhile_prefix _)
        ((List.length_take_le _ _).trans hm)
    exact List.mem_takeWhile_imp (htake.subset hc)
  · rw [List.getLast?_take]
    simp [hnewline]

theorem exists_of_parts? (h : parts? code = some p) :
    IsLead p.before ∧ ∃ t, code = p.before ++ (fence ++ t) ∧
      inner? t = some (p.inner, p.after) := by
  rcases Option.or_eq_some_iff.mp h with h | ⟨-, h⟩
  · split at h
    · obtain ⟨t, rfl, hbefore, hi⟩ := exists_of_partsAfter? h
      exact ⟨by rw [hbefore]; exact .inr (.inl rfl), t, by rw [hbefore]; rfl, hi⟩
    · obtain ⟨t, rfl, hbefore, hi⟩ := exists_of_partsAfter? h
      exact ⟨by rw [hbefore]; exact .inl rfl, t, by rw [hbefore]; rfl, hi⟩
  · obtain ⟨m, hm, hnewline, h⟩ := exists_of_partsAfterBlanks? h
    obtain ⟨t, ht, hbefore, hi⟩ := exists_of_partsAfter? h
    refine ⟨?_, t, ?_, hi⟩
    · rw [hbefore]
      exact isLead_take hm hnewline
    · rw [hbefore, ← ht, List.take_append_drop]

theorem isSome_parts?_of_isCut (h : IsCut code p) : (parts? code).isSome = true := by
  obtain ⟨a, b, hi, -⟩ := exists_inner?_eq_some p.after h.newline
  have hafter : ∀ before, (partsAfter? before
      (fence ++ (p.inner ++ (fence ++ p.after)))).isSome = true := fun before => by
    rw [partsAfter?_fence, hi]
    rfl
  unfold parts?
  rw [h.text, Option.isSome_or, Bool.or_eq_true]
  rcases h.lead with hlead | hlead | ⟨hblank, hnewline⟩
  · rw [hlead]
    exact .inl (hafter [])
  · rw [hlead]
    exact .inl (hafter ['\ufeff'])
  · -- The blanks in front end where the fence begins, so the search starts at their last newline.
    right
    have hspan := (span_append hblank (b := fence ++ (p.inner ++ (fence ++ p.after)))
      (by simp [fence, Text.isBlank])).1
    obtain ⟨init, hinit⟩ := List.getLast?_eq_some_iff.mp hnewline
    have hlength : p.before.length = init.length + 1 := by simp [hinit]
    rw [hspan, hlength, partsAfterBlanks?, if_pos (by simp [hinit]), Option.isSome_or,
      Bool.or_eq_true, ← hlength, List.take_left, List.drop_left]
    exact .inl (hafter p.before)

theorem isBlock_of_parts? (h : parts? code = some p) : IsBlock code p := by
  obtain ⟨hlead, t, htext, hi⟩ := exists_of_parts? h
  obtain ⟨ht, hnewline⟩ := inner?_eq_some hi
  refine ⟨⟨by rw [htext, ht], hlead, hnewline⟩, fun q hq => ?_⟩
  obtain ⟨-, hrest⟩ := eq_of_lead_append hlead hq.lead (htext.symm.trans hq.text)
  obtain ⟨a, b, hi', hlength⟩ := exists_inner?_eq_some q.after hq.newline
  rw [← hrest, hi] at hi'
  obtain ⟨rfl, -⟩ := Prod.mk.inj (Option.some.inj hi')
  exact hlength

theorem parts?_eq_some_iff : parts? code = some p ↔ IsBlock code p := by
  refine ⟨isBlock_of_parts?, fun h => ?_⟩
  obtain ⟨q, hq⟩ := Option.isSome_iff_exists.mp (isSome_parts?_of_isCut h.toIsCut)
  rw [hq, (isBlock_of_parts? hq).unique h]

/-! ### Reading and replacing it -/

/-- A block of blanks is fine, and so is one that is YAML. -/
def IsReadable (inner : List Char) : Prop :=
  (∀ c ∈ inner, Text.isBlank c = true) ∨ (Yaml.readJson? (.ofList inner)).isSome = true

theorem trim_eq_nil_iff : Text.trim s = [] ↔ ∀ c ∈ s, Text.isBlank c = true := by
  have hright : Text.trim s = [] ↔ ∀ c ∈ s.dropWhile Text.isBlank, Text.isBlank c = true :=
    List.rdropWhile_eq_nil_iff
  rw [hright]
  refine ⟨fun h c hc => ?_, fun h c hc => h c ((List.dropWhile_suffix _).subset hc)⟩
  rw [← List.takeWhile_append_dropWhile (p := Text.isBlank) (l := s)] at hc
  exact (List.mem_append.mp hc).elim List.mem_takeWhile_imp (h c)

theorem fields?_isSome_iff : (fields? inner).isSome = true ↔ IsReadable inner := by
  unfold fields? IsReadable
  rw [← trim_eq_nil_iff, ← List.isEmpty_iff]
  split
  · rename_i h
    simp [h]
  · rename_i h
    simp [h]

theorem parse?_of_isBlock {code : String} (h : IsBlock code.toList p) (mode : Mode) :
    parse? code mode = (fields? p.inner).map fun fields =>
      ⟨fields, .ofList p.inner,
        .ofList (p.before ++ mode.replacement p.inner ++ p.after)⟩ := by
  have hcut : Text.cut? (fence ++ p.inner ++ fence) code.toList = some (p.before, p.after) := by
    rw [h.text]
    simpa [fence] using cut?_append (p := ['-', '-'] ++ p.inner ++ fence) h.lead.hyphen_notMem
      p.after
  have hreplace : ∀ new, replaceFirst (fence ++ p.inner ++ fence) new code.toList =
      p.before ++ new ++ p.after := fun new => by
    rw [replaceFirst, hcut]
  rw [parse?, parts?_eq_some_iff.mpr h]
  simp only [hreplace]
  cases fields? p.inner <;> rfl

def isBreak (c : Char) : Bool :=
  c = '\r' ∨ c = '\n'

/-- What a mode leaves of a block. -/
def Mode.Leaves (block new : List Char) : Mode → Prop
  | .preserve => new = block
  | .remove => new = []
  | .emptyWithSpaces => new = block.map fun c => if isBreak c then c else ' '
  | .emptyWithLines => new = block.filter isBreak

theorem leaves_replacement (mode : Mode) (inner : List Char) :
    mode.Leaves (fence ++ inner ++ fence) (mode.replacement inner) := by
  cases mode with
  | preserve => rfl
  | remove => rfl
  | emptyWithSpaces => simp [Mode.Leaves, Mode.replacement, fence, isBreak]
  | emptyWithLines =>
    rw [Mode.Leaves, List.filter_append, List.filter_append,
      show fence.filter isBreak = [] by decide, List.append_nil]
    rfl

/-! ### Lines and columns -/

/-- The line of what stands behind a text. -/
def lineAfter (s : List Char) : Nat :=
  s.count '\n'

/-- The column of what stands behind a text. -/
def columnAfter (s : List Char) : Nat :=
  (s.reverse.takeWhile (· ≠ '\n')).length

/-- The texts have their newlines at the same places. -/
abbrev Aligned : List Char → List Char → Prop :=
  List.Forall₂ fun c d => c = '\n' ↔ d = '\n'

theorem Aligned.lineAfter_eq (h : Aligned s t) : lineAfter s = lineAfter t := by
  induction h with
  | nil => rfl
  | cons hc _ ih =>
    rw [lineAfter, lineAfter, List.count_cons, List.count_cons]
    exact congrArg₂ (· + ·) ih (if_congr (by simpa using hc) rfl rfl)

theorem Aligned.columnAfter_eq (h : Aligned s t) : columnAfter s = columnAfter t := by
  have hr : Aligned s.reverse t.reverse := List.rel_reverse h
  unfold columnAfter
  generalize s.reverse = s, t.reverse = t at hr ⊢
  induction hr with
  | nil => rfl
  | @cons c d _ _ hc _ ih =>
    rw [List.takeWhile_cons, List.takeWhile_cons]
    by_cases hn : c = '\n'
    · simp [hn, hc.mp hn]
    · simpa [hn, mt hc.mpr hn] using ih

theorem Aligned.refl (s : List Char) : Aligned s s :=
  List.forall₂_same.mpr fun _ _ => .rfl

theorem Aligned.append {s' t' : List Char} (h : Aligned s t) (h' : Aligned s' t') :
    Aligned (s ++ s') (t ++ t') :=
  List.rel_append h h'

theorem aligned_blanked (s : List Char) :
    Aligned (s.map fun c => if isBreak c then c else ' ') s := by
  refine List.forall₂_map_left_iff.mpr (List.forall₂_same.mpr fun c _ => ?_)
  cases hc : isBreak c with
  | true => rw [if_pos rfl]
  | false =>
    have hne : c ≠ '\n' := by
      rintro rfl
      cases hc
    simp [hne]

theorem lineAfter_filter_isBreak (s : List Char) : lineAfter (s.filter isBreak) = lineAfter s :=
  List.count_filter rfl

theorem lineAfter_append (s t : List Char) : lineAfter (s ++ t) = lineAfter s + lineAfter t :=
  List.count_append

theorem lineAfter_of_leaves {mode : Mode} (h : mode.Leaves s t) (hm : mode ≠ .remove) :
    lineAfter t = lineAfter s := by
  cases mode with
  | preserve => rw [show t = s from h]
  | remove => exact absurd rfl hm
  | emptyWithSpaces =>
    rw [show t = _ from h]
    exact (aligned_blanked s).lineAfter_eq
  | emptyWithLines =>
    rw [show t = _ from h]
    exact lineAfter_filter_isBreak s

theorem columnAfter_of_leaves {mode : Mode} (h : mode.Leaves s t)
    (hm : mode = .preserve ∨ mode = .emptyWithSpaces) (before after : List Char) :
    columnAfter (before ++ t ++ after) = columnAfter (before ++ s ++ after) := by
  rcases hm with rfl | rfl
  · rw [show t = s from h]
  · rw [show t = _ from h]
    exact (((Aligned.refl before).append (aligned_blanked s)).append (.refl after)).columnAfter_eq

/-- Exactly the block that a text has is read and replaced. Reading fails if the block is neither
blank nor YAML. Otherwise the content is the text with what the mode leaves of the block in its
place; what follows it keeps its line unless the block is removed, and its column where spaces take
the place of the block. -/
theorem parse?_replaces_block (code : String) :
    (∀ raw : String, extract? code = some raw ↔
      ∃ before after, IsBlock code.toList ⟨before, raw.toList, after⟩) ∧
    (∀ p q, IsBlock code.toList p → IsBlock code.toList q → p = q) ∧
    (∀ mode, parse? code mode = none ↔ ∃ p, IsBlock code.toList p ∧ ¬ IsReadable p.inner) ∧
    (∀ mode, (∀ p, ¬ IsBlock code.toList p) → parse? code mode = some { content := code }) ∧
    ∀ p, IsBlock code.toList p → IsReadable p.inner → ∀ mode, ∃ parsed new,
      parse? code mode = some parsed ∧ parsed.inner = .ofList p.inner ∧
      parsed.content = .ofList (p.before ++ new ++ p.after) ∧
      mode.Leaves (fence ++ p.inner ++ fence) new ∧
      ∀ i, (mode ≠ .remove → lineAfter (p.before ++ new ++ p.after.take i) =
          lineAfter (p.before ++ (fence ++ p.inner ++ fence) ++ p.after.take i)) ∧
        (mode = .preserve ∨ mode = .emptyWithSpaces →
          columnAfter (p.before ++ new ++ p.after.take i) =
            columnAfter (p.before ++ (fence ++ p.inner ++ fence) ++ p.after.take i)) := by
  refine ⟨fun raw => ?_, fun p q => IsBlock.unique, fun mode => ?_, fun mode hno => ?_, ?_⟩
  · rw [extract?, Option.map_eq_some_iff]
    constructor
    · rintro ⟨p, hp, rfl⟩
      exact ⟨p.before, p.after, by simpa using parts?_eq_some_iff.mp hp⟩
    · rintro ⟨before, after, hp⟩
      exact ⟨_, parts?_eq_some_iff.mpr hp, String.ofList_toList⟩
  · cases hp : parts? code.toList with
    | none =>
      have hno : ∀ p, ¬ IsBlock code.toList p := fun p h => by
        rw [parts?_eq_some_iff.mpr h] at hp
        cases hp
      simp [parse?, hp, hno]
    | some p =>
      have hblock := parts?_eq_some_iff.mp hp
      rw [parse?_of_isBlock hblock, Option.map_eq_none_iff, ← Option.not_isSome_iff_eq_none,
        fields?_isSome_iff]
      exact ⟨fun h => ⟨p, hblock, h⟩, fun ⟨q, hq, h⟩ => hq.unique hblock ▸ h⟩
  · have hp : parts? code.toList = none :=
      Option.eq_none_iff_forall_ne_some.mpr fun p h => hno p (parts?_eq_some_iff.mp h)
    rw [parse?, hp]
  · intro p hp hread mode
    obtain ⟨fields, hfields⟩ := Option.isSome_iff_exists.mp (fields?_isSome_iff.mpr hread)
    have hleaves := leaves_replacement mode p.inner
    refine ⟨_, mode.replacement p.inner, by rw [parse?_of_isBlock hp, hfields]; rfl, rfl, rfl,
      hleaves, fun i => ⟨fun hm => ?_, fun hm => columnAfter_of_leaves hleaves hm _ _⟩⟩
    rw [lineAfter_append, lineAfter_append, lineAfter_of_leaves hleaves hm, ← lineAfter_append,
      ← lineAfter_append]

/-- The second line closes the block, though a third one could. -/
example : (parse? "\ufeff---\n---\n---\n" .remove).map (·.content) = some "\ufeff\n---\n" := by
  decide +kernel

end Folio.Frontmatter
