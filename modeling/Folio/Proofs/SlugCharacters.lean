import Folio.Text.Punctuation
import Folio.Proofs.Clusters
import Folio.Proofs.HeadingIds
import Folio.Proofs.LowerCase

/-! The characters of slugs. A cluster is kept or dropped by its first character, so a space or a
mark gets into a slug exactly where a letter takes it into its own cluster. -/

namespace Folio

open Text

/-- Spaces and the ASCII marks that a slug is to leave out. -/
def isBarred (c : Char) : Bool :=
  c = ' ' || isAsciiPunctuation c && c ≠ '-' && c ≠ '_'

/-- A letter takes `c` into its cluster, behind nothing but characters that do so too. -/
def RidesAlong (text : List Char) (c : Char) : Prop :=
  ∃ letter joined, isAlphanumeric letter = true ∧ (∀ x ∈ letter :: joined, isPrepend x = true) ∧
    ∃ before after, text = before ++ (letter :: joined ++ [c]) ++ after ∧
      ∀ y ∈ before.getLast?, isPrepend y = false

theorem isBarred_lt {c : Char} (h : isBarred c = true) : c.toNat < 128 := by
  simp only [isBarred, isAsciiPunctuation, Bool.or_eq_true, Bool.and_eq_true,
    decide_eq_true_eq] at h
  rcases h with rfl | h
  · decide
  · omega

theorem detached_of_isBarred {c : Char} (h : isBarred c = true) : Detached c :=
  forall_ascii (P := fun c => isBarred c = true →
      clusterClass c = .other ∧ conjunctConsonantRanges.contains c = false) (by decide +kernel)
    (isBarred_lt h) h |>.elim fun hclass hc => detached_of_class (.inl hclass) hc

theorem not_kept_of_isBarred {c : Char} (h : isBarred c = true) :
    (isAlphanumeric c || c = '-' || c = '_') = false :=
  forall_ascii (P := fun c => isBarred c = true →
      (isAlphanumeric c || c = '-' || c = '_') = false) (by decide +kernel) (isBarred_lt h) h

theorem ne_hyphen_of_isBarred {c : Char} (h : isBarred c = true) : c ≠ '-' := by
  rintro rfl
  exact absurd h (by decide)

/-! ### In lower case -/

/-- Barred characters and those that take in the next one. -/
def isFixed (c : Char) : Bool :=
  isBarred c || prependRanges.contains c

theorem isFixed_of_isPrepend {c : Char} (h : isPrepend c = true) : isFixed c = true := by
  rw [isFixed, prependRanges_contains h, Bool.or_true]

theorem lowerRuns_apart :
    (lowerRuns.all fun r => prependRanges.all fun q => r.last < q.1 || q.2 < r.first) = true := by
  decide +kernel

theorem lowerRuns_foreign :
    (lowerRuns.all fun r => (List.range (r.last - r.first + 1)).all fun i =>
      !isFixed (Char.ofNat (r.target + i))) = true := by
  decide +kernel

theorem map?_eq_none_of_isFixed {c : Char} (h : isFixed c = true) (hc : ¬ c.toNat < 128)
    {r : CaseRun} (hr : r ∈ lowerRuns) : r.map? c.toNat = none := by
  have hprepend : prependRanges.contains c = true := by
    rcases Bool.or_eq_true_iff.mp h with h | h
    · exact absurd (isBarred_lt h) hc
    · exact h
  have hapart := List.all_eq_true.mp lowerRuns_apart r hr
  simp only [CharSet.contains, List.all_eq_true, List.any_eq_true, Bool.and_eq_true,
    Bool.or_eq_true, decide_eq_true_eq] at hapart hprepend
  obtain ⟨q, hq, hcq⟩ := hprepend
  have := hapart q hq
  rw [CaseRun.map?, if_neg (by omega)]

theorem isFixed_eq_false_of_map? {n m : Nat} {r : CaseRun} (hr : r ∈ lowerRuns)
    (h : r.map? n = some m) : isFixed (Char.ofNat m) = false := by
  have hforeign := List.all_eq_true.mp lowerRuns_foreign r hr
  rw [CaseRun.map?, Option.ite_none_right_eq_some, Option.some.injEq] at h
  obtain ⟨hn, rfl⟩ := h
  have hi := List.all_eq_true.mp hforeign (n - r.first) (List.mem_range.mpr (by omega))
  simpa using hi

theorem lowerStable_isFixed : LowerStable isFixed where
  kept := by
    intro c h
    by_cases hc : c.toNat < 128
    · exact forall_ascii (P := fun c => isFixed c = true → lowerChar c = [c])
        (by decide +kernel) hc h
    · have hdot : c ≠ '\u0130' := by
        rintro rfl
        exact absurd h (by decide +kernel)
      have hnone : (lowerRuns.findSome? fun r => r.map? c.toNat) = none :=
        List.findSome?_eq_none_iff.mpr fun r hr => map?_eq_none_of_isFixed h hc hr
      rw [lowerChar, if_neg hc, if_neg hdot, hnone]
      rfl
  foreign := by
    intro c h
    suffices hall : (lowerChar c).all (!isFixed ·) = true by simpa using hall
    by_cases hc : c.toNat < 128
    · exact forall_ascii (P := fun c => isFixed c = false → (lowerChar c).all (!isFixed ·) = true)
        (by decide +kernel) hc h
    · by_cases hdot : c = '\u0130'
      · subst hdot
        decide +kernel
      · rw [lowerChar, if_neg hc, if_neg hdot, List.all_cons, List.all_nil, Bool.and_true,
          Bool.not_eq_true']
        cases hm : lowerRuns.findSome? fun r => r.map? c.toNat with
        | none => exact h
        | some m =>
          obtain ⟨r, hr, hrm⟩ := List.exists_of_findSome?_eq_some hm
          exact isFixed_eq_false_of_map? hr hrm
  sigma := by decide +kernel

theorem ridesAlong_iff_standsFree {text : List Char} {c : Char} :
    RidesAlong text c ↔
      ∃ letter joined, isAlphanumeric letter = true ∧
        (∀ x ∈ letter :: joined, isPrepend x = true) ∧
        StandsFree isPrepend (letter :: joined ++ [c]) true text := by
  simp only [RidesAlong, standsFree_iff (by simp : _ :: _ ++ [_] ≠ [])]
  simp

theorem ridesAlong_lower_iff {c : Char} (hc : isBarred c = true) (text : List Char) :
    RidesAlong (lower text) c ↔ RidesAlong text c := by
  rw [ridesAlong_iff_standsFree, ridesAlong_iff_standsFree]
  refine exists_congr fun letter => exists_congr fun joined => and_congr_right fun _ =>
    and_congr_right fun hjoined => ?_
  refine lowerStable_isFixed.standsFree_lowerAfter_iff (fun _ => isFixed_of_isPrepend) ?_
    (by simp) true [] text
  intro x hx
  rcases List.mem_append.mp hx with hx | hx
  · exact isFixed_of_isPrepend (hjoined x hx)
  · obtain rfl := List.mem_singleton.mp hx
    rw [isFixed, hc, Bool.true_or]

/-! ### In slugs -/

theorem mem_slugPart_iff {c first : Char} (hc : isBarred c = true) (rest : List Char) :
    c ∈ slugPart (first :: rest) ↔
      (isAlphanumeric first || first = '-' || first = '_') = true ∧ c ∈ rest := by
  have hnot := not_kept_of_isBarred hc
  rw [slugPart]
  split
  · rename_i hspace
    subst hspace
    simp [ne_hyphen_of_isBarred hc, show (isAlphanumeric ' ' = false) by decide]
  · split
    · rename_i hkept
      have hne : c ≠ first := by
        rintro rfl
        rw [hkept] at hnot
        cases hnot
      simp [hkept, hne]
    · rename_i hkept
      simp [hkept]

/-- In front of a detached character all of a cluster takes in what comes next. -/
theorem forall_isPrepend_of_isChain (run : List Char) {rest : List Char} {c : Char}
    (hc : Detached c) (h : (run ++ c :: rest).IsChain fun y x => Detached x → isPrepend y = true) :
    ∀ y ∈ run, isPrepend y = true := by
  induction run with
  | nil => exact fun y hy => by cases hy
  | cons x run ih =>
    have hrun := ih h.tail
    refine List.forall_mem_cons.mpr ⟨?_, hrun⟩
    cases run with
    | nil => exact h.rel_head? rfl hc
    | cons y run => exact h.rel_head? rfl (detached_of_isPrepend (hrun y List.mem_cons_self))

theorem isAlphanumeric_of_kept {c : Char} (hp : isPrepend c = true)
    (h : (isAlphanumeric c || c = '-' || c = '_') = true) : isAlphanumeric c = true := by
  simp only [Bool.or_eq_true, decide_eq_true_eq] at h
  rcases h with (h | rfl) | rfl
  · exact h
  · exact absurd hp (by decide)
  · exact absurd hp (by decide)

theorem mem_slugify_iff {c : Char} (hc : isBarred c = true) (text : String) :
    c ∈ (slugify text).toList ↔ RidesAlong text.toList c := by
  rw [← ridesAlong_lower_iff hc, slugify, String.toList_ofList, List.mem_flatMap]
  generalize lower text.toList = s
  constructor
  · rintro ⟨cluster, hcluster, hm⟩
    obtain ⟨a, b, rfl, hfits⟩ := exists_of_mem_clusters hcluster
    cases cluster with
    | nil => cases hm
    | cons first rest =>
      obtain ⟨hkept, hrest⟩ := (mem_slugPart_iff hc rest).mp hm
      obtain ⟨joined, after, rfl⟩ := List.append_of_mem hrest
      have hrun := forall_isPrepend_of_isChain (first :: joined) (detached_of_isBarred hc)
        hfits.inner
      have hfirst := hrun first List.mem_cons_self
      exact ⟨first, joined, isAlphanumeric_of_kept hfirst hkept, hrun, a, after ++ b, by simp,
        hfits.start first rfl (detached_of_isPrepend hfirst)⟩
  · rintro ⟨letter, joined, hletter, hrun, before, after, rfl, hlast⟩
    have hfirst := hrun letter List.mem_cons_self
    obtain ⟨v, rest, hv⟩ := exists_clustersFrom_run (detached_of_isBarred hc)
      (fun y hy => hrun y (List.mem_cons_of_mem letter hy)) (s := .start letter)
      (by simpa [isPrepend, ClusterState.start] using hfirst) [letter] after
    refine ⟨letter :: (joined ++ c :: v), ?_, (mem_slugPart_iff hc _).mpr ⟨?_, by simp⟩⟩
    · rw [show before ++ (letter :: joined ++ [c]) ++ after =
          before ++ letter :: (joined ++ c :: after) by simp,
        clusters_append (detached_of_isPrepend hfirst) hlast, clusters, hv]
      simp
    · rw [hletter]
      rfl

/-! ### In the ids of headings -/

theorem barred_mem_suffixed_iff {c : Char} (hc : isBarred c = true) (base : String) (n : Nat) :
    c ∈ (Slugger.suffixed base n).toList ↔ c ∈ base.toList := by
  have hdigit : c.isDigit = false :=
    forall_ascii (P := fun c => isBarred c = true → c.isDigit = false) (by decide +kernel)
      (isBarred_lt hc) hc
  have hdigits : c ∉ Nat.toDigits 10 n := fun hm => by
    rw [Nat.isDigit_of_mem_toDigits (by decide) (by decide) hm] at hdigit
    cases hdigit
  simp [Slugger.suffixed, ne_hyphen_of_isBarred hc, hdigits]

theorem barred_mem_slug_iff {c : Char} (hc : isBarred c = true) (s : Slugger) (text : String) :
    c ∈ (s.slug text).2.toList ↔ RidesAlong text.toList c := by
  rw [← mem_slugify_iff hc]
  unfold Slugger.slug
  dsimp only
  split
  · exact barred_mem_suffixed_iff hc _ _
  · rfl

theorem exists_barred_mem_slugs_iff {c : Char} (hc : isBarred c = true) (s : Slugger)
    (texts : List String) :
    (∃ slug ∈ s.slugs texts, c ∈ slug.toList) ↔ ∃ text ∈ texts, RidesAlong text.toList c := by
  induction texts generalizing s with
  | nil => simp [Slugger.slugs]
  | cons text texts ih =>
    rw [Slugger.slugs, List.exists_mem_cons_iff, List.exists_mem_cons_iff,
      barred_mem_slug_iff hc, ih]

theorem barred_mem_storedSlug_iff {c : Char} (hc : isBarred c = true) (keepHyphen : Bool)
    (slug : String) : c ∈ (storedSlug keepHyphen slug).toList ↔ c ∈ slug.toList := by
  cases keepHyphen with
  | true => rfl
  | false =>
    by_cases hlast : slug.toList.getLast? = some '-'
    · have hslug := congrArg String.toList (dropFinalHyphen_append_hyphen hlast)
      rw [String.toList_append] at hslug
      rw [storedSlug, ← hslug]
      simp [ne_hyphen_of_isBarred hc]
    · rw [storedSlug, dropFinalHyphen_of_ne hlast]

/-- A space or a barred mark is in a slug exactly if it rides along in the text, and it is in an id
given to a heading exactly if it rides along in the text of some heading without an id. -/
theorem barred_mem_iff_ridesAlong (text : String) (keepHyphen : Bool) (d : Document) :
    (∀ c, isBarred c = true → (c ∈ (slugify text).toList ↔ RidesAlong text.toList c)) ∧
    ∃ d', (headingIds keepHyphen).Yields d d' ∧ ∀ c, isBarred c = true →
      ((∃ id ∈ givenIds d.nodes d'.nodes, c ∈ id.toList) ↔
        ∃ e ∈ headings d.nodes, e.textId? = none ∧ RidesAlong e.textContent.toList c) := by
  refine ⟨fun c hc => mem_slugify_iff hc text, ?_⟩
  obtain ⟨d', hy, hn⟩ := headingIds_yields keepHyphen d
  refine ⟨d', hy, fun c hc => ?_⟩
  rw [hn, givenIds_headingIds]
  simp only [List.mem_map, exists_exists_and_eq_and, barred_mem_storedSlug_iff hc]
  rw [headingSlugs, exists_barred_mem_slugs_iff hc]
  simp [and_assoc]

/-- The first letter takes the space behind it into its cluster. -/
def dotReph : String :=
  "\u0d4e x"

theorem space_mem_slugify_dotReph :
    isBarred ' ' = true ∧ slugify dotReph = dotReph ∧ ' ' ∈ (slugify dotReph).toList ∧
    ∃ d', (headingIds false).Yields ⟨[.element "h1" {} [.text dotReph]], {}⟩ d' ∧
      givenIds [.element "h1" {} [.text dotReph]] d'.nodes = [dotReph] := by
  refine ⟨by decide, by decide +kernel, by decide +kernel, ?_⟩
  obtain ⟨d', hy, hn⟩ := headingIds_yields false ⟨[.element "h1" {} [.text dotReph]], {}⟩
  refine ⟨d', hy, ?_⟩
  rw [hn, givenIds_headingIds]
  decide +kernel

end Folio
