import Mathlib.Data.List.Chain
import Folio.Text.Grapheme

/-! Where clusters begin. Most characters follow only those characters into their cluster that take
in whatever comes next. -/

namespace Folio.Text

/-- Whether a character takes the next one into its cluster. -/
def isPrepend (c : Char) : Bool :=
  clusterClass c = .prepend

/-- What stays apart from the cluster in front of it, unless that ends in a prepended character. -/
def Detached (c : Char) : Prop :=
  ∀ s : ClusterState, s.joins c = decide (s.last = .prepend)

theorem CharSet.contains_eq_false {s t : CharSet}
    (h : (s.all fun r => t.all fun q => r.2 < q.1 || q.2 < r.1) = true) {c : Char}
    (hc : s.contains c = true) : t.contains c = false := by
  rw [Bool.eq_false_iff]
  intro ht
  simp only [contains, List.any_eq_true, List.all_eq_true, Bool.and_eq_true, Bool.or_eq_true,
    decide_eq_true_eq] at h hc ht
  obtain ⟨r, hr, hrc⟩ := hc
  obtain ⟨q, hq, hqc⟩ := ht
  have := h r hr q hq
  omega

theorem prependRanges_contains {c : Char} (h : isPrepend c = true) :
    prependRanges.contains c = true := by
  rw [isPrepend, decide_eq_true_eq] at h
  unfold clusterClass at h
  dsimp only at h
  by_contra hc
  rw [if_neg hc] at h
  -- No other branch gives this class.
  have hite : ∀ {p : Prop} [Decidable p] {a b : ClusterClass}, a ≠ .prepend → b ≠ .prepend →
      (if p then a else b) ≠ .prepend := fun ha hb => by
    split
    · exact ha
    · exact hb
  refine absurd h ?_
  repeat' apply hite
  all_goals decide

theorem detached_of_class {c : Char} (h : clusterClass c = .other ∨ clusterClass c = .prepend)
    (hc : conjunctConsonantRanges.contains c = false) : Detached c := by
  intro s
  unfold ClusterState.joins
  rcases h with h | h
  · rw [h, hc]
    cases s.last <;> simp
  · rw [h, hc]
    cases s.last <;> simp

theorem detached_of_isPrepend {c : Char} (h : isPrepend c = true) : Detached c :=
  detached_of_class (.inr (by simpa [isPrepend] using h))
    (CharSet.contains_eq_false (by decide +kernel) (prependRanges_contains h))

theorem exists_clustersFrom_eq (s : ClusterState) (held cs : List Char) :
    ∃ v rest, clustersFrom s held cs = (held.reverse ++ v) :: rest := by
  induction cs generalizing s held with
  | nil => exact ⟨[], [], by simp [clustersFrom]⟩
  | cons c cs ih =>
    rw [clustersFrom]
    split
    · obtain ⟨v, rest, h⟩ := ih (s.next c) (c :: held)
      exact ⟨c :: v, rest, by simp [h]⟩
    · exact ⟨[], _, by rw [List.append_nil]⟩

/-- A detached character begins a cluster unless it stands behind a prepended one. -/
theorem clustersFrom_append {x : Char} (hx : Detached x) {before : List Char} {s : ClusterState}
    (hs : before = [] → s.last ≠ .prepend) (hb : ∀ y ∈ before.getLast?, isPrepend y = false)
    (held after : List Char) :
    clustersFrom s held (before ++ x :: after) =
      clustersFrom s held before ++ clusters (x :: after) := by
  induction before generalizing s held with
  | nil =>
    have hno : s.joins x = false := by rw [hx s, decide_eq_false (hs rfl)]
    rw [List.nil_append, clustersFrom.eq_2, hno, if_neg Bool.false_ne_true]
    rfl
  | cons y before ih =>
    have hnext : before = [] → clusterClass y ≠ .prepend := by
      rintro rfl
      simpa [isPrepend] using hb y rfl
    have hlast : ∀ z ∈ before.getLast?, isPrepend z = false := by
      intro z hz
      refine hb z ?_
      rw [List.getLast?_cons, Option.mem_def.mp hz]
      rfl
    rw [List.cons_append, clustersFrom, clustersFrom]
    split
    · exact ih (s := s.next y) hnext hlast _
    · rw [ih (s := .start y) hnext hlast, List.cons_append]

theorem clusters_append {x : Char} (hx : Detached x) {before : List Char}
    (hb : ∀ y ∈ before.getLast?, isPrepend y = false) (after : List Char) :
    clusters (before ++ x :: after) = clusters before ++ clusters (x :: after) := by
  cases before with
  | nil => rfl
  | cons y before =>
    refine clustersFrom_append hx (s := .start y) ?_ ?_ [y] after
    · rintro rfl
      simpa [isPrepend, ClusterState.start] using hb y rfl
    · intro z hz
      refine hb z ?_
      rw [List.getLast?_cons, Option.mem_def.mp hz]
      rfl

/-- Behind prepended characters the cluster goes on with one more character of any such kind. -/
theorem exists_clustersFrom_run {x : Char} (hx : Detached x) {run : List Char}
    (hrun : ∀ y ∈ run, isPrepend y = true) {s : ClusterState} (hs : s.last = .prepend)
    (held after : List Char) :
    ∃ v rest, clustersFrom s held (run ++ x :: after) =
      (held.reverse ++ run ++ x :: v) :: rest := by
  induction run generalizing s held with
  | nil =>
    obtain ⟨v, rest, h⟩ := exists_clustersFrom_eq (s.next x) (x :: held) after
    refine ⟨v, rest, ?_⟩
    rw [List.nil_append, clustersFrom, hx s, hs, decide_eq_true rfl, if_pos rfl, h]
    simp
  | cons y run ih =>
    have hy := hrun y List.mem_cons_self
    obtain ⟨v, rest, h⟩ := ih (fun z hz => hrun z (List.mem_cons_of_mem y hz))
      (s := s.next y) (by simpa [isPrepend, ClusterState.next] using hy) (y :: held)
    refine ⟨v, rest, ?_⟩
    rw [List.cons_append, clustersFrom, detached_of_isPrepend hy s, hs, decide_eq_true rfl,
      if_pos rfl, h]
    simp

/-- A cluster as it stands behind a text: within it detached characters follow prepended ones only,
and it begins with a detached character only where none of these precedes. -/
structure Fits (before cluster : List Char) : Prop where
  inner : cluster.IsChain fun y x => Detached x → isPrepend y = true
  start : ∀ x ∈ cluster.head?, Detached x → ∀ y ∈ before.getLast?, isPrepend y = false

theorem exists_of_mem_clustersFrom {s : ClusterState} (before held : List Char)
    {cs cluster : List Char} (hne : held ≠ []) (hs : ∀ y ∈ held.head?, clusterClass y = s.last)
    (hfits : Fits before held.reverse) (h : cluster ∈ clustersFrom s held cs) :
    ∃ a b, before ++ held.reverse ++ cs = a ++ cluster ++ b ∧ Fits a cluster := by
  induction cs generalizing s before held with
  | nil =>
    obtain rfl := List.mem_singleton.mp h
    exact ⟨before, [], rfl, hfits⟩
  | cons c cs ih =>
    obtain ⟨y, held, rfl⟩ := List.exists_cons_of_ne_nil hne
    have hy : clusterClass y = s.last := hs y rfl
    rw [clustersFrom] at h
    split at h
    · rename_i hjoins
      have hchain : Fits before (c :: y :: held).reverse := by
        refine ⟨?_, ?_⟩
        · rw [List.reverse_cons]
          refine hfits.inner.append (List.isChain_singleton c) fun z hz x hx hd => ?_
          obtain rfl : z = y := by simpa using hz.symm
          obtain rfl : x = c := by simpa using hx.symm
          rw [hd s] at hjoins
          simpa [isPrepend, hy] using hjoins
        · intro x hx
          refine hfits.start x ?_
          simpa [List.head?_append] using hx
      obtain ⟨a, b, htext, ha⟩ := ih _ _ (by simp) (fun z hz => by
        obtain rfl : z = c := by simpa using hz.symm
        rfl) hchain h
      exact ⟨a, b, by rw [← htext]; simp, ha⟩
    · rename_i hjoins
      rcases List.mem_cons.mp h with rfl | h
      · exact ⟨before, c :: cs, rfl, hfits⟩
      · have hstart : Fits (before ++ (y :: held).reverse) [c].reverse := by
          refine ⟨List.isChain_singleton c, fun x hx hd z hz => ?_⟩
          obtain rfl : x = c := by simpa using hx.symm
          obtain rfl : z = y := by simpa using hz.symm
          rw [hd s] at hjoins
          simpa [isPrepend, hy] using hjoins
        obtain ⟨a, b, htext, ha⟩ := ih _ _ (by simp) (fun z hz => by
          obtain rfl : z = c := by simpa using hz.symm
          rfl) hstart h
        exact ⟨a, b, by rw [← htext]; simp, ha⟩

theorem exists_of_mem_clusters {text cluster : List Char} (h : cluster ∈ clusters text) :
    ∃ a b, text = a ++ cluster ++ b ∧ Fits a cluster := by
  cases text with
  | nil => cases h
  | cons c cs =>
    have hfits : Fits [] [c].reverse := ⟨List.isChain_singleton c, fun x _ _ y hy => by cases hy⟩
    refine exists_of_mem_clustersFrom [] [c] (by simp) (fun z hz => ?_) hfits h
    obtain rfl : z = c := by simpa using hz.symm
    rfl

end Folio.Text
