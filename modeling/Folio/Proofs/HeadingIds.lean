import Folio.Document.Headings
import Folio.Proofs.FreshSlugs
import Folio.Proofs.Outermost
import Folio.Proofs.Tables

/-! The ids of headings. Slugs are kept apart by the slugger, but a hyphen that is dropped
afterwards can bring two of them together again. -/

namespace Folio

def isHeadingTag (tag : String) : Bool :=
  (headingDepth? tag).isSome

/-- The headings that stand in no other heading. -/
def headings (ns : List Node) : List Element :=
  outermost isHeadingTag ns

def Element.textId? (e : Element) : Option String :=
  e.properties.getText? "id"

/-- The ids after a pass of the headings that had none before it. -/
def givenIds (before after : List Node) : List String :=
  ((headings before).zip (headings after)).filterMap fun (e, e') =>
    if e.textId?.isNone then e'.textId? else none

/-- The slugs for the headings without an id, before any hyphen is dropped. -/
def headingSlugs (ns : List Node) : List String :=
  Slugger.slugs {} (((headings ns).filter (·.textId?.isNone)).map (·.textContent))

/-- A slug as it becomes an id. -/
def storedSlug : Bool → String → String
  | true => id
  | false => dropFinalHyphen

theorem textId?_set (e : Element) (id : String) : (e.set "id" (.text id)).textId? = some id := by
  rw [Element.textId?, Properties.getText?, Element.set, Properties.get?_set]

abbrev giveId (keepHyphen : Bool) :
    Slugger × Metadata → Element → (Slugger × Metadata) × List Node :=
  skipped (headingIdVisitor keepHyphen)

theorem giveId_of_textId (keepHyphen : Bool) (s : Slugger × Metadata) {e : Element} {id : String}
    (hk : isHeadingTag e.tag = true) (h : e.textId? = some id) :
    (giveId keepHyphen s e).1.1 = s.1 ∧ (giveId keepHyphen s e).2 = [e.toNode] := by
  obtain ⟨depth, hd⟩ := Option.isSome_iff_exists.mp hk
  simp only [skipped, headingIdVisitor, hd, show e.properties.getText? "id" = some id from h,
    and_self]

theorem giveId_of_no_textId (keepHyphen : Bool) (s : Slugger × Metadata) {e : Element}
    (hk : isHeadingTag e.tag = true) (h : e.textId? = none) :
    (giveId keepHyphen s e).1.1 = (s.1.slug e.textContent).1 ∧
      (giveId keepHyphen s e).2 =
        [(e.set "id" (.text (storedSlug keepHyphen (s.1.slug e.textContent).2))).toNode] := by
  obtain ⟨depth, hd⟩ := Option.isSome_iff_exists.mp hk
  simp only [skipped, headingIdVisitor, hd, show e.properties.getText? "id" = none from h, true_and]
  cases keepHyphen <;> rfl

theorem headingDepth?_eq_none {tag : String} (h : isHeadingTag tag = false) :
    headingDepth? tag = none :=
  Option.isNone_iff_eq_none.mp (Option.isSome_eq_false_iff.mp h)

theorem headingIds_yields_replaceOutermost (keepHyphen : Bool) (d : Document) :
    (headingIds keepHyphen).Yields d
      ⟨(replaceOutermost isHeadingTag (giveId keepHyphen) ({}, d.metadata) d.nodes).2,
        (replaceOutermost isHeadingTag (giveId keepHyphen) ({}, d.metadata) d.nodes).1.2⟩ := by
  refine Transform.ofStatefulVisitor_yields (traversal_skipped isHeadingTag ?_ ?_ _ d.nodes)
  · intro s e hk
    simp only [headingIdVisitor, headingDepth?_eq_none hk]
  · intro s e hk
    obtain ⟨depth, hd⟩ := Option.isSome_iff_exists.mp hk
    simp only [headingIdVisitor, hd]

theorem headingIds_yields (keepHyphen : Bool) (d : Document) :
    ∃ d', (headingIds keepHyphen).Yields d d' ∧
      d'.nodes =
        (replaceOutermost isHeadingTag (giveId keepHyphen) ({}, d.metadata) d.nodes).2 :=
  ⟨_, headingIds_yields_replaceOutermost keepHyphen d, rfl⟩

theorem givenIds_replacements (keepHyphen : Bool) (s : Slugger × Metadata) {es : List Element}
    (h : ∀ e ∈ es, isHeadingTag e.tag = true) :
    ((es.zip ((replacements (giveId keepHyphen) s es).flatMap headings)).filterMap
        fun (e, e') => if e.textId?.isNone then e'.textId? else none) =
      (s.1.slugs ((es.filter (·.textId?.isNone)).map (·.textContent))).map
        (storedSlug keepHyphen) := by
  -- The slugger is all of the state that the slugs depend on, and only a heading without an id
  -- changes it.
  induction es generalizing s with
  | nil => rfl
  | cons e es ih =>
    have hk := h e List.mem_cons_self
    have hh := ih (giveId keepHyphen s e).1 fun d hd => h d (List.mem_cons_of_mem e hd)
    rw [replacements, List.flatMap_cons]
    cases hid : e.textId? with
    | some id =>
      obtain ⟨hs, hn⟩ := giveId_of_textId keepHyphen s hk hid
      rw [hn, headings, outermost_toNode hk, List.singleton_append, List.zip_cons_cons]
      simp only [List.filterMap_cons, hid, Option.isNone_some, List.filter_cons, if_false,
        Bool.false_eq_true]
      rw [hh, hs]
    | none =>
      obtain ⟨hs, hn⟩ := giveId_of_no_textId keepHyphen s hk hid
      rw [hn, headings, outermost_toNode (show isHeadingTag (e.set _ _).tag = true from hk),
        List.singleton_append, List.zip_cons_cons]
      simp only [List.filterMap_cons, hid, Option.isNone_none, if_true, textId?_set,
        List.filter_cons, List.map_cons, Slugger.slugs]
      rw [hh, hs]

theorem givenIds_headingIds (keepHyphen : Bool) (m : Metadata) (ns : List Node) :
    givenIds ns (replaceOutermost isHeadingTag (giveId keepHyphen) ({}, m) ns).2 =
      (headingSlugs ns).map (storedSlug keepHyphen) := by
  rw [givenIds, headingSlugs,
    show headings (replaceOutermost isHeadingTag (giveId keepHyphen) ({}, m) ns).2 = _ from
      outermost_replaceOutermost _ _ _]
  exact givenIds_replacements keepHyphen ({}, m) fun _ => kind_of_mem_outermost

theorem dropFinalHyphen_of_ne {slug : String} (h : slug.toList.getLast? ≠ some '-') :
    dropFinalHyphen slug = slug :=
  if_neg h

theorem dropFinalHyphen_append (slug : String) : dropFinalHyphen (slug ++ "-") = slug := by
  have hl : (slug ++ "-").toList = slug.toList ++ ['-'] := String.toList_append
  rw [dropFinalHyphen, hl, List.getLast?_concat, if_pos rfl, List.dropLast_concat,
    String.ofList_toList]

theorem dropFinalHyphen_append_hyphen {slug : String} (h : slug.toList.getLast? = some '-') :
    dropFinalHyphen slug ++ "-" = slug := by
  rw [dropFinalHyphen, if_pos h, ← String.toList_inj, String.toList_append, String.toList_ofList]
  exact List.dropLast_append_getLast? '-' h

/-- Two slugs become one only if they are one word without and with a hyphen at its end. -/
theorem eq_or_of_dropFinalHyphen_eq {a b : String} (h : dropFinalHyphen a = dropFinalHyphen b) :
    a = b ∨ a.toList.getLast? ≠ some '-' ∧ b = a ++ "-" ∨
      b.toList.getLast? ≠ some '-' ∧ a = b ++ "-" := by
  by_cases ha : a.toList.getLast? = some '-'
  · by_cases hb : b.toList.getLast? = some '-'
    · left
      rw [← dropFinalHyphen_append_hyphen ha, h, dropFinalHyphen_append_hyphen hb]
    · right; right
      refine ⟨hb, ?_⟩
      rw [dropFinalHyphen_of_ne hb] at h
      rw [← h, dropFinalHyphen_append_hyphen ha]
  · rw [dropFinalHyphen_of_ne ha] at h
    by_cases hb : b.toList.getLast? = some '-'
    · right; left
      exact ⟨ha, by rw [h, dropFinalHyphen_append_hyphen hb]⟩
    · rw [dropFinalHyphen_of_ne hb] at h
      exact .inl h

theorem nodup_map_dropFinalHyphen_iff {slugs : List String} (h : slugs.Nodup) :
    (slugs.map dropFinalHyphen).Nodup ↔
      ∀ slug ∈ slugs, slug ++ "-" ∈ slugs → slug.toList.getLast? = some '-' := by
  rw [List.nodup_map_iff_inj_on h]
  constructor
  · intro hinj slug hslug hhyphen
    by_contra hne
    have heq := hinj slug hslug _ hhyphen (by
      rw [dropFinalHyphen_of_ne hne, dropFinalHyphen_append])
    have hlength := congrArg String.length heq
    simp at hlength
  · intro hends a ha b hb heq
    rcases eq_or_of_dropFinalHyphen_eq heq with rfl | ⟨hne, rfl⟩ | ⟨hne, rfl⟩
    · rfl
    · exact absurd (hends a ha hb) hne
    · exact absurd (hends b hb ha) hne

/-- The ids given to headings are the slugs for the headings without an id, less a hyphen at the end
unless hyphens are kept. No slug is handed out twice, so the ids are distinct exactly if hyphens are
kept or no slug is there both without a hyphen at its end and with one. -/
theorem givenIds_nodup_iff (keepHyphen : Bool) (d : Document) :
    ∃ d', (headingIds keepHyphen).Yields d d' ∧
      givenIds d.nodes d'.nodes = (headingSlugs d.nodes).map (storedSlug keepHyphen) ∧
      (headingSlugs d.nodes).Nodup ∧
      ((givenIds d.nodes d'.nodes).Nodup ↔ keepHyphen = true ∨
        ∀ slug ∈ headingSlugs d.nodes, slug ++ "-" ∈ headingSlugs d.nodes →
          slug.toList.getLast? = some '-') := by
  obtain ⟨d', hy, hn⟩ := headingIds_yields keepHyphen d
  have hg : givenIds d.nodes d'.nodes = (headingSlugs d.nodes).map (storedSlug keepHyphen) := by
    rw [hn, givenIds_headingIds]
  have hs : (headingSlugs d.nodes).Nodup := Slugger.slugs_nodup _ _
  refine ⟨d', hy, hg, hs, ?_⟩
  rw [hg]
  cases keepHyphen with
  | true => simpa [storedSlug] using hs
  | false => simpa [storedSlug] using nodup_map_dropFinalHyphen_iff hs

/-- Two headings, the second with a mark at its end that a slug leaves out. -/
def tickedTwice : List Node :=
  [.element "h1" {} [.text "Done"], .element "h1" {} [.text "Done ✓"]]

/-- Both headings are given the id `done`. -/
theorem not_nodup_givenIds_tickedTwice :
    ∃ d', (headingIds false).Yields ⟨tickedTwice, {}⟩ d' ∧
      givenIds tickedTwice d'.nodes = ["done", "done"] ∧
      ¬ (givenIds tickedTwice d'.nodes).Nodup := by
  obtain ⟨d', hy, hn⟩ := headingIds_yields false ⟨tickedTwice, {}⟩
  have hg : givenIds tickedTwice d'.nodes = ["done", "done"] := by
    rw [hn, givenIds_headingIds]
    decide +kernel
  exact ⟨d', hy, hg, by rw [hg]; decide⟩

end Folio
