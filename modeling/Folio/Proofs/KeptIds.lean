import Folio.Proofs.HeadingLinks

/-! Ids that headings keep and ids that headings are given. The numbering looks at the texts of the
headings without an id only, so it can arrive at an id that another heading has of its own. -/

namespace Folio

/-- The id of some heading, at any depth. -/
def HasHeadingId (ns : List Node) (id : String) : Prop :=
  ∃ e, Within e ns ∧ isHeadingTag e.tag = true ∧ e.textId? = some id

theorem within_giveId (keepHyphen : Bool) (s : Slugger × Metadata) {e d : Element}
    (hk : isHeadingTag d.tag = true) (hid : e.textId? ≠ none) (h : Within e [d.toNode]) :
    Within e (giveId keepHyphen s d).2 := by
  obtain ⟨entry, d', slugger, hd, hg⟩ := giveId_identified keepHyphen s hk
  rw [hg]
  refine within_element.mpr ?_
  rcases within_element.mp h with rfl | h
  · exact .inl (hd.kept hid).symm
  · rw [hd.children]
    exact .inr h

/-- A heading with an id stands in the tree as it did, also inside another heading. -/
theorem within_headingIds (keepHyphen : Bool) (s : Slugger × Metadata) {e : Element}
    (hk : isHeadingTag e.tag = true) (hid : e.textId? ≠ none) {ns : List Node} (h : Within e ns) :
    Within e (replaceOutermost isHeadingTag (giveId keepHyphen) s ns).2 := by
  induction ns using nodes_induction generalizing s with
  | nil => exact h
  | text t ns ih =>
    rcases within_cons.mp h with h | h
    · exact absurd h not_within_text
    · exact (ih s h).append_left [.text t]
  | raw t ns ih =>
    rcases within_cons.mp h with h | h
    · exact absurd h not_within_raw
    · exact (ih s h).append_left [.raw t]
  | element tag p children ns ihi ih =>
    rw [replaceOutermost]
    refine within_append.mpr ((within_cons.mp h).imp (fun h => ?_) (ih _))
    rw [Node.replaceOutermost]
    split
    · rename_i hkind
      exact within_giveId keepHyphen s hkind hid h
    · rename_i hkind
      refine (within_element (d := ⟨tag, p, _⟩)).mpr (.inr ?_)
      rcases (within_element (d := ⟨tag, p, children⟩)).mp h with rfl | h
      · exact absurd hk hkind
      · exact ihi s h

/-- The ids of headings stay, and the headings without one are numbered as if no heading had any. So
a given id is the id of another heading exactly if the numbering of the texts arrives at it, and in
any case if the text of a heading without an id reads as one. -/
theorem givenIds_meet_headingIds_iff (keepHyphen : Bool) (d : Document) :
    ∃ d' slugs, (headingIds keepHyphen).Yields d d' ∧
      (∀ id, HasHeadingId d.nodes id → HasHeadingId d'.nodes id) ∧
      Slugger.Numbered []
        (((headings d.nodes).filter (·.textId?.isNone)).map (·.textContent)) slugs ∧
      givenIds d.nodes d'.nodes = slugs.map (storedSlug keepHyphen) ∧
      ((∃ id ∈ givenIds d.nodes d'.nodes, HasHeadingId d.nodes id) ↔
        ∃ slug ∈ slugs, HasHeadingId d.nodes (storedSlug keepHyphen slug)) ∧
      ∀ e ∈ headings d.nodes, e.textId? = none →
        HasHeadingId d.nodes (storedSlug keepHyphen (slugify e.textContent)) →
        ∃ id ∈ givenIds d.nodes d'.nodes, HasHeadingId d.nodes id := by
  obtain ⟨d', hy, hn⟩ := headingIds_yields keepHyphen d
  have hg : givenIds d.nodes d'.nodes = (headingSlugs d.nodes).map (storedSlug keepHyphen) := by
    rw [hn, givenIds_headingIds]
  have hnumbered := Slugger.numbered_slugs_empty
    (((headings d.nodes).filter (·.textId?.isNone)).map (·.textContent))
  have hiff : (∃ id ∈ givenIds d.nodes d'.nodes, HasHeadingId d.nodes id) ↔
      ∃ slug ∈ headingSlugs d.nodes, HasHeadingId d.nodes (storedSlug keepHyphen slug) := by
    rw [hg]
    simp
  refine ⟨d', headingSlugs d.nodes, hy, ?_, hnumbered, hg, hiff, ?_⟩
  · rintro id ⟨e, he, hk, hid⟩
    refine ⟨e, ?_, hk, hid⟩
    rw [hn]
    exact within_headingIds keepHyphen _ hk (by rw [hid]; exact Option.some_ne_none id) he
  · intro e he hid hown
    have htext : e.textContent ∈
        ((headings d.nodes).filter (·.textId?.isNone)).map (·.textContent) :=
      List.mem_map_of_mem (List.mem_filter.mpr ⟨he, by rw [hid]; rfl⟩)
    rcases Slugger.slugify_mem_of_numbered hnumbered htext with hm | hm
    · cases hm
    · exact hiff.mpr ⟨_, hm, hown⟩

/-- The first heading has the id that the text of the second one reads as. -/
def introTwice : List Node :=
  [.element "h1" ⟨[("id", .text "intro")]⟩ [.text "Start"], .element "h1" {} [.text "Intro"]]

/-- The second heading is given the id of the first. -/
theorem givenIds_introTwice :
    ∃ d', (headingIds false).Yields ⟨introTwice, {}⟩ d' ∧
      givenIds introTwice d'.nodes = ["intro"] ∧ HasHeadingId introTwice "intro" ∧
      (headings d'.nodes).map (·.textId?) = [some "intro", some "intro"] := by
  obtain ⟨d', hy, hn⟩ := headingIds_yields false ⟨introTwice, {}⟩
  have hg : givenIds introTwice d'.nodes = ["intro"] := by
    rw [hn, givenIds_headingIds]
    decide +kernel
  have hown : HasHeadingId introTwice "intro" :=
    ⟨⟨"h1", ⟨[("id", .text "intro")]⟩, [.text "Start"]⟩, .here List.mem_cons_self, rfl, rfl⟩
  refine ⟨d', hy, hg, hown, ?_⟩
  rw [hn]
  decide +kernel

end Folio
