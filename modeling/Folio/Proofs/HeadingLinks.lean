import Folio.Proofs.HeadingIds

/-! The outline of a document and the links of its headings. The pass that records the outline
enters what the pass that adds the links enters, so each link belongs to one entry. -/

namespace Folio

/-- The heading `e` has become `e'`, which is what an entry of the outline tells of it. -/
structure Identified (entry : Heading) (e e' : Element) : Prop where
  depth : headingDepth? e'.tag = some entry.depth
  id : e'.textId? = some entry.slug
  text : e'.textContent = entry.text
  tag : e'.tag = e.tag
  children : e'.children = e.children
  properties : e'.properties = e.properties.set "id" (.text entry.slug)
  other : ∀ name, name ≠ "id" → e'.properties.get? name = e.properties.get? name
  kept : e.textId? ≠ none → e' = e

/-- The node holds the heading `e` and one link to it, which reads the text of the entry. -/
def Wraps (entry : Heading) (e : Element) (n : Node) : Prop :=
  ∃ p link label, n = .element "div" p [e.toNode, .element "a" link label] ∧
    p.classes = ["heading-wrapper", "level-" ++ e.tag] ∧
    link.getText? "href" = some ("#" ++ entry.slug) ∧
    textContents label = "Read the “" ++ entry.text ++ "” section"

/-- A tree before the headings have ids, with the ids of an outline, and with links. The entries of
the outline belong to the outermost headings, in document order, and all else stays. -/
inductive Linked : List Heading → List Node → List Node → List Node → Prop
  | nil : Linked [] [] [] []
  | text {outline : List Heading} {ns ns' ns'' : List Node} (t : String)
      (h : Linked outline ns ns' ns'') :
      Linked outline (.text t :: ns) (.text t :: ns') (.text t :: ns'')
  | raw {outline : List Heading} {ns ns' ns'' : List Node} (t : String)
      (h : Linked outline ns ns' ns'') :
      Linked outline (.raw t :: ns) (.raw t :: ns') (.raw t :: ns'')
  | heading {entry : Heading} {e e' : Element} {n : Node} {outline : List Heading}
      {ns ns' ns'' : List Node} (he : Identified entry e e') (hn : Wraps entry e' n)
      (h : Linked outline ns ns' ns'') :
      Linked (entry :: outline) (e.toNode :: ns) (e'.toNode :: ns') (n :: ns'')
  | element {tag : String} {p : Properties} {first rest : List Heading}
      {inner inner' inner'' ns ns' ns'' : List Node} (ht : headingDepth? tag = none)
      (hi : Linked first inner inner' inner'') (h : Linked rest ns ns' ns'') :
      Linked (first ++ rest) (.element tag p inner :: ns) (.element tag p inner' :: ns')
        (.element tag p inner'' :: ns'')

/-- The heading that a sibling list starts with. -/
def leadingHeading? : List Node → Option Node
  | .element tag p children :: _ =>
    if isHeadingTag tag then some (.element tag p children) else none
  | _ => none

mutual

/-- Puts a heading in the place of the element that it is the first child of. -/
def Node.unlinked : Node → Node
  | .text t => .text t
  | .raw t => .raw t
  | .element tag p children =>
    (leadingHeading? children).getD (.element tag p (unlinked children))

def unlinked : List Node → List Node
  | [] => []
  | n :: ns => n.unlinked :: unlinked ns

end

theorem Identified.isHeadingTag {entry : Heading} {e e' : Element} (h : Identified entry e e') :
    isHeadingTag e'.tag = true := by
  rw [Folio.isHeadingTag, h.depth]
  rfl

theorem leadingHeading?_of_linked {outline : List Heading} {ns ns' ns'' : List Node}
    (h : Linked outline ns ns' ns'') : leadingHeading? ns'' = none := by
  cases h with
  | nil => rfl
  | text => rfl
  | raw => rfl
  | heading _ hn =>
    obtain ⟨p, link, label, rfl, -⟩ := hn
    rfl
  | element ht => simp [leadingHeading?, isHeadingTag, ht]

theorem unlinked_of_linked {outline : List Heading} {ns ns' ns'' : List Node}
    (h : Linked outline ns ns' ns'') : unlinked ns'' = ns' := by
  induction h with
  | nil => rfl
  | text t _ ih => rw [unlinked, Node.unlinked, ih]
  | raw t _ ih => rw [unlinked, Node.unlinked, ih]
  | heading he hn _ ih =>
    obtain ⟨p, link, label, rfl, -⟩ := hn
    rw [unlinked, Node.unlinked, ih]
    simp [leadingHeading?, Element.toNode, he.isHeadingTag]
  | element ht hi _ ihi ih =>
    -- No wrapper starts with the list of its siblings, so only what was added is taken away.
    rw [unlinked, Node.unlinked, leadingHeading?_of_linked hi, Option.getD_none, ihi, ih]

theorem headings_toNode_cons {e : Element} (hk : isHeadingTag e.tag = true) (ns : List Node) :
    headings (e.toNode :: ns) = e :: headings ns := by
  rw [headings, outermost, Element.toNode, Node.outermost, if_pos hk]
  rfl

theorem forall₂_of_linked {outline : List Heading} {ns ns' ns'' : List Node}
    (h : Linked outline ns ns' ns'') :
    List.Forall₂ (fun entry e => ∃ e', Identified entry e e') outline (headings ns) := by
  induction h with
  | nil => exact .nil
  | text t _ ih => exact ih
  | raw t _ ih => exact ih
  | @heading entry e e' n outline ns ns' ns'' he hn _ ih =>
    have hk : isHeadingTag e.tag = true := he.tag ▸ he.isHeadingTag
    rw [headings_toNode_cons hk]
    exact .cons ⟨e', he⟩ ih
  | element ht _ _ ihi ih =>
    rw [headings, outermost, Node.outermost, if_neg (by simp [isHeadingTag, ht])]
    exact List.rel_append ihi ih

/-! ### What the two passes do to a heading -/

theorem identified_set {e : Element} {depth : Nat} (slug : String)
    (hd : headingDepth? e.tag = some depth) (h : ∀ id, e.textId? = some id → id = slug) :
    Identified ⟨depth, slug, e.textContent⟩ e (e.set "id" (.text slug)) where
  depth := hd
  id := textId?_set e slug
  text := rfl
  tag := rfl
  children := rfl
  properties := rfl
  other _ hne := e.properties.get?_set_of_ne _ hne
  kept hid := by
    obtain ⟨id, hid⟩ := Option.ne_none_iff_exists'.mp hid
    obtain rfl := h id hid
    rw [Element.set, Properties.set_of_get?]
    rw [Element.textId?, Properties.getText?] at hid
    split at hid
    · rename_i s hs
      rw [hs, Option.some.inj hid]
    · cases hid

theorem giveId_identified (keepHyphen : Bool) (s : Slugger × Metadata) {e : Element}
    (hk : isHeadingTag e.tag = true) :
    ∃ entry e' slugger, Identified entry e e' ∧ giveId keepHyphen s e =
      ((slugger, { s.2 with headings := s.2.headings ++ [entry] }), [e'.toNode]) := by
  obtain ⟨depth, hd⟩ := Option.isSome_iff_exists.mp hk
  cases hid : e.properties.getText? "id" with
  | some id =>
    have he := identified_set id hd fun id' hid' => Option.some.inj (hid'.symm.trans hid)
    refine ⟨_, _, s.1, he, ?_⟩
    rw [he.kept (by rw [Element.textId?, hid]; exact Option.some_ne_none id)]
    simp only [skipped, headingIdVisitor, hd, hid]
  | none =>
    have he := identified_set (storedSlug keepHyphen (s.1.slug e.textContent).2) hd
      fun id' hid' => absurd (hid'.symm.trans hid) (Option.some_ne_none id')
    refine ⟨_, _, (s.1.slug e.textContent).1, he, ?_⟩
    simp only [skipped, headingIdVisitor, hd, hid]
    cases keepHyphen <;> rfl

/-- What comes in the place of a heading in the second pass. -/
def linkHeading (m : Metadata) (e : Element) : Metadata × List Node :=
  (m, [(e.textId?.map (wrapHeading e)).getD e.toNode])

theorem linkHeading_of_identified {entry : Heading} {e e' : Element} (h : Identified entry e e')
    (m : Metadata) : linkHeading m e' = (m, [wrapHeading e' entry.slug]) := by
  rw [linkHeading, h.id]
  rfl

theorem wraps_wrapHeading {entry : Heading} {e e' : Element} (h : Identified entry e e') :
    Wraps entry e' (wrapHeading e' entry.slug) := by
  refine ⟨_, _, _, rfl, rfl, rfl, ?_⟩
  rw [h.text]
  simp [linkIcon, textContents, Node.textContent]

theorem replaceOutermost_linkHeading_state (m : Metadata) (ns : List Node) :
    (replaceOutermost isHeadingTag linkHeading m ns).1 = m := by
  rw [replaceOutermost_state]
  exact List.foldl_fixed _

theorem headingAnchors_yields (d : Document) :
    headingAnchors.Yields d
      ⟨(replaceOutermost isHeadingTag linkHeading d.metadata d.nodes).2, d.metadata⟩ := by
  have ht : Traversal anchorVisitor d.metadata d.nodes
      (replaceOutermost isHeadingTag linkHeading d.metadata d.nodes).1
      (replaceOutermost isHeadingTag linkHeading d.metadata d.nodes).2 := by
    refine traversal_replaceOutermost isHeadingTag ?_ ?_ _ _
    · intro m e hk
      simp only [anchorVisitor, headingDepth?_eq_none hk]
    · intro m e hk
      obtain ⟨depth, hd⟩ := Option.isSome_iff_exists.mp hk
      rw [linkHeading, Element.textId?]
      cases hid : e.properties.getText? "id" with
      | none => exact .skip (by simp only [anchorVisitor, hd, hid])
      | some id => exact .replace (e := e) (by simp only [anchorVisitor, hd, hid]; rfl)
  rw [replaceOutermost_linkHeading_state] at ht
  exact Transform.ofVisitor_yields ht

/-- The second pass finds what the first one left, whatever slugs were taken before. -/
theorem linked_replaceOutermost (keepHyphen : Bool) (s : Slugger × Metadata) (ns : List Node) :
    ∃ outline, (replaceOutermost isHeadingTag (giveId keepHyphen) s ns).1.2 =
        { s.2 with headings := s.2.headings ++ outline } ∧
      ∀ m, Linked outline ns (replaceOutermost isHeadingTag (giveId keepHyphen) s ns).2
        (replaceOutermost isHeadingTag linkHeading m
          (replaceOutermost isHeadingTag (giveId keepHyphen) s ns).2).2 := by
  induction ns using nodes_induction generalizing s with
  | nil => exact ⟨[], by simp [replaceOutermost], fun _ => .nil⟩
  | text t ns ih =>
    obtain ⟨outline, hs, h⟩ := ih s
    exact ⟨outline, hs, fun m => .text t (h m)⟩
  | raw t ns ih =>
    obtain ⟨outline, hs, h⟩ := ih s
    exact ⟨outline, hs, fun m => .raw t (h m)⟩
  | element tag p children ns ihi ih =>
    rw [replaceOutermost, Node.replaceOutermost]
    split
    · rename_i hk
      obtain ⟨entry, e', slugger, he, hg⟩ :=
        giveId_identified keepHyphen s (e := ⟨tag, p, children⟩) hk
      obtain ⟨outline, hs, h⟩ := ih (giveId keepHyphen s ⟨tag, p, children⟩).1
      refine ⟨entry :: outline, ?_, ?_⟩
      · dsimp only
        rw [hs, hg]
        simp
      · intro m
        rw [hg] at h ⊢
        dsimp only [List.singleton_append]
        -- Whatever id the heading had, it has a text for an id by now and is linked.
        rw [replaceOutermost, Element.toNode, Node.replaceOutermost, if_pos he.isHeadingTag,
          linkHeading_of_identified he]
        exact .heading he (wraps_wrapHeading he) (h m)
    · rename_i hk
      obtain ⟨first, hsi, hi⟩ := ihi s
      obtain ⟨rest, hs, h⟩ := ih (replaceOutermost isHeadingTag (giveId keepHyphen) s children).1
      have ht := headingDepth?_eq_none (Bool.eq_false_iff.mpr hk)
      refine ⟨first ++ rest, ?_, ?_⟩
      · dsimp only
        rw [hs, hsi]
        simp
      · intro m
        dsimp only [List.singleton_append]
        rw [replaceOutermost, Node.replaceOutermost, if_neg hk]
        dsimp only
        rw [replaceOutermost_linkHeading_state]
        exact .element ht (hi m) (h m)

/-- The first pass writes one entry for each outermost heading and gives the heading the id of the
entry; the second puts each of these headings in front of a link to it. Nothing else changes, so the
tree is the one before the second pass once the headings stand where their links were put. -/
theorem headingIds_headingAnchors (keepHyphen : Bool) (ns : List Node) :
    ∃ outline ns' ns'', (headingIds keepHyphen).Yields ⟨ns, {}⟩ ⟨ns', { headings := outline }⟩ ∧
      headingAnchors.Yields ⟨ns', { headings := outline }⟩ ⟨ns'', { headings := outline }⟩ ∧
      Linked outline ns ns' ns'' ∧
      List.Forall₂ (fun entry e => ∃ e', Identified entry e e') outline (headings ns) ∧
      unlinked ns'' = ns' := by
  have hids := headingIds_yields_replaceOutermost keepHyphen ⟨ns, {}⟩
  obtain ⟨outline, hs, h⟩ := linked_replaceOutermost keepHyphen ({}, {}) ns
  have hlinked := h { headings := outline }
  rw [hs] at hids
  exact ⟨outline, _, _, hids, headingAnchors_yields _, hlinked, forall₂_of_linked hlinked,
    unlinked_of_linked hlinked⟩

end Folio
