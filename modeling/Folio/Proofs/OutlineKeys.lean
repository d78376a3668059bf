import Folio.Proofs.HeadingLinks
import Folio.Proofs.ImageFolding

/-! What the outline of a document depends on. It takes three things from each heading, and a pass
over other elements that keeps these keys keeps the outline. -/

namespace Folio

/-- What the outline takes from a heading: its depth, its own id and its text. -/
def Element.outlineKey (e : Element) : Option Nat × Option String × String :=
  (headingDepth? e.tag, e.textId?, e.textContent)

def outlineKeys (ns : List Node) : List (Option Nat × Option String × String) :=
  (headings ns).map (·.outlineKey)

theorem outlineKeys_append (ns ms : List Node) :
    outlineKeys (ns ++ ms) = outlineKeys ns ++ outlineKeys ms := by
  rw [outlineKeys, headings, outermost_append, List.map_append]
  rfl

theorem outlineKeys_cons (n : Node) (ns : List Node) :
    outlineKeys (n :: ns) = outlineKeys [n] ++ outlineKeys ns :=
  outlineKeys_append [n] ns

theorem outlineKeys_toNode (e : Element) :
    outlineKeys [e.toNode] =
      if isHeadingTag e.tag then [e.outlineKey] else outlineKeys e.children := by
  rw [outlineKeys, headings, outermost, Element.toNode, Node.outermost, outermost, List.append_nil]
  split
  · rfl
  · rfl

theorem textContents_append (ns ms : List Node) :
    textContents (ns ++ ms) = textContents ns ++ textContents ms := by
  induction ns with
  | nil => simp [textContents]
  | cons n ns ih => rw [List.cons_append, textContents, textContents, ih, String.append_assoc]

/-! ### The outline -/

theorem giveId_state_of_outlineKey_eq (keepHyphen : Bool) (s : Slugger × Metadata) {e e' : Element}
    (h : e.outlineKey = e'.outlineKey) : (giveId keepHyphen s e).1 = (giveId keepHyphen s e').1 := by
  simp only [Element.outlineKey, Prod.mk.injEq, Element.textId?] at h
  obtain ⟨hdepth, hid, htext⟩ := h
  simp only [skipped, headingIdVisitor, hdepth, hid, htext]
  cases headingDepth? e'.tag with
  | none => rfl
  | some depth =>
    cases e'.properties.getText? "id" with
    | none => rfl
    | some id => rfl

theorem stateAfter_of_outlineKeys_eq (keepHyphen : Bool) (s : Slugger × Metadata)
    {es es' : List Element} (h : es.map (·.outlineKey) = es'.map (·.outlineKey)) :
    stateAfter (giveId keepHyphen) s es = stateAfter (giveId keepHyphen) s es' := by
  induction es generalizing s es' with
  | nil =>
    obtain rfl := List.map_eq_nil_iff.mp h.symm
    rfl
  | cons e es ih =>
    cases es' with
    | nil => cases h
    | cons e' es' =>
      obtain ⟨hhead, htail⟩ := List.cons.inj h
      have hstate := giveId_state_of_outlineKey_eq keepHyphen s hhead
      have hrest := ih (giveId keepHyphen s e').1 htail
      simp only [stateAfter, List.foldl_cons] at hrest ⊢
      rw [hstate, hrest]

/-- The metadata after the outline has been added to it. -/
def outlined (keepHyphen : Bool) (m : Metadata) (ns : List Node) : Metadata :=
  (stateAfter (giveId keepHyphen) ({}, m) (headings ns)).2

theorem outlined_congr (keepHyphen : Bool) (m : Metadata) {ns ns' : List Node}
    (h : outlineKeys ns = outlineKeys ns') :
    outlined keepHyphen m ns = outlined keepHyphen m ns' := by
  rw [outlined, stateAfter_of_outlineKeys_eq keepHyphen _ h]
  rfl

theorem headingIds_yields_outlined (keepHyphen : Bool) (d : Document) :
    ∃ ns, (headingIds keepHyphen).Yields d ⟨ns, outlined keepHyphen d.metadata d.nodes⟩ := by
  have h := headingIds_yields_replaceOutermost keepHyphen d
  rw [replaceOutermost_state] at h
  exact ⟨_, h⟩

/-! ### Folding images -/

variable {σ : Type} {kind : String → Bool} {f : σ → Element → σ × List Node}

theorem textContents_replaceOutermost
    (h : ∀ s e, kind e.tag = true → textContents (f s e).2 = e.textContent) (s : σ)
    (ns : List Node) : textContents (replaceOutermost kind f s ns).2 = textContents ns := by
  induction ns using nodes_induction generalizing s with
  | nil => rfl
  | text t ns ih => exact congrArg (t ++ ·) (ih s)
  | raw t ns ih => exact congrArg ("" ++ ·) (ih s)
  | element tag p children ns ihi ih =>
    rw [replaceOutermost, Node.replaceOutermost, textContents_append, ih, textContents]
    split
    · rename_i hk
      rw [h s ⟨tag, p, children⟩ hk]
      rfl
    · rw [textContents, Node.textContent, ihi, textContents, String.append_empty, Node.textContent]

/-- A pass that puts elements with the same text and the same headings in the place of others keeps
the keys of the outline. -/
theorem outlineKeys_replaceOutermost
    (htext : ∀ s e, kind e.tag = true → textContents (f s e).2 = e.textContent)
    (hkeys : ∀ s e, kind e.tag = true → outlineKeys (f s e).2 = outlineKeys [e.toNode]) (s : σ)
    (ns : List Node) : outlineKeys (replaceOutermost kind f s ns).2 = outlineKeys ns := by
  induction ns using nodes_induction generalizing s with
  | nil => rfl
  | text t ns ih => exact ih s
  | raw t ns ih => exact ih s
  | element tag p children ns ihi ih =>
    rw [replaceOutermost, Node.replaceOutermost, outlineKeys_append, ih, outlineKeys_cons _ ns]
    congr 1
    split
    · rename_i hk
      exact hkeys s ⟨tag, p, children⟩ hk
    · have hinner := textContents_replaceOutermost htext s children
      have hafter := outlineKeys_toNode ⟨tag, p, (replaceOutermost kind f s children).2⟩
      have hbefore := outlineKeys_toNode ⟨tag, p, children⟩
      dsimp only [Element.toNode, Element.outlineKey, Element.textContent] at hafter hbefore
      rw [hafter, hbefore, hinner, ihi]
      rfl

namespace Image

theorem foldVisitor_of_isImage (s : List String × Metadata) {e : Element}
    (hk : isImage e.tag = true) :
    ∃ p, (skipped foldVisitor s e).2 = [.element e.tag p e.children] := by
  rw [skipped, foldVisitor, if_pos (by simpa [isImage] using hk)]
  split
  · exact ⟨_, rfl⟩
  · dsimp only
    split
    · exact ⟨_, rfl⟩
    · exact ⟨_, rfl⟩

theorem foldVisitor_metadata (s : List String × Metadata) (e : Element) :
    (skipped foldVisitor s e).1.2 = s.2 := by
  rw [skipped, foldVisitor]
  split
  · split
    · rfl
    · dsimp only
      split
      · rfl
      · rfl
  · rfl

theorem foldProperties_yields_keys (d : Document) :
    ∃ ns, foldProperties.Yields d ⟨ns, d.metadata⟩ ∧ outlineKeys ns = outlineKeys d.nodes := by
  have htext : ∀ s e, isImage e.tag = true →
      textContents (skipped foldVisitor s e).2 = e.textContent := by
    intro s e hk
    obtain ⟨p, hp⟩ := foldVisitor_of_isImage s hk
    rw [hp]
    simp [textContents, Node.textContent, Element.textContent]
  have hkeys : ∀ s e, isImage e.tag = true →
      outlineKeys (skipped foldVisitor s e).2 = outlineKeys [e.toNode] := by
    intro s e hk
    obtain ⟨p, hp⟩ := foldVisitor_of_isImage s hk
    have htag : isHeadingTag e.tag = false := by
      rw [show e.tag = "img" by simpa [isImage] using hk]
      rfl
    have hafter := outlineKeys_toNode ⟨e.tag, p, e.children⟩
    rw [hp, outlineKeys_toNode, if_neg (by simp [htag])]
    rwa [if_neg (by simp [htag])] at hafter
  have hy := foldProperties_yields d.metadata d.nodes
  rw [replaceOutermost_state,
    stateAfter_kept Prod.snd foldVisitor_metadata ([], d.metadata)] at hy
  exact ⟨_, hy, outlineKeys_replaceOutermost htext hkeys _ _⟩

end Image

end Folio
