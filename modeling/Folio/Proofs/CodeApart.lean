import Folio.Code.Highlight
import Folio.Document.Subtext
import Folio.Proofs.OutlineKeys
import Folio.Proofs.Preorder
import Folio.Proofs.Search

/-! Trees in which headings and code blocks stand apart. Subtext keeps them apart, and highlighting
then changes nothing that the outline takes from a heading. -/

namespace Folio

def Headingless (ns : List Node) : Prop :=
  ∀ e, Within e ns → isHeadingTag e.tag = false

/-- No `pre` holds a heading, and no heading holds a `pre`. -/
def CodeApart (ns : List Node) : Prop :=
  ∀ e, Within e ns → (e.tag = "pre" → Headingless e.children) ∧
    (isHeadingTag e.tag = true → Without "pre" e.children)

instance (ns : List Node) : Decidable (Headingless ns) :=
  decidable_of_iff (∀ e ∈ elements ns, isHeadingTag e.tag = false)
    (by simp only [Headingless, mem_elements_iff])

instance (ns : List Node) : Decidable (CodeApart ns) :=
  decidable_of_iff (∀ e ∈ elements ns, (e.tag = "pre" → Headingless e.children) ∧
    (isHeadingTag e.tag = true → Without "pre" e.children))
    (by simp only [CodeApart, mem_elements_iff])

theorem codeApart_cons {n : Node} {ns : List Node} :
    CodeApart (n :: ns) ↔ CodeApart [n] ∧ CodeApart ns :=
  forall_within_cons

theorem codeApart_toNode {d : Element} :
    CodeApart [d.toNode] ↔ ((d.tag = "pre" → Headingless d.children) ∧
      (isHeadingTag d.tag = true → Without "pre" d.children)) ∧ CodeApart d.children :=
  forall_within_element

theorem outlineKeys_of_headingless {ns : List Node} (h : Headingless ns) : outlineKeys ns = [] := by
  have hnone : headings ns = [] := by
    refine List.eq_nil_iff_forall_not_mem.mpr fun e he => ?_
    have hk := kind_of_mem_outermost he
    rw [h e (within_of_mem_outermost he)] at hk
    cases hk
  rw [outlineKeys, hnone]
  rfl

/-! ### Subtext -/

def smallLine (line : String) : Element :=
  ⟨"small", {}, [.text line]⟩

theorem mem_expandSubtext {d : Element} {n : Node} (h : d.toNode ∈ expandSubtext n) :
    n = d.toNode ∨ ∃ text line, n = .text text ∧ d = smallLine line ∧
      line.toList.length + 2 < text.toList.length := by
  cases n with
  | raw t =>
    cases List.mem_singleton.mp h
  | element tag p children => exact .inl (List.mem_singleton.mp h).symm
  | text text =>
    right
    rw [expandSubtext, subtextNodes?] at h
    cases hs : Text.dropPrefix? subtextMarker text.toList with
    | none =>
      rw [hs] at h
      cases List.mem_singleton.mp h
    | some s =>
      rw [hs] at h
      have htext := eq_append_of_dropPrefix? hs
      have hd : d = smallLine (.ofList (s.takeWhile (· ≠ '\n'))) := by
        simp only [Option.map_some, Option.getD_some] at h
        split at h
        · exact toNode_inj.mp (List.mem_singleton.mp h)
        · rcases List.mem_pair.mp h with h | h
          · exact toNode_inj.mp h
          · cases h
      have hline := (List.takeWhile_sublist (· ≠ '\n') (l := s)).length_le
      refine ⟨text, _, rfl, hd, ?_⟩
      rw [String.toList_ofList, htext, List.length_append]
      simp only [subtextMarker, List.length_cons, List.length_nil]
      omega

theorem within_flatMap_expandSubtext {e : Element} {ns : List Node}
    (h : Within e (ns.flatMap expandSubtext)) : Within e ns ∨ ∃ line, e = smallLine line := by
  induction ns with
  | nil => exact .inl h
  | cons n ns ih =>
    rw [List.flatMap_cons, within_append] at h
    rcases h with h | h
    · cases n with
      | text t =>
        right
        cases h with
        | here hm =>
          rcases mem_expandSubtext hm with ht | ⟨_, line, -, rfl, -⟩
          · cases ht
          · exact ⟨line, rfl⟩
        | inside hd hin =>
          rcases mem_expandSubtext hd with ht | ⟨_, line, -, rfl, -⟩
          · cases ht
          · exact absurd hin not_within_text
      | raw t => exact .inl (within_cons.mpr (.inl h))
      | element tag p children => exact .inl (within_cons.mpr (.inl h))
    · exact (ih h).imp_left fun h => within_cons.mpr (.inr h)

theorem without_flatMap_expandSubtext {ns : List Node} (h : Without "pre" ns) :
    Without "pre" (ns.flatMap expandSubtext) := by
  intro e he
  rcases within_flatMap_expandSubtext he with he | ⟨line, rfl⟩
  · exact h e he
  · exact show "small" ≠ "pre" by decide

theorem codeApart_flatMap_expandSubtext {ns : List Node} (h : CodeApart ns) :
    CodeApart (ns.flatMap expandSubtext) := by
  intro e he
  rcases within_flatMap_expandSubtext he with he | ⟨line, rfl⟩
  · exact h e he
  · exact ⟨fun hp => absurd hp (show "small" ≠ "pre" by decide),
      fun hk => absurd hk (show ¬ isHeadingTag "small" = true by decide)⟩

theorem subtextVisitor_enter {m m₁ : Metadata} {e e' : Element}
    (h : subtextVisitor m e = (m₁, e', .enter)) :
    e.tag ≠ "pre" ∧ e' = { e with children := e.children.flatMap expandSubtext } := by
  rw [subtextVisitor] at h
  split_ifs at h with ht
  · cases h
  · cases h
    exact ⟨fun hp => ht (.inl hp), rfl⟩

theorem subtextVisitor_passes {m m₁ : Metadata} {n : Node} {new : List Node}
    (h : Passes subtextVisitor m n m₁ new) : new = [n] := by
  cases h with
  | text => rfl
  | raw => rfl
  | skip hv =>
    rw [subtextVisitor] at hv
    split_ifs at hv
    · cases hv
      rfl
    · cases hv
  | replace hv =>
    rw [subtextVisitor] at hv
    split_ifs at hv
    · cases hv
    · cases hv

theorem subtextVisitor_descends : Descends subtextVisitor Element.size := by
  intro m e m₁ e' hv d hd
  obtain ⟨-, rfl⟩ := subtextVisitor_enter hv
  obtain ⟨n, hn, hd⟩ := List.mem_flatMap.mp hd
  rcases mem_expandSubtext hd with rfl | ⟨text, line, rfl, rfl, hline⟩
  · exact size_lt_of_mem_children hn
  · have hsize := size_le_of_mem hn
    simp only [Element.size, smallLine, sizes, Node.size] at hsize ⊢
    omega

theorem subtextVisitor_metadata (m : Metadata) (e : Element) : (subtextVisitor m e).1 = m := by
  rw [subtextVisitor]
  split_ifs
  · rfl
  · rfl

theorem without_of_traversal_subtext {m m' : Metadata} {ns ns' : List Node}
    (h : Traversal subtextVisitor m ns m' ns') (hw : Without "pre" ns) : Without "pre" ns' := by
  induction h with
  | nil => exact hw
  | pass hp _ ih =>
    obtain ⟨hn, hns⟩ := without_cons.mp hw
    rw [subtextVisitor_passes hp]
    exact without_append hn (ih hns)
  | @enter _ _ _ _ tag p children e inner ns ns' hv _ _ ihi ih =>
    obtain ⟨hn, hns⟩ := without_cons.mp hw
    obtain ⟨htag, rfl⟩ := subtextVisitor_enter hv
    obtain ⟨-, hchildren⟩ := forall_within_element (d := ⟨tag, p, children⟩).mp hn
    have hinner := ihi (without_flatMap_expandSubtext hchildren)
    exact without_append (without_element (d := ⟨tag, p, inner⟩) htag hinner) (ih hns)

/-- Subtext puts no heading into a `pre` and no `pre` into a heading. -/
theorem codeApart_of_traversal_subtext {m m' : Metadata} {ns ns' : List Node}
    (h : Traversal subtextVisitor m ns m' ns') (hc : CodeApart ns) : CodeApart ns' := by
  induction h with
  | nil => exact hc
  | pass hp _ ih =>
    obtain ⟨hn, hns⟩ := codeApart_cons.mp hc
    rw [subtextVisitor_passes hp]
    exact codeApart_cons.mpr ⟨hn, ih hns⟩
  | @enter _ _ _ _ tag p children e inner ns ns' hv hi _ ihi ih =>
    obtain ⟨hn, hns⟩ := codeApart_cons.mp hc
    obtain ⟨htag, rfl⟩ := subtextVisitor_enter hv
    obtain ⟨⟨-, hheading⟩, hchildren⟩ := codeApart_toNode (d := ⟨tag, p, children⟩).mp hn
    refine codeApart_cons.mpr ⟨codeApart_toNode (d := ⟨tag, p, inner⟩).mpr ⟨⟨?_, ?_⟩, ?_⟩, ih hns⟩
    · exact fun hp => absurd hp htag
    · intro hk
      exact without_of_traversal_subtext hi (without_flatMap_expandSubtext (hheading hk))
    · exact ihi (codeApart_flatMap_expandSubtext hchildren)

theorem subtext_yields {d : Document} (h : CodeApart d.nodes) :
    ∃ ns, subtext.Yields d ⟨ns, d.metadata⟩ ∧ CodeApart ns := by
  have ht := traversal_preorder subtextVisitor_descends d.metadata d.nodes
  have hm := ht.state_kept id subtextVisitor_metadata
  have hc := codeApart_of_traversal_subtext ht h
  rw [show (preorder subtextVisitor subtextVisitor_descends d.metadata d.nodes).1 = d.metadata
    from hm] at ht
  exact ⟨_, Transform.ofVisitor_yields ht, hc⟩

/-! ### Highlighting -/

section Highlighting

variable {h : Code.Highlighter} {excluded : List String}

theorem highlightVisitor_cases (h : Code.Highlighter) (excluded : List String) (m : Metadata)
    (e : Element) :
    (∃ answer, (answer = .enter ∨ answer = .skip) ∧
      Code.highlightVisitor h excluded m e = (m, e, answer)) ∨
    ∃ markup, e.tag = "pre" ∧
      Code.highlightVisitor h excluded m e = (m, e, .replace [.raw markup]) := by
  rw [Code.highlightVisitor]
  split
  · rename_i htag
    split
    · exact .inl ⟨_, .inl rfl, rfl⟩
    · dsimp only
      split
      · exact .inl ⟨_, .inr rfl, rfl⟩
      · split
        · exact .inr ⟨_, htag, rfl⟩
        · exact .inl ⟨_, .inr rfl, rfl⟩
  · exact .inl ⟨_, .inl rfl, rfl⟩

theorem highlightVisitor_metadata (m : Metadata) (e : Element) :
    (Code.highlightVisitor h excluded m e).1 = m := by
  rcases highlightVisitor_cases h excluded m e with ⟨_, -, hv⟩ | ⟨_, -, hv⟩
  · rw [hv]
  · rw [hv]

theorem highlightVisitor_enter {m m₁ : Metadata} {e e' : Element}
    (hv : Code.highlightVisitor h excluded m e = (m₁, e', .enter)) : e' = e := by
  rcases highlightVisitor_cases h excluded m e with ⟨_, -, hv'⟩ | ⟨_, -, hv'⟩
  · rw [hv'] at hv
    cases hv
    rfl
  · rw [hv'] at hv
    cases hv

theorem highlightVisitor_passes {m m₁ : Metadata} {n : Node} {new : List Node}
    (hp : Passes (Code.highlightVisitor h excluded) m n m₁ new) :
    new = [n] ∨ ∃ (e : Element) (markup : String),
      e.tag = "pre" ∧ n = e.toNode ∧ new = [.raw markup] := by
  cases hp with
  | text => exact .inl rfl
  | raw => exact .inl rfl
  | @skip _ tag p children _ hv =>
    rcases highlightVisitor_cases h excluded m ⟨tag, p, children⟩ with
      ⟨_, -, hv'⟩ | ⟨_, -, hv'⟩
    · rw [hv'] at hv
      cases hv
      exact .inl rfl
    · rw [hv'] at hv
      cases hv
  | @replace _ tag p children _ _ hv =>
    rcases highlightVisitor_cases h excluded m ⟨tag, p, children⟩ with
      ⟨_, hanswer, hv'⟩ | ⟨markup, htag, hv'⟩
    · rw [hv'] at hv
      cases hv
      rcases hanswer with hanswer | hanswer
      · cases hanswer
      · cases hanswer
    · rw [hv'] at hv
      cases hv
      exact .inr ⟨⟨tag, p, children⟩, markup, htag, rfl, rfl⟩

theorem highlightVisitor_descends (h : Code.Highlighter) (excluded : List String) :
    Descends (Code.highlightVisitor h excluded) Element.size := by
  intro m e m₁ e' hv d hd
  rw [highlightVisitor_enter hv] at hd
  exact size_lt_of_mem_children hd

theorem eq_of_traversal_highlight {m m' : Metadata} {ns ns' : List Node}
    (ht : Traversal (Code.highlightVisitor h excluded) m ns m' ns') (hw : Without "pre" ns) :
    ns' = ns := by
  induction ht with
  | nil => rfl
  | pass hp _ ih =>
    obtain ⟨hn, hns⟩ := without_cons.mp hw
    rcases highlightVisitor_passes hp with rfl | ⟨e, _, htag, rfl, -⟩
    · rw [ih hns]
      rfl
    · exact absurd htag (hn e (.here (List.mem_singleton.mpr rfl)))
  | @enter _ _ _ _ tag p children e inner ns ns' hv _ _ ihi ih =>
    obtain ⟨hn, hns⟩ := without_cons.mp hw
    obtain rfl := highlightVisitor_enter hv
    obtain ⟨-, hchildren⟩ := forall_within_element (d := ⟨tag, p, children⟩).mp hn
    rw [ihi hchildren, ih hns]

/-- What is highlighted is no part of a heading and has none in it. -/
theorem outlineKeys_of_traversal_highlight {m m' : Metadata} {ns ns' : List Node}
    (ht : Traversal (Code.highlightVisitor h excluded) m ns m' ns') (hc : CodeApart ns) :
    outlineKeys ns' = outlineKeys ns := by
  induction ht with
  | nil => rfl
  | @pass _ _ _ n new ns ns' hp _ ih =>
    obtain ⟨hn, hns⟩ := codeApart_cons.mp hc
    rw [outlineKeys_append, ih hns, outlineKeys_cons n]
    congr 1
    rcases highlightVisitor_passes hp with rfl | ⟨e, markup, htag, rfl, rfl⟩
    · rfl
    · have hnone : outlineKeys e.children = [] :=
        outlineKeys_of_headingless ((codeApart_toNode.mp hn).1.1 htag)
      have hkind : isHeadingTag e.tag = false := by
        rw [htag]
        rfl
      rw [outlineKeys_toNode, if_neg (by simp [hkind]), hnone]
      rfl
  | @enter _ _ _ _ tag p children e inner ns ns' hv hi _ ihi ih =>
    obtain ⟨hn, hns⟩ := codeApart_cons.mp hc
    obtain rfl := highlightVisitor_enter hv
    obtain ⟨⟨-, hheading⟩, hchildren⟩ := codeApart_toNode (d := ⟨tag, p, children⟩).mp hn
    rw [outlineKeys_cons (.element _ _ inner), ih hns, outlineKeys_cons (.element tag p children)]
    congr 1
    have hafter := outlineKeys_toNode ⟨tag, p, inner⟩
    have hbefore := outlineKeys_toNode ⟨tag, p, children⟩
    by_cases hk : isHeadingTag tag = true
    · rw [eq_of_traversal_highlight hi (hheading hk)]
    · rw [if_neg hk] at hafter hbefore
      exact hafter.trans ((ihi hchildren).trans hbefore.symm)

theorem highlight_yields (h : Code.Highlighter) (excluded : List String) {d : Document} (hc : CodeApart d.nodes) :
    ∃ ns, (Code.highlight h excluded).Yields d ⟨ns, d.metadata⟩ ∧
      outlineKeys ns = outlineKeys d.nodes := by
  have ht := traversal_preorder (highlightVisitor_descends h excluded) d.metadata d.nodes
  have hm := ht.state_kept id highlightVisitor_metadata
  have hkeys := outlineKeys_of_traversal_highlight ht hc
  rw [show (preorder _ (highlightVisitor_descends h excluded) d.metadata d.nodes).1 = d.metadata from hm] at ht
  exact ⟨_, Transform.ofVisitor_yields ht, hkeys⟩

end Highlighting

end Folio
