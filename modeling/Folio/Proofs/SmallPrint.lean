import Folio.Proofs.CodeApart
import Folio.Proofs.Runs

/-! Subtext as one rewriting of the tree. Neither the small line nor the text behind it calls for
another one, so that a second pass changes nothing. -/

namespace Folio

/-- The tags of the elements that subtext leaves alone, with all that is inside. -/
def plainTags : List String := ["pre", "code", "small"]

/-- What becomes of some siblings. Only a text in an element, not one at the top, may start a small
line; the line goes up to the first newline, and what follows stays behind it. -/
inductive Subtexted : Bool → List Node → List Node → Prop
  | nil (inElement : Bool) : Subtexted inElement [] []
  | line {line : String} {ns ns' : List Node} (hl : '\n' ∉ line.toList)
      (h : Subtexted true ns ns') :
      Subtexted true (.text ("-# " ++ line) :: ns) (.element "small" {} [.text line] :: ns')
  | lines {line rest : String} {ns ns' : List Node} (hl : '\n' ∉ line.toList)
      (h : Subtexted true ns ns') :
      Subtexted true (.text ("-# " ++ line ++ ("\n" ++ rest)) :: ns)
        (.element "small" {} [.text line] :: .text ("\n" ++ rest) :: ns')
  | text {inElement : Bool} {s : String} {ns ns' : List Node}
      (hs : inElement = true → ¬ "-# ".toList <+: s.toList) (h : Subtexted inElement ns ns') :
      Subtexted inElement (.text s :: ns) (.text s :: ns')
  | raw {inElement : Bool} {s : String} {ns ns' : List Node} (h : Subtexted inElement ns ns') :
      Subtexted inElement (.raw s :: ns) (.raw s :: ns')
  | plain {inElement : Bool} {tag : String} {p : Properties} {children ns ns' : List Node}
      (ht : tag ∈ plainTags) (h : Subtexted inElement ns ns') :
      Subtexted inElement (.element tag p children :: ns) (.element tag p children :: ns')
  | element {inElement : Bool} {tag : String} {p : Properties} {children inner ns ns' : List Node}
      (ht : tag ∉ plainTags) (hi : Subtexted true children inner)
      (h : Subtexted inElement ns ns') :
      Subtexted inElement (.element tag p children :: ns) (.element tag p inner :: ns')

mutual

/-- The text of a tree less one marker at the start of each text that starts a small line. -/
def Node.unmarkedText (inElement : Bool) : Node → String
  | .text s =>
    if inElement = true ∧ "-# ".toList <+: s.toList then .ofList (s.toList.drop 3) else s
  | .raw _ => ""
  | .element tag _ children =>
    if tag ∈ plainTags then textContents children else unmarkedText true children

def unmarkedText (inElement : Bool) : List Node → String
  | [] => ""
  | n :: ns => n.unmarkedText inElement ++ unmarkedText inElement ns

end

/-! ### One text -/

theorem toList_marker_append (s : String) : ("-# " ++ s).toList = subtextMarker ++ s.toList :=
  String.toList_append

theorem expandSubtext_line {line : String} (hl : '\n' ∉ line.toList) :
    expandSubtext (.text ("-# " ++ line)) = [(smallLine line).toNode] := by
  have hspan := span_append (decide_ne_of_notMem hl) (b := []) (by simp)
  rw [List.append_nil] at hspan
  rw [expandSubtext, subtextNodes?, toList_marker_append, dropPrefix?_append, Option.map_some]
  simp only [hspan.1, hspan.2, String.ofList_toList, Option.getD_some]
  rfl

theorem expandSubtext_lines {line rest : String} (hl : '\n' ∉ line.toList) :
    expandSubtext (.text ("-# " ++ line ++ ("\n" ++ rest))) =
      [(smallLine line).toNode, .text ("\n" ++ rest)] := by
  have htail : ("\n" ++ rest).toList = '\n' :: rest.toList := String.toList_append
  have hspan := span_append (decide_ne_of_notMem hl) (b := '\n' :: rest.toList) (by simp)
  rw [String.append_assoc, expandSubtext, subtextNodes?, toList_marker_append, dropPrefix?_append,
    Option.map_some, String.toList_append, htail]
  simp only [hspan.1, hspan.2, String.ofList_toList, Option.getD_some]
  rw [← htail, String.ofList_toList]
  rfl

theorem expandSubtext_other {s : String} (hs : ¬ "-# ".toList <+: s.toList) :
    expandSubtext (.text s) = [.text s] := by
  have hno : Text.dropPrefix? subtextMarker s.toList = none := dropPrefix?_eq_none_iff.mpr hs
  rw [expandSubtext, subtextNodes?, hno]
  rfl

/-- A text starts with no marker, or has a small line that ends with it, or one that ends before. -/
theorem text_cases (s : String) :
    ¬ "-# ".toList <+: s.toList ∨ (∃ line, '\n' ∉ line.toList ∧ s = "-# " ++ line) ∨
      ∃ line rest, '\n' ∉ line.toList ∧ s = "-# " ++ line ++ ("\n" ++ rest) := by
  by_cases hs : "-# ".toList <+: s.toList
  · obtain ⟨r, hr⟩ := hs
    have hsr : s = "-# " ++ .ofList r := by
      rw [← String.toList_inj, toList_marker_append, String.toList_ofList, ← hr]
      rfl
    by_cases hn : '\n' ∈ r
    · obtain ⟨line, rest, rfl, hl⟩ := List.eq_append_cons_of_mem hn
      refine .inr (.inr ⟨.ofList line, .ofList rest, by simpa using hl, ?_⟩)
      rw [hsr, String.append_assoc, ← String.toList_inj]
      simp
    · exact .inr (.inl ⟨.ofList r, by simpa using hn, hsr⟩)
  · exact .inl hs

theorem not_marker_newLine (rest : String) : ¬ "-# ".toList <+: ("\n" ++ rest).toList := by
  rw [String.toList_append]
  simp

/-! ### The pass -/

/-- What the pass finds of a node when it comes to it; in an element texts are expanded before. -/
def Node.opened (inElement : Bool) (n : Node) : List Node :=
  if inElement then expandSubtext n else [n]

mutual

def Node.subtexted (inElement : Bool) : Node → List Node
  | .text s => (Node.text s).opened inElement
  | .raw s => [.raw s]
  | .element tag p children =>
    if tag ∈ plainTags then [.element tag p children]
    else [.element tag p (subtexted true children)]

def subtexted (inElement : Bool) : List Node → List Node
  | [] => []
  | n :: ns => n.subtexted inElement ++ subtexted inElement ns

end

theorem Subtexted.eq_subtexted {inElement : Bool} {ns ns' : List Node}
    (h : Subtexted inElement ns ns') : ns' = subtexted inElement ns := by
  induction h with
  | nil => rfl
  | line hl _ ih =>
    rw [subtexted, Node.subtexted, Node.opened, if_pos rfl, expandSubtext_line hl, ← ih]
    rfl
  | lines hl _ ih =>
    rw [subtexted, Node.subtexted, Node.opened, if_pos rfl, expandSubtext_lines hl, ← ih]
    rfl
  | @text inElement s ns ns' hs _ ih =>
    have hkept : Node.subtexted inElement (.text s) = [.text s] := by
      rw [Node.subtexted, Node.opened]
      split
      · rename_i hin
        exact expandSubtext_other (hs hin)
      · rfl
    rw [subtexted, hkept, ← ih]
    rfl
  | raw _ ih =>
    rw [subtexted, ← ih]
    rfl
  | plain ht _ ih =>
    rw [subtexted, Node.subtexted, if_pos ht, ← ih]
    rfl
  | element ht _ _ ihi ih =>
    rw [subtexted, Node.subtexted, if_neg ht, ← ihi, ← ih]
    rfl

theorem subtexted_subtexted (inElement : Bool) (ns : List Node) :
    Subtexted inElement ns (subtexted inElement ns) := by
  induction ns using nodes_induction generalizing inElement with
  | nil => exact .nil inElement
  | text s ns ih =>
    rw [subtexted, Node.subtexted, Node.opened]
    split
    · rename_i hin
      subst hin
      rcases text_cases s with hs | ⟨line, hl, rfl⟩ | ⟨line, rest, hl, rfl⟩
      · rw [expandSubtext_other hs]
        exact .text (fun _ => hs) (ih true)
      · rw [expandSubtext_line hl]
        exact .line hl (ih true)
      · rw [expandSubtext_lines hl]
        exact .lines hl (ih true)
    · rename_i hin
      exact .text (fun h => absurd h hin) (ih inElement)
  | raw s ns ih => exact .raw (ih inElement)
  | element tag p children ns ihi ih =>
    rw [subtexted, Node.subtexted]
    split
    · rename_i ht
      exact .plain ht (ih inElement)
    · rename_i ht
      exact .element ht (ihi true) (ih inElement)

theorem subtexted_iff {inElement : Bool} {ns ns' : List Node} :
    Subtexted inElement ns ns' ↔ ns' = subtexted inElement ns := by
  constructor
  · exact Subtexted.eq_subtexted
  · rintro rfl
    exact subtexted_subtexted inElement ns

/-- The new element is one that subtext leaves alone, and the new text starts with a newline. -/
theorem Subtexted.settled {inElement : Bool} {ns ns' : List Node}
    (h : Subtexted inElement ns ns') : Subtexted inElement ns' ns' := by
  induction h with
  | nil => exact .nil _
  | line _ _ ih => exact .plain (by decide) ih
  | @lines _ rest _ _ _ _ ih =>
    exact .plain (by decide) (.text (fun _ => not_marker_newLine rest) ih)
  | text hs _ ih => exact .text hs ih
  | raw _ ih => exact .raw ih
  | plain ht _ ih => exact .plain ht ih
  | element ht _ _ ihi ih => exact .element ht ihi ih

theorem unmarkedText_marked (s : String) : Node.unmarkedText true (.text ("-# " ++ s)) = s := by
  have hdrop : ("-# " ++ s).toList.drop 3 = s.toList := by
    rw [toList_marker_append]
    rfl
  rw [Node.unmarkedText, if_pos ⟨rfl, s.toList, (toList_marker_append s).symm⟩, hdrop,
    String.ofList_toList]

theorem smallLine_textContent (line : String) :
    (Node.element "small" {} [.text line]).textContent = line := by
  simp [Node.textContent, textContents]

theorem Subtexted.textContents_eq {inElement : Bool} {ns ns' : List Node}
    (h : Subtexted inElement ns ns') : textContents ns' = unmarkedText inElement ns := by
  induction h with
  | nil => rfl
  | line _ _ ih =>
    rw [unmarkedText, unmarkedText_marked, ← ih, textContents, smallLine_textContent]
  | lines _ _ ih =>
    rw [unmarkedText, String.append_assoc, unmarkedText_marked, ← ih, textContents, textContents,
      smallLine_textContent, Node.textContent]
    simp only [String.append_assoc]
  | text hs _ ih =>
    rw [unmarkedText, Node.unmarkedText, if_neg (fun h => hs h.1 h.2), ← ih]
    rfl
  | raw _ ih =>
    rw [unmarkedText, ← ih]
    rfl
  | plain ht _ ih =>
    rw [unmarkedText, Node.unmarkedText, if_pos ht, ← ih]
    rfl
  | element ht _ _ ihi ih =>
    rw [unmarkedText, Node.unmarkedText, if_neg ht, ← ihi, ← ih]
    rfl

theorem small_mem_plainTags : "small" ∈ plainTags := by
  decide

theorem subtextVisitor_plain (m : Metadata) {e : Element} (ht : e.tag ∈ plainTags) :
    subtextVisitor m e = (m, e, .skip) := by
  have htag : e.tag = "pre" ∨ e.tag = "code" ∨ e.tag = "small" := by simpa [plainTags] using ht
  rw [subtextVisitor, if_pos htag]

theorem subtextVisitor_element (m : Metadata) {e : Element} (ht : e.tag ∉ plainTags) :
    subtextVisitor m e = (m, { e with children := e.children.flatMap expandSubtext }, .enter) := by
  have htag : ¬ (e.tag = "pre" ∨ e.tag = "code" ∨ e.tag = "small") := by
    simpa [plainTags] using ht
  rw [subtextVisitor, if_neg htag]

theorem passes_of_mem_expandSubtext (m : Metadata) {s : String} {n : Node}
    (h : n ∈ expandSubtext (.text s)) : Passes subtextVisitor m n m [n] := by
  have hsmall : ∀ line,
      Passes subtextVisitor m (smallLine line).toNode m [(smallLine line).toNode] := fun line =>
    .skip (subtextVisitor_plain m (e := smallLine line) small_mem_plainTags)
  rcases text_cases s with hs | ⟨line, hl, rfl⟩ | ⟨line, rest, hl, rfl⟩
  · rw [expandSubtext_other hs] at h
    obtain rfl := List.mem_singleton.mp h
    exact .text s
  · rw [expandSubtext_line hl] at h
    obtain rfl := List.mem_singleton.mp h
    exact hsmall line
  · rw [expandSubtext_lines hl] at h
    rcases List.mem_pair.mp h with rfl | rfl
    · exact hsmall line
    · exact .text _

theorem traversal_append_of_passes {σ : Type} {v : Visitor σ} {s s' : σ} {ns ms ms' : List Node}
    (hp : ∀ n ∈ ns, Passes v s n s [n]) (h : Traversal v s ms s' ms') :
    Traversal v s (ns ++ ms) s' (ns ++ ms') := by
  induction ns with
  | nil => exact h
  | cons n ns ih =>
    obtain ⟨hn, hns⟩ := List.forall_mem_cons.mp hp
    show Traversal v s (n :: (ns ++ ms)) s' ([n] ++ (ns ++ ms'))
    exact .pass hn (ih hns)

theorem traversal_subtexted (m : Metadata) (inElement : Bool) (ns : List Node) :
    Traversal subtextVisitor m (ns.flatMap (Node.opened inElement)) m (subtexted inElement ns) := by
  induction ns using nodes_induction generalizing inElement with
  | nil => exact .nil m
  | text s ns ih =>
    rw [List.flatMap_cons, subtexted, Node.subtexted]
    refine traversal_append_of_passes (fun n hn => ?_) (ih inElement)
    cases inElement with
    | true => exact passes_of_mem_expandSubtext m hn
    | false =>
      obtain rfl := List.mem_singleton.mp hn
      exact .text s
  | raw s ns ih =>
    have hopened : Node.opened inElement (.raw s) = [.raw s] := ite_self _
    rw [List.flatMap_cons, hopened]
    exact .pass (.raw s) (ih inElement)
  | element tag p children ns ihi ih =>
    have hopened : Node.opened inElement (.element tag p children) = [.element tag p children] :=
      ite_self _
    rw [List.flatMap_cons, hopened, subtexted, Node.subtexted]
    split
    · rename_i ht
      exact .pass (.skip (subtextVisitor_plain m ht)) (ih inElement)
    · rename_i ht
      exact .enter (subtextVisitor_element m ht) (ihi true) (ih inElement)

/-- One pass turns each text with a marker, right inside an element that is not left alone, into a
small line and the text behind that; all else stays, and the text of the document loses these markers
and nothing more. A second pass changes nothing. -/
theorem subtext_settles (d : Document) :
    ∃ ns, subtext.Yields d ⟨ns, d.metadata⟩ ∧ (∀ ns', Subtexted false d.nodes ns' ↔ ns' = ns) ∧
      textContents ns = unmarkedText false d.nodes ∧
      subtext.Yields ⟨ns, d.metadata⟩ ⟨ns, d.metadata⟩ := by
  have hyields : ∀ ns, subtext.Yields ⟨ns, d.metadata⟩ ⟨subtexted false ns, d.metadata⟩ := by
    intro ns
    have ht := traversal_subtexted d.metadata false ns
    rw [show ns.flatMap (Node.opened false) = ns from List.flatMap_singleton' ns] at ht
    exact Transform.ofVisitor_yields ht
  have hspec := subtexted_subtexted false d.nodes
  refine ⟨_, hyields d.nodes, fun _ => subtexted_iff, hspec.textContents_eq, ?_⟩
  have hagain := hyields (subtexted false d.nodes)
  rwa [← hspec.settled.eq_subtexted] at hagain

end Folio
