import Folio.Proofs.CalloutEnding
import Folio.Proofs.FirstLine
import Folio.Proofs.TitleMarker

/-! What a callout holds. The first paragraph is cut at its first newline, the marker goes from the
first line, and everything else of the blockquote stays in its order. -/

namespace Folio.Callout

theorem titleNodes_marker (p : MarkerLayout) (start : Node) (more : List Node) :
    titleNodes p.marker (start :: more) = textNodes p.title ++ more := by
  cases ht : p.title with
  | nil => simp [titleNodes, MarkerLayout.marker, ht, textNodes]
  | cons c title =>
    simp [titleNodes, MarkerLayout.marker, ht, textNodes]

theorem innerTitle_children (c : Config) (t : Entries) (o : Opening) :
    (innerTitle c t o).children =
      if titleNodes o.marker o.split.title = [] then [.text (defaultTitle c t o.marker.kind)]
      else titleNodes o.marker o.split.title := by
  unfold innerTitle
  split
  · rfl
  · rfl

theorem innerTitle_classes (c : Config) (t : Entries) (o : Opening) :
    (innerTitle c t o).properties.classes = ["callout-title-inner"] := by
  unfold innerTitle
  split
  · rfl
  · rw [Properties.classes, Properties.get?_set]

/-- How the content of the blockquote `e` comes into the callout `e'`. -/
structure Repacking (c : Config) (t : Entries) (e e' : Element) where
  paragraph : Properties
  line : List Node
  rest : List Node
  blocks_eq : blocks e = .element "p" paragraph line :: rest
  /-- The text at the start of the first line, and the nodes behind it. -/
  start : MarkerLayout
  more : List Node
  body : Option (List Node)
  line_eq : ∃ s nodes, line = .text (.ofList (start.mark ++ s)) :: nodes
  cut : CutAtNewline line ⟨.text start.text :: more, body⟩
  start_rest : start.rest = []
  quoteMarker?_eq : quoteMarker? t e = some start.marker
  body_isSome_iff : body.isSome ↔ ∃ n ∈ line, hasNewline n = true
  title : Element
  content : Element
  children_eq : e'.children = [title.toNode, content.toNode]
  content_children : content.children = (body.map (.element "p" {})).toList ++ rest
  inner : Element
  title_children : title.children = iconNodes c t start.marker.kind ++ inner.toNode ::
    (if start.fold.isFoldable then [foldIconNode c.tagNames.icon] else [])
  inner_classes : inner.properties.classes = ["callout-title-inner"]
  inner_children : inner.children =
    if textNodes start.title ++ more = [] then [.text (defaultTitle c t start.marker.kind)]
    else textNodes start.title ++ more

/-- A callout holds all that the blockquote held, less the marker, the first newline and a hard
break there, or the default title if that leaves no title. -/
theorem nonempty_repacking {c : Config} {t : Entries} {e e' : Element}
    (h : callout? c t e = some e') : Nonempty (Repacking c t e e') := by
  obtain ⟨a, p, nodes, rest, -, hb, hn, hm, rfl⟩ := exists_layout_of_callout? h
  obtain ⟨more, hmore⟩ := p.splitTitle_text hn nodes
  have hcut := cutAtNewline_splitTitle (.text p.text :: nodes)
  let o : Opening := ⟨p.marker, a, splitTitle (.text p.text :: nodes)⟩
  have htitle : titleNodes o.marker o.split.title = textNodes p.title ++ more := by
    rw [show o.split.title = .text p.line.text :: more from hmore]
    exact titleNodes_marker p _ more
  have hinner := innerTitle_children c t o
  rw [htitle] at hinner
  exact ⟨{
    paragraph := a
    line := .text p.text :: nodes
    rest := rest
    blocks_eq := hb
    start := p.line
    more := more
    body := o.split.body
    line_eq := ⟨p.title ++ p.rest, nodes, by rw [← List.append_assoc]; rfl⟩
    cut := hmore ▸ hcut
    start_rest := rfl
    quoteMarker?_eq := hm
    body_isSome_iff := hcut.isSome_body_iff
    title := titleElement c t o
    content := contentElement c o rest
    children_eq := rfl
    content_children := rfl
    inner := innerTitle c t o
    title_children := by rw [titleElement_eq]; rfl
    inner_classes := innerTitle_classes c t o
    inner_children := hinner }⟩

def brokenTitle : Element :=
  ⟨"blockquote", {}, [.text "\n", .element "p" {} [.text " [!Margin]+ Mind ",
    .element "em" {} [.text "the"], .element "br" {} [], .text "\ngap"], .text "\n",
    .element "p" {} [.text "more"]]⟩

theorem nonempty_repacking_brokenTitle :
    ∃ e', callout? asideColor.resolve asideColor.resolve.allEntries brokenTitle = some e' ∧
      Nonempty (Repacking asideColor.resolve asideColor.resolve.allEntries brokenTitle e') := by
  have hsome : (callout? asideColor.resolve asideColor.resolve.allEntries brokenTitle).isSome := by
    decide +kernel
  obtain ⟨e', he⟩ := Option.isSome_iff_exists.mp hsome
  exact ⟨e', he, nonempty_repacking he⟩

end Folio.Callout
