import Folio.Callout.Marker
import Folio.Callout.Options
import Folio.Callout.Split
import Folio.Document.Basic
import Folio.Markup.Fragment

/-! Turning blockquotes with a marker into callouts: a container with a title and a content. -/

namespace Folio.Callout

/-- An element around the parts of an icon. -/
def iconNode (tag cls : String) (parts : List Node) : Node :=
  .element tag ⟨[("class", .tokens [cls]), ("aria-hidden", .text "true")]⟩ parts

/-- The indicator of a kind, unless it has none or its markup is faulty. -/
def indicatorNode? (t : Entries) (kind tag : String) : Option Node := do
  let markup ← (← t.find? kind).indicator
  match Markup.parseFragment markup with
  | .ok parts => some (iconNode tag "callout-icon" parts)
  | .error _ => none

def foldIconNode (tag : String) : Node :=
  match Markup.parseFragment Icon.chevron with
  | .ok parts => iconNode tag "callout-fold" parts
  | .error _ => iconNode tag "callout-fold" []

/-- The content of the title: what the marker's line holds besides the marker. -/
def titleNodes (m : Marker) (line : List Node) : List Node :=
  if m.title = "" then line.drop 1 else .text m.title :: line.drop 1

/-- The title of a callout without text in its title. -/
def defaultTitle (c : Config) (t : Entries) (kind : String) : String :=
  ((t.find? kind).bind (·.title)).getD (c.theme.fallbackTitle kind)

/-- The inner part of the title. A title with text keeps the properties of its paragraph. -/
def titleInner (c : Config) (t : Entries) (m : Marker) (paragraph : Properties)
    (line : List Node) : Node :=
  match titleNodes m line with
  | [] =>
    (Element.withClass c.tagNames.titleInner "callout-title-inner"
      [.text (defaultTitle c t m.kind)]).toNode
  | title =>
    .element c.tagNames.titleInner (paragraph.set "class" (.tokens ["callout-title-inner"])) title

def titleRegion (c : Config) (t : Entries) (m : Marker) (paragraph : Properties)
    (line : List Node) : List Node :=
  (if c.showIndicator then (indicatorNode? t m.kind c.tagNames.icon).toList else []) ++
    titleInner c t m paragraph line ::
    (if m.fold.isFoldable then [foldIconNode c.tagNames.icon] else [])

/-- The rest of the first paragraph, then the other blocks. -/
def contentRegion (body : Option (List Node)) (rest : List Node) : List Node :=
  (body.map fun ns => Node.element "p" {} ns).toList ++ rest

/-- The properties of the container: those of the blockquote with direction, classes and color. -/
def containerProperties (t : Entries) (m : Marker) (p : Properties) : Properties :=
  let classes := if m.fold.isFoldable then ["callout", "callout-collapsible"] else ["callout"]
  let p := ((p.set "dir" (.text "auto")).set "class" (.tokens classes)).set "style"
    (.text (styleText ((t.find? m.kind).bind (·.color))))
  if m.fold = .opened then p.set "open" (.text "open") else p

/-- The callout that a blockquote with a marker becomes, by a table with all aliases. -/
def callout? (c : Config) (t : Entries) (e : Element) : Option Element :=
  if (quoteMarker? t e).isNone then none
  else
    match blocks e with
    | .element _ paragraph line :: rest =>
      let s := splitTitle line
      match s.title with
      | .text text :: _ =>
        (marker? t.contains text).map fun m =>
          let tags := c.tagNames
          let (container, title, content) :=
            if m.fold.isFoldable then ("details", "summary", tags.foldedContent)
            else (tags.container, tags.title, tags.content)
          { tag := container
            properties := containerProperties t m e.properties
            children := [
              (Element.withClass title "callout-title"
                (titleRegion c t m paragraph s.title)).toNode,
              (Element.withClass content "callout-content" (contentRegion s.body rest)).toNode] }
      | _ => none
    | _ => none

/-- Rewrites a blockquote that has a marker and goes on into the result. -/
def visitor (c : Config) (t : Entries) : Visitor Metadata := fun m e =>
  (m, (callout? c t e).getD e, .enter)

/-- Rewrites every callout of a document. -/
def transform (c : Config) : Transform :=
  .ofVisitor "callouts" (visitor c c.allEntries)

end Folio.Callout
