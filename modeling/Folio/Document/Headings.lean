import Folio.Document.Basic
import Folio.Slug

/-! Headings: an id for each of them, the outline of the document, and links from headings to
themselves. -/

namespace Folio

def headingDepth? (tag : String) : Option Nat :=
  match tag with
  | "h1" => some 1
  | "h2" => some 2
  | "h3" => some 3
  | "h4" => some 4
  | "h5" => some 5
  | "h6" => some 6
  | _ => none

/-- Drops one hyphen at the end. -/
def dropFinalHyphen (slug : String) : String :=
  if slug.toList.getLast? = some '-' then .ofList slug.toList.dropLast else slug

/-- Keeps an id that the heading has and gives it a fresh slug otherwise. -/
def headingIdVisitor (keepHyphen : Bool) : Visitor (Slugger × Metadata) := fun (slugger, m) e =>
  match headingDepth? e.tag with
  | none => ((slugger, m), e, .enter)
  | some depth =>
    let text := e.textContent
    let (slugger, slug, e) := match e.properties.getText? "id" with
      | some id => (slugger, id, e)
      | none =>
        let (slugger, slug) := slugger.slug text
        let slug := if keepHyphen then slug else dropFinalHyphen slug
        (slugger, slug, e.set "id" (.text slug))
    ((slugger, { m with headings := m.headings ++ [⟨depth, slug, text⟩] }), e, .skip)

/-- Gives every heading an id and records the outline. -/
def headingIds (keepHyphen : Bool) : Transform :=
  .ofStatefulVisitor "heading-ids" {} (headingIdVisitor keepHyphen)

def linkIconPath : String :=
  "M13.19 8.688a4.5 4.5 0 0 1 1.242 7.244l-4.5 4.5a4.5 4.5 0 0 1-6.364-6.364l1.757-1.757m13.35-" ++
    ".622 1.757-1.757a4.5 4.5 0 0 0-6.364-6.364l-4.5 4.5a4.5 4.5 0 0 0 1.242 7.244"

def linkIcon : Node :=
  .element "span" ⟨[("aria-hidden", .text "true"), ("class", .tokens ["anchor-icon"])]⟩
    [.element "svg" ⟨[("width", .text "16"), ("height", .text "16"),
        ("viewBox", .text "0 0 24 24"), ("fill", .text "none"), ("stroke", .text "currentColor"),
        ("stroke-width", .text "1.5")]⟩
      [.element "path" ⟨[("stroke-linecap", .text "round"), ("stroke-linejoin", .text "round"),
        ("d", .text linkIconPath)]⟩ []]]

/-- A link to the heading with this id, labelled with the text of the heading. -/
def anchorLink (id text : String) : Node :=
  .element "a" ⟨[("class", .tokens ["anchor-link"]), ("href", .text ("#" ++ id))]⟩
    [linkIcon,
      .element "span" ⟨[("class", .tokens ["sr-only"])]⟩
        [.text ("Read the “" ++ text ++ "” section")]]

/-- A heading together with a link to itself. -/
def wrapHeading (e : Element) (id : String) : Node :=
  .element "div"
    ⟨[("tabindex", .text "-1"), ("class", .tokens ["heading-wrapper", "level-" ++ e.tag])]⟩
    [e.toNode, anchorLink id e.textContent]

def anchorVisitor : Visitor Metadata := fun m e =>
  match headingDepth? e.tag, e.properties.getText? "id" with
  | none, _ => (m, e, .enter)
  | some _, some id => (m, e, .replace [wrapHeading e id])
  | some _, none => (m, e, .skip)

/-- Wraps each heading that has an id. -/
def headingAnchors : Transform :=
  .ofVisitor "autolink-headings" anchorVisitor

end Folio
