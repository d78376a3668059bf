import Folio.Markdown.Event
import Folio.Node.Basic

/-! Building the tree of a document from its events. Blocks stand on lines of their own: a line break
comes before every block but the first of the document, and after the last block inside an element.
Neighbouring texts become one. Streams that do not balance still give a tree. -/

namespace Folio

open Markdown (Event Tag TagKind)

def blockTags : List String :=
  ["p", "h1", "h2", "h3", "h4", "h5", "h6", "blockquote", "pre", "ul", "ol", "li", "table",
    "thead", "tbody", "tr", "th", "td", "hr", "div", "dl", "dt", "dd"]

def isBlockTag (tag : String) : Bool :=
  blockTags.contains tag

/-- Adds a text after the last node, joining it to a text that stands there. -/
def pushText (text : String) (ns : List Node) : List Node :=
  if text = "" then ns else go ns
where
  go : List Node → List Node
    | [] => [.text text]
    | [.text s] => [.text (s ++ text)]
    | n :: ns => n :: go ns

/-- What the content of an open element is for. -/
inductive FrameKind
  | element
  /-- An image takes in text only, for its alternative; `nested` counts open images inside it. -/
  | image (src title alt : String) (nested : Nat)
  /-- Metadata is dropped. -/
  | ignored
  deriving Repr, Inhabited

/-- An element that is still open. -/
structure Frame where
  element : Element
  kind : FrameKind := .element
  hasBlocks : Bool := false
  deriving Repr, Inhabited

/-- A tree under construction: the innermost open element, those around it, and what has to be
remembered between the events of tables, HTML blocks and footnotes. -/
structure Builder where
  top : Frame := ⟨⟨"#root", {}, []⟩, .element, false⟩
  below : List Frame := []
  alignments : List Markdown.Alignment := []
  cellIndex : Nat := 0
  inTableHead : Bool := false
  tableBodyOpen : Bool := false
  inHtmlBlock : Bool := false
  /-- Footnote labels by number, the last one first. -/
  footnotes : List String := []
  deriving Repr, Inhabited

namespace Builder

def mapChildren (b : Builder) (f : List Node → List Node) : Builder :=
  { b with top.element.children := f b.top.element.children }

def pushText (b : Builder) (text : String) : Builder :=
  b.mapChildren (Folio.pushText text)

/-- Whether a node stands on a line of its own. -/
def isBlock (b : Builder) : Node → Bool
  | .element tag _ _ => isBlockTag tag
  | .raw _ => b.inHtmlBlock
  | .text _ => false

/-- Starts a new line for a block; the first block of the document needs none. -/
def breakLine (b : Builder) : Builder :=
  if b.below.isEmpty then
    if b.top.element.children.isEmpty then b else b.pushText "\n"
  else { b.pushText "\n" with top.hasBlocks := true }

def append (b : Builder) (n : Node) : Builder :=
  let b := if b.isBlock n then b.breakLine else b
  match n with
  | .text s => b.pushText s
  | n => b.mapChildren (· ++ [n])

def openFrame (b : Builder) (f : Frame) : Builder :=
  { b with top := f, below := b.top :: b.below }

def openElement (b : Builder) (e : Element) : Builder :=
  b.openFrame ⟨e, .element, false⟩

/-- Ends the innermost element; the document itself stays open. -/
def close (b : Builder) : Builder :=
  match b.below with
  | [] => b
  | outer :: below =>
    let b' := if b.top.hasBlocks then b.pushText "\n" else b
    { b' with top := outer, below := below }.append b'.top.element.toNode

/-- The number of a footnote: its place in the order in which the labels were first met. -/
def footnoteNumber (b : Builder) (label : String) : Builder × Nat :=
  match b.footnotes.reverse.idxOf? label with
  | some i => (b, i + 1)
  | none => ({ b with footnotes := label :: b.footnotes }, b.footnotes.length + 1)

def headingElement (level : Nat) (id : Option String) (classes : List String)
    (attributes : List (String × Option String)) : Element :=
  let e : Element := ⟨"h" ++ toString level, {}, []⟩
  let e := match id with
    | some id => e.set "id" (.text id)
    | none => e
  let e := if classes.isEmpty then e else e.set "class" (.tokens classes)
  attributes.foldl (fun e (name, value) =>
    e.set name (match value with | some v => .text v | none => .flag true)) e

/-- The `code` element of a block whose info text may name a language. -/
def codeElement (info : String) : Element :=
  match Properties.words info with
  | [] => ⟨"code", {}, []⟩
  | language :: _ => .withClass "code" ("language-" ++ language) []

def listElement : Option Nat → Element
  | none => ⟨"ul", {}, []⟩
  | some 1 => ⟨"ol", {}, []⟩
  | some n => ⟨"ol", ⟨[("start", .text (toString n))]⟩, []⟩

def linkElement (url title : String) (email : Bool) : Element :=
  let e : Element := ⟨"a", ⟨[("href", .text (if email then "mailto:" ++ url else url))]⟩, []⟩
  if title = "" then e else e.set "title" (.text title)

def cellElement (b : Builder) : Element :=
  let e : Element := ⟨if b.inTableHead then "th" else "td", {}, []⟩
  match b.alignments[b.cellIndex]? with
  | some .left => e.set "align" (.text "left")
  | some .center => e.set "align" (.text "center")
  | some .right => e.set "align" (.text "right")
  | _ => e

def footnoteDefinition (b : Builder) (label : String) : Builder :=
  let (b, number) := b.footnoteNumber label
  let e : Element :=
    ⟨"div", ⟨[("class", .tokens ["footnote-definition"]), ("id", .text label)]⟩, []⟩
  (b.openElement e).append
    (Element.withClass "sup" "footnote-definition-label" [.text (toString number)]).toNode

def openRow (b : Builder) : Builder :=
  let b := if b.tableBodyOpen then b
    else { b with tableBodyOpen := true }.openElement ⟨"tbody", {}, []⟩
  { b with cellIndex := 0 }.openElement ⟨"tr", {}, []⟩

def enter (b : Builder) : Tag → Builder
  | .paragraph => b.openElement ⟨"p", {}, []⟩
  | .heading level id classes attributes =>
    b.openElement (headingElement level id classes attributes)
  | .blockquote => b.openElement ⟨"blockquote", {}, []⟩
  | .fencedCode info => (b.openElement ⟨"pre", {}, []⟩).openElement (codeElement info)
  | .indentedCode => (b.openElement ⟨"pre", {}, []⟩).openElement ⟨"code", {}, []⟩
  | .htmlBlock => { b with inHtmlBlock := true }
  | .list start => b.openElement (listElement start)
  | .item => b.openElement ⟨"li", {}, []⟩
  | .footnote label => b.footnoteDefinition label
  | .definitionList => b.openElement ⟨"dl", {}, []⟩
  | .definitionTerm => b.openElement ⟨"dt", {}, []⟩
  | .definition => b.openElement ⟨"dd", {}, []⟩
  | .table alignments =>
    { b with alignments := alignments, tableBodyOpen := false }.openElement ⟨"table", {}, []⟩
  | .tableHead =>
    ({ b with inTableHead := true, cellIndex := 0 }.openElement ⟨"thead", {}, []⟩).openElement
      ⟨"tr", {}, []⟩
  | .tableRow => b.openRow
  | .tableCell => { b with cellIndex := b.cellIndex + 1 }.openElement b.cellElement
  | .emphasis => b.openElement ⟨"em", {}, []⟩
  | .strong => b.openElement ⟨"strong", {}, []⟩
  | .strikethrough => b.openElement ⟨"del", {}, []⟩
  | .superscript => b.openElement ⟨"sup", {}, []⟩
  | .subscript => b.openElement ⟨"sub", {}, []⟩
  | .link url title email => b.openElement (linkElement url title email)
  | .image src title => b.openFrame ⟨⟨"img", {}, []⟩, .image src title "" 0, false⟩
  | .metadata => b.openFrame ⟨⟨"#metadata", {}, []⟩, .ignored, false⟩

def leave (b : Builder) : TagKind → Builder
  | .htmlBlock => { b with inHtmlBlock := false }
  | .codeBlock => b.close.close
  | .tableHead => { b with inTableHead := false }.close.close
  | .table =>
    let b := if b.tableBodyOpen then { b with tableBodyOpen := false }.close else b
    { b with alignments := [] }.close
  | .image | .metadata => b
  | _ => b.close

/-- Lines of an HTML block continue the markup that the block began. -/
def pushHtml (b : Builder) (markup : String) : Builder :=
  match b.inHtmlBlock, b.top.element.children.getLast? with
  | true, some (.raw s) => b.mapChildren fun ns => ns.dropLast ++ [.raw (s ++ markup)]
  | _, _ => b.append (.raw markup)

def markTask : List Frame → List Frame
  | [] => []
  | f :: fs =>
    if f.element.tag = "li" then
      { f with element := f.element.set "class" (.tokens ["task-list-item"]) } :: fs
    else f :: markTask fs

/-- Marks the innermost list item as a task and puts its checkbox here. -/
def taskMarker (b : Builder) (checked : Bool) : Builder :=
  let b := match markTask (b.top :: b.below) with
    | top :: below => { b with top := top, below := below }
    | [] => b
  let input : Element :=
    ⟨"input", ⟨[("type", .text "checkbox"), ("disabled", .flag true), ("checked", .flag checked)]⟩,
      []⟩
  (b.append input.toNode).pushText " "

def footnoteReference (b : Builder) (label : String) : Builder :=
  let (b, number) := b.footnoteNumber label
  b.append (Element.withClass "sup" "footnote-reference"
    [.element "a" ⟨[("href", .text ("#" ++ label))]⟩ [.text (toString number)]]).toNode

def mathElement (style : String) (source : String) : Node :=
  .element "code" ⟨[("class", .tokens ["language-math", style])]⟩ [.text source]

/-- An event inside an ordinary element. -/
def pushElementEvent (b : Builder) : Event → Builder
  | .enter tag => b.enter tag
  | .leave kind => b.leave kind
  | .text s => b.pushText s
  | .code s => b.append (.element "code" {} [.text s])
  | .inlineMath s => b.append (mathElement "math-inline" s)
  | .displayMath s => b.append (.element "pre" {} [mathElement "math-display" s])
  | .html markup => b.pushHtml markup
  | .inlineHtml markup => b.append (.raw markup)
  | .footnoteReference label => b.footnoteReference label
  | .softBreak => b.pushText "\n"
  | .hardBreak => (b.append (.element "br" {} [])).pushText "\n"
  | .rule => b.append (.element "hr" {} [])
  | .taskMarker checked => b.taskMarker checked

def imageElement (src title alt : String) : Element :=
  let e : Element := ⟨"img", ⟨[("src", .text src), ("alt", .text alt)]⟩, []⟩
  if title = "" then e else e.set "title" (.text title)

/-- An event inside an image: text goes to its alternative, and the end puts it into the tree. -/
def pushImageEvent (b : Builder) (src title alt : String) (nested : Nat) : Event → Builder
  | .text s | .code s => { b with top.kind := .image src title (alt ++ s) nested }
  | .softBreak | .hardBreak => { b with top.kind := .image src title (alt ++ " ") nested }
  | .enter (.image ..) => { b with top.kind := .image src title alt (nested + 1) }
  | .leave .image =>
    match nested, b.below with
    | n + 1, _ => { b with top.kind := .image src title alt n }
    | 0, outer :: below =>
      { b with top := outer, below := below }.append (imageElement src title alt).toNode
    | 0, [] => b
  | _ => b

def pushIgnoredEvent (b : Builder) : Event → Builder
  | .leave .metadata =>
    match b.below with
    | outer :: below => { b with top := outer, below := below }
    | [] => b
  | _ => b

def push (b : Builder) (e : Event) : Builder :=
  match b.top.kind with
  | .element => b.pushElementEvent e
  | .image src title alt nested => b.pushImageEvent src title alt nested e
  | .ignored => b.pushIgnoredEvent e

def closeAll (b : Builder) : Nat → Builder
  | 0 => b
  | n + 1 => b.close.closeAll n

/-- Ends all open elements and gives the content of the document. -/
def finish (b : Builder) : List Node :=
  (b.closeAll b.below.length).top.element.children

end Builder

def buildTree (events : List Event) : List Node :=
  (events.foldl Builder.push {}).finish

end Folio
