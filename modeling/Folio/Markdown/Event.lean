/-! The events of a Markdown document: the start and the end of every part, and the content between
them, in document order. -/

namespace Folio.Markdown

inductive Alignment
  | unset | left | center | right
  deriving DecidableEq, Repr, Inhabited

inductive Tag
  | paragraph
  | heading (level : Nat) (id : Option String) (classes : List String)
      (attributes : List (String × Option String))
  | blockquote
  | fencedCode (info : String)
  | indentedCode
  | htmlBlock
  /-- A numbered list has a start, a bullet list none. -/
  | list (start : Option Nat)
  | item
  | footnote (label : String)
  | definitionList
  | definitionTerm
  | definition
  | table (alignments : List Alignment)
  | tableHead
  | tableRow
  | tableCell
  | emphasis
  | strong
  | strikethrough
  | superscript
  | subscript
  | link (url title : String) (email : Bool)
  | image (url title : String)
  | metadata
  deriving Repr, Inhabited

/-- The tag of an end event: its kind without the fields; both kinds of code block end alike. -/
inductive TagKind
  | paragraph | heading | blockquote | codeBlock | htmlBlock | list | item | footnote
  | definitionList | definitionTerm | definition | table | tableHead | tableRow | tableCell
  | emphasis | strong | strikethrough | superscript | subscript | link | image | metadata
  deriving DecidableEq, Repr, Inhabited

def Tag.kind : Tag → TagKind
  | .paragraph => .paragraph
  | .heading .. => .heading
  | .blockquote => .blockquote
  | .fencedCode _ => .codeBlock
  | .indentedCode => .codeBlock
  | .htmlBlock => .htmlBlock
  | .list _ => .list
  | .item => .item
  | .footnote _ => .footnote
  | .definitionList => .definitionList
  | .definitionTerm => .definitionTerm
  | .definition => .definition
  | .table _ => .table
  | .tableHead => .tableHead
  | .tableRow => .tableRow
  | .tableCell => .tableCell
  | .emphasis => .emphasis
  | .strong => .strong
  | .strikethrough => .strikethrough
  | .superscript => .superscript
  | .subscript => .subscript
  | .link .. => .link
  | .image .. => .image
  | .metadata => .metadata

inductive Event
  | enter (tag : Tag)
  | leave (kind : TagKind)
  | text (value : String)
  | code (value : String)
  | inlineMath (value : String)
  | displayMath (value : String)
  | html (markup : String)
  | inlineHtml (markup : String)
  | footnoteReference (label : String)
  | softBreak
  | hardBreak
  | rule
  | taskMarker (checked : Bool)
  deriving Repr, Inhabited

end Folio.Markdown
