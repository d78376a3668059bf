import Folio.Markdown.Event

/-! The content of paragraphs, headings and table cells. -/

namespace Folio.Markdown

inductive Inline
  | text (value : List Char)
  | code (value : String)
  | html (markup : String)
  | softBreak
  | hardBreak
  | footnote (label : String)
  | emphasis (content : List Inline)
  | strong (content : List Inline)
  | strikethrough (content : List Inline)
  | link (url title : String) (email : Bool) (content : List Inline)
  | image (url title : String) (content : List Inline)
  deriving Repr, Inhabited

/-- Content in which it is not yet settled what emphasis signs and quotes stand for. -/
inductive Piece
  | inline (i : Inline)
  /-- A run of the sign `*`, `_` or `~`, and whether emphasis may open or close at it. -/
  | run (sign : Char) (count : Nat) (opens closes : Bool)
  /-- A quotation mark, and whether a quotation may open or close at it. -/
  | quote (sign : Char) (opens closes : Bool)
  deriving Repr, Inhabited

mutual

def Inline.events : Inline → List Event
  | .text s => [.text (.ofList s)]
  | .code s => [.code s]
  | .html markup => [.inlineHtml markup]
  | .softBreak => [.softBreak]
  | .hardBreak => [.hardBreak]
  | .footnote label => [.footnoteReference label]
  | .emphasis content => .enter .emphasis :: eventsOf content ++ [.leave .emphasis]
  | .strong content => .enter .strong :: eventsOf content ++ [.leave .strong]
  | .strikethrough content => .enter .strikethrough :: eventsOf content ++ [.leave .strikethrough]
  | .link url title email content =>
    .enter (.link url title email) :: eventsOf content ++ [.leave .link]
  | .image url title content => .enter (.image url title) :: eventsOf content ++ [.leave .image]

def Inline.eventsOf : List Inline → List Event
  | [] => []
  | i :: is => i.events ++ eventsOf is

end

end Folio.Markdown
