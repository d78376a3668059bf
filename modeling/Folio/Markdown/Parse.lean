import Folio.Markdown.Content
import Folio.Markdown.Layout

/-! The events of a Markdown text: its blocks are laid out first, then their texts are read with all
definitions of the document at hand. -/

namespace Folio.Markdown

namespace Context

def textEvents (x : Context) (p : Passage) : List Event :=
  Inline.eventsOf (contentOf x p)

def cellEvents (x : Context) (cells : List (List Char)) : List Event :=
  cells.flatMap fun s => .enter .tableCell :: x.textEvents ⟨s, []⟩ ++ [.leave .tableCell]

def rowEvents (x : Context) (cells : List (List Char)) : List Event :=
  .enter .tableRow :: x.cellEvents cells ++ [.leave .tableRow]

def htmlEvent : HtmlPiece → Event
  | .blanks s => .text s
  | .line markup => .html markup

mutual

/-- The events of a block; paragraphs in items of a tight list give their content alone. -/
def events (x : Context) (tight : Bool) : Block → List Event
  | .paragraph task p =>
    let content := (task.map Event.taskMarker).toList ++ x.textEvents p
    if tight then content else .enter .paragraph :: content ++ [.leave .paragraph]
  | .heading level a p =>
    .enter (.heading level a.id a.classes a.others) :: x.textEvents p ++ [.leave .heading]
  | .code (some info) lines => .enter (.fencedCode info) :: lines.map .text ++ [.leave .codeBlock]
  | .code none lines => .enter .indentedCode :: lines.map .text ++ [.leave .codeBlock]
  | .html pieces => .enter .htmlBlock :: pieces.map htmlEvent ++ [.leave .htmlBlock]
  | .rule => [.rule]
  | .table alignments head rows =>
    .enter (.table alignments) :: .enter .tableHead :: x.cellEvents head ++
      .leave .tableHead :: rows.flatMap x.rowEvents ++ [.leave .table]
  | .task checked => [.taskMarker checked]
  | .quote blocks => .enter .blockquote :: x.eventsOf false blocks ++ [.leave .blockquote]
  | .list start tight items => .enter (.list start) :: x.eventsOf tight items ++ [.leave .list]
  | .item blocks => .enter .item :: x.eventsOf tight blocks ++ [.leave .item]
  | .footnote label blocks =>
    .enter (.footnote label) :: x.eventsOf false blocks ++ [.leave .footnote]

def eventsOf (x : Context) (tight : Bool) : List Block → List Event
  | [] => []
  | b :: bs => x.events tight b ++ x.eventsOf tight bs

end

end Context

/-- The events of a Markdown text. -/
def parse (o : Options) (text : String) : List Event :=
  let (blocks, definitions) := blocksOf o text.toList
  { options := o, definitions : Context }.eventsOf false blocks

end Folio.Markdown
