import Folio.Markdown.Leaf

/-! The block structure of a Markdown document, before the text of its blocks is read. -/

namespace Folio.Markdown

/-- What stands between two lines of a text: the line break, the marks of the blocks around the text,
and the indentation of the new line. -/
structure Lead where
  ending : List Char
  margin : List Char
  indent : List Char
  deriving Repr, Inhabited

/-- A text of several lines with a newline between them; for each newline there is what it replaces. -/
structure Passage where
  text : List Char
  leads : List Lead := []
  deriving Repr, Inhabited

namespace Passage

def isEmpty (p : Passage) : Bool :=
  p.text.isEmpty

/-- Appends a line. -/
def addLine (p : Passage) (lead : Lead) (line : List Char) : Passage :=
  ⟨p.text ++ '\n' :: line, p.leads ++ [lead]⟩

/-- What is left of the passage when its text is read up to `rest`. -/
def advance (p : Passage) (rest : List Char) : Passage :=
  let n := p.text.length - rest.length
  ⟨rest, p.leads.drop ((p.text.take n).count '\n')⟩

end Passage

/-- A piece of an HTML block: blanks in front of a line, or a line as it stands. -/
inductive HtmlPiece
  | blanks (text : String)
  | line (markup : String)
  deriving Repr, Inhabited

inductive Block
  /-- A paragraph; as the text of a task it starts with the task's mark. -/
  | paragraph (task : Option Bool) (text : Passage)
  | heading (level : Nat) (attributes : HeadingAttributes) (text : Passage)
  /-- A code block, with the info text of its fence if it has one. -/
  | code (info : Option String) (lines : List String)
  | html (pieces : List HtmlPiece)
  | rule
  | table (alignments : List Alignment) (head : List (List Char))
      (rows : List (List (List Char)))
  /-- The mark of a task without text. -/
  | task (checked : Bool)
  | quote (blocks : List Block)
  | list (start : Option Nat) (tight : Bool) (items : List Block)
  | item (blocks : List Block)
  | footnote (label : String) (blocks : List Block)
  deriving Inhabited

/-- Where a link with a label leads. -/
structure Target where
  url : String
  title : String
  deriving DecidableEq, Repr, Inhabited

/-- The definitions of a document: targets of links by label, and the labels of footnotes. Labels agree
if they differ in case only. -/
structure Definitions where
  targets : List (List Char × Target) := []
  footnotes : List (List Char) := []
  deriving Repr, Inhabited

end Folio.Markdown
