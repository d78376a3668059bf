/-! The lines of a Markdown text, and reading a line from its start by columns. A tab reaches to the
next multiple of four columns; a part of it may be read and the rest left over. -/

namespace Folio.Markdown

structure Line where
  text : List Char
  /-- The line break, empty at the end of the text. -/
  ending : List Char
  deriving Repr, Inhabited

/-- The lines of a text. -/
def splitLines : List Char → List Line
  | [] => []
  | '\n' :: s => ⟨[], ['\n']⟩ :: splitLines s
  | '\r' :: '\n' :: s => ⟨[], ['\r', '\n']⟩ :: splitLines s
  | '\r' :: s => ⟨[], ['\r']⟩ :: splitLines s
  | c :: s =>
    match splitLines s with
    | [] => [⟨[c], []⟩]
    | l :: ls => { l with text := c :: l.text } :: ls

/-- White space within a line. -/
def isInlineSpace (c : Char) : Bool :=
  c = ' ' || c = '\t' || c = '\x0b' || c = '\x0c'

def isAsciiSpace (c : Char) : Bool :=
  isInlineSpace c || c = '\n' || c = '\r'

def isBlankLine (s : List Char) : Bool :=
  s.all isInlineSpace

def isSpaceOrTab (c : Char) : Bool :=
  c = ' ' || c = '\t'

/-- The line break as it stands in code and in markup, where a pair of characters becomes one. -/
def Line.newline (l : Line) : List Char :=
  if l.ending = ['\r', '\n'] then ['\n'] else l.ending

/-- The part of a line that has not been read. -/
structure Rest where
  text : List Char
  /-- Columns since the last tab stop. -/
  column : Nat := 0
  /-- Columns of the last tab that have not been read. -/
  spare : Nat := 0
  deriving Repr, Inhabited

namespace Rest

/-- Reads `n` columns of spaces and tabs off a text; gives the columns that are missing too. -/
def readColumns : Nat → List Char → Nat → Nat × Rest
  | 0, s, column => (0, ⟨s, column, 0⟩)
  | n + 1, ' ' :: s, column => readColumns n s (column + 1)
  | n + 1, '\t' :: s, column =>
    let width := 4 - column % 4
    if n + 1 < width then (0, ⟨s, 0, width - (n + 1)⟩)
    else readColumns (n + 1 - width) s 0
  | n + 1, s, column => (n + 1, ⟨s, column, 0⟩)
termination_by _ s _ => s.length

/-- Reads up to `n` columns of blanks; gives the columns that are missing, and what is left. -/
def skipColumns (r : Rest) (n : Nat) : Nat × Rest :=
  if n ≤ r.spare then (0, { r with spare := r.spare - n })
  else readColumns (n - r.spare) r.text r.column

def atEnd (r : Rest) : Bool :=
  r.text.isEmpty

/-- Reads all spaces and tabs. -/
def skipBlanks (r : Rest) : Rest :=
  ⟨r.text.dropWhile isSpaceOrTab, 0, 0⟩

/-- Passes over one character. -/
def skipChar (r : Rest) : Rest :=
  { r with text := r.text.tail, column := r.column + 1 }

/-- Reads the sign of a blockquote and one column after it. -/
def skipQuoteSign? (r : Rest) : Option Rest :=
  match r.text with
  | '>' :: _ => some (r.skipChar.skipColumns 1).2
  | _ => none

/-- The text with the rest of a tab in front of it. -/
def padded (r : Rest) : List Char :=
  List.replicate r.spare ' ' ++ r.text

end Rest

end Folio.Markdown
