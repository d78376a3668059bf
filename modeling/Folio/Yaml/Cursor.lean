/-! A place in a YAML text: what is left to read, and how far along the text, which line and which
column that is. -/

namespace Folio.Yaml

structure Cursor where
  rest : List Char
  index : Nat := 0
  line : Nat := 0
  column : Nat := 0
  deriving Repr, Inhabited

def isBreak (c : Char) : Bool :=
  c = '\n' || c = '\r' || c = '\u0085' || c = '\u2028' || c = '\u2029'

/-- A space or a tab. -/
def isSpaceOrTab (c : Char) : Bool :=
  c = ' ' || c = '\t'

namespace Cursor

def head? (c : Cursor) : Option Char :=
  c.rest.head?

/-- Whether the character `i` places ahead exists and satisfies `p`. -/
def ahead (c : Cursor) (i : Nat) (p : Char → Bool) : Bool :=
  (c.rest[i]?).any p

def isAt (c : Cursor) (d : Char) : Bool :=
  c.head? = some d

def atEnd (c : Cursor) : Bool :=
  c.rest.isEmpty

def atBreak (c : Cursor) : Bool :=
  c.ahead 0 isBreak

def atSpace (c : Cursor) : Bool :=
  c.ahead 0 isSpaceOrTab

/-- Whether a blank, a line break or the end of the text is `i` places ahead. -/
def gapAhead (c : Cursor) (i : Nat) : Bool :=
  match c.rest[i]? with
  | none => true
  | some d => isSpaceOrTab d || isBreak d

/-- Passes over one character within a line. -/
def skip (c : Cursor) : Cursor :=
  if c.rest.isEmpty then c
  else { c with rest := c.rest.tail, index := c.index + 1, column := c.column + 1 }

def skipMany (c : Cursor) : Nat → Cursor
  | 0 => c
  | n + 1 => c.skip.skipMany n

/-- Passes over the characters of a line that satisfy `p`, and gives them. -/
def takeWhile (c : Cursor) (p : Char → Bool) : List Char × Cursor :=
  let taken := c.rest.takeWhile p
  (taken, { c with rest := c.rest.dropWhile p, index := c.index + taken.length,
                   column := c.column + taken.length })

/-- Passes over one line break, and gives the text it stands for. -/
def readBreak (c : Cursor) : List Char × Cursor :=
  match c.rest with
  | '\r' :: '\n' :: rest => (['\n'], ⟨rest, c.index + 2, c.line + 1, 0⟩)
  | d :: rest =>
    if d = '\u2028' ∨ d = '\u2029' then ([d], ⟨rest, c.index + 1, c.line + 1, 0⟩)
    else if isBreak d then (['\n'], ⟨rest, c.index + 1, c.line + 1, 0⟩)
    else ([], c)
  | [] => ([], c)

def skipBreak (c : Cursor) : Cursor :=
  c.readBreak.2

/-- Whether a line starts here with three dashes or three dots on their own. -/
def atDocumentMark (c : Cursor) : Bool :=
  c.column == 0 && (c.rest.take 3 == ['-', '-', '-'] || c.rest.take 3 == ['.', '.', '.']) &&
    c.gapAhead 3

def skipComment (c : Cursor) : Cursor :=
  if c.isAt '#' then (c.takeWhile (!isBreak ·)).2 else c

end Cursor

end Folio.Yaml
