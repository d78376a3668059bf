import Folio.Text.Search
import Folio.Yaml.Cursor

/-! The texts of YAML scalars: plain, quoted, and in blocks. Line breaks inside a scalar are folded:
one break becomes a space, more of them stay one fewer. -/

namespace Folio.Yaml

/-- White space between two pieces of a scalar. -/
structure Gap where
  /-- The blanks in front of the first break. -/
  blanks : List Char := []
  broken : Bool := false
  first : List Char := []
  more : List Char := []

/-- What a gap turns into between two pieces of text. -/
def Gap.text (g : Gap) : List Char :=
  if g.broken then
    if g.first = ['\n'] then (if g.more.isEmpty then [' '] else g.more) else g.first ++ g.more
  else g.blanks

def Gap.addBreak (g : Gap) (text : List Char) : Gap :=
  if g.broken then { g with more := g.more ++ text }
  else { g with blanks := [], broken := true, first := text }

/-- Reads white space. With a minimal indentation, a tab before it on a new line is an error. -/
def readGap (minIndent : Option Nat) (g : Gap) (c : Cursor) : Nat → Option (Gap × Cursor)
  | 0 => none
  | fuel + 1 =>
    match c.head? with
    | none => some (g, c)
    | some d =>
      if isSpaceOrTab d then
        if g.broken && d = '\t' && minIndent.any (c.column < ·) then none
        else
          let g := if g.broken then g else { g with blanks := g.blanks ++ [d] }
          readGap minIndent g c.skip fuel
      else if isBreak d then
        let (text, c) := c.readBreak
        readGap minIndent (g.addBreak text) c fuel
      else some (g, c)

def isFlowSign (c : Char) : Bool :=
  c = ',' || c = '[' || c = ']' || c = '{' || c = '}'

/-- Reads a piece of a plain scalar, up to white space or a sign that ends the scalar. -/
def readPlainPiece (inFlow : Bool) : List Char → Option (List Char)
  | [] => some []
  | d :: rest =>
    if isSpaceOrTab d || isBreak d then some []
    else
      let endsKey := d = ':' && match rest with
        | [] => true
        | e :: _ => isSpaceOrTab e || isBreak e
      let misplaced := inFlow && d = ':' && match rest with
        | [] => false
        | e :: _ => isFlowSign e || e = '?'
      if misplaced then none
      else if endsKey || inFlow && isFlowSign d then some []
      else (readPlainPiece inFlow rest).map (d :: ·)

/-- Reads a plain scalar; also tells whether it ended with a line break. -/
def readPlain (inFlow : Bool) (minIndent : Nat) (text : List Char) (g : Gap) (c : Cursor) :
    Nat → Option (List Char × Bool × Cursor)
  | 0 => none
  | fuel + 1 =>
    if c.atDocumentMark || c.isAt '#' then some (text, g.broken, c)
    else
      match readPlainPiece inFlow c.rest with
      | none => none
      | some [] => some (text, g.broken, c)
      | some piece =>
        let c := c.skipMany piece.length
        let text := text ++ g.text ++ piece
        if c.atSpace || c.atBreak then
          match readGap (some minIndent) {} c (c.rest.length + 1) with
          | none => none
          | some (g, c) =>
            if !inFlow && c.column < minIndent then some (text, g.broken, c)
            else readPlain inFlow minIndent text g c fuel
        else some (text, false, c)

/-- The character that a backslash and `c` stand for. -/
def simpleEscape? (c : Char) : Option Char :=
  match c with
  | '0' => some '\x00'
  | 'a' => some '\x07'
  | 'b' => some '\x08'
  | 't' => some '\t'
  | '\t' => some '\t'
  | 'n' => some '\n'
  | 'v' => some '\x0b'
  | 'f' => some '\x0c'
  | 'r' => some '\r'
  | 'e' => some '\x1b'
  | ' ' => some ' '
  | '"' => some '"'
  | '/' => some '/'
  | '\\' => some '\\'
  | 'N' => some '\u0085'
  | '_' => some '\u00a0'
  | 'L' => some '\u2028'
  | 'P' => some '\u2029'
  | _ => none

/-- The number of hexadecimal digits after a backslash and `c`. -/
def escapeDigits? (c : Char) : Option Nat :=
  match c with
  | 'x' => some 2
  | 'u' => some 4
  | 'U' => some 8
  | _ => none

/-- The character that the text after a backslash starts with, and the length of that text. -/
def escape? (s : List Char) : Option (Char × Nat) :=
  match s with
  | [] => none
  | c :: rest =>
    match simpleEscape? c, escapeDigits? c with
    | some d, _ => some (d, 1)
    | none, none => none
    | none, some n => do
      if rest.length < n then none
      let d ← Text.scalar? (← Text.number? 16 (rest.take n))
      return (d, n + 1)

/-- Reads a piece of a quoted scalar, up to white space, its closing quote or an escaped line break;
the flag tells about the last. -/
def readQuotedPiece (single : Bool) (text : List Char) (c : Cursor) :
    Nat → Option (List Char × Bool × Cursor)
  | 0 => none
  | fuel + 1 =>
    match c.rest with
    | [] => some (text, false, c)
    | d :: rest =>
      if isSpaceOrTab d || isBreak d then some (text, false, c)
      else if single && d = '\'' then
        if rest.head? = some '\'' then readQuotedPiece single (text ++ ['\'']) (c.skipMany 2) fuel
        else some (text, false, c)
      else if !single && d = '"' then some (text, false, c)
      else if !single && d = '\\' then
        if c.ahead 1 isBreak then some (text, true, c.skip.skipBreak)
        else
          match escape? rest with
          | none => none
          | some (e, n) => readQuotedPiece single (text ++ [e]) (c.skipMany (n + 1)) fuel
      else readQuotedPiece single (text ++ [d]) c.skip fuel

/-- Reads a quoted scalar after its opening quote. -/
def readQuoted (single : Bool) (text : List Char) (c : Cursor) :
    Nat → Option (List Char × Cursor)
  | 0 => none
  | fuel + 1 =>
    if c.atDocumentMark || c.atEnd then none
    else
      match readQuotedPiece single [] c (c.rest.length + 1) with
      | none => none
      | some (piece, escaped, c) =>
        if c.isAt (if single then '\'' else '"') then some (text ++ piece, c.skip)
        else
          match readGap none { broken := escaped } c (c.rest.length + 1) with
          | none => none
          | some (g, c) => readQuoted single (text ++ piece ++ g.text) c fuel

/-- What becomes of the line breaks at the end of a block. -/
inductive Chomping
  | strip
  | clip
  | keep
  deriving DecidableEq, Repr

def chomping? (c : Char) : Option Chomping :=
  if c = '+' then some .keep else if c = '-' then some .strip else none

/-- Chomping and indentation in the header of a block, in either order. -/
def blockHeader? (c : Cursor) : Option (Chomping × Nat × Cursor) :=
  let digit (c : Cursor) : Option (Nat × Cursor) :=
    match c.head? with
    | some d =>
      if '1' ≤ d ∧ d ≤ '9' then some (d.toNat - 48, c.skip)
      else if d = '0' then none
      else some (0, c)
    | none => some (0, c)
  match c.head?.bind chomping? with
  | some ch => (digit c.skip).map fun (n, c) => (ch, n, c)
  | none =>
    (digit c).map fun (n, c') =>
      if n = 0 then (.clip, 0, c')
      else
        match c'.head?.bind chomping? with
        | some ch => (ch, n, c'.skip)
        | none => (.clip, n, c')

/-- Reads the empty lines in front of a line of a block, and that line's indentation. Without a known
indentation, the greatest one seen is found out too. -/
def readBlockGap (indent : Option Nat) (widest : Nat) (breaks : List Char) (c : Cursor) :
    Nat → Option (Nat × List Char × Cursor)
  | 0 => none
  | fuel + 1 =>
    let room := match indent with
      | some n => n - c.column
      | none => c.rest.length
    let c := c.skipMany ((c.rest.takeWhile (· = ' ')).length.min room)
    let widest := max widest c.column
    if c.isAt '\t' && indent.all (c.column < ·) then none
    else if c.atBreak then
      let (text, c) := c.readBreak
      readBlockGap indent widest (breaks ++ text) c fuel
    else some (widest, breaks, c)

/-- The state between the lines of a block: its text so far, the last line break, the empty lines
after it, and whether the last line began with a blank. -/
structure BlockText where
  text : List Char := []
  lastBreak : List Char := []
  empty : List Char := []
  spaced : Bool := false

/-- The text with the line breaks so far, folded if they stand between two lines of text. -/
def BlockText.joined (b : BlockText) (literal spaced : Bool) : List Char :=
  if !literal && b.lastBreak = ['\n'] && !b.spaced && !spaced then
    b.text ++ (if b.empty.isEmpty then [' '] else []) ++ b.empty
  else b.text ++ b.lastBreak ++ b.empty

def readBlockLines (literal : Bool) (indent : Nat) (b : BlockText) (c : Cursor) :
    Nat → Option (BlockText × Cursor)
  | 0 => none
  | fuel + 1 =>
    if c.column = indent ∧ !c.atEnd then
      let spaced := c.atSpace
      let (line, c') := c.takeWhile (!isBreak ·)
      let (lastBreak, c') := c'.readBreak
      match readBlockGap (some indent) 0 [] c' (c'.rest.length + 1) with
      | none => none
      | some (_, empty, c') =>
        readBlockLines literal indent ⟨b.joined literal spaced ++ line, lastBreak, empty, spaced⟩ c'
          fuel
    else some (b, c)

/-- Reads a block scalar after its sign, inside a block with the indentation `outer`. -/
def readBlock (literal : Bool) (outer : Int) (c : Cursor) : Option (List Char × Cursor) := do
  let (chomping, increment, c) ← blockHeader? c
  let c := (c.takeWhile isSpaceOrTab).2.skipComment
  if !c.atEnd && !c.atBreak then none
  let c := c.skipBreak
  let given := if increment = 0 then none else some ((max outer 0).toNat + increment)
  let (widest, empty, c) ← readBlockGap given 0 [] c (c.rest.length + 1)
  let indent := given.getD (max widest (max (outer + 1).toNat 1))
  let (b, c) ← readBlockLines literal indent { empty := empty } c (c.rest.length + 1)
  let text := match chomping with
    | .strip => b.text
    | .clip => b.text ++ b.lastBreak
    | .keep => b.text ++ b.lastBreak ++ b.empty
  return (text, c)

end Folio.Yaml
