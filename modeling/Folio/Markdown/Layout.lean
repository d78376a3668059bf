import Folio.Markdown.Outline

/-! Reading the lines of a document into its blocks. A line that continues all open blocks and the leaf
belongs to that leaf; any other line ends the leaf, and then what it opens is looked for. -/

namespace Folio.Markdown

/-- Reads the mark of a task at the start of a list item. -/
def taskMark? (r : Rest) : Option (Bool × Rest) :=
  let r := (r.skipColumns 3).2
  match r.text with
  | '[' :: c :: ']' :: d :: rest =>
    if isInlineSpace d ∧ (isInlineSpace c ∨ c = 'x' ∨ c = 'X') then
      some (!isInlineSpace c, { r with text := d :: rest, column := r.column + 3 })
    else none
  | _ => none

/-- Reads the marker of a list item behind `outer` columns of blanks: its sign, its number, the
indentation that the content of the item has, and what is left of the line. -/
def listItem? (outer : Nat) (r : Rest) : Option (Char × Nat × Nat × Rest) := do
  if isRule r.text then none
  let (sign, start, width, text) ← listMarker? r.text
  let (missing, r) := { r with text, column := r.column + width : Rest }.skipColumns 1
  if missing ≠ 0 ∧ !r.atEnd then none
  let indent := outer + width + 1
  let (missing, inner) := r.skipColumns 4
  if isBlankLine r.text || missing = 0 then return (sign, start, indent, r)
  return (sign, start, indent + (4 - missing), inner)

namespace Outline

/-- Begins the definition of a footnote, and ends the one before it. -/
def enterFootnote (s : Outline) (label : List Char) : Outline :=
  let s := s.finishList
  let s := match s.top.holder with
    | .footnote _ => s.pop
    | _ => s
  { s.push (.footnote (.ofList label)) with definitions := s.definitions.addFootnote label }

/-- Begins a list item; no rest is left of its line if there is nothing more on it. -/
def enterItem (o : Options) (s : Outline) (sign : Char) (start indent : Nat) (r : Rest) :
    Outline × Option Rest :=
  let s := (s.enterList sign start).push (.item indent)
  if isBlankLine r.text then ({ s with emptyItem := true }, none)
  else
    match if o.extensions then taskMark? r else none with
    | none => (s, some r)
    | some (checked, r) =>
      if isBlankLine r.text then ({ s.addBlocks [.task checked] with emptyItem := true }, none)
      else ({ s with task := some checked }, some r)

/-- Opens the blocks that a line begins, and gives what is left of it. -/
def enterHolders (o : Options) (s : Outline) (r : Rest) : Nat → Outline × Option Rest
  | 0 => (s, some r)
  | fuel + 1 =>
    let (missing, inner) := r.skipColumns 4
    if missing = 0 then (s, some r)
    else
      match if o.extensions then footnoteLabel? inner.text else none with
      | some (label, text) =>
        enterHolders o (s.enterFootnote label) { text := text.dropWhile isInlineSpace } fuel
      | none =>
        match listItem? (4 - missing) inner, inner.skipQuoteSign? with
        | some (sign, start, indent, r), _ =>
          match s.enterItem o sign start indent r with
          | (s, some r) => enterHolders o s r fuel
          | (s, none) => (s, none)
        | none, some r => enterHolders o (s.finishList.push .quote) r fuel
        | none, none => (s, some r)

/-- Takes note of a blank line. A list item that is still empty can hold nothing behind it. -/
def blankLine (s : Outline) : Outline :=
  match s.top.holder with
  | .quote => s
  | .item n => { s with lastBlank := true, top.holder := .item (if s.emptyItem then 0 else n) }
  | _ => { s with lastBlank := true }

/-- Reads a line that no leaf takes. -/
def beginBlock (o : Options) (s : Outline) (l : Line) (next : Option Line) : Outline :=
  let (n, r) := continueHolders o { text := l.text } s.holders
  match (s.popTo n s.below.length).enterHolders o r (l.text.length + 1) with
  | (s, none) => s
  | (s, some r) =>
    if isBlankLine r.text then s.blankLine
    else
      let s := s.finishList
      let (missing, inner) := r.skipColumns 4
      if missing = 0 then
        let line := String.ofList (inner.padded ++ l.newline)
        { s with leaf := some (.indented [line] []), lastBlank := false }
      else s.openLeaf o r.spare (4 - missing) inner.text l next

/-- Whether a paragraph so far is nothing but definitions. A title may still follow the last one. -/
def endsDefinitions (p : Passage) (line : List Char) : Bool :=
  let (d, rest) := ({} : Definitions).extract p (p.text.length + 1)
  rest.isEmpty &&
    (d.targets.getLast?.any (·.2.title ≠ "") || !line.head?.any (['"', '\'', '('].contains ·))

/-- Makes the paragraph a heading by the line under it. -/
def setextHeading (s : Outline) (level : Nat) (p : Passage) : Outline :=
  let (definitions, p) := s.definitions.extract p (p.text.length + 1)
  let s := { s with definitions, leaf := none }
  match attributeBlock? p.text with
  | some (content, inner) =>
    s.addHeading level (headingAttributes inner) { p with text := dropRightSpaces content }
  | none => s.addHeading level {} p

/-- Continues a paragraph. Behind four columns of blanks a line can begin nothing else. -/
def continueParagraph? (o : Options) (s : Outline) (task : Option Bool) (p : Passage)
    (ending : List Char) (l : Line) (next : Option Line) : Option Outline :=
  let (n, r) := continueHolders o { text := l.text } s.holders
  let current : Bool := n = s.holders.length
  let (missing, inner) := r.skipColumns 4
  let line := r.skipBlanks.text
  let level := if missing ≠ 0 ∧ current then setextLevel? inner.text else none
  if line.isEmpty || endsDefinitions p line then none
  else
    match level with
    | some level => some (s.setextHeading level p)
    | none =>
      if missing ≠ 0 && (interrupts o current false inner.text ||
          current && (s.tableStart? o inner.text next).isSome) then none
      else
        let margin := l.text.take (l.text.length - r.text.length)
        let lead : Lead := ⟨ending, margin, r.text.takeWhile isSpaceOrTab⟩
        some { s with leaf := some (.paragraph task (p.addLine lead line)) }

/-- What is left of a line that continues all open blocks. -/
def inside? (o : Options) (s : Outline) (l : Line) : Option Rest :=
  let (n, r) := continueHolders o { text := l.text } s.holders
  if n = s.holders.length then some r else none

/-- Lets the open leaf take a line, if it can. -/
def continueLeaf? (o : Options) (s : Outline) (leaf : Leaf) (ending : List Char) (l : Line)
    (next : Option Line) : Option Outline :=
  match leaf with
  | .paragraph task p => s.continueParagraph? o task p ending l next
  | .fenced indent sign count info lines => do
    let r := (← s.inside? o l).skipColumns indent |>.2
    let (missing, inner) := r.skipColumns (4 - indent)
    if missing ≠ 0 ∧ (closesFence sign count inner.text ∨ inner.atEnd ∧ l.ending.isEmpty) then
      return s.closeLeaf
    let lines := String.ofList (r.padded ++ l.newline) :: lines
    return { s with leaf := some (.fenced indent sign count info lines) }
  | .indented lines blanks => do
    let (missing, r) := (← s.inside? o l).skipColumns 4
    if missing ≠ 0 ∧ !r.atEnd then none
    let line := String.ofList (r.padded ++ l.newline)
    if isBlankLine r.text then
      return { s with leaf := some (.indented lines (line :: blanks)), lastBlank := true }
    return { s with leaf := some (.indented (line :: blanks ++ lines) []), lastBlank := false }
  | .html close pieces => do
    let r ← s.inside? o l
    if close.isNone ∧ isBlankLine r.text then none
    let s := { s with leaf := some (.html close (htmlLine pieces r.spare r.text l)) }
    return if close.any (containsText · r.text) then s.closeLeaf else s
  | .table alignments head none => some { s with leaf := some (.table alignments head (some [])) }
  | .table alignments head (some rows) => do
    let text := (← s.inside? o l).skipBlanks.text
    let cells := rowCells text (text.length + 1)
    if interrupts o true true text || cells.isEmpty then none
    let rows := fitRow alignments.length cells :: rows
    return { s with leaf := some (.table alignments head (some rows)) }

/-- Reads a line; `ending` is the line break in front of it. -/
def readLine (o : Options) (s : Outline) (ending : List Char) (l : Line) (next : Option Line) :
    Outline :=
  match s.leaf.bind (s.continueLeaf? o · ending l next) with
  | some s => s
  | none => s.closeLeaf.beginBlock o l next

def readLines (o : Options) (s : Outline) (ending : List Char) : List Line → Outline
  | [] => s
  | l :: ls => readLines o (s.readLine o ending l ls.head?) l.ending ls

end Outline

/-- The blocks of a document and its definitions. -/
def blocksOf (o : Options) (text : List Char) : List Block × Definitions :=
  let s := (Outline.readLines o {} [] (splitLines text)).closeLeaf
  ((s.popTo 1 s.below.length).top.blocks.reverse, s.definitions)

end Folio.Markdown
