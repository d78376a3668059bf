import Folio.Markdown.Block
import Folio.Text.Casing

/-! The parts of links: labels, destinations and titles, and the definitions that give labels a
target. -/

namespace Folio.Markdown

/-- Resolves the escapes and the references in a text. -/
def unescape : List Char → Nat → List Char
  | [], _ => []
  | s, 0 => s
  | c :: s, fuel + 1 =>
    if c = '\\' then
      match s with
      | d :: s' =>
        if Text.isAsciiPunctuation d then d :: unescape s' fuel else c :: unescape s fuel
      | [] => [c]
    else if c = '&' then
      match Text.entity? s with
      | some (chars, rest) => chars ++ unescape rest fuel
      | none => c :: unescape s fuel
    else c :: unescape s fuel

def unescaped (s : List Char) : String :=
  .ofList (unescape s s.length)

/-- Reads a label up to its closing bracket. White space in it counts as one space, and there is more in
it than that; `newlines` tells whether it may span lines. -/
def labelRest? (newlines : Bool) (label : List Char) :
    List Char → Nat → Option (List Char × List Char)
  | _, 0 => none
  | [], _ => none
  | c :: s, fuel + 1 =>
    if c = '[' then none
    else if c = ']' then
      if label.all isAsciiSpace then none else some (label.reverse, s)
    else if c = '\\' then
      match s with
      | d :: s' => labelRest? newlines (d :: c :: label) s' fuel
      | [] => none
    else if isAsciiSpace c then
      let gap := c :: s.takeWhile isAsciiSpace
      if !newlines && gap.contains '\n' then none
      else labelRest? newlines (' ' :: label) (s.dropWhile isAsciiSpace) fuel
    else labelRest? newlines (c :: label) s fuel

/-- Reads a label after its opening bracket. -/
def label? (newlines : Bool) (s : List Char) : Option (List Char × List Char) :=
  labelRest? newlines [] s (s.length + 1)

/-- Reads a destination between angle brackets. -/
def pointedDestination? : List Char → Option (List Char × List Char)
  | [] => none
  | '>' :: s => some ([], s)
  | '\\' :: d :: s =>
    if Text.isAsciiPunctuation d then
      (pointedDestination? s).map fun (t, rest) => ('\\' :: d :: t, rest)
    else (pointedDestination? (d :: s)).map fun (t, rest) => ('\\' :: t, rest)
  | c :: s =>
    if c = '\n' ∨ c = '<' then none
    else (pointedDestination? s).map fun (t, rest) => (c :: t, rest)

/-- Reads a destination without angle brackets. Parentheses in it are balanced, and no more than
`most` and one of them are open at a time. -/
def openDestination? (most nested : Nat) : List Char → Option (List Char × List Char)
  | [] => if nested = 0 then some ([], []) else none
  | '\\' :: d :: s =>
    if Text.isAsciiPunctuation d then
      (openDestination? most nested s).map fun (t, rest) => ('\\' :: d :: t, rest)
    else (openDestination? most nested (d :: s)).map fun (t, rest) => ('\\' :: t, rest)
  | c :: s =>
    if c.toNat ≤ 0x20 ∨ c = ')' ∧ nested = 0 then
      if nested = 0 then some ([], c :: s) else none
    else if c = '(' then
      if most < nested then none
      else (openDestination? most (nested + 1) s).map fun (t, rest) => (c :: t, rest)
    else if c = ')' then
      (openDestination? most (nested - 1) s).map fun (t, rest) => (c :: t, rest)
    else (openDestination? most nested s).map fun (t, rest) => (c :: t, rest)

def destination? (most : Nat) (s : List Char) : Option (List Char × List Char) :=
  match s with
  | '<' :: s => pointedDestination? s
  | _ => openDestination? most 0 s

/-- Reads a title up to the sign `close`; in parentheses it may not hold another opening one. -/
def titleRest? (close : Char) : List Char → Option (List Char × List Char)
  | [] => none
  | '\\' :: d :: s => (titleRest? close s).map fun (t, rest) => ('\\' :: d :: t, rest)
  | c :: s =>
    if c = close then some ([], s)
    else if c = '(' ∧ close = ')' then none
    else (titleRest? close s).map fun (t, rest) => (c :: t, rest)

def title? (s : List Char) : Option (List Char × List Char) :=
  match s with
  | '"' :: s => titleRest? '"' s
  | '\'' :: s => titleRest? '\'' s
  | '(' :: s => titleRest? ')' s
  | _ => none

/-- White space with at most one newline, dropped. -/
def skipSeparator (s : List Char) : List Char :=
  match s.dropWhile isInlineSpace with
  | '\n' :: s => s.dropWhile isInlineSpace
  | s => s

/-- Reads the target of a link after its opening parenthesis. -/
def inlineTarget? (s : List Char) : Option (Target × List Char) := do
  let (url, s) ← destination? 5 (skipSeparator s)
  let s := skipSeparator s
  let (title, s) := match title? s with
    | some (title, s) => (title, skipSeparator s)
    | none => ([], s)
  match s with
  | ')' :: rest => return (⟨unescaped url, unescaped title⟩, rest)
  | _ => none

/-- What follows the blank end of a line. -/
def lineEnd? (s : List Char) : Option (List Char) :=
  match s.dropWhile isInlineSpace with
  | [] => some []
  | '\n' :: rest => some rest
  | _ => none

/-- Reads the definition of a link target at the start of a paragraph: label, target, and what follows
the line it ends on. A title that does not end its line is none, and then the target has to. -/
def definition? (s : List Char) : Option (List Char × Target × List Char) := do
  let (label, s) ← match s with
    | '[' :: s => label? true s
    | _ => none
  let s ← match s with
    | ':' :: s => some (skipSeparator s)
    | _ => none
  let (url, after) ← destination? 1 s
  if after.length = s.length then none
  let untitled := (lineEnd? after).map fun rest => (label, ⟨unescaped url, ""⟩, rest)
  let gap := skipSeparator after
  if gap.length = after.length then untitled
  else
    match title? gap with
    | none => untitled
    | some (title, rest) =>
      match lineEnd? rest with
      | some rest => return (label, ⟨unescaped url, unescaped title⟩, rest)
      | none => untitled

namespace Definitions

def target? (d : Definitions) (label : List Char) : Option Target :=
  d.targets.lookup (Text.foldCase label)

/-- Defines a target for a label, unless it has one. -/
def addTarget (d : Definitions) (label : List Char) (t : Target) : Definitions :=
  if (d.target? label).isSome then d
  else { d with targets := d.targets ++ [(Text.foldCase label, t)] }

def addFootnote (d : Definitions) (label : List Char) : Definitions :=
  { d with footnotes := Text.foldCase label :: d.footnotes }

def hasFootnote (d : Definitions) (label : List Char) : Bool :=
  d.footnotes.contains (Text.foldCase label)

/-- Takes the definitions off the start of a paragraph. -/
def extract (d : Definitions) (p : Passage) : Nat → Definitions × Passage
  | 0 => (d, p)
  | fuel + 1 =>
    match definition? p.text with
    | some (label, t, rest) => (d.addTarget label t).extract (p.advance rest) fuel
    | none => (d, p)

end Definitions

end Folio.Markdown
