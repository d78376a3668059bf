import Folio.Text.Blank
import Folio.Text.Search
import Folio.Yaml.Value

/-! Front matter: a block of YAML between two fences `---` at the start of a document. Only a byte
order mark or blank lines may stand in front of it. -/

namespace Folio.Frontmatter

def fence : List Char := ['-', '-', '-']

/-- A document taken apart at the fences of its front matter. -/
structure Parts where
  before : List Char
  /-- The text between the fences, with the newlines next to them. -/
  inner : List Char
  after : List Char
  deriving DecidableEq, Repr

/-- The text up to the first newline that has a fence after it, and what follows that fence. -/
def inner? : List Char → Option (List Char × List Char)
  | [] => none
  | c :: s =>
    if c = '\n' ∧ fence.isPrefixOf s then some ([c], s.drop 3)
    else (inner? s).map fun (a, b) => (c :: a, b)

/-- Takes the block apart that starts after `before`. -/
def partsAfter? (before s : List Char) : Option Parts := do
  let (inner, after) ← inner? (← Text.dropPrefix? fence s)
  return ⟨before, inner, after⟩

/-- The block after the last newline of the blanks that the text starts with, as far as one fits. -/
def partsAfterBlanks? (code : List Char) : Nat → Option Parts
  | 0 => none
  | n + 1 =>
    if code[n]? = some '\n' then
      (partsAfter? (code.take (n + 1)) (code.drop (n + 1))).or (partsAfterBlanks? code n)
    else partsAfterBlanks? code n

def parts? (code : List Char) : Option Parts :=
  let atStart := match code with
    | '\ufeff' :: s => partsAfter? ['\ufeff'] s
    | _ => partsAfter? [] code
  atStart.or (partsAfterBlanks? code (code.takeWhile Text.isBlank).length)

/-- What becomes of the block in the content of the document. -/
inductive Mode
  | preserve
  | remove
  /-- Spaces take the place of the block, so that all places stay the same. -/
  | emptyWithSpaces
  /-- The line breaks of the block stay, so that all lines stay the same. -/
  | emptyWithLines
  deriving DecidableEq, Repr

namespace Mode

def named? (name : String) : Option Mode :=
  match name with
  | "preserve" => some .preserve
  | "remove" => some .remove
  | "empty-with-spaces" => some .emptyWithSpaces
  | "empty-with-lines" => some .emptyWithLines
  | _ => none

def unknownMessage (name : String) : String :=
  "unknown frontmatter mode `" ++ name ++ "`"

/-- What is put in the place of a block. -/
def replacement (inner : List Char) : Mode → List Char
  | .preserve => fence ++ inner ++ fence
  | .remove => []
  | .emptyWithSpaces =>
    [' ', ' ', ' '] ++ inner.map (fun c => if c = '\r' ∨ c = '\n' then c else ' ') ++
      [' ', ' ', ' ']
  | .emptyWithLines => inner.filter fun c => c = '\r' ∨ c = '\n'

end Mode

/-- A document with its front matter read. -/
structure Parsed where
  fields : Table Json := []
  inner : String := ""
  content : String
  deriving Inhabited

def errorMessage : String := "Invalid YAML: "

/-- The fields that a block holds: those of a mapping, and none for any other value. -/
def fields? (inner : List Char) : Option (Table Json) :=
  if (Text.trim inner).isEmpty then some []
  else
    (Yaml.readJson? (.ofList inner)).map fun
      | .object fields => fields
      | _ => []

/-- Puts `new` in place of the first occurrence of `old`. -/
def replaceFirst (old new s : List Char) : List Char :=
  match Text.cut? old s with
  | some (before, after) => before ++ new ++ after
  | none => s

/-- Reads the front matter of a document; fails if it is not YAML. -/
def parse? (code : String) (mode : Mode) : Option Parsed :=
  match parts? code.toList with
  | none => some { content := code }
  | some p => do
    let fields ← fields? p.inner
    let block := fence ++ p.inner ++ fence
    return ⟨fields, .ofList p.inner,
      .ofList (replaceFirst block (mode.replacement p.inner) code.toList)⟩

/-- The text between the fences. -/
def extract? (code : String) : Option String :=
  (parts? code.toList).map fun p => .ofList p.inner

end Folio.Frontmatter
