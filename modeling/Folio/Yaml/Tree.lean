import Folio.Yaml.Token

/-! The tree of a YAML document: scalars, sequences and mappings with their tags. Aliases are replaced
by what they stand for; there may be no more than a hundred times as many of them as the document has
parts. -/

namespace Folio.Yaml

inductive Tree
  | scalar (tag : Option String) (style : ScalarStyle) (text : String)
  | sequence (tag : Option String) (items : List Tree)
  | mapping (tag : Option String) (entries : List (Tree × Tree))
  /-- An alias inside the very part that it stands for. -/
  | loop
  deriving Inhabited

/-- The scalar that is not there. -/
def Tree.absent : Tree :=
  .scalar none .plain ""

/-- A named part of the document; its tree is known when it has been read to its end. -/
structure Anchor where
  name : List Char
  tree : Option Tree
  /-- The aliases that reading the part again replaces. -/
  aliases : Nat

structure Reading where
  tokens : List Token
  handles : List (List Char × List Char)
  /-- The anchors by number, the last one first. -/
  anchors : List Anchor := []
  events : Nat := 0
  aliases : Nat := 0

abbrev Parse := StateT Reading Option

namespace Parse

def peek : Parse Token := do
  return (← get).tokens.headD .streamEnd

def next : Parse Unit :=
  modify fun r => { r with tokens := r.tokens.tail }

def expect (t : Token) : Parse Unit := do
  if (← peek) = t then next else failure

/-- Passes over a token if it is the next one. -/
def accept (t : Token) : Parse Bool := do
  if (← peek) = t then next; return true
  else return false

def countEvents (n : Nat) : Parse Unit :=
  modify fun r => { r with events := r.events + n }

/-- Looks up the part that an alias stands for. -/
def resolveAlias (name : List Char) : Parse Tree := do
  match (← get).anchors.find? (·.name = name) with
  | none => failure
  | some a =>
    modify fun r => { r with events := r.events + 1, aliases := r.aliases + 1 + a.aliases }
    return a.tree.getD .loop

/-- Notes an anchor and gives its number. -/
def declare (name : List Char) : Parse Nat := do
  let n := (← get).anchors.length
  modify fun r => { r with anchors := ⟨name, none, 0⟩ :: r.anchors }
  return n

def define (number : Nat) (tree : Tree) (aliases : Nat) : Parse Unit :=
  modify fun r =>
    let i := r.anchors.length - 1 - number
    { r with anchors := r.anchors.modify i fun a => { a with tree := some tree, aliases } }

def resolveTag (handle suffix : List Char) : Parse String := do
  if handle.isEmpty then return .ofList suffix
  match (← get).handles.lookup handle with
  | none => failure
  | some leader => return .ofList (leader ++ suffix)

def tag? : Parse (Option String) := do
  match ← peek with
  | .tag handle suffix => do
    next
    return some (← resolveTag handle suffix)
  | _ => return none

def anchor? : Parse (Option (List Char)) := do
  match ← peek with
  | .anchor name => do
    next
    return some name
  | _ => return none

/-- Anchor and tag of a node, in either order. -/
def nodeMarks : Parse (Option (List Char) × Option String) := do
  match ← anchor? with
  | some name => return (some name, ← tag?)
  | none => do
    let tag ← tag?
    return (← anchor?, tag)

/-- Whether a node is left out in front of a token, in a block. -/
def endsBlockPart : Token → Bool
  | .blockEntry | .key | .value | .blockEnd => true
  | _ => false

/-- Whether a node is left out in front of a token, in a block mapping. -/
def endsMappingPart : Token → Bool
  | .key | .value | .blockEnd => true
  | _ => false

def absent : Parse Tree := do
  countEvents 1
  return .absent

mutual

def node (inBlock indentless : Bool) : Nat → Parse Tree
  | 0 => failure
  | fuel + 1 => do
    match ← peek with
    | .aliasOf name => do
      next
      resolveAlias name
    | _ => do
      let (anchor, tag) ← nodeMarks
      let number ← anchor.mapM declare
      let before := (← get).aliases
      let tree ← content inBlock indentless tag (anchor.isSome || tag.isSome) fuel
      let after := (← get).aliases
      match number with
      | some n => define n tree (after - before)
      | none => pure ()
      return tree

/-- The node after its marks; without marks it may not be left out. -/
def content (inBlock indentless : Bool) (tag : Option String) (marked : Bool) :
    Nat → Parse Tree
  | 0 => failure
  | fuel + 1 => do
    match ← peek with
    | .scalar style text => do
      next
      countEvents 1
      return .scalar (tag.filter (· ≠ "!")) style (.ofList text)
    | .flowSequenceStart => do
      next
      countEvents 2
      return .sequence tag (← flowItems true fuel)
    | .flowMappingStart => do
      next
      countEvents 2
      return .mapping tag (← flowEntries true fuel)
    | .blockEntry =>
      if indentless then do
        countEvents 2
        return .sequence tag (← indentlessItems fuel)
      else if marked then absentWith tag
      else failure
    | .blockSequenceStart =>
      if inBlock then do
        next
        countEvents 2
        return .sequence tag (← blockItems fuel)
      else if marked then absentWith tag
      else failure
    | .blockMappingStart =>
      if inBlock then do
        next
        countEvents 2
        return .mapping tag (← blockEntries fuel)
      else if marked then absentWith tag
      else failure
    | _ => if marked then absentWith tag else failure
where
  absentWith (tag : Option String) : Parse Tree := do
    countEvents 1
    return .scalar (tag.filter (· ≠ "!")) .plain ""

def blockItems : Nat → Parse (List Tree)
  | 0 => failure
  | fuel + 1 => do
    match ← peek with
    | .blockEntry => do
      next
      let ended := match ← peek with
        | .blockEntry | .blockEnd => true
        | _ => false
      let item ← if ended then absent else node true false fuel
      return item :: (← blockItems fuel)
    | .blockEnd => do
      next
      return []
    | _ => failure

/-- The items of a sequence that is not indented beyond the mapping it is in. -/
def indentlessItems : Nat → Parse (List Tree)
  | 0 => failure
  | fuel + 1 => do
    match ← peek with
    | .blockEntry => do
      next
      let item ← if endsBlockPart (← peek) then absent else node true false fuel
      return item :: (← indentlessItems fuel)
    | _ => return []

def blockEntries : Nat → Parse (List (Tree × Tree))
  | 0 => failure
  | fuel + 1 => do
    match ← peek with
    | .key => do
      next
      let key ← if endsMappingPart (← peek) then absent else node true true fuel
      let value ← blockValue fuel
      return (key, value) :: (← blockEntries fuel)
    | .blockEnd => do
      next
      return []
    | _ => failure

def blockValue : Nat → Parse Tree
  | 0 => failure
  | fuel + 1 => do
    if ← accept .value then
      if endsMappingPart (← peek) then absent else node true true fuel
    else absent

def flowItems (first : Bool) : Nat → Parse (List Tree)
  | 0 => failure
  | fuel + 1 => do
    if ← accept .flowSequenceEnd then return []
    if !first then expect .flowEntry
    match ← peek with
    | .flowSequenceEnd => do
      next
      return []
    | .key => do
      next
      countEvents 2
      let key ← match ← peek with
        | .value | .flowEntry | .flowSequenceEnd => do
          next
          absent
        | _ => node false false fuel
      let value ← flowValue .flowSequenceEnd fuel
      return .mapping none [(key, value)] :: (← flowItems false fuel)
    | _ => do
      let item ← node false false fuel
      return item :: (← flowItems false fuel)

/-- The value after a key in a flow collection with a closing token. -/
def flowValue (closing : Token) : Nat → Parse Tree
  | 0 => failure
  | fuel + 1 => do
    if ← accept .value then
      let t ← peek
      if t = .flowEntry ∨ t = closing then absent else node false false fuel
    else absent

def flowEntries (first : Bool) : Nat → Parse (List (Tree × Tree))
  | 0 => failure
  | fuel + 1 => do
    if ← accept .flowMappingEnd then return []
    if !first then expect .flowEntry
    match ← peek with
    | .flowMappingEnd => do
      next
      return []
    | .key => do
      next
      let key ← match ← peek with
        | .value | .flowEntry | .flowMappingEnd => absent
        | _ => node false false fuel
      let value ← flowValue .flowMappingEnd fuel
      return (key, value) :: (← flowEntries false fuel)
    | _ => do
      let key ← node false false fuel
      let value ← absent
      return (key, value) :: (← flowEntries false fuel)

end

/-- Reads the directives in front of a document, each kind or handle at most once. -/
def directives (versioned : Bool) : Nat → Parse Unit
  | 0 => failure
  | fuel + 1 => do
    match ← peek with
    | .versionDirective major minor => do
      if versioned || major ≠ 1 || !(minor == 1 || minor == 2) then failure
      next
      directives true fuel
    | .tagDirective handle leader => do
      if (← get).handles.any (·.1 = handle) then failure
      modify fun r => { r with handles := (handle, leader) :: r.handles }
      next
      directives versioned fuel
    | _ => return

def defaultHandles : List (List Char × List Char) :=
  [(['!'], ['!']), (['!', '!'], "tag:yaml.org,2002:".toList)]

/-- Reads the one document of a text. -/
def document (fuel : Nat) : Parse Tree := do
  let tree ← match ← peek with
    | .streamEnd => absent
    | .versionDirective .. | .tagDirective .. | .documentStart => do
      directives false fuel
      modify fun r => { r with handles := r.handles ++ defaultHandles }
      expect .documentStart
      match ← peek with
      | .versionDirective .. | .tagDirective .. | .documentStart | .documentEnd | .streamEnd =>
        absent
      | _ => node true false fuel
    | _ => do
      modify fun r => { r with handles := defaultHandles }
      node true false fuel
  ends (fuel + 1)
  return tree
where
  ends : Nat → Parse Unit
    | 0 => failure
    | fuel + 1 => do
      if ← accept .documentEnd then ends fuel
      else expect .streamEnd

end Parse

mutual

/-- Whether no more than `n` collections are nested in each other. -/
def Tree.fits : Tree → Nat → Bool
  | .scalar .., _ => true
  | .sequence .., 0 => false
  | .sequence _ items, n + 1 => itemsFit items n
  | .mapping .., 0 => false
  | .mapping _ entries, n + 1 => entriesFit entries n
  | .loop, _ => false

def itemsFit : List Tree → Nat → Bool
  | [], _ => true
  | t :: ts, n => t.fits n && itemsFit ts n

def entriesFit : List (Tree × Tree) → Nat → Bool
  | [], _ => true
  | (k, v) :: rest, n => k.fits n && v.fits n && entriesFit rest n

end

/-- The greatest depth of nesting. -/
def maxDepth : Nat := 128

/-- The tree of a text that holds one document. -/
def parse? (text : String) : Option Tree := do
  let ts ← tokens? text.toList
  let (tree, r) ← (Parse.document (4 * ts.length + 4)).run { tokens := ts, handles := [] }
  if r.aliases ≤ 100 * r.events && tree.fits maxDepth then some tree else none

end Folio.Yaml
