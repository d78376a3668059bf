import Folio.Json
import Folio.Yaml.Scalar
import Folio.Yaml.Tree

/-! YAML values, and reading them from document trees. -/

namespace Folio.Yaml

inductive Value
  | null
  | bool (value : Bool)
  | int (value : Int)
  | float (value : Binary64)
  | string (value : String)
  | sequence (items : List Value)
  | mapping (entries : List (Value × Value))
  | tagged (tag : String) (value : Value)
  deriving Inhabited, BEq

/-- The name in a tag of the document's own. -/
def localTag? (tag : Option String) : Option String :=
  match tag.map String.toList with
  | some ('!' :: name) => some (.ofList name)
  | _ => none

/-- The value of a plain scalar without a tag. An integer beyond 64 bits has none. -/
def plainValue? (s : String) : Option Value :=
  if isNull s then some .null
  else
    match bool? s, integer? s, float? s with
    | some b, _, _ => some (.bool b)
    | _, some n, _ => if isWord n then some (.int n) else none
    | _, _, some x => some (.float x)
    | _, _, _ => some (.string s)

/-- The value of a scalar by one of the standard tags, its own tag, or its style. -/
def scalarValue? (tag : Option String) (style : ScalarStyle) (s : String) : Option Value :=
  match tag with
  | some "tag:yaml.org,2002:bool" => (bool? s).map .bool
  | some "tag:yaml.org,2002:int" =>
    (integer? s).bind fun n => if isWord n then some (.int n) else none
  | some "tag:yaml.org,2002:float" => (float? s).map .float
  | some "tag:yaml.org,2002:null" => if isNull s && s ≠ "" then some .null else none
  | some _ => some (.string s)
  | none => if style = .plain then plainValue? s else some (.string s)

namespace Value

/-- Wraps a value in a tag of the document's own, which needs a name. -/
def withTag? (tag : Option String) (v : Value) : Option Value :=
  match localTag? tag with
  | some "" => none
  | some name => some (.tagged name v)
  | none => some v

/-- Whether two entries have the same key. -/
def hasRepeatedKey : List (Value × Value) → Bool
  | [] => false
  | (k, _) :: rest => rest.any (·.1 == k) || hasRepeatedKey rest

/-- The value under its tags. -/
def untagged : Value → Value
  | .tagged _ v => v.untagged
  | v => v

/-- The entries of a mapping, whatever its tag. -/
def entries? (v : Value) : Option (List (Value × Value)) :=
  match v.untagged with
  | .mapping entries => some entries
  | _ => none

/-- The text of a string, whatever its tag. -/
def text? (v : Value) : Option String :=
  match v.untagged with
  | .string s => some s
  | _ => none

def bool? (v : Value) : Option Bool :=
  match v.untagged with
  | .bool b => some b
  | _ => none

/-- The value under a key that is a string without a tag. -/
def get? (entries : List (Value × Value)) (key : String) : Option Value :=
  (entries.find? fun (k, _) => match k with
    | .string s => s == key
    | _ => false).map (·.2)

end Value

mutual

/-- The value of a tree; a mapping may not repeat a key. -/
def Value.ofTree? : Tree → Option Value
  | .scalar tag style s =>
    match localTag? tag with
    | some "" => none
    | some name => (scalarValue? none style s).map (.tagged name)
    | none => scalarValue? tag style s
  | .sequence tag items => do
    let vs ← valuesOfTrees? items
    Value.withTag? tag (.sequence vs)
  | .mapping tag entries => do
    let es ← entriesOfTrees? entries
    if Value.hasRepeatedKey es then none
    Value.withTag? tag (.mapping es)
  | .loop => none

def valuesOfTrees? : List Tree → Option (List Value)
  | [] => some []
  | t :: ts => do
    let v ← Value.ofTree? t
    let vs ← valuesOfTrees? ts
    return v :: vs

def entriesOfTrees? : List (Tree × Tree) → Option (List (Value × Value))
  | [] => some []
  | (k, v) :: rest => do
    let key ← Value.ofTree? k
    let value ← Value.ofTree? v
    let entries ← entriesOfTrees? rest
    return (key, value) :: entries

end

mutual

/-- The JSON form of a tree. Keys are the texts of scalars, of two entries with one key the later one
counts, and tags of the document's own have no JSON form. -/
def jsonOfTree? : Tree → Option Json
  | .scalar tag style s =>
    if (localTag? tag).isSome then none
    else (scalarValue? tag style s).bind jsonOfScalar?
  | .sequence tag items => do
    if (localTag? tag).isSome then none
    let vs ← jsonOfTrees? items
    return .array vs
  | .mapping tag entries => do
    if (localTag? tag).isSome then none
    let es ← jsonOfEntries? entries
    return .ofTable (.ofEntries es)
  | .loop => none
where
  jsonOfScalar? : Value → Option Json
    | .null => some .null
    | .bool b => some (.bool b)
    | .int n => some (.int n)
    | .float x => some (if x.isFinite then .float x else .null)
    | .string s => some (.string s)
    | _ => none

def jsonOfTrees? : List Tree → Option (List Json)
  | [] => some []
  | t :: ts => do
    let v ← jsonOfTree? t
    let vs ← jsonOfTrees? ts
    return v :: vs

def jsonOfEntries? : List (Tree × Tree) → Option (List (String × Json))
  | [] => some []
  | (.scalar _ _ key, v) :: rest => do
    let value ← jsonOfTree? v
    let entries ← jsonOfEntries? rest
    return (key, value) :: entries
  | _ :: _ => none

end

mutual

/-- The YAML value that is written as a JSON one is. -/
def Value.ofJson : Json → Value
  | .null => .null
  | .bool b => .bool b
  | .int n => .int n
  | .float x => .float x
  | .string s => .string s
  | .array items => .sequence (valuesOfJson items)
  | .object fields => .mapping (entriesOfJson fields)

def valuesOfJson : List Json → List Value
  | [] => []
  | v :: vs => Value.ofJson v :: valuesOfJson vs

def entriesOfJson : List (String × Json) → List (Value × Value)
  | [] => []
  | (k, v) :: rest => (.string k, Value.ofJson v) :: entriesOfJson rest

end

/-- The value of the one document in a text. -/
def readValue? (text : String) : Option Value := do
  Value.ofTree? (← parse? text)

/-- The JSON form of the one document in a text. -/
def readJson? (text : String) : Option Json := do
  jsonOfTree? (← parse? text)

end Folio.Yaml
