import Folio.Yaml.Value

/-! Reading records from YAML, be it a document tree or a value. A record is a mapping whose keys are
texts; unknown fields are passed over, and a known field may occur once. -/

namespace Folio.Yaml

/-- What the parts of a document can be read as. -/
class Source (β : Type) where
  text? : β → Option String
  flag? : β → Option Bool
  /-- The items of a sequence; a value that is left out has none. -/
  items? : β → Option (List β)
  /-- The entries of a mapping by the texts of its keys; a value that is left out has none. -/
  fields? : β → Option (List (String × β))
  /-- Whether an optional value is absent. -/
  isNone? : β → Option Bool
  /-- One of several names, given as a text or as the tag of nothing. -/
  name? : β → Option String
  value? : β → Option Value

namespace Tree

/-- The text of a scalar, whatever it stands for. -/
def text? : Tree → Option String
  | .scalar _ _ s => some s
  | _ => none

/-- A scalar that is plain, or literal with a standard tag. -/
def isNative (tag : String) : Tree → Bool
  | .scalar _ .plain _ => true
  | .scalar (some t) .literal _ => t == tag
  | _ => false

def flag? (t : Tree) : Option Bool :=
  if t.isNative "tag:yaml.org,2002:bool" then t.text?.bind bool? else none

def isAbsent : Tree → Bool
  | .scalar _ .plain "" => true
  | _ => false

def items? : Tree → Option (List Tree)
  | .sequence _ items => some items
  | t => if t.isAbsent then some [] else none

def fields? : Tree → Option (List (String × Tree))
  | .mapping _ entries => entries.mapM fun (k, v) => k.text?.map (·, v)
  | t => if t.isAbsent then some [] else none

def isNone? : Tree → Option Bool
  | .scalar none .plain s => some (isNull s)
  | .scalar (some "tag:yaml.org,2002:null") .plain s =>
    if isNull s && s ≠ "" then some true else none
  | _ => some false

def name? : Tree → Option String
  | .scalar tag style s =>
    match localTag? tag with
    | some name => if s = "" || style = .plain && isNull s then some name else none
    | none => some s
  | _ => none

instance : Source Tree where
  text? := text?
  flag? := flag?
  items? := items?
  fields? := fields?
  isNone? := isNone?
  name? := name?
  value? := Value.ofTree?

end Tree

namespace Value

def items? (v : Value) : Option (List Value) :=
  match v.untagged with
  | .sequence items => some items
  | .null => some []
  | _ => none

def fields? (v : Value) : Option (List (String × Value)) :=
  match v.untagged with
  | .mapping entries => entries.mapM fun (k, v) => k.text?.map (·, v)
  | .null => some []
  | _ => none

def isNone? : Value → Option Bool
  | .null => some true
  | _ => some false

def name? : Value → Option String
  | .string s => some s
  | .tagged name .null => some name
  | _ => none

instance : Source Value where
  text? := text?
  flag? := bool?
  items? := items?
  fields? := fields?
  isNone? := isNone?
  name? := name?
  value? := some

end Value

section

variable {α β : Type} [Source β]

def items? (read : β → Option α) (t : β) : Option (List α) :=
  (Source.items? t).bind (·.mapM read)

def texts? (t : β) : Option (List String) :=
  items? Source.text? t

/-- An optional value. -/
def optional? (read : β → Option α) (t : β) : Option (Option α) := do
  if ← Source.isNone? t then return none else return some (← read t)

/-- One of several things by its name. -/
def choice? (named? : String → Option α) (t : β) : Option α :=
  (Source.name? t).bind named?

/-- The value of a field, or a default if there is no such field. -/
def field? (fields : List (String × β)) (name : String) (fallback : α) (read : β → Option α) :
    Option α :=
  match fields.filter (·.1 == name) with
  | [] => some fallback
  | [(_, t)] => read t
  | _ => none

/-- A table from the fields of a mapping; of two fields with one name the later one counts. -/
def table? (read : β → Option α) (t : β) : Option (Table α) := do
  let fields ← Source.fields? t
  let entries ← fields.mapM fun (name, v) => (read v).map (name, ·)
  return .ofEntries entries

end

end Folio.Yaml
