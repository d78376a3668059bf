import Folio.Text.Blank

/-! The properties of an element: values under names, in the order in which the names were first
set. -/

namespace Folio

inductive PropertyValue
  | flag (on : Bool)
  | text (value : String)
  /-- A list of words such as the classes of an element. -/
  | tokens (items : List String)
  deriving DecidableEq, Repr, Inhabited

/-- A list of properties may repeat a name; the first one with a name is the one that counts. -/
structure Properties where
  entries : List (String × PropertyValue) := []
  deriving DecidableEq, Repr, Inhabited

namespace Properties

def empty : Properties := {}

def get? (p : Properties) (name : String) : Option PropertyValue :=
  p.entries.lookup name

def getText? (p : Properties) (name : String) : Option String :=
  match p.get? name with
  | some (.text s) => some s
  | _ => none

def contains (p : Properties) (name : String) : Bool :=
  p.entries.any (·.1 == name)

def size (p : Properties) : Nat :=
  p.entries.length

def isEmpty (p : Properties) : Bool :=
  p.entries.isEmpty

def setIn (name : String) (value : PropertyValue) :
    List (String × PropertyValue) → List (String × PropertyValue)
  | [] => [(name, value)]
  | (n, v) :: rest => if n = name then (n, value) :: rest else (n, v) :: setIn name value rest

/-- Sets a property, in its old place if it has one and at the end otherwise. -/
def set (p : Properties) (name : String) (value : PropertyValue) : Properties :=
  ⟨setIn name value p.entries⟩

def removeFrom (name : String) :
    List (String × PropertyValue) → List (String × PropertyValue)
  | [] => []
  | (n, v) :: rest => if n = name then rest else (n, v) :: removeFrom name rest

def remove (p : Properties) (name : String) : Properties :=
  ⟨removeFrom name p.entries⟩

/-- The value of a property, and the properties without it. -/
def take (p : Properties) (name : String) : Option PropertyValue × Properties :=
  match p.entries.findIdx? (·.1 == name) with
  | some i => (p.entries[i]?.map (·.2), ⟨p.entries.eraseIdx i⟩)
  | none => (none, p)

def ofList (entries : List (String × PropertyValue)) : Properties :=
  entries.foldl (fun p e => p.set e.1 e.2) empty

def words (s : String) : List String :=
  (Text.words s.toList).map .ofList

/-- The words of the `class` property. -/
def classes (p : Properties) : List String :=
  match p.get? "class" with
  | some (.tokens items) => items
  | some (.text s) => words s
  | _ => []

def hasClass (p : Properties) (name : String) : Bool :=
  p.classes.contains name

end Properties

end Folio
