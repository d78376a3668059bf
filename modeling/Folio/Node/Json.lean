import Folio.Json
import Folio.Node.Basic

/-! The JSON form of document trees. A node is an object of its kind under `type` and its content
under `value`; properties are pairs of name and value, so that their order and repeated names are
kept. -/

namespace Folio

namespace PropertyValue

def toJson : PropertyValue → Json
  | .flag b => .bool b
  | .text s => .string s
  | .tokens items => .strings items

def string? : Json → Option String
  | .string s => some s
  | _ => none

def ofJson? : Json → Option PropertyValue
  | .bool b => some (.flag b)
  | .string s => some (.text s)
  | .array items => (items.mapM string?).map .tokens
  | _ => none

end PropertyValue

namespace Properties

def entryToJson (e : String × PropertyValue) : Json :=
  .array [.string e.1, e.2.toJson]

def toJson (p : Properties) : Json :=
  .array (p.entries.map entryToJson)

def entryOfJson? : Json → Option (String × PropertyValue)
  | .array [.string name, value] => (PropertyValue.ofJson? value).map (name, ·)
  | _ => none

/-- Takes the pairs as they are, repeated names included. -/
def ofJson? : Json → Option Properties
  | .array items => (items.mapM entryOfJson?).map (⟨·⟩)
  | _ => none

end Properties

mutual

def Node.toJson : Node → Json
  | .text s => .object [("type", .string "text"), ("value", .string s)]
  | .raw s => .object [("type", .string "raw"), ("value", .string s)]
  | .element tag p children =>
    .object [("type", .string "element"),
      ("value", .object [("tag_name", .string tag), ("properties", p.toJson),
        ("children", .array (nodesToJson children))])]

def nodesToJson : List Node → List Json
  | [] => []
  | n :: ns => n.toJson :: nodesToJson ns

end

def Element.toJson (e : Element) : Json :=
  .object [("tag_name", .string e.tag), ("properties", e.properties.toJson),
    ("children", .array (nodesToJson e.children))]

/-- The text in the first field called `name`. -/
def stringField (name : String) (fields : List (String × Json)) : Option String :=
  (fields.lookup name).bind PropertyValue.string?

/-- The properties among the fields of an element; without such a field there are none. -/
def propertiesField (fields : List (String × Json)) : Option Properties :=
  match fields.lookup "properties" with
  | none => some {}
  | some v => Properties.ofJson? v

mutual

/-- Reads a node. As for every record here, the list of the field values, in their order, stands for
the object too, and unknown fields are passed over. -/
def Node.ofJson? : Json → Option Node
  | .object fields =>
    match stringField "type" fields with
    | some "text" => (stringField "value" fields).map .text
    | some "raw" => (stringField "value" fields).map .raw
    | some "element" => (elementField fields).map Element.toNode
    | _ => none
  | .array [.string "text", .string s] => some (.text s)
  | .array [.string "raw", .string s] => some (.raw s)
  | .array [.string "element", e] => (Element.ofJson? e).map Element.toNode
  | _ => none

def elementField : List (String × Json) → Option Element
  | [] => none
  | (k, v) :: rest => if k = "value" then Element.ofJson? v else elementField rest

def Element.ofJson? : Json → Option Element
  | .object fields => do
    let tag ← stringField "tag_name" fields
    let properties ← propertiesField fields
    let children ← childrenField fields
    return ⟨tag, properties, children⟩
  | .array [.string tag] => some ⟨tag, {}, []⟩
  | .array [.string tag, p] => (Properties.ofJson? p).map (⟨tag, ·, []⟩)
  | .array [.string tag, p, .array items] => do
    let properties ← Properties.ofJson? p
    let children ← nodesOfJson? items
    return ⟨tag, properties, children⟩
  | _ => none

def childrenField : List (String × Json) → Option (List Node)
  | [] => some []
  | (k, .array items) :: rest =>
    if k = "children" then nodesOfJson? items else childrenField rest
  | (k, _) :: rest => if k = "children" then none else childrenField rest

def nodesOfJson? : List Json → Option (List Node)
  | [] => some []
  | v :: vs => do
    let n ← Node.ofJson? v
    let ns ← nodesOfJson? vs
    return n :: ns

end

end Folio
