import Folio.Image.Policy
import Folio.Json
import Folio.Yaml.Field

/-! Policies on remote images as JSON and in YAML. -/

namespace Folio.Image

open Yaml (Source)

/-- The field of a record that is given as an object or as the list of its values in order. -/
def recordField {α : Type} (names : List String) (v : Json) (name : String) (fallback : α)
    (read : Json → Option α) : Option α :=
  match v with
  | .object fields => ((fields.lookup name).map read).getD (some fallback)
  | .array items => (((names.zip items).lookup name).map read).getD (some fallback)
  | _ => none

/-- Whether a value has the shape of a record with so many fields. -/
def isRecord (names : List String) : Json → Bool
  | .object _ => true
  | .array items => items.length ≤ names.length
  | _ => false

def text? : Json → Option String
  | .string s => some s
  | _ => none

def optionalText? : Json → Option (Option String)
  | .null => some none
  | v => (text? v).map some

def portText? (n : Int) : Option String :=
  if 0 ≤ n ∧ n < 65536 then some (toString n) else none

/-- A port given as a number or as a text. -/
def optionalPort? : Json → Option (Option String)
  | .int n => (portText? n).map some
  | v => optionalText? v

def list? {α : Type} (read : Json → Option α) : Json → Option (List α)
  | .array items => items.mapM read
  | _ => none

namespace RemotePattern

def fieldNames : List String := ["protocol", "hostname", "port", "pathname"]

def ofJson? (v : Json) : Option RemotePattern := do
  if !isRecord fieldNames v then none
  return {
    scheme := ← recordField fieldNames v "protocol" none optionalText?
    host := ← recordField fieldNames v "hostname" none optionalText?
    port := ← recordField fieldNames v "port" none optionalPort?
    path := ← recordField fieldNames v "pathname" none optionalText? }

def toJson (p : RemotePattern) : Json :=
  let text (s : Option String) := Json.optional (s.map .string)
  .object [("protocol", text p.scheme), ("hostname", text p.host), ("port", text p.port),
    ("pathname", text p.path)]

section

variable {β : Type} [Source β]

def readPort? (t : β) : Option String := do
  match ← Source.value? t with
  | .int n => portText? n
  | .string s => some s
  | _ => none

def read? (t : β) : Option RemotePattern := do
  let fields ← Source.fields? t
  return {
    scheme := ← Yaml.field? fields "protocol" none (Yaml.optional? Source.text?)
    host := ← Yaml.field? fields "hostname" none (Yaml.optional? Source.text?)
    port := ← Yaml.field? fields "port" none (Yaml.optional? readPort?)
    path := ← Yaml.field? fields "pathname" none (Yaml.optional? Source.text?) }

end

end RemotePattern

namespace Policy

def fieldNames : List String := ["domains", "remote_patterns"]

def ofJson? (v : Json) : Option Policy := do
  if !isRecord fieldNames v then none
  return {
    hosts := ← recordField fieldNames v "domains" [] (list? text?)
    patterns := ← recordField fieldNames v "remote_patterns" [] (list? RemotePattern.ofJson?) }

def toJson (p : Policy) : Json :=
  .object [("domains", .strings p.hosts),
    ("remote_patterns", .array (p.patterns.map RemotePattern.toJson))]

def read? {β : Type} [Source β] (t : β) : Option Policy := do
  let fields ← Source.fields? t
  return {
    hosts := ← Yaml.field? fields "domains" [] Yaml.texts?
    patterns := ← Yaml.field? fields "remote_patterns" [] (Yaml.items? RemotePattern.read?) }

end Policy

end Folio.Image
