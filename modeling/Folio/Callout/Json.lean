import Folio.Callout.Marker
import Folio.Callout.Options
import Folio.Image.Reading

/-! Callout entries and markers as JSON. -/

namespace Folio.Callout

open Image (recordField isRecord optionalText?)

def Color.ofJson? : Json → Option Color
  | .string c => some (.single c)
  | .array [.string light, .string dark] => some (.pair light dark)
  | _ => none

def Color.optionalOfJson? : Json → Option (Option Color)
  | .null => some none
  | v => (Color.ofJson? v).map some

namespace Entry

def fieldNames : List String := ["title", "indicator", "color"]

def ofJson? (v : Json) : Option Entry := do
  if !isRecord fieldNames v then none
  return {
    title := ← recordField fieldNames v "title" none optionalText?
    indicator := ← recordField fieldNames v "indicator" none optionalText?
    color := ← recordField fieldNames v "color" none Color.optionalOfJson? }

end Entry

def Fold.name : Fold → String
  | .never => "None"
  | .opened => "Open"
  | .closed => "Closed"

def Marker.toJson (m : Marker) : Json :=
  .object [("kind", .string m.kind), ("collapse", .string m.fold.name),
    ("title", .string m.title), ("collapsible", .bool m.fold.isFoldable)]

end Folio.Callout
