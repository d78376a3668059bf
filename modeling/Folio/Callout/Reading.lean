import Folio.Callout.Options
import Folio.Text.Blank
import Folio.Yaml.Field

/-! Reading callout options from YAML: leniently, where whatever does not fit is passed over, and
strictly. -/

namespace Folio.Callout

open Yaml (Source Tree Value)

def Color.ofValue? : Value → Option Color
  | .string c => some (.single c)
  | .sequence [.string light, .string dark] => some (.pair light dark)
  | _ => none

def Entry.ofValue? (v : Value) : Option Entry :=
  v.entries?.map fun fields =>
    { title := (Value.get? fields "title").bind Value.text?
      indicator := (Value.get? fields "indicator").bind Value.text?
      color := (Value.get? fields "color").bind Color.ofValue? }

/-- The names of an alias entry: one text, or the texts among the items of a list. -/
def namesOfValue? : Value → Option (List String)
  | .string name => some [name]
  | .sequence items => some (items.filterMap Value.text?)
  | _ => none

/-- A table of the entries whose key is a text and whose value can be read. -/
def tableOfValue {α : Type} (read : Value → Option α) (v : Value) : Option (Table α) :=
  v.entries?.map fun entries =>
    .ofEntries (entries.filterMap fun (k, v) => do
      return (← k.text?, ← read v))

/-- The tag under a name, unless it is blank. -/
def tagOfValue (fields : List (Value × Value)) (name : String) : Option String :=
  ((Value.get? fields name).bind Value.text?).bind fun s =>
    let tag := String.ofList (Text.trim s.toList)
    if tag = "" then none else some tag

def TagNames.ofValue? (v : Value) : Option TagNames :=
  v.entries?.map fun fields =>
    let tag := tagOfValue fields
    let d : TagNames := {}
    { container := (tag "non_collapsible_container").getD d.container
      title := (tag "non_collapsible_title").getD d.title
      content := (tag "non_collapsible_content").getD d.content
      foldedContent := (tag "collapsible_content").getD d.foldedContent
      icon := (tag "icon").getD d.icon
      titleInner := (tag "title_inner").getD d.titleInner }

/-- Reads options leniently. -/
def Options.ofValue (v : Value) : Options :=
  match v.entries? with
  | none => {}
  | some fields =>
    { theme := ((Value.get? fields "theme").bind Value.text?).bind Theme.ofString?
      entries := ((Value.get? fields "callouts").bind (tableOfValue Entry.ofValue?)).getD []
      aliases := ((Value.get? fields "aliases").bind (tableOfValue namesOfValue?)).getD []
      showIndicator := (Value.get? fields "show_indicator").bind Value.bool?
      tagNames := (Value.get? fields "tag_names").bind TagNames.ofValue? }

section

variable {β : Type} [Source β]

def Color.read? (t : β) : Option Color :=
  (Source.value? t).bind Color.ofValue?

def Entry.read? (t : β) : Option Entry := do
  let fields ← Source.fields? t
  return {
    title := ← Yaml.field? fields "title" none (Yaml.optional? Source.text?)
    indicator := ← Yaml.field? fields "indicator" none (Yaml.optional? Source.text?)
    color := ← Yaml.field? fields "color" none (Yaml.optional? Color.read?) }

def TagNames.read? (t : β) : Option TagNames := do
  let fields ← Source.fields? t
  let d : TagNames := {}
  return {
    container := ← Yaml.field? fields "non_collapsible_container" d.container Source.text?
    title := ← Yaml.field? fields "non_collapsible_title" d.title Source.text?
    content := ← Yaml.field? fields "non_collapsible_content" d.content Source.text?
    foldedContent := ← Yaml.field? fields "collapsible_content" d.foldedContent Source.text?
    icon := ← Yaml.field? fields "icon" d.icon Source.text?
    titleInner := ← Yaml.field? fields "title_inner" d.titleInner Source.text? }

/-- Reads options strictly. -/
def Options.read? (t : β) : Option Options := do
  let fields ← Source.fields? t
  return {
    theme := ← Yaml.field? fields "theme" none (Yaml.optional? (Yaml.choice? Theme.named?))
    entries := ← Yaml.field? fields "callouts" [] (Yaml.table? Entry.read?)
    aliases := ← Yaml.field? fields "aliases" [] (Yaml.table? Yaml.texts?)
    showIndicator := ← Yaml.field? fields "show_indicator" none (Yaml.optional? Source.flag?)
    tagNames := ← Yaml.field? fields "tag_names" none (Yaml.optional? TagNames.read?) }

end

def Options.ofTree? (t : Tree) : Option Options :=
  Options.read? t

/-- Options as a YAML value. -/
def Options.toValue (o : Options) : Value :=
  .ofJson o.toJson

end Folio.Callout
