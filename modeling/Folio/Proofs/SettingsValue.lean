import Mathlib.Data.List.DropRight
import Folio.Proofs.NodeJson
import Folio.Proofs.Tables
import Folio.Settings

/-! Settings as YAML values, and reading them back. Two readers are at work: records are read strictly,
and callout options leniently. What the lenient one has read is clean, and it takes clean options as
they are. -/

namespace Folio

theorem Text.trim_trim (s : List Char) : Text.trim (Text.trim s) = Text.trim s := by
  obtain ⟨blanks, hblanks⟩ : trim s <+: trimLeft s := List.rdropWhile_prefix isBlank _
  have hleft : trimLeft (trim s) = trim s := by
    cases h : trim s with
    | nil => rfl
    | cons c r =>
      have hc := List.head?_dropWhile_not isBlank s
      rw [trimLeft, h] at hblanks
      rw [← hblanks] at hc
      exact List.dropWhile_cons_of_neg (ne_true_of_eq_false hc)
  have hright : trimRight (trim s) = trim s := List.rdropWhile_idempotent isBlank _
  rw [trim, hleft, hright]

namespace Yaml

open Value (ofJson)

theorem valuesOfJson_eq_map (items : List Json) : valuesOfJson items = items.map ofJson := by
  induction items with
  | nil => rfl
  | cons v vs ih => rw [valuesOfJson, ih, List.map_cons]

theorem entriesOfJson_eq_map (fields : List (String × Json)) :
    entriesOfJson fields = fields.map fun f => (.string f.1, ofJson f.2) := by
  induction fields with
  | nil => rfl
  | cons f fields ih => rw [entriesOfJson, ih, List.map_cons]

theorem Value.get?_entriesOfJson (fields : List (String × Json)) (name : String) :
    Value.get? (entriesOfJson fields) name = (fields.lookup name).map ofJson := by
  induction fields with
  | nil => rfl
  | cons f fields ih =>
    obtain ⟨k, v⟩ := f
    rw [entriesOfJson, List.lookup_cons]
    rw [Value.get?] at ih ⊢
    by_cases hk : k = name
    · subst hk
      simp
    · rw [beq_false_of_ne (Ne.symm hk), List.find?_cons_of_neg (by simpa using hk), ih]

/-! ### What is read strictly -/

@[simp] theorem fields?_ofJson (fields : List (String × Json)) :
    Source.fields? (ofJson (.object fields)) = some (fields.map fun f => (f.1, ofJson f.2)) := by
  have hread : Source.fields? (ofJson (.object fields)) =
      (entriesOfJson fields).mapM fun e => e.1.text?.map (·, e.2) := rfl
  rw [hread, entriesOfJson_eq_map, List.mapM_map]
  exact List.mapM_pure

theorem eq_or_exists_of_field? {α β : Type} {fields : List (String × β)} {name : String}
    {fallback x : α} {read : β → Option α} (h : field? fields name fallback read = some x) :
    x = fallback ∨ ∃ part, read part = some x := by
  rw [field?] at h
  split at h
  · exact .inl (Option.some.inj h).symm
  · exact .inr ⟨_, h⟩
  · cases h

@[simp] theorem items?_ofJson (items : List Json) :
    Source.items? (ofJson (.array items)) = some (items.map ofJson) := by
  rw [ofJson, valuesOfJson_eq_map]
  rfl

@[simp] theorem text?_ofJson (s : String) : Source.text? (ofJson (.string s)) = some s :=
  rfl

@[simp] theorem flag?_ofJson (b : Bool) : Source.flag? (ofJson (.bool b)) = some b :=
  rfl

theorem items?_of_roundTrip {α : Type} {write : α → Json} {read : Value → Option α}
    (h : ∀ x, read (ofJson (write x)) = some x) (xs : List α) :
    items? read (ofJson (.array (xs.map write))) = some xs := by
  rw [items?, items?_ofJson, List.map_map]
  exact mapM_map_eq_some h xs

@[simp] theorem texts?_ofJson (items : List String) : texts? (ofJson (.strings items)) = some items :=
  items?_of_roundTrip text?_ofJson items

theorem optional?_of_roundTrip {α : Type} {write : α → Json} {read : Value → Option α}
    (h : ∀ x, read (ofJson (write x)) = some x)
    (hnull : ∀ x, Source.isNone? (ofJson (write x)) = some false) (x : Option α) :
    optional? read (ofJson (.optional (x.map write))) = some x := by
  cases x with
  | none => rfl
  | some x =>
    have hsome : Json.optional ((some x).map write) = write x := rfl
    rw [optional?, hsome, hnull, h]
    rfl

@[simp] theorem optional?_text_ofJson (s : Option String) :
    optional? Source.text? (ofJson (.optional (s.map .string))) = some s :=
  optional?_of_roundTrip text?_ofJson (fun _ => rfl) s

end Yaml

open Yaml (Source)

theorem Image.RemotePattern.read?_ofJson (p : RemotePattern) :
    read? (Yaml.Value.ofJson p.toJson) = some p := by
  have hport : Yaml.optional? readPort? (Yaml.Value.ofJson (.optional (p.port.map .string))) =
      some p.port :=
    Yaml.optional?_of_roundTrip (fun s => rfl) (fun _ => rfl) p.port
  simp [read?, toJson, Yaml.field?, hport]

theorem Image.Policy.read?_ofJson (p : Policy) : read? (Yaml.Value.ofJson p.toJson) = some p := by
  have hpatterns := Yaml.items?_of_roundTrip RemotePattern.read?_ofJson p.patterns
  simp [read?, toJson, Yaml.field?, hpatterns]

namespace Settings

theorem readHighlight?_ofJson (palette : String) (excluded : List String) :
    readHighlight? (Yaml.Value.ofJson (.object [("theme", .string palette),
      ("exclude_langs", .strings excluded)])) = some (palette, excluded) := by
  simp [readHighlight?, Yaml.field?]

theorem readHeadingIds?_ofJson (keepHyphens : Bool) :
    readHeadingIds? (Yaml.Value.ofJson (.object [("compat", .bool keepHyphens)])) =
      some keepHyphens := by
  simp [readHeadingIds?, Yaml.field?]

theorem highlighting_ofJson (h : Highlighting) :
    Yaml.choice? Highlighting.named? (Yaml.Value.ofJson (.string h.name)) = some h := by
  cases h <;> rfl

theorem readCallouts?_toValue {o : Callout.Options} (h : Callout.Options.ofValue o.toValue = o) :
    readCallouts? (Yaml.Value.ofJson o.toJson) = some (some o) := by
  have hread : readCallouts? (Yaml.Value.ofJson o.toJson) =
      some (some (Callout.Options.ofValue o.toValue)) := rfl
  rw [hread, h]

/-- Settings are read back from their value, if their callout options are. -/
theorem read?_toValue {s : Settings}
    (h : ∀ o, s.callouts = some o → Callout.Options.ofValue o.toValue = o) :
    read? s.toValue = some s := by
  obtain ⟨highlighting, palette, excluded, _, _, keepHyphens, _, _, callouts, images⟩ := s
  have hcode := readHighlight?_ofJson palette excluded
  have hids := readHeadingIds?_ofJson keepHyphens
  have himages := images.read?_ofJson
  cases callouts with
  | none =>
    have hcallouts : readCallouts? (Yaml.Value.ofJson (.bool false)) = some none := rfl
    simp [read?, toValue, toJson, Yaml.field?, highlighting_ofJson, hcode, hids, himages,
      hcallouts]
  | some o =>
    have hcallouts := readCallouts?_toValue (h o rfl)
    simp [read?, toValue, toJson, Yaml.field?, highlighting_ofJson, hcode, hids, himages,
      hcallouts]

end Settings

/-! ### What is read leniently -/

namespace Callout

open Yaml (Value)
open Yaml.Value (ofJson get?_entriesOfJson)

/-- A tag name that the lenient reader takes as it stands. -/
def IsTagName (tag : String) : Prop :=
  tag ≠ "" ∧ Text.trim tag.toList = tag.toList

def TagNames.IsClean (t : TagNames) : Prop :=
  ∀ tag ∈ [t.container, t.title, t.content, t.foldedContent, t.icon, t.titleInner], IsTagName tag

/-- Options as the lenient reader leaves them. -/
structure Options.IsClean (o : Options) : Prop where
  entries : o.entries.Sorted
  aliases : o.aliases.Sorted
  tagNames : ∀ t, o.tagNames = some t → t.IsClean

theorem isTagName_of_tagOfValue {fields : List (Value × Value)} {name tag : String}
    (h : tagOfValue fields name = some tag) : IsTagName tag := by
  obtain ⟨s, -, hs⟩ := Option.bind_eq_some_iff.mp h
  dsimp only at hs
  split at hs
  · cases hs
  · rename_i hne
    obtain rfl := Option.some.inj hs
    rw [IsTagName, String.toList_ofList]
    exact ⟨hne, Text.trim_trim s.toList⟩

theorem isTagName_getD (fields : List (Value × Value)) (name : String) :
    IsTagName ((tagOfValue fields name).getD "div") := by
  cases h : tagOfValue fields name with
  | none =>
    rw [IsTagName]
    decide
  | some tag => exact isTagName_of_tagOfValue h

theorem TagNames.isClean_of_ofValue? {v : Value} {t : TagNames} (h : TagNames.ofValue? v = some t) :
    t.IsClean := by
  obtain ⟨fields, -, rfl⟩ := Option.map_eq_some_iff.mp h
  simp only [IsClean, List.forall_mem_cons]
  exact ⟨isTagName_getD .., isTagName_getD .., isTagName_getD .., isTagName_getD ..,
    isTagName_getD .., isTagName_getD .., fun _ h => absurd h List.not_mem_nil⟩

theorem sorted_of_tableOfValue {α : Type} {read : Value → Option α} (v : Option Value) :
    Table.Sorted ((v.bind (tableOfValue read)).getD []) := by
  cases h : v.bind (tableOfValue read) with
  | none => exact .nil
  | some t =>
    obtain ⟨w, -, hw⟩ := Option.bind_eq_some_iff.mp h
    obtain ⟨entries, -, rfl⟩ := Option.map_eq_some_iff.mp hw
    exact Table.sorted_ofEntries _

theorem Options.isClean_default : Options.IsClean {} where
  entries := .nil
  aliases := .nil
  tagNames := fun _ h => by cases h

theorem Options.isClean_ofValue (v : Value) : (Options.ofValue v).IsClean := by
  rw [Options.ofValue]
  split
  · exact isClean_default
  · refine ⟨sorted_of_tableOfValue _, sorted_of_tableOfValue _, fun t ht => ?_⟩
    obtain ⟨w, -, hw⟩ := Option.bind_eq_some_iff.mp ht
    exact TagNames.isClean_of_ofValue? hw

theorem entries?_ofJson (fields : List (String × Json)) :
    (ofJson (.object fields)).entries? = some (Yaml.entriesOfJson fields) :=
  rfl

theorem text?_ofJson_string (s : String) : (ofJson (.string s)).text? = some s :=
  rfl

theorem tagOfValue_of_lookup {fields : List (String × Json)} {name tag : String} (h : IsTagName tag)
    (hl : fields.lookup name = some (.string tag)) :
    tagOfValue (Yaml.entriesOfJson fields) name = some tag := by
  have htrim : String.ofList (Text.trim tag.toList) = tag := by
    rw [h.2, String.ofList_toList]
  rw [tagOfValue, get?_entriesOfJson, hl, Option.map_some, Option.bind_some, text?_ofJson_string,
    Option.bind_some, htrim]
  exact if_neg h.1

theorem TagNames.ofValue?_toJson {t : TagNames} (h : t.IsClean) :
    TagNames.ofValue? (ofJson t.toJson) = some t := by
  obtain ⟨container, title, content, foldedContent, icon, titleInner⟩ := t
  simp only [IsClean, List.forall_mem_cons] at h
  obtain ⟨h₁, h₂, h₃, h₄, h₅, h₆, -⟩ := h
  rw [TagNames.ofValue?, TagNames.toJson, entries?_ofJson, Option.map_some]
  refine congrArg some ?_
  dsimp only
  congr 1
  · exact congrArg (Option.getD · _) (tagOfValue_of_lookup h₁ rfl)
  · exact congrArg (Option.getD · _) (tagOfValue_of_lookup h₂ rfl)
  · exact congrArg (Option.getD · _) (tagOfValue_of_lookup h₃ rfl)
  · exact congrArg (Option.getD · _) (tagOfValue_of_lookup h₄ rfl)
  · exact congrArg (Option.getD · _) (tagOfValue_of_lookup h₅ rfl)
  · exact congrArg (Option.getD · _) (tagOfValue_of_lookup h₆ rfl)

theorem Color.ofValue?_toJson (c : Color) : Color.ofValue? (ofJson c.toJson) = some c := by
  cases c <;> rfl

theorem Entry.ofValue?_toJson (e : Entry) : Entry.ofValue? (ofJson e.toJson) = some e := by
  obtain ⟨title, indicator, color⟩ := e
  rw [Entry.ofValue?, Entry.toJson, entries?_ofJson]
  simp only [get?_entriesOfJson, Option.map_some]
  cases title <;> cases indicator <;> cases color <;>
    simp [List.lookup_cons, text?_ofJson_string, Color.ofValue?_toJson]

theorem namesOfValue?_strings (names : List String) :
    namesOfValue? (ofJson (.strings names)) = some names := by
  have hread : namesOfValue? (ofJson (.strings names)) =
      some ((Yaml.valuesOfJson (names.map .string)).filterMap Value.text?) := rfl
  have hitem : Value.text? ∘ ofJson ∘ Json.string = some := rfl
  rw [hread, Yaml.valuesOfJson_eq_map, List.map_map, List.filterMap_map, hitem,
    List.filterMap_some]

theorem tableOfValue_ofTable {α : Type} {write : α → Json} {read : Value → Option α}
    (h : ∀ x, read (ofJson (write x)) = some x) {t : Table α} (ht : t.Sorted) :
    tableOfValue read (ofJson (.ofTable (t.map fun (k, x) => (k, write x)))) = some t := by
  rw [Json.ofTable, tableOfValue, entries?_ofJson, Yaml.entriesOfJson_eq_map, Option.map_some,
    List.map_map, List.filterMap_map]
  have hentries : t.filterMap (fun x => do
      return (← (Value.string x.1).text?, ← read (ofJson (write x.2)))) = t := by
    have hentry : (fun x : String × α => do
        return (← (Value.string x.1).text?, ← read (ofJson (write x.2)))) = some := by
      funext x
      rw [h]
      rfl
    rw [hentry, List.filterMap_some]
  exact congrArg some ((congrArg Table.ofEntries hentries).trans (Table.ofEntries_of_sorted ht))

theorem Theme.ofString?_name (t : Theme) : Theme.ofString? t.name = some t := by
  cases t <;> decide +kernel

theorem Options.ofValue_toValue {o : Options} (h : o.IsClean) : Options.ofValue o.toValue = o := by
  obtain ⟨theme, entries, aliases, showIndicator, tagNames⟩ := o
  have hentries : tableOfValue Entry.ofValue? (ofJson (entriesToJson entries)) = some entries :=
    tableOfValue_ofTable Entry.ofValue?_toJson h.entries
  have haliases : tableOfValue namesOfValue? (ofJson (aliasesToJson aliases)) = some aliases :=
    tableOfValue_ofTable namesOfValue?_strings h.aliases
  have htheme : (ofJson (.optional (theme.map fun t => .string t.name))).text?.bind Theme.ofString? =
      theme := by
    cases theme with
    | none => rfl
    | some t => exact Theme.ofString?_name t
  have hshow : (ofJson (.optional (showIndicator.map .bool))).bool? = showIndicator := by
    cases showIndicator <;> rfl
  have htags : TagNames.ofValue? (ofJson (.optional (tagNames.map TagNames.toJson))) = tagNames := by
    cases tagNames with
    | none => rfl
    | some t => exact TagNames.ofValue?_toJson (h.tagNames t rfl)
  rw [Options.ofValue, toValue, toJson, entries?_ofJson]
  simp [get?_entriesOfJson, List.lookup_cons, hentries, haliases, htheme, hshow, htags]

end Callout

namespace Settings

theorem isClean_of_readCallouts? {β : Type} [Source β] {t : β} {o : Callout.Options}
    (h : readCallouts? t = some (some o)) : o.IsClean := by
  obtain ⟨v, -, hv⟩ := Option.map_eq_some_iff.mp h
  split at hv
  · cases hv
  · obtain rfl := Option.some.inj hv
    exact Callout.Options.isClean_ofValue _

/-- Whatever settings are read from, their callout options are clean. -/
theorem isClean_of_read? {β : Type} [Source β] {t : β} {s : Settings} (h : read? t = some s)
    {o : Callout.Options} (ho : s.callouts = some o) : o.IsClean := by
  simp only [read?, Option.bind_eq_bind, Option.bind_eq_some_iff] at h
  obtain ⟨fields, -, _, -, _, -, _, -, _, -, _, -, _, -, _, -, callouts, hcallouts, _, -, hs⟩ := h
  obtain rfl := Option.some.inj hs
  rcases Yaml.eq_or_exists_of_field? hcallouts with hdefault | ⟨part, hpart⟩
  · obtain rfl := Option.some.inj (ho.symm.trans hdefault)
    exact Callout.Options.isClean_default
  · obtain rfl : callouts = some o := ho
    exact isClean_of_readCallouts? hpart

theorem isClean_of_parse {text : String} {s : Settings} (h : parse text = .ok s)
    {o : Callout.Options} (ho : s.callouts = some o) : o.IsClean := by
  rw [parse] at h
  split at h
  · obtain rfl := Except.ok.inj h
    obtain rfl := Option.some.inj ho
    exact Callout.Options.isClean_default
  · split at h
    · rename_i hread
      obtain rfl := Except.ok.inj h
      obtain ⟨tree, -, htree⟩ := Option.bind_eq_some_iff.mp hread
      exact isClean_of_read? htree ho
    · cases h

/-- Settings that are read from a text are read back from their value, and so are callout options,
whatever value they were read from. -/
theorem read?_toValue_of_parse :
    (∀ text s, parse text = .ok s → read? s.toValue = some s) ∧ ∀ v : Yaml.Value,
      Callout.Options.ofValue (Callout.Options.ofValue v).toValue = Callout.Options.ofValue v := by
  constructor
  · intro text s h
    exact read?_toValue fun o ho => Callout.Options.ofValue_toValue (isClean_of_parse h ho)
  · intro v
    exact Callout.Options.ofValue_toValue (Callout.Options.isClean_ofValue v)

def spacedIcon : String :=
  "callouts: \x7btag_names: \x7bicon: ' span '\x7d\x7d"

def looseOptions : Yaml.Value :=
  .mapping [(.string "callouts", .mapping [(.string "tip", .mapping [(.string "title", .int 5),
      (.string "color", .string "teal")]), (.int 2, .mapping [])]),
    (.string "aliases", .mapping [(.string "tip", .string "advice")])]

theorem read?_toValue_spacedIcon :
    (∃ s, parse spacedIcon = .ok s ∧
      (s.callouts.bind (·.tagNames)).map (·.icon) = some "span" ∧ read? s.toValue = some s) ∧
    (Callout.Options.ofValue looseOptions).aliases = [("tip", ["advice"])] ∧
    Callout.Options.ofValue (Callout.Options.ofValue looseOptions).toValue =
      Callout.Options.ofValue looseOptions := by
  have hicon : ((parse spacedIcon).toOption.bind fun s =>
      (s.callouts.bind (·.tagNames)).map (·.icon)) = some "span" := by decide +kernel
  cases hs : parse spacedIcon with
  | error e =>
    rw [hs] at hicon
    cases hicon
  | ok s =>
    rw [hs] at hicon
    obtain ⟨hsettings, hoptions⟩ := read?_toValue_of_parse
    exact ⟨⟨s, rfl, hicon, hsettings spacedIcon s hs⟩, by decide +kernel, hoptions looseOptions⟩

end Settings

end Folio
