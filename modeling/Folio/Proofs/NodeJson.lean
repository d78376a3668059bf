import Mathlib.Data.List.Forall2
import Folio.Node.Json
import Folio.Proofs.Content

/-! Reading trees back from their JSON form. An object has no order of its own, so the fields may
have been put into another one on the way; the items of a list may not, and properties are a list. -/

namespace Folio

namespace Json

/-- The same value, but for the order of the fields in its objects, at any depth. -/
inductive Reordered : Json → Json → Prop
  | null : Reordered .null .null
  | bool (b : Bool) : Reordered (.bool b) (.bool b)
  | int (n : Int) : Reordered (.int n) (.int n)
  | float (x : Binary64) : Reordered (.float x) (.float x)
  | string (s : String) : Reordered (.string s) (.string s)
  | array {vs ws : List Json} (h : List.Forall₂ Reordered vs ws) :
      Reordered (.array vs) (.array ws)
  | object {fields changed fields' : List (String × Json)}
      (hk : fields.map Prod.fst = changed.map Prod.fst)
      (hv : List.Forall₂ Reordered (fields.map Prod.snd) (changed.map Prod.snd))
      (hp : changed.Perm fields') : Reordered (.object fields) (.object fields')

mutual

theorem Reordered.refl : ∀ v : Json, Reordered v v
  | .null => .null
  | .bool b => .bool b
  | .int n => .int n
  | .float x => .float x
  | .string s => .string s
  | .array items => .array (forall₂_reordered_items items)
  | .object fields => .object rfl (forall₂_reordered_fields fields) (.refl _)

theorem forall₂_reordered_items : ∀ items : List Json, List.Forall₂ Reordered items items
  | [] => .nil
  | v :: vs => .cons (Reordered.refl v) (forall₂_reordered_items vs)

theorem forall₂_reordered_fields : ∀ fields : List (String × Json),
    List.Forall₂ Reordered (fields.map Prod.snd) (fields.map Prod.snd)
  | [] => .nil
  | (_, v) :: rest => .cons (Reordered.refl v) (forall₂_reordered_fields rest)

end

theorem Reordered.eq_string {s : String} {w : Json} (h : Reordered (.string s) w) :
    w = .string s := by
  cases h
  rfl

theorem Reordered.exists_array {vs : List Json} {w : Json} (h : Reordered (.array vs) w) :
    ∃ ws, w = .array ws ∧ List.Forall₂ Reordered vs ws := by
  cases h with
  | array h => exact ⟨_, rfl, h⟩

theorem exists_mem_of_forall₂ {fields changed : List (String × Json)}
    (hk : fields.map Prod.fst = changed.map Prod.fst)
    (hv : List.Forall₂ Reordered (fields.map Prod.snd) (changed.map Prod.snd))
    {name : String} {v : Json} (hm : (name, v) ∈ fields) :
    ∃ w, (name, w) ∈ changed ∧ Reordered v w := by
  induction fields generalizing changed with
  | nil => cases hm
  | cons f fields ih =>
    cases changed with
    | nil => cases hv
    | cons g changed =>
      obtain ⟨hhead, hk⟩ := List.cons.inj hk
      obtain ⟨hvalue, hv⟩ := List.forall₂_cons.mp hv
      rcases List.mem_cons.mp hm with rfl | hm
      · exact ⟨g.2, List.mem_cons.mpr (.inl (Prod.ext hhead rfl)), hvalue⟩
      · obtain ⟨w, hw, hr⟩ := ih hk hv hm
        exact ⟨w, List.mem_cons_of_mem g hw, hr⟩

theorem lookup_of_mem {fields : List (String × Json)} (hn : (fields.map Prod.fst).Nodup)
    {name : String} {v : Json} (hm : (name, v) ∈ fields) : fields.lookup name = some v := by
  induction fields with
  | nil => cases hm
  | cons f fields ih =>
    obtain ⟨hnew, hrest⟩ := List.nodup_cons.mp hn
    rcases List.mem_cons.mp hm with rfl | hm
    · exact List.lookup_cons_self
    · have hne : name ≠ f.1 := by
        rintro rfl
        exact hnew (List.mem_map.mpr ⟨(f.1, v), hm, rfl⟩)
      rw [List.lookup_cons, beq_false_of_ne hne]
      exact ih hrest hm

/-- Where the fields have different names, each of them is found under its name after they have been
put into another order. -/
theorem Reordered.lookup {fields : List (String × Json)} {w : Json}
    (h : Reordered (.object fields) w) (hn : (fields.map Prod.fst).Nodup) :
    ∃ fields', w = .object fields' ∧ ∀ name v, (name, v) ∈ fields →
      ∃ v', fields'.lookup name = some v' ∧ Reordered v v' := by
  cases h with
  | @object _ changed fields' hk hv hp =>
    refine ⟨fields', rfl, fun name v hm => ?_⟩
    obtain ⟨v', hm', hr⟩ := exists_mem_of_forall₂ hk hv hm
    have hn' : (fields'.map Prod.fst).Nodup := (hp.map Prod.fst).nodup (hk ▸ hn)
    exact ⟨v', lookup_of_mem hn' (hp.mem_iff.mp hm'), hr⟩

/-! ### Values without objects have no other order -/

theorem eq_of_forall₂_reordered {vs ws : List Json} (hvs : ∀ v ∈ vs, ∀ w, Reordered v w → w = v)
    (h : List.Forall₂ Reordered vs ws) : ws = vs := by
  induction h with
  | nil => rfl
  | cons hr _ ih =>
    rw [hvs _ List.mem_cons_self _ hr, ih fun v hv => hvs v (List.mem_cons_of_mem _ hv)]

theorem Reordered.eq_array {vs : List Json} {w : Json} (hvs : ∀ v ∈ vs, ∀ w, Reordered v w → w = v)
    (h : Reordered (.array vs) w) : w = .array vs := by
  obtain ⟨ws, rfl, hf⟩ := h.exists_array
  rw [eq_of_forall₂_reordered hvs hf]

theorem Reordered.eq_propertyValue {value : PropertyValue} {w : Json}
    (h : Reordered value.toJson w) : w = value.toJson := by
  cases value with
  | flag b =>
    cases h
    rfl
  | text s => exact h.eq_string
  | tokens items =>
    refine h.eq_array fun v hv w hw => ?_
    obtain ⟨s, -, rfl⟩ := List.mem_map.mp hv
    exact hw.eq_string

theorem Reordered.eq_entry {e : String × PropertyValue} {w : Json}
    (h : Reordered (Properties.entryToJson e) w) : w = Properties.entryToJson e := by
  refine h.eq_array fun v hv w hw => ?_
  rcases List.mem_pair.mp hv with rfl | rfl
  · exact hw.eq_string
  · exact hw.eq_propertyValue

theorem Reordered.eq_properties {p : Properties} {w : Json} (h : Reordered p.toJson w) :
    w = p.toJson := by
  refine h.eq_array fun v hv w hw => ?_
  obtain ⟨e, -, rfl⟩ := List.mem_map.mp hv
  exact hw.eq_entry

end Json

/-! ### Reading back -/

theorem mapM_map_eq_some {α β : Type} {write : α → β} {read : β → Option α}
    (h : ∀ x, read (write x) = some x) (xs : List α) : (xs.map write).mapM read = some xs := by
  induction xs with
  | nil => rfl
  | cons x xs ih => simp [h, ih]

theorem PropertyValue.ofJson?_toJson (value : PropertyValue) : ofJson? value.toJson = some value := by
  cases value with
  | flag b => rfl
  | text s => rfl
  | tokens items =>
    have hitem : ∀ s, string? (.string s) = some s := fun _ => rfl
    rw [toJson, Json.strings, ofJson?, mapM_map_eq_some hitem]
    rfl

theorem Properties.ofJson?_toJson (p : Properties) : ofJson? p.toJson = some p := by
  have hentry : ∀ e, entryOfJson? (entryToJson e) = some e := fun e => by
    rw [entryToJson, entryOfJson?, PropertyValue.ofJson?_toJson]
    rfl
  rw [toJson, ofJson?, mapM_map_eq_some hentry]
  rfl

theorem elementField_eq (fields : List (String × Json)) :
    elementField fields = (fields.lookup "value").bind Element.ofJson? := by
  induction fields with
  | nil => rfl
  | cons f fields ih =>
    obtain ⟨k, v⟩ := f
    rw [elementField, List.lookup_cons, ih]
    by_cases hk : k = "value"
    · simp [hk]
    · simp [hk, beq_false_of_ne (Ne.symm hk)]

theorem childrenField_of_lookup {fields : List (String × Json)} {items : List Json}
    (h : fields.lookup "children" = some (.array items)) :
    childrenField fields = nodesOfJson? items := by
  induction fields with
  | nil => cases h
  | cons f fields ih =>
    obtain ⟨k, v⟩ := f
    rw [List.lookup_cons] at h
    by_cases hk : k = "children"
    · subst hk
      rw [beq_self_eq_true] at h
      obtain rfl := Option.some.inj h
      rw [childrenField, if_pos rfl]
    · rw [beq_false_of_ne (Ne.symm hk)] at h
      cases v <;> simp [childrenField, hk, ih h]

theorem stringField_of_lookup {name s : String} {fields : List (String × Json)}
    (h : fields.lookup name = some (.string s)) : stringField name fields = some s := by
  rw [stringField, h]
  rfl

/-- An element is read from its fields, if its content is. -/
theorem Element.ofJson?_of_reordered {e : Element} {w : Json} (h : e.toJson.Reordered w)
    (hc : ∀ ws, List.Forall₂ Json.Reordered (nodesToJson e.children) ws →
      nodesOfJson? ws = some e.children) : Element.ofJson? w = some e := by
  obtain ⟨fields, rfl, hf⟩ := Json.Reordered.lookup h (by simp)
  obtain ⟨tag, htag, hr⟩ := hf "tag_name" (.string e.tag) (by simp)
  obtain rfl := hr.eq_string
  obtain ⟨p, hp, hr⟩ := hf "properties" e.properties.toJson (by simp)
  obtain rfl := hr.eq_properties
  obtain ⟨children, hchildren, hr⟩ := hf "children" (.array (nodesToJson e.children)) (by simp)
  obtain ⟨items, rfl, hitems⟩ := hr.exists_array
  rw [Element.ofJson?, stringField_of_lookup htag, propertiesField, hp,
    childrenField_of_lookup hchildren, hc items hitems]
  simp [Properties.ofJson?_toJson]

/-- Kind and content of a node are found wherever they stand. -/
theorem exists_kind_and_value {kind : String} {v w : Json}
    (h : (Json.object [("type", .string kind), ("value", v)]).Reordered w) :
    ∃ fields v', w = .object fields ∧ stringField "type" fields = some kind ∧
      fields.lookup "value" = some v' ∧ v.Reordered v' := by
  obtain ⟨fields, rfl, hf⟩ := h.lookup (by simp)
  obtain ⟨k, hk, hr⟩ := hf "type" (.string kind) (by simp)
  obtain rfl := hr.eq_string
  obtain ⟨v', hv, hr⟩ := hf "value" v (by simp)
  exact ⟨fields, v', rfl, stringField_of_lookup hk, hv, hr⟩

theorem Node.ofJson?_of_text {s : String} {w : Json} (h : (Node.text s).toJson.Reordered w) :
    Node.ofJson? w = some (.text s) := by
  obtain ⟨fields, v, rfl, hkind, hv, hr⟩ := exists_kind_and_value h
  obtain rfl := hr.eq_string
  simp [Node.ofJson?, hkind, stringField_of_lookup hv]

theorem Node.ofJson?_of_raw {s : String} {w : Json} (h : (Node.raw s).toJson.Reordered w) :
    Node.ofJson? w = some (.raw s) := by
  obtain ⟨fields, v, rfl, hkind, hv, hr⟩ := exists_kind_and_value h
  obtain rfl := hr.eq_string
  simp [Node.ofJson?, hkind, stringField_of_lookup hv]

theorem Node.ofJson?_of_element {e : Element} {w : Json} (h : e.toNode.toJson.Reordered w)
    (hc : ∀ ws, List.Forall₂ Json.Reordered (nodesToJson e.children) ws →
      nodesOfJson? ws = some e.children) : Node.ofJson? w = some e.toNode := by
  obtain ⟨fields, v, rfl, hkind, hv, hr⟩ := exists_kind_and_value (v := e.toJson) h
  have helement : elementField fields = some e := by
    rw [elementField_eq, hv]
    exact Element.ofJson?_of_reordered hr hc
  simp [Node.ofJson?, hkind, helement]

theorem nodesOfJson?_of_reordered {ns : List Node} {ws : List Json}
    (h : List.Forall₂ Json.Reordered (nodesToJson ns) ws) : nodesOfJson? ws = some ns := by
  induction ns using nodes_induction generalizing ws with
  | nil =>
    cases h
    rfl
  | text s ns ih =>
    obtain ⟨w, rest, hw, hrest, rfl⟩ := List.forall₂_cons_left_iff.mp h
    simp [nodesOfJson?, Node.ofJson?_of_text hw, ih hrest]
  | raw s ns ih =>
    obtain ⟨w, rest, hw, hrest, rfl⟩ := List.forall₂_cons_left_iff.mp h
    simp [nodesOfJson?, Node.ofJson?_of_raw hw, ih hrest]
  | element tag p children ns ihi ih =>
    obtain ⟨w, rest, hw, hrest, rfl⟩ := List.forall₂_cons_left_iff.mp h
    have hnode : Node.ofJson? w = some (.element tag p children) :=
      Node.ofJson?_of_element (e := ⟨tag, p, children⟩) hw fun _ hitems => ihi hitems
    simp [nodesOfJson?, hnode, ih hrest]

/-- Every node and every element is read back from its JSON form as it was, in whatever order the
fields of the objects arrive. -/
theorem ofJson?_of_toJson_reordered (n : Node) (e : Element) :
    Node.ofJson? n.toJson = some n ∧ Element.ofJson? e.toJson = some e ∧
      (∀ w, n.toJson.Reordered w → Node.ofJson? w = some n) ∧
      ∀ w, e.toJson.Reordered w → Element.ofJson? w = some e := by
  have hnode : ∀ w, n.toJson.Reordered w → Node.ofJson? w = some n := by
    intro w h
    cases n with
    | text s => exact Node.ofJson?_of_text h
    | raw s => exact Node.ofJson?_of_raw h
    | element tag p children =>
      exact Node.ofJson?_of_element (e := ⟨tag, p, children⟩) h fun _ => nodesOfJson?_of_reordered
  have helement : ∀ w, e.toJson.Reordered w → Element.ofJson? w = some e :=
    fun w h => Element.ofJson?_of_reordered h fun _ => nodesOfJson?_of_reordered
  exact ⟨hnode _ (.refl _), helement _ (.refl _), hnode, helement⟩

end Folio
