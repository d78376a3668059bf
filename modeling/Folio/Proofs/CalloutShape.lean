import Folio.Proofs.CalloutContent

/-! The outside of a callout: its tags, its classes and its properties. The sign of the marker
decides all of it but for one property, `open`, that a callout keeps if its blockquote had it. -/

namespace Folio

theorem Properties.contains_set (p : Properties) (name other : String) (value : PropertyValue) :
    (p.set name value).contains other = (name == other || p.contains other) := by
  obtain ⟨entries⟩ := p
  rw [set, contains, contains]
  induction entries with
  | nil => rfl
  | cons x entries ih =>
    dsimp only [setIn]
    by_cases hx : x.1 = name
    · rw [if_pos hx, List.any_cons, List.any_cons, hx]
      cases (name == other) <;> rfl
    · rw [if_neg hx, List.any_cons, List.any_cons, ih]
      cases (x.1 == other) <;> cases (name == other) <;> rfl

theorem Properties.filter_set {f : String → Bool} {name : String} (h : f name = false)
    (p : Properties) (value : PropertyValue) :
    (p.set name value).entries.filter (f ·.1) = p.entries.filter (f ·.1) := by
  obtain ⟨entries⟩ := p
  rw [set]
  dsimp only
  induction entries with
  | nil => simp [setIn, h]
  | cons x entries ih =>
    dsimp only [setIn]
    by_cases hx : x.1 = name
    · simp [hx, h]
    · rw [if_neg hx, List.filter_cons, List.filter_cons, ih]

namespace Callout

/-- The names of the properties that a callout gives to its container. -/
def containerNames : List String :=
  ["dir", "class", "style", "open"]

/-- All other properties, in their order. -/
def ownProperties (p : Properties) : List (String × PropertyValue) :=
  p.entries.filter (!containerNames.contains ·.1)

theorem containerProperties_classes (t : Entries) (m : Marker) (p : Properties) :
    (containerProperties t m p).classes =
      if m.fold.isFoldable then ["callout", "callout-collapsible"] else ["callout"] := by
  have hclass : (containerProperties t m p).get? "class" =
      some (.tokens (if m.fold.isFoldable then ["callout", "callout-collapsible"]
        else ["callout"])) := by
    rw [containerProperties]
    split
    · rw [Properties.get?_set_of_ne _ _ (by decide), Properties.get?_set_of_ne _ _ (by decide),
        Properties.get?_set]
    · rw [Properties.get?_set_of_ne _ _ (by decide), Properties.get?_set]
  rw [Properties.classes, hclass]

theorem containerProperties_open_iff (t : Entries) (m : Marker) (p : Properties) :
    (containerProperties t m p).contains "open" = true ↔
      m.fold = .opened ∨ p.contains "open" = true := by
  rw [containerProperties]
  split
  · rename_i hfold
    simp [Properties.contains_set, hfold]
  · rename_i hfold
    simp [Properties.contains_set, hfold]

theorem ownProperties_containerProperties (t : Entries) (m : Marker) (p : Properties) :
    ownProperties (containerProperties t m p) = ownProperties p := by
  have hset : ∀ {name : String}, name ∈ containerNames → ∀ (p : Properties) (value : PropertyValue),
      ownProperties (p.set name value) = ownProperties p := by
    intro name hname p value
    refine Properties.filter_set (f := (!containerNames.contains ·)) ?_ p value
    rw [List.contains_iff_mem.mpr hname]
    rfl
  rw [containerProperties]
  split
  · rw [hset (by decide), hset (by decide), hset (by decide), hset (by decide)]
  · rw [hset (by decide), hset (by decide), hset (by decide)]

theorem classes_of_mem_iconNodes {c : Config} {t : Entries} {kind : String} {d : Element}
    (h : d.toNode ∈ iconNodes c t kind) : d.properties.classes = ["callout-icon"] := by
  unfold iconNodes at h
  split at h
  · have hd : indicatorNode? t kind c.tagNames.icon = some d.toNode := Option.mem_toList.mp h
    simp only [indicatorNode?, Option.bind_eq_bind, Option.bind_eq_some_iff] at hd
    obtain ⟨_, -, _, -, hd⟩ := hd
    split at hd
    · rename_i parts _
      obtain rfl := toNode_inj.mp (show Element.toNode ⟨_, _, parts⟩ = d.toNode from
        Option.some.inj hd)
      rfl
    · cases hd
  · cases h

/-- The outside of the callout `e'` with the parts `title` and `content`, made by the marker `m` of
a blockquote with the properties `p`. -/
structure Shaped (c : Config) (m : Marker) (p : Properties) (e' title content : Element) :
    Prop where
  children_eq : e'.children = [title.toNode, content.toNode]
  title_classes : title.properties.classes = ["callout-title"]
  content_classes : content.properties.classes = ["callout-content"]
  of_sign : m.fold ≠ .never → e'.tag = "details" ∧ title.tag = "summary" ∧
    content.tag = c.tagNames.foldedContent ∧
    e'.properties.classes = ["callout", "callout-collapsible"] ∧
    title.children.getLast? = some (foldIconNode c.tagNames.icon)
  of_no_sign : m.fold = .never → e'.tag = c.tagNames.container ∧ title.tag = c.tagNames.title ∧
    content.tag = c.tagNames.content ∧ e'.properties.classes = ["callout"] ∧
    ∀ d : Element, d.toNode ∈ title.children → d.properties.hasClass "callout-fold" = false
  open_iff : e'.properties.contains "open" = true ↔
    m.fold = .opened ∨ p.contains "open" = true
  ownProperties_eq : ownProperties e'.properties = ownProperties p

theorem isFoldable_iff {f : Fold} : f.isFoldable = true ↔ f ≠ .never := by
  cases f <;> decide

theorem titleElement_getLast? (c : Config) (t : Entries) {o : Opening}
    (h : o.marker.fold.isFoldable = true) :
    (titleElement c t o).children.getLast? = some (foldIconNode c.tagNames.icon) := by
  have hparts : (titleElement c t o).children = iconNodes c t o.marker.kind ++
      [(innerTitle c t o).toNode] ++ [foldIconNode c.tagNames.icon] := by
    rw [titleElement_eq, h, List.append_assoc]
    rfl
  rw [hparts, List.getLast?_concat]

theorem hasClass_of_mem_titleElement {c : Config} {t : Entries} {o : Opening} {d : Element}
    (h : o.marker.fold.isFoldable = false) (hd : d.toNode ∈ (titleElement c t o).children) :
    d.properties.hasClass "callout-fold" = false := by
  rw [titleElement_eq, h] at hd
  rcases List.mem_append.mp hd with hd | hd
  · rw [Properties.hasClass, classes_of_mem_iconNodes hd]
    rfl
  · obtain rfl := toNode_inj.mp (List.mem_singleton.mp hd)
    rw [Properties.hasClass, innerTitle_classes]
    rfl

theorem shaped_assembled (c : Config) (t : Entries) (o : Opening) (p : Properties)
    (rest : List Node) :
    Shaped c o.marker p (assembled c t o p rest) (titleElement c t o)
      (contentElement c o rest) where
  children_eq := rfl
  title_classes := rfl
  content_classes := rfl
  of_sign := by
    intro hsign
    have hfold := isFoldable_iff.mpr hsign
    refine ⟨if_pos hfold, if_pos hfold, if_pos hfold, ?_, titleElement_getLast? c t hfold⟩
    exact (containerProperties_classes t o.marker p).trans (if_pos hfold)
  of_no_sign := by
    intro hsign
    have hfold : o.marker.fold.isFoldable = false := by rw [hsign]; rfl
    have hno : ¬ o.marker.fold.isFoldable = true := by rw [hfold]; exact Bool.false_ne_true
    refine ⟨if_neg hno, if_neg hno, if_neg hno, ?_, fun d => hasClass_of_mem_titleElement hfold⟩
    exact (containerProperties_classes t o.marker p).trans (if_neg hno)
  open_iff := containerProperties_open_iff t o.marker p
  ownProperties_eq := ownProperties_containerProperties t o.marker p

/-- The sign of the marker decides the outside of a callout, except that a callout is open also if
the blockquote had that property. -/
theorem exists_shaped {c : Config} {t : Entries} {e e' : Element} (h : callout? c t e = some e') :
    ∃ m title content, quoteMarker? t e = some m ∧
      Shaped c m e.properties e' title content := by
  obtain ⟨a, p, nodes, rest, -, -, -, hm, rfl⟩ := exists_layout_of_callout? h
  exact ⟨p.marker, _, _, hm,
    shaped_assembled c t ⟨p.marker, a, splitTitle (.text p.text :: nodes)⟩ e.properties rest⟩

def openQuote : Element :=
  ⟨"blockquote", ⟨[("open", .text "open"), ("id", .text "q")]⟩,
    [.element "p" {} [.text "[!note]- T"]]⟩

theorem callout?_openQuote_isSome :
    (callout? (Options.resolve {}) (Options.resolve {}).allEntries openQuote).isSome := by
  have hopens : (opening? (Options.resolve {}).allEntries
      (.element "p" {} [.text "[!note]- T"])).isSome :=
    opening?_isSome_iff.mpr ⟨{}, _, [], rfl, by decide +kernel, by decide +kernel⟩
  obtain ⟨o, ho⟩ := Option.isSome_iff_exists.mp hopens
  rw [callout?_of_opening? rfl rfl ho]
  rfl

theorem exists_shaped_openQuote :
    ∃ e' m title content,
      callout? (Options.resolve {}) (Options.resolve {}).allEntries openQuote = some e' ∧
      quoteMarker? (Options.resolve {}).allEntries openQuote = some m ∧
      Shaped (Options.resolve {}) m openQuote.properties e' title content := by
  obtain ⟨e', he⟩ := Option.isSome_iff_exists.mp callout?_openQuote_isSome
  obtain ⟨m, title, content, hm, hs⟩ := exists_shaped he
  exact ⟨e', m, title, content, he, hm, hs⟩

/-- The callout of a blockquote that has the property `open` is open although its marker closes
it. -/
theorem openQuote_stays_open :
    ∃ e', callout? (Options.resolve {}) (Options.resolve {}).allEntries openQuote = some e' ∧
      quoteMarker? (Options.resolve {}).allEntries openQuote = some ⟨"note", .closed, "T"⟩ ∧
      e'.properties.contains "open" = true := by
  obtain ⟨e', he⟩ := Option.isSome_iff_exists.mp callout?_openQuote_isSome
  obtain ⟨n, rest, o, -, -, -, rfl⟩ := callout?_eq_some he
  refine ⟨_, he, by decide +kernel, ?_⟩
  exact (containerProperties_open_iff _ o.marker openQuote.properties).mpr (.inr (by decide))

end Callout

end Folio
