import Folio.Markup.Fragment
import Folio.Proofs.Unambiguous

/-! The tags of written HTML as tokens of a fragment. Quotes hide whatever a value holds from the
search for the end of the tag, and unescaping gives the value back. -/

namespace Folio.Markup

open Html (escapeAttributeChar property startTag endTag)

def isMarkupNameChar (c : Char) : Bool :=
  c.isAlphanum || c = '-' || c = '_'

/-- A letter, then letters, digits, hyphens and underscores. -/
def isMarkupName (s : String) : Bool :=
  s.toList.head?.any Char.isAlpha && s.toList.all isMarkupNameChar

/-- A value that has neither tabs nor line ends. -/
def isLine (s : String) : Bool :=
  s.toList.all fun c => c ≠ '\t' && c ≠ '\r' && c ≠ '\n'

def isMarkupProperty : String × PropertyValue → Bool
  | (name, .text s) => isMarkupName name && isLine s
  | _ => false

/-- An element that a fragment can spell out: it has an end tag and properties of different names,
each with a text for its value. -/
def isMarkup (e : Element) : Bool :=
  isMarkupName e.tag && !Html.voidTags.contains e.tag && e.properties.entries.all isMarkupProperty &&
    decide (e.properties.entries.map (·.1)).Nodup

theorem isMarkupNameChar_of_isMarkupName {s : String} (h : isMarkupName s = true) :
    ∀ c ∈ s.toList, isMarkupNameChar c := by
  rw [isMarkupName, Bool.and_eq_true, List.all_eq_true] at h
  exact h.2

theorem exists_cons_of_isMarkupName {s : String} (h : isMarkupName s = true) :
    ∃ c r, s.toList = c :: r ∧ c.isAlpha = true := by
  rw [isMarkupName, Bool.and_eq_true] at h
  cases hs : s.toList with
  | nil => rw [hs] at h; cases h.1
  | cons c r =>
    rw [hs] at h
    exact ⟨c, r, rfl, h.1⟩

theorem notSpace_of_isMarkupNameChar {c : Char} (h : isMarkupNameChar c = true) :
    isSpace c = false := by
  by_contra hs
  simp only [isSpace, Bool.not_eq_false, Bool.or_eq_true, decide_eq_true_eq] at hs
  rcases hs with ((rfl | rfl) | rfl) | rfl <;> cases h

theorem unescapeFrom_held {name : List Char} (hn : ';' ∉ name ∧ '&' ∉ name) {d : Char}
    (held : List Char) (h : attributeCharacter? (held.reverse ++ name) = some d) (s : List Char) :
    unescapeFrom (some held) (name ++ ';' :: s) = (unescapeFrom none s).map (d :: ·) := by
  induction name generalizing held with
  | nil =>
    rw [List.append_nil] at h
    cases hs : unescapeFrom none s <;> simp [unescapeFrom, h, hs]
  | cons c name ih =>
    simp only [List.mem_cons, not_or] at hn
    rw [List.cons_append, unescapeFrom, if_neg (Ne.symm hn.1.1), if_neg (Ne.symm hn.2.1)]
    exact ih ⟨hn.1.2, hn.2.2⟩ (c :: held) (by simpa using h)

theorem unescapeFrom_escape (c : Char) (s : List Char) :
    unescapeFrom none (escapeAttributeChar c ++ s) = (unescapeFrom none s).map (c :: ·) := by
  have hreference : ∀ name d, (';' ∉ name ∧ '&' ∉ name) → attributeCharacter? name = some d →
      unescapeFrom none ('&' :: (name ++ ';' :: s)) = (unescapeFrom none s).map (d :: ·) := by
    intro name d hn h
    rw [unescapeFrom, if_pos rfl]
    exact unescapeFrom_held hn [] h s
  unfold escapeAttributeChar Html.escapeTextChar
  split_ifs with hquote hamp hlt hgt
  · simpa [hquote] using hreference "quot".toList '"' (by decide) (by decide)
  · simpa [hamp] using hreference "amp".toList '&' (by decide) (by decide)
  · simpa [hlt] using hreference "lt".toList '<' (by decide) (by decide)
  · simpa [hgt] using hreference "gt".toList '>' (by decide) (by decide)
  · simp [unescapeFrom, hamp]

theorem unescape?_escape (s : List Char) : unescape? (s.flatMap escapeAttributeChar) = some s := by
  rw [unescape?]
  induction s with
  | nil => rfl
  | cons c s ih => rw [List.flatMap_cons, unescapeFrom_escape, ih]; rfl

/-- A piece of a tag that leaves the search for the end of the tag as it was. -/
def Passed (u : List Char) : Prop :=
  ∀ x, tagBody? none (u ++ x) = (tagBody? none x).map fun (b, r) => (u ++ b, r)

theorem passed_nil : Passed [] := by
  intro x
  cases h : tagBody? none x <;> simp [h]

theorem Passed.append {u v : List Char} (hu : Passed u) (hv : Passed v) : Passed (u ++ v) := by
  intro x
  rw [List.append_assoc, hu, hv, Option.map_map]
  congr 1
  funext y
  simp

theorem passed_char {c : Char} (hgt : c ≠ '>') (hquote : c ≠ '"') (hsingle : c ≠ '\'') :
    Passed [c] := by
  intro x
  simp [tagBody?, hgt, hquote, hsingle]

theorem passed_name {s : String} (h : isMarkupName s = true) : Passed s.toList := by
  have hall := isMarkupNameChar_of_isMarkupName h
  generalize s.toList = u at hall
  induction u with
  | nil => exact passed_nil
  | cons c u ih =>
    obtain ⟨hc, hu⟩ := List.forall_mem_cons.mp hall
    exact (passed_char (c := c) (by rintro rfl; cases hc) (by rintro rfl; cases hc)
      (by rintro rfl; cases hc)).append (ih hu)

theorem tagBody?_quoted {v : List Char} (h : '"' ∉ v) (x : List Char) :
    tagBody? (some '"') (v ++ '"' :: x) =
      (tagBody? none x).map fun (b, r) => (v ++ '"' :: b, r) := by
  induction v with
  | nil => simp [tagBody?]
  | cons c v ih =>
    rw [List.mem_cons, not_or] at h
    rw [List.cons_append, tagBody?, if_neg (Ne.symm h.1), ih h.2, Option.map_map]
    rfl

theorem passed_quoted {v : List Char} (h : '"' ∉ v) : Passed ('"' :: (v ++ ['"'])) := by
  intro x
  simp [tagBody?, tagBody?_quoted h, Function.comp_def]

theorem passed_property {x : String × PropertyValue} (h : isMarkupProperty x = true) :
    Passed (property x).toList := by
  obtain ⟨name, v⟩ := x
  cases v with
  | flag on => cases h
  | tokens items => cases h
  | text s =>
    rw [isMarkupProperty, Bool.and_eq_true] at h
    rw [Html.toList_property_text]
    exact (passed_char (c := ' ') (by decide) (by decide) (by decide)).append
      ((passed_name h.1).append ((passed_char (c := '=') (by decide) (by decide) (by decide)).append
        (passed_quoted (Html.quote_notMem_escapeAttribute s.toList))))

theorem passed_properties {l : List (String × PropertyValue)}
    (h : ∀ x ∈ l, isMarkupProperty x = true) : Passed (l.flatMap fun x => (property x).toList) := by
  induction l with
  | nil => exact passed_nil
  | cons x l ih =>
    obtain ⟨hx, hl⟩ := List.forall_mem_cons.mp h
    exact (passed_property hx).append (ih hl)

theorem Passed.tagBody? {u : List Char} (h : Passed u) (x : List Char) :
    tagBody? none (u ++ '>' :: x) = some (u, x) := by
  rw [h]
  simp [Markup.tagBody?]

theorem setIn_of_notMem {name : String} {l : List (String × PropertyValue)}
    (h : name ∉ l.map (·.1)) (v : PropertyValue) :
    Properties.setIn name v l = l ++ [(name, v)] := by
  induction l with
  | nil => rfl
  | cons x l ih =>
    rw [List.map_cons, List.mem_cons, not_or] at h
    rw [Properties.setIn, if_neg (Ne.symm h.1), ih h.2, List.cons_append]

theorem contains_eq_false {p : Properties} {name : String} (h : name ∉ p.entries.map (·.1)) :
    p.contains name = false := by
  rw [Properties.contains, List.any_eq_false]
  intro x hx he
  exact h (List.mem_map.mpr ⟨x, hx, by simpa using he⟩)

theorem attribute?_property {name : String} (hn : isMarkupName name = true) {v : List Char}
    (hv : '"' ∉ v) (rest : List Char) :
    attribute? (name.toList ++ '=' :: '"' :: (v ++ '"' :: rest)) = some (name.toList, v, rest) := by
  obtain ⟨c, u, hname, -⟩ := exists_cons_of_isMarkupName hn
  have hu : ∀ d ∈ u, (!(d = '=' || isSpace d)) = true := by
    intro d hd
    have hd' := isMarkupNameChar_of_isMarkupName hn d (hname ▸ List.mem_cons_of_mem c hd)
    have hne : d ≠ '=' := by rintro rfl; cases hd'
    simp [hne, notSpace_of_isMarkupNameChar hd']
  have hv' : ∀ d ∈ v, (!decide (d = '"')) = true := by
    intro d hd
    have hne : d ≠ '"' := fun he => hv (he ▸ hd)
    simp [hne]
  rw [hname, List.cons_append, attribute?]
  rw [List.takeWhile_append_of_pos hu, List.dropWhile_append_of_pos hu]
  simp [isSpace, List.takeWhile_append_of_pos hv', List.dropWhile_append_of_pos hv']

theorem dropWhile_isSpace_name {name : String} (hn : isMarkupName name = true) (s : List Char) :
    (' ' :: (name.toList ++ s)).dropWhile isSpace = name.toList ++ s := by
  obtain ⟨c, u, hname, -⟩ := exists_cons_of_isMarkupName hn
  have hc : isSpace c = false :=
    notSpace_of_isMarkupNameChar (isMarkupNameChar_of_isMarkupName hn c (by simp [hname]))
  rw [List.dropWhile_cons_of_pos (by rfl), hname, List.cons_append,
    List.dropWhile_cons_of_neg (by simp [hc])]

theorem attributes_property {p : Properties} {name value : String}
    (hx : isMarkupProperty (name, .text value) = true) (hnew : name ∉ p.entries.map (·.1))
    (rest : List Char) :
    attributes p ((property (name, .text value)).toList ++ rest) =
      attributes ⟨p.entries ++ [(name, .text value)]⟩ rest := by
  rw [isMarkupProperty, Bool.and_eq_true] at hx
  have hattribute := attribute?_property hx.1 (Html.quote_notMem_escapeAttribute value.toList) rest
  have hset : p.set name (.text value) = ⟨p.entries ++ [(name, .text value)]⟩ :=
    congrArg Properties.mk (setIn_of_notMem hnew _)
  rw [Html.toList_property_text, attributes]
  simp only [List.cons_append, List.append_assoc, List.nil_append, dropWhile_isSpace_name hx.1,
    hattribute, unescape?_escape, String.ofList_toList, contains_eq_false hnew]
  rw [if_neg (by simp), if_neg (by simp), if_pos (by simp; omega), hset]

theorem attributes_properties {l : List (String × PropertyValue)}
    (hl : ∀ x ∈ l, isMarkupProperty x = true) {p : Properties}
    (hnodup : ((p.entries ++ l).map (·.1)).Nodup) :
    attributes p (l.flatMap fun x => (property x).toList) = .ok ⟨p.entries ++ l⟩ := by
  induction l generalizing p with
  | nil => simp [attributes]
  | cons x l ih =>
    obtain ⟨hx, hl'⟩ := List.forall_mem_cons.mp hl
    obtain ⟨name, v⟩ := x
    cases v with
    | flag on => cases hx
    | tokens items => cases hx
    | text value =>
      have hnew : name ∉ p.entries.map (·.1) := by
        rw [List.map_append, List.nodup_append] at hnodup
        exact fun h => hnodup.2.2 name h name List.mem_cons_self rfl
      rw [List.flatMap_cons, attributes_property hx hnew, ih hl' (by simpa using hnodup)]
      simp

theorem properties_eq_nil_or (l : List (String × PropertyValue))
    (h : ∀ x ∈ l, isMarkupProperty x = true) :
    l.flatMap (fun x => (property x).toList) = [] ∨
      ∃ u, l.flatMap (fun x => (property x).toList) = ' ' :: (u ++ ['"']) := by
  induction l with
  | nil => exact .inl rfl
  | cons x l ih =>
    obtain ⟨hx, hl⟩ := List.forall_mem_cons.mp h
    obtain ⟨name, v⟩ := x
    cases v with
    | flag on => cases hx
    | tokens items => cases hx
    | text value =>
      right
      rw [List.flatMap_cons, Html.toList_property_text]
      rcases ih hl with hnil | ⟨u, hu⟩
      · rw [hnil]
        exact ⟨name.toList ++ '=' :: '"' :: value.toList.flatMap escapeAttributeChar, by simp⟩
      · rw [hu]
        exact ⟨name.toList ++ '=' :: '"' :: (value.toList.flatMap escapeAttributeChar ++
          '"' :: ' ' :: u), by simp⟩

theorem tagToken_of_isMarkup {e : Element} (h : isMarkup e = true) :
    tagToken (e.tag.toList ++ (Html.properties e.properties).toList) =
      .openTag e.tag e.properties := by
  simp only [isMarkup, Bool.and_eq_true, List.all_eq_true, decide_eq_true_eq] at h
  obtain ⟨⟨⟨htag, -⟩, hp⟩, hnodup⟩ := h
  have hname := isMarkupNameChar_of_isMarkupName htag
  have hattributes := attributes_properties hp (p := {}) (by simpa using hnodup)
  have hspaces : ∀ c ∈ e.tag.toList, (!isSpace c) = true := fun c hc => by
    rw [notSpace_of_isMarkupNameChar (hname c hc)]; rfl
  have hlast : (e.tag.toList ++ (Html.properties e.properties).toList).getLast? ≠ some '/' := by
    rw [Html.toList_properties]
    rcases properties_eq_nil_or _ hp with hnil | ⟨u, hu⟩
    · rw [hnil, List.append_nil]
      intro hslash
      cases hname _ (List.mem_of_getLast? hslash)
    · rw [hu]
      simp [List.getLast?_append, List.getLast?_cons]
  have hstop : ∀ c ∈ (Html.properties e.properties).toList.head?, (!isSpace c) = false := by
    rw [Html.toList_properties]
    rcases properties_eq_nil_or _ hp with hnil | ⟨u, hu⟩
    · simp [hnil]
    · simp [hu, isSpace]
  obtain ⟨htake, hdrop⟩ := span_append hspaces hstop
  simp only [tagToken, hlast, if_false, htake, hdrop]
  rw [Html.toList_properties, hattributes, String.ofList_toList]
  rfl

theorem markup?_of_isAlpha {c : Char} (hc : c.isAlpha = true) (s : List Char) :
    markup? (c :: s) = (tagBody? none (c :: s)).map fun (body, rest) => (tagToken body, rest) := by
  unfold markup?
  split
  · rename_i h; obtain ⟨rfl, -⟩ := List.cons.inj h; cases hc
  · rename_i h; obtain ⟨rfl, -⟩ := List.cons.inj h; cases hc
  · rename_i h; obtain ⟨rfl, -⟩ := List.cons.inj h; cases hc
  · rename_i h; obtain ⟨rfl, -⟩ := List.cons.inj h; cases hc
  · rfl

theorem token?_startTag {e : Element} (h : isMarkup e = true) (x : List Char) :
    token? (startTag e.tag e.properties ++ x) = some (.openTag e.tag e.properties, x) := by
  have htoken := tagToken_of_isMarkup h
  simp only [isMarkup, Bool.and_eq_true, List.all_eq_true] at h
  obtain ⟨c, u, hname, hc⟩ := exists_cons_of_isMarkupName h.1.1.1
  have hpassed : Passed (e.tag.toList ++ (Html.properties e.properties).toList) :=
    (passed_name h.1.1.1).append (Html.toList_properties _ ▸ passed_properties h.1.2)
  have hbody := hpassed.tagBody? x
  rw [startTag, List.cons_append, token?, List.append_assoc, List.singleton_append]
  rw [hname, List.cons_append, List.cons_append] at hbody ⊢
  rw [markup?_of_isAlpha hc, hbody, ← List.cons_append, ← hname]
  exact congrArg (fun t => some (t, x)) htoken

theorem closingName_of_isMarkupName {tag : String} (h : isMarkupName tag = true) :
    closingName tag.toList = tag := by
  have hname := isMarkupNameChar_of_isMarkupName h
  have hspaces : tag.toList.reverse.dropWhile isSpace = tag.toList.reverse :=
    List.dropWhile_eq_self_iff.mpr fun hl => by
      rw [notSpace_of_isMarkupNameChar (hname _ (by simp))]
      simp
  rw [closingName, hspaces, List.reverse_reverse, ite_self, String.ofList_toList]

theorem token?_endTag {tag : String} (h : isMarkupName tag = true) (x : List Char) :
    token? (endTag tag ++ x) = some (.closeTag tag, x) := by
  have hbody := (passed_name h).tagBody? x
  rw [endTag, List.cons_append, List.cons_append, token?, List.append_assoc, List.singleton_append]
  rw [markup?, hbody]
  exact congrArg (fun name => some (Token.closeTag name, x)) (closingName_of_isMarkupName h)

end Folio.Markup
