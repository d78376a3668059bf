import Folio.Proofs.Unambiguous

/-! The tags in the HTML of a tree. No text and no value, whatever it holds, opens, closes or
changes an element or an attribute. -/

namespace Folio.Html

/-- Where a character of HTML stands: between tags, in a tag, or in a value in quotes. -/
inductive Part
  | text | tag | value

def skeletonFrom : Part → List Char → List Char
  | _, [] => []
  | .text, c :: s => if c = '<' then c :: skeletonFrom .tag s else skeletonFrom .text s
  | .tag, c :: s =>
    c :: skeletonFrom (if c = '>' then .text else if c = '"' then .value else .tag) s
  | .value, c :: s => if c = '"' then c :: skeletonFrom .tag s else skeletonFrom .value s

/-- The tags in a piece of HTML, with nothing between the quotes of their values. -/
def skeleton (html : String) : String :=
  .ofList (skeletonFrom .text html.toList)

def blankValue : PropertyValue → PropertyValue
  | .text _ => .text ""
  | v => v

def blankProperties (p : Properties) : Properties :=
  ⟨p.entries.map fun x => (x.1, blankValue x.2)⟩

mutual

/-- The elements of a tree with their attributes, where every text is gone and every value empty. -/
def blankNode : Node → List Node
  | .text _ => []
  | .raw s => [.raw s]
  | .element tag p children => [.element tag (blankProperties p) (blank children)]

def blank : List Node → List Node
  | [] => []
  | n :: ns => blankNode n ++ blank ns

end

theorem skeletonFrom_text {s : List Char} (h : '<' ∉ s) (r : List Char) :
    skeletonFrom .text (s ++ r) = skeletonFrom .text r := by
  induction s with
  | nil => rfl
  | cons c s ih =>
    rw [List.mem_cons, not_or] at h
    rw [List.cons_append, skeletonFrom, if_neg (Ne.symm h.1), ih h.2]

theorem skeletonFrom_value {s : List Char} (h : '"' ∉ s) (r : List Char) :
    skeletonFrom .value (s ++ '"' :: r) = '"' :: skeletonFrom .tag r := by
  induction s with
  | nil => simp [skeletonFrom]
  | cons c s ih =>
    rw [List.mem_cons, not_or] at h
    rw [List.cons_append, skeletonFrom, if_neg (Ne.symm h.1), ih h.2]

theorem skeletonFrom_name {s : List Char} (h : ∀ c ∈ s, isNameChar c) (r : List Char) :
    skeletonFrom .tag (s ++ r) = s ++ skeletonFrom .tag r := by
  induction s with
  | nil => rfl
  | cons c s ih =>
    obtain ⟨hc, hs⟩ := List.forall_mem_cons.mp h
    have hgt : c ≠ '>' := by rintro rfl; cases hc
    have hquote : c ≠ '"' := by rintro rfl; cases hc
    rw [List.cons_append, skeletonFrom, if_neg hgt, if_neg hquote, ih hs, List.cons_append]

theorem skeletonFrom_property {x : String × PropertyValue} (hx : isName x.1 = true)
    (hx' : isShown x.2 = true) (r : List Char) :
    skeletonFrom .tag ((property x).toList ++ r) =
      (property (x.1, blankValue x.2)).toList ++ skeletonFrom .tag r := by
  obtain ⟨name, v⟩ := x
  have hname := skeletonFrom_name (isNameChar_of_isName hx)
  cases v with
  | flag on =>
    cases on with
    | true => simp [blankValue, toList_property_flag, skeletonFrom, hname]
    | false => cases hx'
  | text s =>
    simp [blankValue, toList_property_text, skeletonFrom, hname,
      skeletonFrom_value (quote_notMem_escapeAttribute s.toList)]
  | tokens items => cases hx'

theorem skeletonFrom_properties {l : List (String × PropertyValue)}
    (hl : ∀ x ∈ l, isName x.1 = true ∧ isShown x.2 = true) (r : List Char) :
    skeletonFrom .tag (l.flatMap (fun x => (property x).toList) ++ '>' :: r) =
      (l.map fun x => (x.1, blankValue x.2)).flatMap (fun x => (property x).toList) ++
        '>' :: skeletonFrom .text r := by
  induction l with
  | nil => simp [skeletonFrom]
  | cons x l ih =>
    obtain ⟨⟨hx, hx'⟩, hl'⟩ := List.forall_mem_cons.mp hl
    simp only [List.flatMap_cons, List.map_cons, List.append_assoc]
    rw [skeletonFrom_property hx hx', ih hl']

theorem skeletonFrom_startTag {e : Element} (h : isPlain e = true) (r : List Char) :
    skeletonFrom .text (startTag e.tag e.properties ++ r) =
      startTag e.tag (blankProperties e.properties) ++ skeletonFrom .text r := by
  simp only [isPlain, Bool.and_eq_true, List.all_eq_true] at h
  simp only [startTag, toList_properties, List.cons_append, List.append_assoc, List.nil_append,
    blankProperties, skeletonFrom, if_true]
  rw [skeletonFrom_name (isNameChar_of_isName h.1.1), skeletonFrom_properties h.1.2]

theorem skeletonFrom_endTag {tag : String} (h : isName tag = true) (r : List Char) :
    skeletonFrom .text (endTag tag ++ r) = endTag tag ++ skeletonFrom .text r := by
  simp [endTag, skeletonFrom, skeletonFrom_name (isNameChar_of_isName h)]

theorem skeletonFrom_ofNodes {ns : List Node} (h : areRegular isPlain ns = true) (r : List Char) :
    skeletonFrom .text ((ofNodes ns).toList ++ r) =
      (ofNodes (blank ns)).toList ++ skeletonFrom .text r := by
  induction ns using nodes_induction generalizing r with
  | nil => rfl
  | raw s ns ih => rw [not_areRegular_raw] at h; cases h
  | text s ns ih =>
    rw [toList_ofNodes_text, List.append_assoc, skeletonFrom_text (lt_notMem_escapeText s.toList),
      ih (areRegular_text.mp h).2.2]
    rfl
  | element tag p children ns ihc ih =>
    obtain ⟨hp, hc, hn⟩ := areRegular_element.mp h
    have hname : isName tag = true := isPlain_tag hp
    rw [show blank (.element tag p children :: ns) =
      .element tag (blankProperties p) (blank children) :: blank ns from rfl]
    simp only [toList_ofNodes_element, List.append_assoc]
    rw [skeletonFrom_startTag (e := ⟨tag, p, children⟩) hp]
    by_cases hv : voidTags.contains tag = true
    · simp only [body, hv, if_true, List.nil_append]
      rw [ih hn]
    · rw [body, body, if_neg hv, if_neg hv, List.append_assoc, List.append_assoc, ihc hc,
        skeletonFrom_endTag hname, ih hn]

/-- Regular trees with the same HTML are the same, and the tags in the HTML, with the attributes in
them, are those of the tree whatever stands in its texts and values. -/
theorem ofNodes_unambiguous {ns ms : List Node} (hn : areRegular isPlain ns = true)
    (hm : areRegular isPlain ms = true) :
    (ofNodes ns = ofNodes ms ↔ ns = ms) ∧ skeleton (ofNodes ns) = ofNodes (blank ns) := by
  constructor
  · refine ⟨fun h => ?_, congrArg ofNodes⟩
    exact (ofNodes_append_inj hn hm (.inl rfl) (.inl rfl) (by rw [h])).1
  · rw [skeleton, ← List.append_nil (ofNodes ns).toList, skeletonFrom_ofNodes hn]
    simp [skeletonFrom]

/-- A value that ends its quotes and a text that holds tags. -/
def disguised : List Node :=
  [.element "p" ⟨[("title", .text "\" onclick=\"x"), ("hidden", .flag true)]⟩
    [.text "<b>a</b> & c", .element "br" {} []]]

/-- The elements and attributes that those texts spell out. -/
def spelledOut : List Node :=
  [.element "p" ⟨[("title", .text ""), ("onclick", .text "x"), ("hidden", .flag true)]⟩
    [.element "b" {} [.text "a"], .text " & c", .element "br" {} []]]

theorem disguised_ne_spelledOut :
    areRegular isPlain disguised = true ∧ areRegular isPlain spelledOut = true ∧
      ofNodes disguised ≠ ofNodes spelledOut ∧
      skeleton (ofNodes disguised) = "<p title=\"\" hidden><br></p>" := by
  have hd : areRegular isPlain disguised = true := by decide +kernel
  have hs : areRegular isPlain spelledOut = true := by decide +kernel
  obtain ⟨hiff, hskeleton⟩ := ofNodes_unambiguous hd hs
  refine ⟨hd, hs, fun h => absurd (hiff.mp h) (by decide +kernel), hskeleton.trans ?_⟩
  decide +kernel

end Folio.Html
