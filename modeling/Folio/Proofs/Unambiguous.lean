import Folio.Proofs.Regular
import Folio.Proofs.Runs

/-! The HTML of a tree says what the tree is. Escaping is a prefix code that keeps clear of the
characters that end a text or a value, so every part of the HTML is told from what follows it. -/

namespace Folio.Html

/-- No word of the code starts another one. -/
def PrefixFree (f : Char → List Char) : Prop :=
  ∀ c d x y, f c ++ x = f d ++ y → c = d ∧ x = y

/-- No word of the code stands at the start of `r`. -/
def Stops (f : Char → List Char) (r : List Char) : Prop :=
  ∀ c x, f c ++ x ≠ r

theorem prefixFree_escapeTextChar : PrefixFree escapeTextChar := by
  intro c d x y h
  unfold escapeTextChar at h
  split_ifs at h <;> simp at h <;> grind

theorem prefixFree_escapeAttributeChar : PrefixFree escapeAttributeChar := by
  intro c d x y h
  unfold escapeAttributeChar escapeTextChar at h
  split_ifs at h <;> simp at h <;> grind

theorem stops_escapeTextChar_nil : Stops escapeTextChar [] := by
  intro c x h
  unfold escapeTextChar at h
  split_ifs at h <;> simp at h

theorem stops_escapeTextChar_lt (r : List Char) : Stops escapeTextChar ('<' :: r) := by
  intro c x h
  unfold escapeTextChar at h
  split_ifs at h <;> simp_all

theorem stops_escapeAttributeChar_quote (r : List Char) : Stops escapeAttributeChar ('"' :: r) := by
  intro c x h
  unfold escapeAttributeChar escapeTextChar at h
  split_ifs at h <;> simp_all

theorem flatMap_append_inj {f : Char → List Char} (hf : PrefixFree f) {s t r r' : List Char}
    (hr : Stops f r) (hr' : Stops f r') (h : s.flatMap f ++ r = t.flatMap f ++ r') :
    s = t ∧ r = r' := by
  induction s generalizing t with
  | nil =>
    cases t with
    | nil => exact ⟨rfl, h⟩
    | cons d t =>
      rw [List.flatMap_cons, List.append_assoc] at h
      exact absurd h.symm (hr d _)
  | cons c s ih =>
    rw [List.flatMap_cons, List.append_assoc] at h
    cases t with
    | nil => exact absurd h (hr' c _)
    | cons d t =>
      rw [List.flatMap_cons, List.append_assoc] at h
      obtain ⟨rfl, hst⟩ := hf c d _ _ h
      obtain ⟨rfl, hrr⟩ := ih hst
      exact ⟨rfl, hrr⟩

theorem lt_notMem_escapeText (s : List Char) : '<' ∉ s.flatMap escapeTextChar := by
  rw [List.mem_flatMap]
  rintro ⟨c, -, hc⟩
  unfold escapeTextChar at hc
  split_ifs at hc <;> simp at hc
  grind

theorem quote_notMem_escapeAttribute (s : List Char) : '"' ∉ s.flatMap escapeAttributeChar := by
  rw [List.mem_flatMap]
  rintro ⟨c, -, hc⟩
  unfold escapeAttributeChar escapeTextChar at hc
  split_ifs at hc <;> simp at hc
  grind

def isNameChar (c : Char) : Bool :=
  c.isAlphanum || c = '-' || c = '_' || c = ':'

def isName (s : String) : Bool :=
  s ≠ "" && s.toList.all isNameChar

/-- A text of any content, or the flag that is shown. -/
def isShown : PropertyValue → Bool
  | .text _ | .flag true => true
  | _ => false

/-- An element whose tag and attributes can be read off its start tag. -/
def isPlain (e : Element) : Bool :=
  isName e.tag && e.properties.entries.all (fun x => isName x.1 && isShown x.2) &&
    (!voidTags.contains e.tag || e.children.isEmpty)

theorem isNameChar_of_isName {s : String} (h : isName s = true) : ∀ c ∈ s.toList, isNameChar c := by
  rw [isName, Bool.and_eq_true, List.all_eq_true] at h
  exact h.2

theorem exists_cons_of_isName {s : String} (h : isName s = true) :
    ∃ c r, s.toList = c :: r ∧ isNameChar c = true := by
  have hall := isNameChar_of_isName h
  cases hs : s.toList with
  | nil =>
    rw [isName, String.toList_eq_nil_iff.mp hs] at h
    cases h
  | cons c r => exact ⟨c, r, rfl, hall c (hs ▸ List.mem_cons_self)⟩

theorem name_append_inj {s t : String} (hs : isName s = true) (ht : isName t = true) {c d : Char}
    {r r' : List Char} (hc : isNameChar c = false) (hd : isNameChar d = false)
    (h : s.toList ++ c :: r = t.toList ++ d :: r') : s = t ∧ c :: r = d :: r' := by
  obtain ⟨hname, hrest⟩ := append_inj_of_stops (isNameChar_of_isName hs) (by simpa using hc)
    (isNameChar_of_isName ht) (by simpa using hd) h
  exact ⟨String.toList_inj.mp hname, hrest⟩

theorem toList_property_of_isShown {x : String × PropertyValue} (h : isShown x.2 = true) :
    ∃ value, (property x).toList = ' ' :: (x.1.toList ++ value) ∧
      (value = [] ∧ x.2 = .flag true ∨ ∃ s, x.2 = .text s ∧
        value = '=' :: '"' :: (s.toList.flatMap escapeAttributeChar ++ ['"'])) := by
  obtain ⟨name, v⟩ := x
  cases v with
  | flag on =>
    cases on with
    | true => exact ⟨[], by simp [toList_property_flag], .inl ⟨rfl, rfl⟩⟩
    | false => cases h
  | text s => exact ⟨_, toList_property_text name s, .inr ⟨s, rfl, rfl⟩⟩
  | tokens items => cases h

/-- What may follow a property: another one, or the end of the tag. -/
def EndsProperty (r : List Char) : Prop :=
  ∃ c x, r = c :: x ∧ (c = ' ' ∨ c = '>')

theorem property_append_inj {x y : String × PropertyValue} (hx : isName x.1 = true)
    (hy : isName y.1 = true) (hx' : isShown x.2 = true) (hy' : isShown y.2 = true)
    {r r' : List Char} (hr : EndsProperty r) (hr' : EndsProperty r')
    (h : (property x).toList ++ r = (property y).toList ++ r') : x = y ∧ r = r' := by
  obtain ⟨v, hv, hxv⟩ := toList_property_of_isShown hx'
  obtain ⟨w, hw, hyw⟩ := toList_property_of_isShown hy'
  obtain ⟨c, u, rfl, hc⟩ := hr
  obtain ⟨d, u', rfl, hd⟩ := hr'
  rw [hv, hw] at h
  simp only [List.cons_append, List.append_assoc, List.cons.injEq, true_and] at h
  have hcn : isNameChar c = false := by rcases hc with rfl | rfl <;> rfl
  have hdn : isNameChar d = false := by rcases hd with rfl | rfl <;> rfl
  rcases hxv with ⟨rfl, hxv⟩ | ⟨s, hxv, rfl⟩ <;> rcases hyw with ⟨rfl, hyw⟩ | ⟨t, hyw, rfl⟩
  · obtain ⟨hn, h⟩ := name_append_inj hx hy hcn hdn h
    exact ⟨Prod.ext hn (hxv.trans hyw.symm), h⟩
  · obtain ⟨-, h⟩ := name_append_inj hx hy hcn (by rfl) h
    rw [(List.cons.inj h).1] at hc
    simp at hc
  · obtain ⟨-, h⟩ := name_append_inj hx hy (by rfl) hdn h
    rw [← (List.cons.inj h).1] at hd
    simp at hd
  · simp only [List.cons_append, List.nil_append, List.append_assoc] at h
    obtain ⟨hn, hv⟩ := name_append_inj hx hy (by rfl) (by rfl) h
    simp only [List.cons.injEq, true_and] at hv
    obtain ⟨hs, hrr⟩ := flatMap_append_inj prefixFree_escapeAttributeChar
      (stops_escapeAttributeChar_quote _) (stops_escapeAttributeChar_quote _) hv
    refine ⟨Prod.ext hn ?_, (List.cons.inj hrr).2⟩
    rw [hxv, hyw, String.toList_inj.mp hs]

theorem endsProperty_properties {l : List (String × PropertyValue)}
    (hl : ∀ x ∈ l, isShown x.2 = true) (r : List Char) :
    EndsProperty (l.flatMap (fun e => (property e).toList) ++ '>' :: r) := by
  cases l with
  | nil => exact ⟨'>', r, rfl, .inr rfl⟩
  | cons x l =>
    obtain ⟨v, hv, -⟩ := toList_property_of_isShown (hl x List.mem_cons_self)
    exact ⟨' ', _, by rw [List.flatMap_cons, hv]; rfl, .inl rfl⟩

theorem properties_append_inj {l m : List (String × PropertyValue)}
    (hl : ∀ x ∈ l, isName x.1 = true ∧ isShown x.2 = true)
    (hm : ∀ x ∈ m, isName x.1 = true ∧ isShown x.2 = true) {r r' : List Char}
    (h : l.flatMap (fun e => (property e).toList) ++ '>' :: r =
      m.flatMap (fun e => (property e).toList) ++ '>' :: r') : l = m ∧ r = r' := by
  induction l generalizing m with
  | nil =>
    cases m with
    | nil => exact ⟨rfl, (List.cons.inj h).2⟩
    | cons y m =>
      obtain ⟨v, hv, -⟩ := toList_property_of_isShown (hm y List.mem_cons_self).2
      rw [List.flatMap_cons, hv] at h
      exact absurd (List.cons.inj h).1 (by decide)
  | cons x l ih =>
    obtain ⟨⟨hx, hx'⟩, hl'⟩ := List.forall_mem_cons.mp hl
    cases m with
    | nil =>
      obtain ⟨v, hv, -⟩ := toList_property_of_isShown hx'
      rw [List.flatMap_cons, hv] at h
      exact absurd (List.cons.inj h).1 (by decide)
    | cons y m =>
      obtain ⟨⟨hy, hy'⟩, hm'⟩ := List.forall_mem_cons.mp hm
      rw [List.flatMap_cons, List.flatMap_cons, List.append_assoc, List.append_assoc] at h
      obtain ⟨rfl, hlm⟩ := property_append_inj hx hy hx' hy'
        (endsProperty_properties (fun x hx => (hl' x hx).2) r)
        (endsProperty_properties (fun x hx => (hm' x hx).2) r') h
      obtain ⟨rfl, hrr⟩ := ih hl' hm' hlm
      exact ⟨rfl, hrr⟩

theorem startTag_append_inj {d e : Element} (hd : isPlain d = true) (he : isPlain e = true)
    {r r' : List Char}
    (h : startTag d.tag d.properties ++ r = startTag e.tag e.properties ++ r') :
    d.tag = e.tag ∧ d.properties = e.properties ∧ r = r' := by
  simp only [isPlain, Bool.and_eq_true, List.all_eq_true] at hd he
  simp only [startTag, toList_properties, List.cons_append, List.append_assoc, List.nil_append,
    List.cons.injEq, true_and] at h
  obtain ⟨c, x, hx, hc⟩ := endsProperty_properties (fun x h => (hd.1.2 x h).2) r
  obtain ⟨c', x', hx', hc'⟩ := endsProperty_properties (fun x h => (he.1.2 x h).2) r'
  have hcn : isNameChar c = false := by rcases hc with rfl | rfl <;> rfl
  have hcn' : isNameChar c' = false := by rcases hc' with rfl | rfl <;> rfl
  rw [hx, hx'] at h
  obtain ⟨ht, h⟩ := name_append_inj hd.1.1 he.1.1 hcn hcn' h
  rw [← hx, ← hx'] at h
  obtain ⟨hp, h⟩ := properties_append_inj hd.1.2 he.1.2 h
  exact ⟨ht, congrArg Properties.mk hp, h⟩

/-- What may follow the content of an element or of a document. -/
def EndsContent (r : List Char) : Prop :=
  r = [] ∨ ∃ x, r = '<' :: '/' :: x

theorem endsContent_endTag (tag : String) (x : List Char) : EndsContent (endTag tag ++ x) :=
  .inr ⟨_, rfl⟩

theorem stops_of_endsContent {r : List Char} (h : EndsContent r) : Stops escapeTextChar r := by
  rcases h with rfl | ⟨x, rfl⟩
  · exact stops_escapeTextChar_nil
  · exact stops_escapeTextChar_lt _

theorem children_eq_nil_of_isPlain {e : Element} (h : isPlain e = true)
    (hv : voidTags.contains e.tag = true) : e.children = [] := by
  simp only [isPlain, hv, Bool.and_eq_true, Bool.not_true, Bool.false_or] at h
  exact List.isEmpty_iff.mp h.2

theorem isPlain_tag {e : Element} (h : isPlain e = true) : isName e.tag = true := by
  simp only [isPlain, Bool.and_eq_true] at h
  exact h.1.1

theorem startTag_append_ne {e : Element} (h : isPlain e = true) {r : List Char}
    (hr : EndsContent r) (x : List Char) : startTag e.tag e.properties ++ x ≠ r := by
  obtain ⟨c, u, ht, hc⟩ := exists_cons_of_isName (isPlain_tag h)
  rw [startTag, ht]
  rcases hr with rfl | ⟨y, rfl⟩
  · simp
  · intro he
    obtain ⟨rfl, -⟩ := List.cons.inj (List.cons.inj he).2
    cases hc

theorem escapeText_append_ne {s : String} (hs : s ≠ "") {r : List Char}
    (hr : Stops escapeTextChar r) (x : List Char) : s.toList.flatMap escapeTextChar ++ x ≠ r := by
  cases hl : s.toList with
  | nil => exact absurd (String.toList_eq_nil_iff.mp hl) hs
  | cons c u =>
    rw [List.flatMap_cons, List.append_assoc]
    exact hr c _

theorem stops_ofNodes {ns : List Node} (hn : areRegular isPlain ns = true)
    (ht : startsWithText ns = false) {r : List Char} (hr : EndsContent r) :
    Stops escapeTextChar ((ofNodes ns).toList ++ r) := by
  cases ns with
  | nil => exact stops_of_endsContent hr
  | cons n ns =>
    cases n with
    | text s => cases ht
    | raw s => rw [not_areRegular_raw] at hn; cases hn
    | element tag p children =>
      rw [toList_ofNodes_element]
      exact stops_escapeTextChar_lt _

theorem ofNodes_append_ne {ns : List Node} (hn : areRegular isPlain ns = true) (hne : ns ≠ [])
    {r r' : List Char} (hr : EndsContent r) : (ofNodes ns).toList ++ r' ≠ r := by
  cases ns with
  | nil => exact absurd rfl hne
  | cons n ns =>
    cases n with
    | text s =>
      rw [toList_ofNodes_text, List.append_assoc]
      exact escapeText_append_ne (areRegular_text.mp hn).1 (stops_of_endsContent hr) _
    | raw s => rw [not_areRegular_raw] at hn; cases hn
    | element tag p children =>
      rw [toList_ofNodes_element, List.append_assoc]
      exact startTag_append_ne (areRegular_element.mp hn).1 hr _

/-- The nodes and what follows them are told from the HTML, at the end of a document and in front of
an end tag. -/
theorem ofNodes_append_inj {ns ms : List Node} (hn : areRegular isPlain ns = true)
    (hm : areRegular isPlain ms = true) {r r' : List Char} (hr : EndsContent r)
    (hr' : EndsContent r') (h : (ofNodes ns).toList ++ r = (ofNodes ms).toList ++ r') :
    ns = ms ∧ r = r' := by
  induction ns using nodes_induction generalizing ms r r' with
  | nil =>
    cases ms with
    | nil => exact ⟨rfl, h⟩
    | cons m ms => exact absurd h.symm (ofNodes_append_ne hm (by simp) hr)
  | raw s ns ih => rw [not_areRegular_raw] at hn; cases hn
  | text s ns ih =>
    obtain ⟨hs, hns, hn'⟩ := areRegular_text.mp hn
    simp only [toList_ofNodes_text, List.append_assoc] at h
    by_cases ht : startsWithText ms = true
    · obtain ⟨t, ms, rfl⟩ : ∃ t ms', ms = .text t :: ms' := by
        unfold startsWithText at ht
        split at ht
        · exact ⟨_, _, rfl⟩
        · cases ht
      obtain ⟨-, hms, hm'⟩ := areRegular_text.mp hm
      simp only [toList_ofNodes_text, List.append_assoc] at h
      obtain ⟨hst, hh⟩ := flatMap_append_inj prefixFree_escapeTextChar
        (stops_ofNodes hn' hns hr) (stops_ofNodes hm' hms hr') h
      obtain ⟨rfl, hrr⟩ := ih hn' hm' hr hr' hh
      exact ⟨by rw [String.toList_inj.mp hst], hrr⟩
    · exact absurd h (escapeText_append_ne hs (stops_ofNodes hm (by simpa using ht) hr') _)
  | element tag p children ns ihc ih =>
    obtain ⟨hp, hc, hn'⟩ := areRegular_element.mp hn
    simp only [toList_ofNodes_element, List.append_assoc] at h
    cases ms with
    | nil => exact absurd h (startTag_append_ne hp hr' _)
    | cons m ms =>
      cases m with
      | raw s => rw [not_areRegular_raw] at hm; cases hm
      | text s =>
        simp only [toList_ofNodes_text, List.append_assoc] at h
        exact absurd h.symm
          (escapeText_append_ne (areRegular_text.mp hm).1 (stops_escapeTextChar_lt _) _)
      | element tag' p' children' =>
        obtain ⟨hp', hc', hm'⟩ := areRegular_element.mp hm
        simp only [toList_ofNodes_element, List.append_assoc] at h
        obtain ⟨rfl, rfl, hh⟩ : tag = tag' ∧ p = p' ∧
            body tag children ++ _ = body tag' children' ++ _ :=
          startTag_append_inj hp hp' h
        obtain ⟨rfl, hrest⟩ : children = children' ∧
            (ofNodes ns).toList ++ r = (ofNodes ms).toList ++ r' := by
          by_cases hv : voidTags.contains tag = true
          · have hnil : children = [] := children_eq_nil_of_isPlain hp hv
            have hnil' : children' = [] := children_eq_nil_of_isPlain hp' hv
            simp only [body, hv, if_true, List.nil_append] at hh
            exact ⟨hnil.trans hnil'.symm, hh⟩
          · rw [body, body, if_neg hv, if_neg hv, List.append_assoc, List.append_assoc] at hh
            obtain ⟨hcc, hh⟩ := ihc hc hc' (endsContent_endTag tag _) (endsContent_endTag tag _) hh
            exact ⟨hcc, List.append_cancel_left hh⟩
        obtain ⟨rfl, hrr⟩ := ih hn' hm' hr hr' hrest
        exact ⟨rfl, hrr⟩

end Folio.Html
