import Folio.Proofs.FragmentTags

/-! Reading written HTML back as a fragment. Texts come in pieces, one for each stretch without
references and one for each reference, and the pieces join to the text that was written. -/

namespace Folio.Markup

open Html (escapeTextChar startTag endTag ofNodes ofNode)

/-- The nodes that the next one is added to. -/
def Reading.current (r : Reading) : List Node :=
  match r.opened with
  | [] => r.nodes
  | e :: _ => e.children

def endsWithText (ns : List Node) : Bool :=
  ns.getLast?.any (·.text?.isSome)

theorem mapNodes_mapNodes (r : Reading) (f g : List Node → List Node) :
    (r.mapNodes f).mapNodes g = r.mapNodes (g ∘ f) := by
  unfold Reading.mapNodes
  cases r.opened <;> rfl

theorem mapNodes_id (r : Reading) : r.mapNodes (fun ns => ns) = r := by
  obtain ⟨nodes, opened⟩ := r
  cases opened <;> rfl

theorem mapNodes_congr {r : Reading} {f g : List Node → List Node} (h : f r.current = g r.current) :
    r.mapNodes f = r.mapNodes g := by
  unfold Reading.current at h
  unfold Reading.mapNodes
  cases ho : r.opened with
  | nil => rw [ho] at h; simp only [h]
  | cons e es => rw [ho] at h; simp only [h]

theorem current_mapNodes (r : Reading) (f : List Node → List Node) :
    (r.mapNodes f).current = f r.current := by
  unfold Reading.mapNodes Reading.current
  cases ho : r.opened <;> simp

theorem appendText_ne_nil (s : String) (ns : List Node) : appendText s ns ≠ [] := by
  induction ns using appendText.induct with
  | case1 => simp [appendText]
  | case2 u => simp [appendText]
  | case3 n ns hn _ => rw [appendText]; exacts [by simp, hn]

theorem appendText_appendText (s t : String) (ns : List Node) :
    appendText t (appendText s ns) = appendText (s ++ t) ns := by
  induction ns using appendText.induct with
  | case1 => rfl
  | case2 u => simp [appendText, String.append_assoc]
  | case3 n ns hn ih =>
    rw [appendText, appendText, appendText, ih]
    · exact hn
    · exact fun _ _ he => appendText_ne_nil s ns he
    · exact hn

theorem appendText_of_endsWithText {ns : List Node} (h : endsWithText ns = false) (s : String) :
    appendText s ns = ns ++ [.text s] := by
  induction ns using appendText.induct with
  | case1 => rfl
  | case2 u => cases h
  | case3 n ns hn ih =>
    rw [appendText]
    · rw [ih, List.cons_append]
      cases ns with
      | nil => rfl
      | cons m ns => simpa [endsWithText, List.getLast?_cons] using h
    · exact hn

theorem mapNodes_appendText_cons (r : Reading) (c : Char) (t : List Char) :
    (r.mapNodes (appendText (.singleton c))).mapNodes (appendText (.ofList t)) =
      r.mapNodes (appendText (.ofList (c :: t))) := by
  have hcons : String.singleton c ++ .ofList t = .ofList (c :: t) := by
    rw [← String.toList_inj]
    simp
  rw [mapNodes_mapNodes]
  congr 1
  funext ns
  rw [Function.comp_apply, appendText_appendText, hcons]

/-- Reads a piece of markup, going on from what has been read. -/
def readAll (r : Reading) (s : List Char) : Except FragmentError Reading :=
  (tokens s).foldlM Reading.read r

theorem readAll_token {r r' : Reading} {s rest : List Char} {t : Token}
    (ht : token? s = some (t, rest)) (hl : rest.length < s.length) (hr : r.read t = .ok r') :
    readAll r s = readAll r' rest := by
  have hne : s.isEmpty = false := by
    cases s with
    | nil => simp at hl
    | cons c s => rfl
  rw [readAll, tokens, hne, ht]
  simp only [Bool.false_eq_true, if_false, hl, if_true, List.foldlM_cons, hr]
  rfl

theorem token?_of_isPlain {c : Char} (hc : isPlain c = true) (s : List Char) :
    token? (c :: s) =
      some (.text (.ofList (c :: s.takeWhile isPlain)), s.dropWhile isPlain) := by
  unfold token?
  split
  · rename_i h; obtain ⟨rfl, -⟩ := List.cons.inj h; cases hc
  · rename_i h; obtain ⟨rfl, -⟩ := List.cons.inj h; cases hc
  · rw [List.takeWhile_cons_of_pos hc, List.dropWhile_cons_of_pos hc]

theorem readAll_run (r : Reading) {c : Char} (hc : isPlain c = true) (s : List Char) :
    readAll r (c :: s) =
      readAll (r.mapNodes (appendText (.ofList (c :: s.takeWhile isPlain)))) (s.dropWhile isPlain) :=
  readAll_token (token?_of_isPlain hc s)
    (Nat.lt_succ_of_le (List.dropWhile_sublist isPlain).length_le) rfl

/-- A stretch of plain characters may as well be read one by one. -/
theorem readAll_plain (r : Reading) {c : Char} (hc : isPlain c = true) (s : List Char) :
    readAll r (c :: s) = readAll (r.mapNodes (appendText (.singleton c))) s := by
  rw [readAll_run r hc]
  cases s with
  | nil => rfl
  | cons d s =>
    by_cases hd : isPlain d = true
    · rw [readAll_run _ hd, mapNodes_appendText_cons, List.takeWhile_cons_of_pos hd,
        List.dropWhile_cons_of_pos hd]
    · rw [List.takeWhile_cons_of_neg hd, List.dropWhile_cons_of_neg hd]
      rfl

theorem readAll_reference (r : Reading) (name : List Char)
    (hn : ∀ c ∈ name, c ≠ ';' ∧ c ≠ '&' ∧ c ≠ '<') (s : List Char) :
    readAll r ('&' :: (name ++ ';' :: s)) =
      readAll (r.mapNodes (appendText (decodeReference (.ofList name)))) s := by
  have hends : ∀ c ∈ name, (!(c = ';' || c = '&' || c = '<')) = true := fun c hc => by
    simp [hn c hc]
  refine readAll_token (t := .reference (.ofList name)) ?_ (by simp; omega) rfl
  rw [token?, reference?]
  rw [List.dropWhile_append_of_pos hends, List.takeWhile_append_of_pos hends]
  simp

theorem readAll_escaped (r : Reading) (c : Char) (s : List Char) :
    readAll r (escapeTextChar c ++ s) = readAll (r.mapNodes (appendText (.singleton c))) s := by
  unfold escapeTextChar
  split_ifs with hamp hlt hgt
  · subst hamp
    exact readAll_reference r ['a', 'm', 'p'] (by simp) s
  · subst hlt
    exact readAll_reference r ['l', 't'] (by simp) s
  · subst hgt
    exact readAll_reference r ['g', 't'] (by simp) s
  · exact readAll_plain r (by simp [isPlain, hamp, hlt]) s

theorem readAll_text (r : Reading) {t : List Char} (ht : t ≠ []) (s : List Char) :
    readAll r (t.flatMap escapeTextChar ++ s) =
      readAll (r.mapNodes (appendText (.ofList t))) s := by
  induction t generalizing r with
  | nil => exact absurd rfl ht
  | cons c t ih =>
    rw [List.flatMap_cons, List.append_assoc, readAll_escaped]
    cases t with
    | nil => rfl
    | cons d t => rw [ih _ (by simp), mapNodes_appendText_cons]

def Reading.push (r : Reading) (e : Element) : Reading :=
  { r with opened := e :: r.opened }

theorem readAll_startTag (r : Reading) {e : Element} (h : isMarkup e = true) (s : List Char) :
    readAll r (startTag e.tag e.properties ++ s) = readAll (r.push ⟨e.tag, e.properties, []⟩) s :=
  readAll_token (token?_startTag h s) (by simp [startTag]; omega) rfl

theorem readAll_endTag (r : Reading) {e : Element} (h : isMarkupName e.tag = true)
    (s : List Char) :
    readAll (r.push e) (endTag e.tag ++ s) = readAll (r.mapNodes (· ++ [e.toNode])) s :=
  readAll_token (token?_endTag h s) (by simp [endTag]; omega)
    (by simp [Reading.push, Reading.read, Reading.add])

/-- Reading written nodes adds them to the innermost open element, whatever has been read before, as
long as no text meets another one there. -/
theorem readAll_ofNodes {ns : List Node} (h : areRegular isMarkup ns = true) (r : Reading)
    (hr : startsWithText ns = true → endsWithText r.current = false) (s : List Char) :
    readAll r ((ofNodes ns).toList ++ s) = readAll (r.mapNodes (· ++ ns)) s := by
  induction ns using nodes_induction generalizing r s with
  | nil => simp [ofNodes, mapNodes_id]
  | raw t ns ih => rw [not_areRegular_raw] at h; cases h
  | text t ns ih =>
    obtain ⟨ht, hns, hn⟩ := areRegular_text.mp h
    have hlast := appendText_of_endsWithText (hr rfl) t
    rw [Html.toList_ofNodes_text, List.append_assoc,
      readAll_text r (fun he => ht (String.toList_eq_nil_iff.mp he)), String.ofList_toList,
      ih hn _ (fun hs => absurd hs (by simp [hns])), mapNodes_mapNodes]
    congr 1
    apply mapNodes_congr
    rw [Function.comp_apply, hlast, List.append_assoc, List.singleton_append]
  | element tag p children ns ihc ih =>
    obtain ⟨he, hc, hn⟩ := areRegular_element.mp h
    have hparts := he
    simp only [isMarkup, Bool.and_eq_true, Bool.not_eq_true'] at hparts
    obtain ⟨⟨⟨htag, hvoid⟩, -⟩, -⟩ := hparts
    have hopened : ((r.push ⟨tag, p, []⟩).mapNodes (· ++ children)) = r.push ⟨tag, p, children⟩ :=
      rfl
    rw [Html.toList_ofNodes_element, Html.body, hvoid, if_neg (by simp)]
    simp only [List.append_assoc]
    rw [readAll_startTag r he, ihc hc _ (fun _ => rfl), hopened,
      readAll_endTag (e := ⟨tag, p, children⟩) r htag,
      ih hn _ (fun _ => by simp [current_mapNodes, endsWithText, Element.toNode, Node.text?]),
      mapNodes_mapNodes]
    congr 2
    funext current
    simp [Element.toNode]

/-- An element is what its own HTML is read as. -/
theorem parseFragment_ofNode {e : Element} (h : areRegular isMarkup [e.toNode] = true) :
    parseFragment (ofNode e.toNode) = .ok [e.toNode] := by
  have hread := readAll_ofNodes h {} (fun hs => by cases hs) []
  have hhtml : (ofNode e.toNode).toList = (ofNodes [e.toNode]).toList := by simp [ofNodes]
  have hmark : (ofNode e.toNode).toList.head? ≠ some '\ufeff' := by
    rw [hhtml, Element.toNode, Html.toList_ofNodes_element]
    simp [startTag]
  rw [List.append_nil, ← hhtml] at hread
  rw [parseFragment]
  simp only [hmark, if_false]
  show (readAll {} (ofNode e.toNode).toList >>= _) = _
  rw [hread]
  rw [readAll, tokens]
  rfl

/-- An icon with a text between elements, all characters that are escaped, and a value that looks
like the end of its tag. -/
def escapedIcon : Element :=
  ⟨"svg", ⟨[("viewBox", .text "0 0 24 24"), ("data-note", .text "\"/> & '<'")]⟩,
    [.element "path" ⟨[("d", .text "")]⟩ [], .text "a < b &amp; ü\n",
      .element "g" {} [.text "&", .element "circle" ⟨[("r", .text "1")]⟩ []]]⟩

theorem parseFragment_escapedIcon :
    areRegular isMarkup [escapedIcon.toNode] = true ∧
      parseFragment (ofNode escapedIcon.toNode) = .ok [escapedIcon.toNode] := by
  have h : areRegular isMarkup [escapedIcon.toNode] = true := by decide +kernel
  exact ⟨h, parseFragment_ofNode h⟩

end Folio.Markup
