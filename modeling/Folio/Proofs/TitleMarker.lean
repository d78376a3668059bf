import Folio.Proofs.MarkerKind
import Folio.Proofs.MarkerLayout

/-! The marker is read twice, from the first text of a blockquote and from the first line of it that
goes into the title. Both readings agree, unless a newline stands in front of the marker: then the
first line holds no marker and the blockquote stays. -/

namespace Folio.Callout

namespace MarkerLayout

/-- The layout of the first line. -/
def line (p : MarkerLayout) : MarkerLayout :=
  { p with
    rest := []
    endsBefore := fun hf c hc => by
      rw [List.append_nil] at hc
      exact p.endsBefore hf c (List.mem_head?_append_of_mem_head? hc)
    eq_newline := fun _ hc => absurd hc (by simp) }

theorem newline_notMem_mark (p : MarkerLayout) (h : '\n' ∉ p.blanks) : '\n' ∉ p.mark := by
  have hkind := newline_notMem_of_isWrittenKind p.isWrittenKind
  have hsign : '\n' ∉ p.fold.sign := by cases p.fold <;> decide
  have hgap : '\n' ∉ p.gap := fun hm => absurd (p.isGapChar_of_mem _ hm) (by decide)
  simp [mark, h, hkind, hsign, hgap]

theorem firstLine_text (p : MarkerLayout) (h : '\n' ∉ p.blanks) :
    firstLine p.text = p.line.text := by
  have hmark : '\n' ∉ p.mark ++ p.title := by
    rw [List.mem_append, not_or]
    exact ⟨p.newline_notMem_mark h, p.newline_notMem⟩
  have hline : p.line.text = .ofList (p.mark ++ p.title) := by
    rw [text, show p.line.rest = [] from rfl, List.append_nil]
    rfl
  rw [hline, firstLine, text, String.toList_ofList,
    (span_append (decide_ne_of_notMem hmark) p.newline_stops).1]

theorem marker?_line {known : String → Bool} (p : MarkerLayout) :
    marker? known p.line.text = marker? known p.text := by
  rw [marker?_text, marker?_text]
  rfl

/-- If the marker stands in the first line the title starts with that line. -/
theorem splitTitle_text (p : MarkerLayout) (h : '\n' ∉ p.blanks) (nodes : List Node) :
    ∃ more, (splitTitle (.text p.text :: nodes)).title = .text p.line.text :: more := by
  rcases splitTitle_text_cons p.text nodes with ⟨hempty, -⟩ | ⟨more, hmore⟩
  · have hbracket : '[' ∈ p.line.text.toList := by simp [text, mark]
    rw [← p.firstLine_text h, hempty] at hbracket
    exact absurd hbracket (by decide)
  · exact ⟨more, by rw [hmore, p.firstLine_text h]⟩

theorem opening?_text (p : MarkerLayout) (t : Entries) (a : Properties) (nodes : List Node) :
    opening? t (.element "p" a (.text p.text :: nodes)) =
      if '\n' ∈ p.blanks then none
      else (marker? t.contains p.text).map (⟨·, a, splitTitle (.text p.text :: nodes)⟩) := by
  split
  · rename_i hn
    rw [text_eq_markedText]
    exact opening?_of_newline p.isBlank_of_mem hn t a p.kind _ nodes
  · rename_i hn
    obtain ⟨more, hmore⟩ := p.splitTitle_text hn nodes
    rw [opening?, hmore]
    cases hm : marker? t.contains p.text with
    | none => rfl
    | some m =>
      dsimp only
      rw [p.marker?_line, hm]
      rfl

end MarkerLayout

/-- The text at the start of the first block. -/
def leadingText (e : Element) : String :=
  match blocks e with
  | .element _ _ (.text s :: _) :: _ => s
  | _ => ""

/-- What a marker at the start of the first block stands behind. -/
def leadingBlanks (e : Element) : List Char :=
  (leadingText e).toList.takeWhile Text.isBlank

/-- The marker at the start of the title that is split off the first block. -/
def titleMarker? (t : Entries) (e : Element) : Option Marker :=
  match blocks e with
  | .element _ _ line :: _ =>
    match (splitTitle line).title with
    | .text s :: _ => marker? t.contains s
    | _ => none
  | _ => none

theorem leadingBlanks_eq {e : Element} {tag : String} {a : Properties} {p : MarkerLayout}
    {nodes rest : List Node} (hb : blocks e = .element tag a (.text p.text :: nodes) :: rest) :
    leadingBlanks e = p.blanks := by
  rw [leadingBlanks, leadingText, hb]
  exact p.span_blanks.1

theorem quoteMarker?_eq {t : Entries} {e : Element} {a : Properties} {s : String}
    {nodes rest : List Node} (ht : e.tag = "blockquote")
    (hb : blocks e = .element "p" a (.text s :: nodes) :: rest) :
    quoteMarker? t e = marker? t.contains s := by
  simp [quoteMarker?, ht, hb]

theorem exists_layout_of_quoteMarker? {t : Entries} {e : Element} {m : Marker}
    (h : quoteMarker? t e = some m) :
    ∃ (a : Properties) (p : MarkerLayout) (nodes rest : List Node), e.tag = "blockquote" ∧
      blocks e = .element "p" a (.text p.text :: nodes) :: rest ∧ p.marker = m := by
  have h' := h
  rw [quoteMarker?, Option.ite_none_right_eq_some] at h'
  obtain ⟨ht, h'⟩ := h'
  split at h'
  · rename_i a s nodes rest hb
    obtain ⟨p, rfl, hm⟩ := MarkerLayout.exists_of_marker? h'
    exact ⟨a, p, nodes, rest, ht, hb, hm⟩
  · cases h'

theorem callout?_of_layout {c : Config} {t : Entries} {e : Element} {a : Properties}
    {p : MarkerLayout} {nodes rest : List Node} (ht : e.tag = "blockquote")
    (hb : blocks e = .element "p" a (.text p.text :: nodes) :: rest) :
    callout? c t e = if '\n' ∈ p.blanks then none
      else (quoteMarker? t e).map fun m =>
        assembled c t ⟨m, a, splitTitle (.text p.text :: nodes)⟩ e.properties rest := by
  rw [callout?_eq, if_pos ht, hb, assembled?, p.opening?_text, quoteMarker?_eq ht hb]
  split
  · rfl
  · rw [Option.map_map]
    rfl

/-- A blockquote that is rewritten starts with a marker, and the callout is made with it. -/
theorem exists_layout_of_callout? {c : Config} {t : Entries} {e e' : Element}
    (h : callout? c t e = some e') :
    ∃ (a : Properties) (p : MarkerLayout) (nodes rest : List Node), e.tag = "blockquote" ∧
      blocks e = .element "p" a (.text p.text :: nodes) :: rest ∧ '\n' ∉ p.blanks ∧
      quoteMarker? t e = some p.marker ∧
      e' = assembled c t ⟨p.marker, a, splitTitle (.text p.text :: nodes)⟩ e.properties rest := by
  have hq : (quoteMarker? t e).isSome := by
    rw [callout?] at h
    split at h
    · cases h
    · rename_i hq
      simpa [Option.isSome_iff_ne_none] using hq
  obtain ⟨m, hm⟩ := Option.isSome_iff_exists.mp hq
  obtain ⟨a, p, nodes, rest, ht, hb, rfl⟩ := exists_layout_of_quoteMarker? hm
  rw [callout?_of_layout ht hb, hm] at h
  split at h
  · cases h
  · rename_i hn
    exact ⟨a, p, nodes, rest, ht, hb, hn, hm, (Option.some.inj h).symm⟩

theorem titleMarker?_eq {t : Entries} {e : Element} {a : Properties} {p : MarkerLayout}
    {nodes rest : List Node} (ht : e.tag = "blockquote")
    (hb : blocks e = .element "p" a (.text p.text :: nodes) :: rest) (hn : '\n' ∉ p.blanks) :
    titleMarker? t e = quoteMarker? t e := by
  obtain ⟨more, hmore⟩ := p.splitTitle_text hn nodes
  rw [quoteMarker?_eq ht hb, titleMarker?, hb]
  dsimp only
  rw [hmore]
  exact p.marker?_line

/-- A blockquote is rewritten exactly if it has a marker with no newline in front of it. The title
then has the same marker, and that is the marker of the callout. -/
theorem callout?_isSome_iff_quoteMarker? (c : Config) (t : Entries) (e : Element) :
    ((callout? c t e).isSome ↔ (quoteMarker? t e).isSome ∧ '\n' ∉ leadingBlanks e) ∧
    ∀ e' ∈ callout? c t e, titleMarker? t e = quoteMarker? t e ∧
      ∃ m a line rest, quoteMarker? t e = some m ∧ blocks e = .element "p" a line :: rest ∧
        e' = assembled c t ⟨m, a, splitTitle line⟩ e.properties rest := by
  refine ⟨⟨fun h => ?_, fun ⟨hq, hn⟩ => ?_⟩, fun e' he => ?_⟩
  · obtain ⟨e', he⟩ := Option.isSome_iff_exists.mp h
    obtain ⟨a, p, nodes, rest, ht, hb, hn, hm, -⟩ := exists_layout_of_callout? he
    exact ⟨Option.isSome_iff_exists.mpr ⟨_, hm⟩, leadingBlanks_eq hb ▸ hn⟩
  · obtain ⟨m, hm⟩ := Option.isSome_iff_exists.mp hq
    obtain ⟨a, p, nodes, rest, ht, hb, -⟩ := exists_layout_of_quoteMarker? hm
    rw [callout?_of_layout ht hb, if_neg (leadingBlanks_eq hb ▸ hn), hm]
    rfl
  · obtain ⟨a, p, nodes, rest, ht, hb, hn, hm, rfl⟩ := exists_layout_of_callout? he
    exact ⟨titleMarker?_eq ht hb hn, p.marker, a, _, rest, hm, hb, rfl⟩

end Folio.Callout
