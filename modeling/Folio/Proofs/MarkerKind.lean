import Folio.Proofs.Opening
import Folio.Proofs.Tables

/-! The kind that is written in a marker. It selects an entry, and where the callout has a title of
its own or the entry has one, nothing else of it shows. -/

namespace Folio.Callout

theorem newline_notMem_of_isWrittenKind {kind : String} (h : IsWrittenKind kind) :
    '\n' ∉ kind.toList := by
  intro hm
  exact absurd (h.2 _ hm) (by decide)

theorem newline_notMem_marker {blanks : List Char} (hb : '\n' ∉ blanks) {kind : String}
    (h : IsWrittenKind kind) : '\n' ∉ blanks ++ '[' :: '!' :: (kind.toList ++ [']']) := by
  simp [hb, newline_notMem_of_isWrittenKind h]

theorem splitTitle_markedText {blanks : List Char} (hb : '\n' ∉ blanks) (rest : List Char)
    (line : List Node) : ∃ rest' more body, ∀ kind, IsWrittenKind kind →
      splitTitle (.text (markedText blanks kind rest) :: line) =
        ⟨.text (markedText blanks kind rest') :: more, body⟩ := by
  have hsplit : ∀ kind, (markedText blanks kind rest).toList =
      (blanks ++ '[' :: '!' :: (kind.toList ++ [']'])) ++ rest := fun kind => by simp [markedText]
  -- No newline stands in the marker, so the first line is cut off behind it or not at all.
  by_cases hr : '\n' ∈ rest
  · refine ⟨rest.takeWhile (· ≠ '\n'), [],
      some (textNodes ((rest.dropWhile (· ≠ '\n')).drop 1) ++ line), fun kind hk => ?_⟩
    have hpre := decide_ne_of_notMem (newline_notMem_marker hb hk)
    have hin : '\n' ∈ (markedText blanks kind rest).toList := by
      rw [hsplit]
      exact List.mem_append_right _ hr
    rw [splitTitle_text_of_newline hin, hsplit, List.takeWhile_append_of_pos hpre,
      List.dropWhile_append_of_pos hpre]
    simp [textNodes, markedText]
  · refine ⟨rest, (splitTitle line).title, (splitTitle line).body, fun kind hk => ?_⟩
    have hnot : '\n' ∉ (markedText blanks kind rest).toList := by
      rw [hsplit, List.mem_append]
      exact fun hm => hm.elim (newline_notMem_marker hb hk) hr
    exact splitTitle_text_of_no_newline hnot line

theorem marker?_of_blank {known : String → Bool} {blanks : List Char}
    (hb : ∀ c ∈ blanks, Text.isBlank c) : marker? known (.ofList blanks) = none := by
  have ht : Text.trimLeft (String.ofList blanks).toList = [] := by
    rw [String.toList_ofList]
    exact List.dropWhile_eq_nil_iff.mpr hb
  rw [marker?, ht]
  rfl

theorem opening?_of_newline {blanks : List Char} (hb : ∀ c ∈ blanks, Text.isBlank c)
    (hn : '\n' ∈ blanks) (t : Entries) (p : Properties) (kind : String) (rest : List Char)
    (line : List Node) :
    opening? t (.element "p" p (.text (markedText blanks kind rest) :: line)) = none := by
  obtain ⟨before, after, rfl, hbefore⟩ := List.eq_append_cons_of_mem hn
  have hfirst : firstLine (markedText (before ++ '\n' :: after) kind rest) = .ofList before := by
    rw [firstLine, markedText, String.toList_ofList, List.append_assoc,
      (span_append (decide_ne_of_notMem hbefore) (by simp)).1]
  -- The first line ends before the marker comes, so no marker is found in it.
  by_contra hne
  obtain ⟨_, s, _, hp, -, hs⟩ := opening?_isSome_iff.mp (Option.isSome_iff_ne_none.mpr hne)
  obtain ⟨-, -, hchildren⟩ := Node.element.inj hp
  obtain ⟨htext, -⟩ := List.cons.inj hchildren
  rw [← Node.text.inj htext, hfirst,
    marker?_of_blank fun c hc => hb c (List.mem_append_left _ hc)] at hs
  cases hs

/-- What a paragraph with a marker opens depends on the written kind only in the kind that is read
from it, and in the text that the title does without. -/
theorem opening?_markedText {blanks : List Char} (hb : ∀ c ∈ blanks, Text.isBlank c)
    (t : Entries) (p : Properties) (rest : List Char) (line : List Node) :
    (∀ kind, opening? t (.element "p" p (.text (markedText blanks kind rest) :: line)) = none) ∨
    ∃ rest' more body, ∀ kind, IsWrittenKind kind → t.contains (lowerCase kind) = true →
      opening? t (.element "p" p (.text (markedText blanks kind rest) :: line)) =
        some ⟨⟨lowerCase kind, (foldSign rest').1, titleText rest'⟩, p,
          ⟨.text (markedText blanks kind rest') :: more, body⟩⟩ := by
  by_cases hn : '\n' ∈ blanks
  · exact .inl fun kind => opening?_of_newline hb hn t p kind rest line
  · right
    obtain ⟨rest', more, body, hs⟩ := splitTitle_markedText hn rest line
    refine ⟨rest', more, body, fun kind hk hc => ?_⟩
    simp [opening?, hs kind hk, marker?_markedText hb hk, hc]

/-! ### The callout -/

theorem assembled_congr {c : Config} {t : Entries} {o o' : Opening} {line : List Node}
    {start start' : Node} (hfold : o.marker.fold = o'.marker.fold)
    (htitle : o.marker.title = o'.marker.title) (hprops : o.properties = o'.properties)
    (hline : o.split.title = start :: line) (hline' : o'.split.title = start' :: line)
    (hbody : o.split.body = o'.split.body)
    (hentry : t.find? o.marker.kind = t.find? o'.marker.kind)
    (hdefault : titleNodes o.marker o.split.title = [] →
      defaultTitle c t o.marker.kind = defaultTitle c t o'.marker.kind)
    (p : Properties) (rest : List Node) : assembled c t o p rest = assembled c t o' p rest := by
  have hnodes : titleNodes o.marker o.split.title = titleNodes o'.marker o'.split.title := by
    rw [titleNodes, titleNodes, htitle, hline, hline']
    rfl
  have hinner : titleInner c t o.marker o.properties o.split.title =
      titleInner c t o'.marker o'.properties o'.split.title := by
    rw [titleInner, titleInner, ← hnodes, hprops]
    split
    · rename_i hnil
      rw [hdefault hnil]
    · rfl
  have hicon : indicatorNode? t o.marker.kind c.tagNames.icon =
      indicatorNode? t o'.marker.kind c.tagNames.icon := by
    rw [indicatorNode?, indicatorNode?, hentry]
  have hregion : titleRegion c t o.marker o.properties o.split.title =
      titleRegion c t o'.marker o'.properties o'.split.title := by
    rw [titleRegion, titleRegion, hinner, hicon, hfold]
  have hcontainer : containerProperties t o.marker p = containerProperties t o'.marker p := by
    rw [containerProperties, containerProperties, hentry, hfold]
  rw [assembled, assembled, titleElement, titleElement, contentElement, contentElement, hregion,
    hcontainer, hfold, hbody]

/-- A blockquote with a marker, but for the kind that is written in the marker. -/
structure MarkedQuote where
  properties : Properties
  /-- The line breaks in front of the paragraph. -/
  gaps : List Node
  paragraph : Properties
  blanks : List Char
  /-- The first text of the paragraph, from behind the marker. -/
  rest : List Char
  /-- The nodes of the paragraph behind its first text. -/
  line : List Node
  others : List Node
  isBlockGap_of_mem : ∀ n ∈ gaps, isBlockGap n = true
  isBlank_of_mem : ∀ c ∈ blanks, Text.isBlank c = true

namespace MarkedQuote

def start (q : MarkedQuote) (kind : String) : Node :=
  .element "p" q.paragraph (.text (markedText q.blanks kind q.rest) :: q.line)

def withKind (q : MarkedQuote) (kind : String) : Element :=
  ⟨"blockquote", q.properties, q.gaps ++ q.start kind :: q.others⟩

theorem blocks_withKind (q : MarkedQuote) (kind : String) :
    blocks (q.withKind kind) = q.start kind :: q.others.filter (!isBlockGap ·) := by
  have hgaps : q.gaps.filter (!isBlockGap ·) = [] :=
    List.filter_eq_nil_iff.mpr fun n hn => by simp [q.isBlockGap_of_mem n hn]
  rw [blocks, withKind, List.filter_append, hgaps, List.nil_append, List.filter_cons]
  rfl

theorem callout?_withKind (c : Config) (t : Entries) (q : MarkedQuote) (kind : String) :
    callout? c t (q.withKind kind) = (opening? t (q.start kind)).map
      (assembled c t · q.properties (q.others.filter (!isBlockGap ·))) := by
  have htag : (q.withKind kind).tag = "blockquote" := rfl
  rw [callout?_eq, if_pos htag, q.blocks_withKind]
  rfl

/-- Every blockquote that has a marker is of this form. -/
theorem exists_withKind_of_quoteMarker? {t : Entries} {e : Element} {m : Marker}
    (h : quoteMarker? t e = some m) :
    ∃ (q : MarkedQuote) (kind : String),
      IsWrittenKind kind ∧ lowerCase kind = m.kind ∧ q.withKind kind = e := by
  rw [quoteMarker?, Option.ite_none_right_eq_some] at h
  obtain ⟨htag, h⟩ := h
  split at h
  · rename_i p s line rest hblocks
    obtain ⟨gaps, others, hchildren, hgaps, -, -⟩ := List.filter_eq_cons_iff.mp hblocks
    obtain ⟨blanks, kind, behind, hblanks, hwritten, rfl⟩ := exists_markedText_of_marker? h
    rw [marker?_markedText hblanks hwritten] at h
    refine ⟨⟨e.properties, gaps, p, blanks, behind, line, others, ?_, hblanks⟩, kind, hwritten, ?_,
      ?_⟩
    · intro n hn
      simpa using hgaps n hn
    · split at h
      · exact congrArg Marker.kind (Option.some.inj h)
      · cases h
    · rw [withKind, start, ← hchildren, ← htag]
  · cases h

end MarkedQuote

/-- What the title of the callout that a blockquote becomes keeps of the line of the marker. -/
def keptTitle? (t : Entries) (e : Element) : Option (List Node) :=
  match blocks e with
  | n :: _ => (opening? t n).map fun o => titleNodes o.marker o.split.title
  | [] => none

theorem keptTitle?_withKind (t : Entries) (q : MarkedQuote) (kind : String) :
    keptTitle? t (q.withKind kind) =
      (opening? t (q.start kind)).map fun o => titleNodes o.marker o.split.title := by
  rw [keptTitle?, q.blocks_withKind]

/-- Two kinds, written in any case, that select equal entries make the same callout of a blockquote,
or both make none, if the entry has a title or the line of the marker holds one. -/
theorem callout?_withKind_eq {c : Config} (q : MarkedQuote) {kind kind' : String} {entry : Entry}
    (hk : IsWrittenKind kind) (hk' : IsWrittenKind kind')
    (he : c.allEntries.find? (lowerCase kind) = some entry)
    (he' : c.allEntries.find? (lowerCase kind') = some entry)
    (ht : entry.title.isSome ∨ keptTitle? c.allEntries (q.withKind kind) ≠ some []) :
    callout? c c.allEntries (q.withKind kind) = callout? c c.allEntries (q.withKind kind') := by
  have hc : c.allEntries.contains (lowerCase kind) = true := by
    rw [Table.contains_eq_isSome_find?, he]
    rfl
  have hc' : c.allEntries.contains (lowerCase kind') = true := by
    rw [Table.contains_eq_isSome_find?, he']
    rfl
  rw [keptTitle?_withKind, MarkedQuote.start] at ht
  rw [MarkedQuote.callout?_withKind, MarkedQuote.callout?_withKind, MarkedQuote.start,
    MarkedQuote.start]
  rcases opening?_markedText q.isBlank_of_mem c.allEntries q.paragraph q.rest q.line with
    hnone | ⟨rest, more, body, hsome⟩
  · rw [hnone, hnone]
  · rw [hsome kind hk hc] at ht ⊢
    rw [hsome kind' hk' hc', Option.map_some, Option.map_some]
    refine congrArg some (assembled_congr ?_ ?_ ?_ rfl rfl ?_ (he.trans he'.symm) ?_ _ _)
    iterate 4 rfl
    intro hnil
    rcases ht with ht | ht
    · obtain ⟨title, htitle⟩ := Option.isSome_iff_exists.mp ht
      simp only [defaultTitle, he, he', Option.bind_some, htitle, Option.getD_some]
    · exact absurd (congrArg some hnil) ht

def asideColor : Options where
  entries := [("aside", { color := some (.single "teal") })]
  aliases := [("aside", ["margin"])]

def mindTheGap : MarkedQuote where
  properties := {}
  gaps := [.text "\n"]
  paragraph := {}
  blanks := [' ']
  rest := "- Mind\nthe gap".toList
  line := []
  others := [.text "\n"]
  isBlockGap_of_mem := by decide
  isBlank_of_mem := List.forall_mem_singleton.mpr rfl

theorem callout?_withKind_mindTheGap :
    IsWrittenKind "Aside" ∧ IsWrittenKind "MARGIN" ∧
      asideColor.resolve.allEntries.find? (lowerCase "Aside") =
        some { color := some (.single "teal") } ∧
      asideColor.resolve.allEntries.find? (lowerCase "MARGIN") =
        some { color := some (.single "teal") } ∧
      keptTitle? asideColor.resolve.allEntries (mindTheGap.withKind "Aside") ≠ some [] ∧
      callout? asideColor.resolve asideColor.resolve.allEntries (mindTheGap.withKind "Aside") =
        callout? asideColor.resolve asideColor.resolve.allEntries
          (mindTheGap.withKind "MARGIN") := by
  have hk : IsWrittenKind "Aside" := ⟨by decide, List.all_eq_true.mp (by decide +kernel)⟩
  have hk' : IsWrittenKind "MARGIN" := ⟨by decide, List.all_eq_true.mp (by decide +kernel)⟩
  have he : asideColor.resolve.allEntries.find? (lowerCase "Aside") =
      some { color := some (.single "teal") } := by decide +kernel
  have he' : asideColor.resolve.allEntries.find? (lowerCase "MARGIN") =
      some { color := some (.single "teal") } := by decide +kernel
  have hlength : (keptTitle? asideColor.resolve.allEntries (mindTheGap.withKind "Aside")).map
      List.length = some 1 := by decide +kernel
  have ht : keptTitle? asideColor.resolve.allEntries (mindTheGap.withKind "Aside") ≠ some [] := by
    intro hnil
    rw [hnil] at hlength
    cases hlength
  exact ⟨hk, hk', he, he', ht, callout?_withKind_eq mindTheGap hk hk' he he' (.inr ht)⟩

end Folio.Callout
