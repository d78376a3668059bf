import Folio.Callout.Render
import Folio.Proofs.Content
import Folio.Proofs.FirstLine
import Folio.Proofs.MarkerText

/-! The block that makes a blockquote a callout, and the parts of the callout. Whether a blockquote
is rewritten depends on its first block alone, and all its other blocks end up in the content. -/

namespace Folio.Callout

theorem sizes_leftText (s : String) : sizes (leftText s) = s.toList.length := by
  unfold leftText
  split
  · rename_i h
    simp [sizes, h]
  · simp [sizes, Node.size]

theorem CutAtNewline.sizes_le {ns : List Node} {split : Split} (h : CutAtNewline ns split) :
    sizes split.title + sizes (split.body.getD []) ≤ sizes ns := by
  cases h with
  | line hline => simp [sizes]
  | lines p =>
    obtain ⟨before, hardBreak, head, tail, after, rfl, -, -, -, -⟩ := p
    have htext : (head ++ "\n" ++ tail).toList.length =
        head.toList.length + tail.toList.length + 1 := by
      simp
      omega
    simp only [Option.getD_some, sizes_append, sizes_leftText, sizes, Node.size, htext]
    omega

/-- What the first block of a callout says: its marker, its own properties and its split line. -/
structure Opening where
  marker : Marker
  properties : Properties
  split : Split

def opening? (t : Entries) : Node → Option Opening
  | .element "p" a (.text s :: line) =>
    if (marker? t.contains s).isNone then none
    else
      match (splitTitle (.text s :: line)).title with
      | .text start :: _ =>
        (marker? t.contains start).map (⟨·, a, splitTitle (.text s :: line)⟩)
      | _ => none
  | _ => none

def titleElement (c : Config) (t : Entries) (o : Opening) : Element :=
  .withClass (if o.marker.fold.isFoldable then "summary" else c.tagNames.title) "callout-title"
    (titleRegion c t o.marker o.properties o.split.title)

def contentElement (c : Config) (o : Opening) (rest : List Node) : Element :=
  .withClass (if o.marker.fold.isFoldable then c.tagNames.foldedContent else c.tagNames.content)
    "callout-content" (contentRegion o.split.body rest)

def assembled (c : Config) (t : Entries) (o : Opening) (p : Properties) (rest : List Node) :
    Element where
  tag := if o.marker.fold.isFoldable then "details" else c.tagNames.container
  properties := containerProperties t o.marker p
  children := [(titleElement c t o).toNode, (contentElement c o rest).toNode]

def assembled? (c : Config) (t : Entries) (p : Properties) : List Node → Option Element
  | [] => none
  | n :: rest => (opening? t n).map (assembled c t · p rest)

theorem callout?_eq (c : Config) (t : Entries) (e : Element) :
    callout? c t e =
      if e.tag = "blockquote" then assembled? c t e.properties (blocks e) else none := by
  unfold callout? quoteMarker?
  by_cases ht : e.tag = "blockquote"
  · rw [if_pos ht, if_pos ht]
    cases hb : blocks e with
    | nil => simp [assembled?]
    | cons n rest =>
      simp only [assembled?, opening?]
      split
      · rename_i a s line _ hn
        obtain ⟨rfl, rfl⟩ := List.cons.inj hn
        by_cases hs : (marker? t.contains s).isNone
        · simp [hs]
        · simp only [hs, if_false, Bool.false_eq_true]
          cases hst : (splitTitle (.text s :: line)).title with
          | nil => rfl
          | cons start more =>
            cases start with
            | text start =>
              simp only [Option.map_map]
              congr 1
              funext m
              cases hm : m.fold.isFoldable <;>
                simp [assembled, titleElement, contentElement, hm, hst]
            | raw markup => rfl
            | element tag p children => rfl
      · rename_i hn
        simp only [Option.isNone_none, if_true]
        split
        · exact absurd rfl (hn _ _ _ _)
        · rfl
  · rw [if_neg ht, if_neg ht]
    rfl

theorem callout?_eq_some {c : Config} {t : Entries} {e e' : Element}
    (h : callout? c t e = some e') :
    ∃ n rest o, e.tag = "blockquote" ∧ blocks e = n :: rest ∧ opening? t n = some o ∧
      e' = assembled c t o e.properties rest := by
  rw [callout?_eq, Option.ite_none_right_eq_some] at h
  obtain ⟨ht, h⟩ := h
  cases hb : blocks e with
  | nil => simp [hb, assembled?] at h
  | cons n rest =>
    rw [hb, assembled?, Option.map_eq_some_iff] at h
    obtain ⟨o, ho, rfl⟩ := h
    exact ⟨n, rest, o, ht, rfl, ho, rfl⟩

theorem callout?_of_opening? {c : Config} {t : Entries} {e : Element} {n : Node}
    {rest : List Node} {o : Opening} (ht : e.tag = "blockquote") (hb : blocks e = n :: rest)
    (ho : opening? t n = some o) : callout? c t e = some (assembled c t o e.properties rest) := by
  rw [callout?_eq, if_pos ht, hb, assembled?, ho]
  rfl

theorem opening?_eq_some {t : Entries} {n : Node} {o : Opening} (h : opening? t n = some o) :
    ∃ a s line start more, n = .element "p" a (.text s :: line) ∧
      o = ⟨o.marker, a, splitTitle (.text s :: line)⟩ ∧ (marker? t.contains s).isSome ∧
      o.split.title = .text start :: more ∧ marker? t.contains start = some o.marker := by
  unfold opening? at h
  split at h
  · rename_i a s line
    split at h
    · simp at h
    · rename_i hs
      split at h
      · rename_i start more hst
        obtain ⟨m, hm, rfl⟩ := Option.map_eq_some_iff.mp h
        exact ⟨a, s, line, start, more, rfl, rfl, by simpa [Option.isSome_iff_ne_none] using hs,
          hst, hm⟩
      · simp at h
  · simp at h

/-- A block opens a callout exactly if it is a paragraph with a marker at the start of its text,
where the marker is also there if the text ends with its first line. -/
theorem opening?_isSome_iff {t : Entries} {n : Node} :
    (opening? t n).isSome ↔ ∃ a s line, n = .element "p" a (.text s :: line) ∧
      (marker? t.contains s).isSome ∧ (marker? t.contains (firstLine s)).isSome := by
  constructor
  · intro h
    obtain ⟨o, ho⟩ := Option.isSome_iff_exists.mp h
    obtain ⟨a, s, line, start, more, rfl, ho', hs, hst, hm⟩ := opening?_eq_some ho
    rw [ho'] at hst
    rcases splitTitle_text_cons s line with ⟨-, hnil⟩ | ⟨more', hf⟩
    · simp [hnil] at hst
    · obtain ⟨hstart, -⟩ := List.cons.inj (hf.symm.trans hst)
      rw [← Node.text.inj hstart] at hm
      exact ⟨a, s, line, rfl, hs, Option.isSome_iff_exists.mpr ⟨_, hm⟩⟩
  · rintro ⟨a, s, line, rfl, hs, hf⟩
    obtain ⟨m, hm⟩ := Option.isSome_iff_exists.mp hf
    obtain ⟨k, hk⟩ := Option.isSome_iff_exists.mp hs
    rcases splitTitle_text_cons s line with ⟨he, -⟩ | ⟨more, hmore⟩
    · rw [he] at hm
      exact absurd hm (by simp [marker?, Text.trimLeft, Text.dropPrefix?])
    · simp [opening?, hk, hmore, hm]

/-- The marker is gone from a title, so less is left of the paragraph than there was. -/
theorem sizes_titleNodes_lt {t : Entries} {n : Node} {o : Opening} (h : opening? t n = some o) :
    sizes (titleNodes o.marker o.split.title) + sizes (o.split.body.getD []) + 1 < n.size := by
  obtain ⟨a, s, line, start, more, rfl, ho, -, hst, hm⟩ := opening?_eq_some h
  have hl := title_length_lt_of_marker? hm
  have hs := (cutAtNewline_splitTitle (.text s :: line)).sizes_le
  have ht : sizes (titleNodes o.marker o.split.title) < sizes o.split.title := by
    rw [hst, titleNodes]
    split <;> simp only [List.drop_succ_cons, List.drop_zero, sizes, Node.size] <;> omega
  rw [ho] at ht ⊢
  simp only [Node.size] at ht ⊢
  omega

end Folio.Callout
