import Folio.Proofs.MarkerText
import Folio.Proofs.Tables

/-! The written form of a marker. A text is read as a marker exactly if it consists of blanks, the
marker, a gap, a title and further lines, and it does so in one way only. -/

namespace Folio.Callout

def Fold.sign : Fold → List Char
  | .never => []
  | .opened => ['+']
  | .closed => ['-']

/-- What stands behind the place of the sign is not itself taken for one. -/
def Fold.EndsBefore (f : Fold) (s : List Char) : Prop :=
  f = .never → ∀ c ∈ s.head?, c ≠ '+' ∧ c ≠ '-'

theorem foldSign_sign_append {f : Fold} {s : List Char} (h : f.EndsBefore s) :
    foldSign (f.sign ++ s) = (f, s) := by
  cases f with
  | opened => rfl
  | closed => rfl
  | never =>
    cases s with
    | nil => rfl
    | cons c s =>
      obtain ⟨hplus, hminus⟩ := h rfl c rfl
      unfold foldSign
      split
      · rename_i heq
        exact absurd (List.cons.inj heq).1 hplus
      · rename_i heq
        exact absurd (List.cons.inj heq).1 hminus
      · rfl

theorem sign_foldSign (s : List Char) :
    (foldSign s).1.sign ++ (foldSign s).2 = s ∧ (foldSign s).1.EndsBefore (foldSign s).2 := by
  unfold foldSign
  split
  · exact ⟨rfl, by rintro ⟨⟩⟩
  · exact ⟨rfl, by rintro ⟨⟩⟩
  · rename_i hplus hminus
    refine ⟨rfl, fun _ c hc => ⟨?_, ?_⟩⟩
    · rintro rfl
      obtain ⟨r, rfl⟩ := List.head?_eq_some_iff.mp hc
      exact hplus r rfl
    · rintro rfl
      obtain ⟨r, rfl⟩ := List.head?_eq_some_iff.mp hc
      exact hminus r rfl

def isGapChar (c : Char) : Bool :=
  c = ' ' || c = '\t'

/-- A text with a marker at its start, by its parts. -/
@[ext]
structure MarkerLayout where
  blanks : List Char
  /-- The kind as it is written. -/
  kind : String
  fold : Fold
  gap : List Char
  title : List Char
  rest : List Char
  isBlank_of_mem : ∀ c ∈ blanks, Text.isBlank c = true
  isWrittenKind : IsWrittenKind kind
  endsBefore : fold.EndsBefore (gap ++ title ++ rest)
  isGapChar_of_mem : ∀ c ∈ gap, isGapChar c = true
  not_isGapChar : ∀ c ∈ title.head?, isGapChar c = false
  newline_notMem : '\n' ∉ title
  eq_newline : ∀ c ∈ rest.head?, c = '\n'

namespace MarkerLayout

/-- The text up to the title. -/
def mark (p : MarkerLayout) : List Char :=
  p.blanks ++ '[' :: '!' :: (p.kind.toList ++ ']' :: (p.fold.sign ++ p.gap))

def text (p : MarkerLayout) : String :=
  .ofList (p.mark ++ p.title ++ p.rest)

/-- The marker that the parts stand for. -/
def marker (p : MarkerLayout) : Marker :=
  ⟨lowerCase p.kind, p.fold, .ofList p.title⟩

theorem text_eq_markedText (p : MarkerLayout) :
    p.text = markedText p.blanks p.kind (p.fold.sign ++ (p.gap ++ p.title ++ p.rest)) := by
  simp [text, mark, markedText]

theorem span_blanks (p : MarkerLayout) :
    p.text.toList.takeWhile Text.isBlank = p.blanks ∧
      p.text.toList.dropWhile Text.isBlank =
        '[' :: '!' :: (p.kind.toList ++ ']' :: (p.fold.sign ++ (p.gap ++ p.title ++ p.rest))) := by
  rw [text_eq_markedText, markedText, String.toList_ofList]
  refine span_append p.isBlank_of_mem fun _ hc => ?_
  obtain rfl := Option.some.inj hc
  rfl

theorem newline_stops (p : MarkerLayout) : ∀ c ∈ p.rest.head?, decide (c ≠ '\n') = false := by
  intro c hc
  simp [p.eq_newline c hc]

theorem gap_stops (p : MarkerLayout) : ∀ c ∈ (p.title ++ p.rest).head?, isGapChar c = false := by
  intro c hc
  cases ht : p.title with
  | nil =>
    rw [ht, List.nil_append] at hc
    rw [p.eq_newline c hc]
    rfl
  | cons d title =>
    rw [ht, List.cons_append, List.head?_cons] at hc
    refine p.not_isGapChar c ?_
    rw [ht]
    exact hc

theorem marker?_text {known : String → Bool} (p : MarkerLayout) :
    marker? known p.text = if known p.marker.kind then some p.marker else none := by
  have hsign := foldSign_sign_append p.endsBefore
  have htitle : titleText (p.fold.sign ++ (p.gap ++ p.title ++ p.rest)) = .ofList p.title := by
    have hgap := (span_append p.isGapChar_of_mem p.gap_stops).2
    have hline := (span_append (decide_ne_of_notMem p.newline_notMem) p.newline_stops).1
    rw [titleText, hsign, List.append_assoc]
    exact congrArg String.ofList ((congrArg _ hgap).trans hline)
  rw [text_eq_markedText, marker?_markedText p.isBlank_of_mem p.isWrittenKind, htitle, hsign]
  rfl

/-- Whatever stands behind a marker is a sign, a gap, a title and further lines. -/
theorem exists_eq_markedText {blanks : List Char} (hb : ∀ c ∈ blanks, Text.isBlank c = true)
    {kind : String} (hk : IsWrittenKind kind) (s : List Char) :
    ∃ p : MarkerLayout, p.text = markedText blanks kind s := by
  obtain ⟨hsign, hends⟩ := sign_foldSign s
  let tail := (foldSign s).2
  let line := tail.dropWhile isGapChar
  have hline : line.takeWhile (· ≠ '\n') ++ line.dropWhile (· ≠ '\n') = line :=
    List.takeWhile_append_dropWhile
  have htail : tail.takeWhile isGapChar ++ line.takeWhile (· ≠ '\n') ++
      line.dropWhile (· ≠ '\n') = tail := by
    rw [List.append_assoc, hline]
    exact List.takeWhile_append_dropWhile
  refine ⟨⟨blanks, kind, (foldSign s).1, tail.takeWhile isGapChar, line.takeWhile (· ≠ '\n'),
    line.dropWhile (· ≠ '\n'), hb, hk, ?_, fun c hc => List.mem_takeWhile_imp hc, ?_, ?_, ?_⟩, ?_⟩
  · exact htail.symm ▸ hends
  · intro c hc
    refine head?_dropWhile_eq_false (p := isGapChar) (s := tail) c ?_
    change c ∈ line.head?
    rw [← hline]
    exact List.mem_head?_append_of_mem_head? hc
  · intro hn
    simpa using List.mem_takeWhile_imp hn
  · intro c hc
    simpa using head?_dropWhile_eq_false c hc
  · rw [text_eq_markedText]
    exact congrArg (markedText blanks kind) ((congrArg _ htail).trans hsign)

theorem exists_of_marker? {known : String → Bool} {s : String} {m : Marker}
    (h : marker? known s = some m) : ∃ p : MarkerLayout, p.text = s ∧ p.marker = m := by
  obtain ⟨blanks, kind, r, hb, hk, rfl⟩ := exists_markedText_of_marker? h
  obtain ⟨p, hp⟩ := exists_eq_markedText hb hk r
  rw [← hp, marker?_text] at h
  split at h
  · exact ⟨p, hp, Option.some.inj h⟩
  · cases h

theorem text_injective : Function.Injective text := by
  intro p q h
  have hp := p.span_blanks
  have hq := q.span_blanks
  rw [h] at hp
  have hblanks : p.blanks = q.blanks := hp.1.symm.trans hq.1
  obtain ⟨hkind, hrest⟩ := append_inj_of_stops p.isWrittenKind.2 (by simp [isKindChar])
    q.isWrittenKind.2 (by simp [isKindChar])
    (List.cons.inj (List.cons.inj (hp.2.symm.trans hq.2)).2).2
  have hsign := congrArg foldSign (List.cons.inj hrest).2
  rw [foldSign_sign_append p.endsBefore, foldSign_sign_append q.endsBefore, Prod.mk.injEq,
    List.append_assoc, List.append_assoc] at hsign
  obtain ⟨hgap, hline⟩ := append_inj_of_stops p.isGapChar_of_mem p.gap_stops q.isGapChar_of_mem
    q.gap_stops hsign.2
  obtain ⟨htitle, hmore⟩ := append_inj_of_stops (decide_ne_of_notMem p.newline_notMem)
    p.newline_stops (decide_ne_of_notMem q.newline_notMem) q.newline_stops hline
  exact MarkerLayout.ext hblanks (String.toList_inj.mp hkind) hsign.1 hgap htitle hmore

end MarkerLayout

/-- A text is read as a marker exactly if it has a layout of it, and no text has two layouts. -/
theorem marker?_eq_some_iff_layout (t : Entries) (s : String) (m : Marker) :
    (marker? t.contains s = some m ↔
      ∃ p : MarkerLayout, p.text = s ∧ p.marker = m ∧ m.kind ∈ t.keys) ∧
    Function.Injective MarkerLayout.text := by
  refine ⟨⟨fun h => ?_, ?_⟩, MarkerLayout.text_injective⟩
  · obtain ⟨p, hp, hm⟩ := MarkerLayout.exists_of_marker? h
    exact ⟨p, hp, hm, Table.contains_iff_mem_keys.mp (known_of_marker? h)⟩
  · rintro ⟨p, rfl, rfl, hk⟩
    rw [MarkerLayout.marker?_text, if_pos (Table.contains_iff_mem_keys.mpr hk)]

end Folio.Callout
