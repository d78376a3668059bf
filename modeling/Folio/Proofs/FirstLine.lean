import Folio.Callout.Split
import Folio.Proofs.Runs
import Mathlib.Data.List.Induction

/-! The first line of a paragraph. The paragraph is cut in one place, the first newline in its
texts, and both sides have all their nodes but for the newline and a hard break that ends the line. -/

namespace Folio.Callout

/-- The parts of a list of nodes around the first newline in its texts. -/
structure FirstNewline (ns : List Node) where
  before : List Node
  /-- The hard break that ends the line, if one does. -/
  hardBreak : Option Node
  head : String
  tail : String
  after : List Node
  nodes_eq : ns = before ++ hardBreak.toList ++ .text (head ++ "\n" ++ tail) :: after
  before_line : ∀ s, .text s ∈ before → '\n' ∉ s.toList
  head_line : '\n' ∉ head.toList
  isBreak : ∀ n ∈ hardBreak, n.isElement "br" = true
  no_other_break : hardBreak = none → ∀ n ∈ before.getLast?, n.isElement "br" = false

/-- A text of a line, unless nothing is left of it. -/
def leftText (s : String) : List Node :=
  if s = "" then [] else [.text s]

/-- The title and the body of a list of nodes: one line, or the two sides of the first newline. -/
inductive CutAtNewline (ns : List Node) : Split → Prop
  | line (h : ∀ s, .text s ∈ ns → '\n' ∉ s.toList) : CutAtNewline ns ⟨ns, none⟩
  | lines (p : FirstNewline ns) :
    CutAtNewline ns ⟨p.before ++ leftText p.head, some (leftText p.tail ++ p.after)⟩

theorem textNodes_toList (s : String) : textNodes s.toList = leftText s := by
  rw [textNodes, leftText, String.ofList_toList]
  by_cases h : s = ""
  · simp [h]
  · simp [h, String.toList_eq_nil_iff]

theorem notMem_leftText {s : String} (h : '\n' ∉ s.toList) :
    ∀ t, .text t ∈ leftText s → '\n' ∉ t.toList := by
  intro t ht
  rw [leftText] at ht
  split at ht
  · cases ht
  · obtain rfl := Node.text.inj (List.mem_singleton.mp ht)
    exact h

theorem forall_hasNewline_iff {ns : List Node} : (∀ n ∈ ns, hasNewline n = false) ↔
    ∀ s, .text s ∈ ns → '\n' ∉ s.toList := by
  constructor
  · intro h s hs
    have hno := h _ hs
    rw [hasNewline] at hno
    simpa using hno
  · intro h n hn
    cases n with
    | text s =>
      have hno := h s hn
      rw [hasNewline]
      simpa using hno
    | raw markup => rfl
    | element tag p children => rfl

theorem hasNewline_of_isElement {n : Node} {tag : String} (h : n.isElement tag = true) :
    hasNewline n = false := by
  cases n with
  | text s => cases h
  | raw markup => cases h
  | element t p children => rfl

theorem hasNewline_eq_true_iff {n : Node} : hasNewline n = true ↔
    ∃ head tail, n = .text (head ++ "\n" ++ tail) ∧ '\n' ∉ head.toList := by
  constructor
  · intro h
    cases n with
    | raw markup => cases h
    | element tag p children => cases h
    | text value =>
      have hmem : '\n' ∈ value.toList := by simpa [hasNewline] using h
      obtain ⟨head, tail, hvalue, hhead⟩ := List.eq_append_cons_of_mem hmem
      refine ⟨.ofList head, .ofList tail, congrArg Node.text ?_, by rwa [String.toList_ofList]⟩
      rw [← String.toList_inj, hvalue]
      simp
  · rintro ⟨head, tail, rfl, -⟩
    simp [hasNewline]

/-! ### The hard break at the end of a line -/

theorem exists_finalBreak (front : List Node) : ∃ before, ∃ br : Option Node,
    front = before ++ br.toList ∧ (∀ n ∈ br, n.isElement "br" = true) ∧
      (br = none → ∀ n ∈ before.getLast?, n.isElement "br" = false) := by
  cases front using List.reverseRecOn with
  | nil => exact ⟨[], none, rfl, nofun, by simp⟩
  | append_singleton before n =>
    cases hn : n.isElement "br" with
    | true => exact ⟨before, some n, rfl, by simpa using hn, nofun⟩
    | false => exact ⟨before ++ [n], none, by simp, nofun, by simpa using hn⟩

theorem dropFinalBreak_append_toList {before : List Node} {br : Option Node}
    (hbr : ∀ n ∈ br, n.isElement "br" = true)
    (hlast : br = none → ∀ n ∈ before.getLast?, n.isElement "br" = false) :
    dropFinalBreak (before ++ br.toList) = before := by
  cases br with
  | some n =>
    rw [Option.toList_some, dropFinalBreak, List.getLast?_concat]
    simp [hbr n rfl]
  | none =>
    rw [Option.toList_none, List.append_nil, dropFinalBreak]
    split
    next n hn => simp [hlast rfl n hn]
    next => rfl

/-! ### The cut -/

theorem splitTitle_of_line {ns : List Node} (h : ∀ s, .text s ∈ ns → '\n' ∉ s.toList) :
    splitTitle ns = ⟨ns, none⟩ := by
  have hnil : ns.dropWhile (!hasNewline ·) = [] :=
    List.dropWhile_eq_nil_iff.mpr fun n hn => by simp [forall_hasNewline_iff.mpr h n hn]
  rw [splitTitle, hnil]

theorem FirstNewline.splitTitle_eq {ns : List Node} (p : FirstNewline ns) :
    splitTitle ns = ⟨p.before ++ leftText p.head, some (leftText p.tail ++ p.after)⟩ := by
  have hpass : ∀ n ∈ p.before ++ p.hardBreak.toList, (!hasNewline n) = true := by
    intro n hn
    rcases List.mem_append.mp hn with hn | hn
    · simp [forall_hasNewline_iff.mpr p.before_line n hn]
    · simp [hasNewline_of_isElement (p.isBreak n (Option.mem_toList.mp hn))]
  have hstop : ∀ n ∈ (.text (p.head ++ "\n" ++ p.tail) :: p.after).head?,
      (!hasNewline n) = false := by
    simp [hasNewline]
  have hnodes := span_append hpass hstop
  rw [← p.nodes_eq] at hnodes
  have htext : (p.head ++ "\n" ++ p.tail).toList = p.head.toList ++ '\n' :: p.tail.toList := by
    simp
  have hchars := span_append (decide_ne_of_notMem p.head_line) (b := '\n' :: p.tail.toList)
    (by simp)
  rw [← htext] at hchars
  rw [splitTitle, hnodes.1, hnodes.2]
  simp only [hchars.1, hchars.2, List.drop_succ_cons, List.drop_zero, textNodes_toList,
    dropFinalBreak_append_toList p.isBreak p.no_other_break]

theorem line_or_firstNewline (ns : List Node) :
    (∀ s, .text s ∈ ns → '\n' ∉ s.toList) ∨ Nonempty (FirstNewline ns) := by
  have hfront : ∀ n ∈ ns.takeWhile (!hasNewline ·), hasNewline n = false := fun n hn => by
    simpa using List.mem_takeWhile_imp hn
  have hnodes := List.takeWhile_append_dropWhile (p := (!hasNewline ·)) (l := ns)
  cases hrest : ns.dropWhile (!hasNewline ·) with
  | nil =>
    rw [hrest, List.append_nil] at hnodes
    rw [hnodes] at hfront
    exact .inl (forall_hasNewline_iff.mp hfront)
  | cons n after =>
    have hn : hasNewline n = true := by
      simpa using head?_dropWhile_eq_false (p := (!hasNewline ·)) (s := ns) n (by simp [hrest])
    obtain ⟨head, tail, rfl, hhead⟩ := hasNewline_eq_true_iff.mp hn
    obtain ⟨before, hardBreak, hbefore, hbr, hlast⟩ :=
      exists_finalBreak (ns.takeWhile (!hasNewline ·))
    rw [hbefore] at hfront
    have hline := fun n hn => hfront n (List.mem_append_left _ hn)
    exact .inr ⟨{
      before, hardBreak, head, tail, after
      nodes_eq := by rw [← hbefore, ← hrest, hnodes]
      before_line := forall_hasNewline_iff.mp hline
      head_line := hhead
      isBreak := hbr
      no_other_break := hlast }⟩

theorem cutAtNewline_splitTitle (ns : List Node) : CutAtNewline ns (splitTitle ns) := by
  rcases line_or_firstNewline ns with hline | ⟨⟨p⟩⟩
  · rw [splitTitle_of_line hline]
    exact .line hline
  · rw [p.splitTitle_eq]
    exact .lines p

namespace CutAtNewline

variable {ns : List Node} {split : Split} (h : CutAtNewline ns split)

include h

theorem splitTitle_eq : splitTitle ns = split := by
  cases h with
  | line hline => exact splitTitle_of_line hline
  | lines p => exact p.splitTitle_eq

theorem title_line : ∀ s, .text s ∈ split.title → '\n' ∉ s.toList := by
  cases h with
  | line hline => exact hline
  | lines p =>
    intro s hs
    rcases List.mem_append.mp hs with hs | hs
    · exact p.before_line s hs
    · exact notMem_leftText p.head_line s hs

theorem isSome_body_iff : split.body.isSome ↔ ∃ n ∈ ns, hasNewline n = true := by
  cases h with
  | line hline => simpa using forall_hasNewline_iff.mpr hline
  | lines p =>
    obtain ⟨before, hardBreak, head, tail, after, rfl, -, hhead, -, -⟩ := p
    have hn := hasNewline_eq_true_iff.mpr ⟨head, tail, rfl, hhead⟩
    exact iff_of_true rfl ⟨_, List.mem_append_right _ List.mem_cons_self, hn⟩

end CutAtNewline

/-- A paragraph is cut at its first newline and in no other way, so no text of the title has one. -/
theorem splitTitle_eq_iff_cutAtNewline (ns : List Node) :
    (∀ split, splitTitle ns = split ↔ CutAtNewline ns split) ∧
      ∀ s, .text s ∈ (splitTitle ns).title → '\n' ∉ s.toList := by
  have hcut := cutAtNewline_splitTitle ns
  refine ⟨fun split => ⟨?_, CutAtNewline.splitTitle_eq⟩, hcut.title_line⟩
  rintro rfl
  exact hcut

/-- The break goes with the newline, and the text it ends is not there any more. -/
example : splitTitle [.text "[!note] Mind", .element "br" {} [], .text "\nthe gap\n", .raw "<i>"] =
    ⟨[.text "[!note] Mind"], some [.text "the gap\n", .raw "<i>"]⟩ := by
  rfl

/-! ### A paragraph that starts with a text -/

theorem dropFinalBreak_text_cons (s : String) (ns : List Node) :
    dropFinalBreak (.text s :: ns) = .text s :: dropFinalBreak ns := by
  cases ns with
  | nil => rfl
  | cons n ns =>
    have hlast : (Node.text s :: n :: ns).getLast? = (n :: ns).getLast? := List.getLast?_cons_cons
    simp only [dropFinalBreak, hlast]
    split
    · split <;> rfl
    · rfl

def firstLine (s : String) : String :=
  .ofList (s.toList.takeWhile (· ≠ '\n'))

theorem firstLine_eq_self {s : String} (h : '\n' ∉ s.toList) : firstLine s = s := by
  rw [firstLine, List.takeWhile_eq_self_iff.mpr (decide_ne_of_notMem h), String.ofList_toList]

/-- A paragraph whose first text has a newline is split there. -/
theorem splitTitle_text_of_newline {s : String} (h : '\n' ∈ s.toList) (line : List Node) :
    splitTitle (.text s :: line) = ⟨textNodes (s.toList.takeWhile (· ≠ '\n')),
      some (textNodes ((s.toList.dropWhile (· ≠ '\n')).drop 1) ++ line)⟩ := by
  simp [splitTitle, hasNewline, h, dropFinalBreak]

/-- A first text without a newline belongs to the title, and the rest of the paragraph is split as
if it stood alone. -/
theorem splitTitle_text_of_no_newline {s : String} (h : '\n' ∉ s.toList) (line : List Node) :
    splitTitle (.text s :: line) =
      ⟨.text s :: (splitTitle line).title, (splitTitle line).body⟩ := by
  have hn : hasNewline (.text s) = false := by simp [hasNewline, h]
  simp only [splitTitle, List.dropWhile_cons, List.takeWhile_cons, hn, Bool.not_false, if_true]
  split
  · rw [dropFinalBreak_text_cons]
    rfl
  · rfl

/-- A paragraph that starts with a text has the first line of it at the start of its title. -/
theorem splitTitle_text_cons (s : String) (line : List Node) :
    (firstLine s = "" ∧ (splitTitle (.text s :: line)).title = []) ∨
      ∃ more, (splitTitle (.text s :: line)).title = .text (firstLine s) :: more := by
  by_cases hs : '\n' ∈ s.toList
  · rw [splitTitle_text_of_newline hs, textNodes]
    split
    · rename_i he
      exact .inl ⟨by rw [firstLine, List.isEmpty_iff.mp he], rfl⟩
    · exact .inr ⟨[], rfl⟩
  · rw [splitTitle_text_of_no_newline hs, firstLine_eq_self hs]
    exact .inr ⟨_, rfl⟩

end Folio.Callout
