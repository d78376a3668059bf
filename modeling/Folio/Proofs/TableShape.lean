import Folio.Proofs.OpenContent
import Folio.Proofs.Surroundings

/-! Tables by their events: whatever the builder has been through before, it puts one table into the
innermost open element, with a head of one row, a body if there are rows, and the cells where they
stand. -/

namespace Folio

open Markdown (Event Tag TagKind)

/-- Blocks as they stand in an element: each on a line of its own, and the last line ends. -/
def lines (es : List Element) : List Node :=
  if es.isEmpty then [] else es.flatMap (fun e => [.text "\n", e.toNode]) ++ [.text "\n"]

theorem pushText_newLine {ns : List Node} (h : ∀ s, ns.getLast? ≠ some (.text s)) :
    pushText "\n" ns = ns ++ [.text "\n"] := by
  rcases pushText_cases (s := "\n") (by decide) ns with ⟨init, t, rfl, -⟩ | ⟨-, hpush⟩
  · exact absurd List.getLast?_concat (h t)
  · exact hpush

namespace Frame

/-- The frame with one more block in it, on a line of its own. -/
def put (outermost : Bool) (f : Frame) (e : Element) : Frame :=
  if outermost then
    { f with
      element.children := (if f.element.children.isEmpty then [] else
        pushText "\n" f.element.children) ++ [e.toNode] }
  else
    { f with
      element.children := pushText "\n" f.element.children ++ [e.toNode]
      hasBlocks := true }

theorem marked_put (outermost m : Bool) (f : Frame) (e : Element) :
    (f.put outermost e).marked m = (f.marked m).put outermost e := by
  unfold marked put
  cases outermost <;> by_cases h : m ∧ f.element.tag = "li" <;> simp [h, Element.set]

theorem marked_foldl_put (outermost m : Bool) (f : Frame) (es : List Element) :
    (es.foldl (put outermost) f).marked m = es.foldl (put outermost) (f.marked m) := by
  induction es generalizing f with
  | nil => rfl
  | cons e es ih => rw [List.foldl_cons, List.foldl_cons, ih, marked_put]

theorem marked_marked (f : Frame) (m k : Bool) : (f.marked m).marked k = f.marked (m || k) := by
  unfold marked
  by_cases h : f.element.tag = "li"
  · cases m <;> cases k <;> simp [h, Element.set, Properties.set_set]
  · simp [h]

theorem foldl_put_same (outermost : Bool) (f : Frame) (es : List Element) :
    (es.foldl (put outermost) f).element.tag = f.element.tag ∧
      (es.foldl (put outermost) f).kind = f.kind := by
  induction es generalizing f with
  | nil => exact ⟨rfl, rfl⟩
  | cons e es ih =>
    have hput : (f.put outermost e).element.tag = f.element.tag ∧
        (f.put outermost e).kind = f.kind := by
      unfold put
      split <;> exact ⟨rfl, rfl⟩
    rw [← hput.1, ← hput.2]
    exact ih _

theorem marked_same (f : Frame) (m : Bool) :
    (f.marked m).element.tag = f.element.tag ∧ (f.marked m).kind = f.kind ∧
      (f.marked m).element.children = f.element.children := by
  unfold marked
  split <;> exact ⟨rfl, rfl, rfl⟩

theorem foldl_put_inside (f : Frame) (es : List Element)
    (h : ∀ s, f.element.children.getLast? ≠ some (.text s)) :
    es.foldl (put false) f =
      { f with
        element.children := f.element.children ++ es.flatMap fun e => [.text "\n", e.toNode]
        hasBlocks := f.hasBlocks || !es.isEmpty } := by
  induction es generalizing f with
  | nil => simp
  | cons e es ih =>
    rw [List.foldl_cons, ih]
    · simp [put, pushText_newLine h]
    · simp [put, Element.toNode]

theorem closed_foldl_put (e : Element) (he : e.children = []) (es : List Element) :
    (es.foldl (put false) ⟨e, .element, false⟩).closed = ⟨e.tag, e.properties, lines es⟩ := by
  rw [foldl_put_inside _ _ (by simp [he])]
  rcases List.eq_nil_or_concat es with rfl | ⟨init, l, rfl⟩
  · simp [closed, lines, he]
  · have hlast : ∀ s, ((init ++ [l]).flatMap fun e => [Node.text "\n", e.toNode]).getLast? ≠
        some (.text s) := by simp [Element.toNode]
    simpa [closed, lines, he] using pushText_newLine hlast

end Frame

namespace Builder

/-- The builder with new blocks in the innermost element, after which `memory` is remembered. The
nearest list item is marked as a task, if `m`. -/
def receive (b : Builder) (m : Bool) (memory : Memory) (blocks : List Element) : Builder :=
  { b.marked m with
    top := blocks.foldl (Frame.put b.below.isEmpty) (b.marked m).top
    inHtmlBlock := memory.inHtmlBlock
    footnotes := memory.footnotes }

theorem below_marked_isEmpty (b : Builder) (m : Bool) :
    (b.marked m).below.isEmpty = b.below.isEmpty := by
  unfold marked
  dsimp only
  split
  · cases b.below with
    | nil => rfl
    | cons f fs =>
      rw [markTask_cons]
      split <;> rfl
  · rfl

theorem receive_same (b : Builder) (m : Bool) (memory : Memory) (es : List Element) :
    (b.receive m memory es).top.element.tag = b.top.element.tag ∧
      (b.receive m memory es).top.kind = b.top.kind := by
  obtain ⟨htag, hkind⟩ := Frame.foldl_put_same b.below.isEmpty (b.top.marked m) es
  obtain ⟨htag', hkind', -⟩ := Frame.marked_same b.top m
  exact ⟨htag.trans htag', hkind.trans hkind'⟩

theorem receive_nothing (b : Builder) : b.receive false b.memory [] = b := by
  simp [receive, marked, Frame.marked, memory]

theorem receive_receive (b : Builder) (m k : Bool) (memory memory' : Memory)
    (es es' : List Element) :
    (b.receive m memory es).receive k memory' es' = b.receive (m || k) memory' (es ++ es') := by
  obtain ⟨htag, -⟩ := receive_same b m memory es
  refine eq_of_parts ?_ ?_ rfl rfl
  · show es'.foldl (Frame.put (b.marked m).below.isEmpty)
      ((es.foldl (Frame.put b.below.isEmpty) (b.top.marked m)).marked k) =
        (es ++ es').foldl (Frame.put b.below.isEmpty) (b.top.marked (m || k))
    rw [below_marked_isEmpty, Frame.marked_foldl_put, Frame.marked_marked, List.foldl_append]
  · show (if k ∧ (b.receive m memory es).top.element.tag ≠ "li" then
      markTask (b.marked m).below else (b.marked m).below) = (b.marked (m || k)).below
    rw [htag]
    by_cases hli : b.top.element.tag = "li"
    · simp [marked, hli]
    · cases m <;> cases k <;> simp [marked, hli, markTask_markTask]

theorem append_eq_put {e : Element} (h : isBlockTag e.tag = true) (b : Builder) :
    b.append e.toNode = { b with top := b.top.put b.below.isEmpty e } := by
  rw [Element.toNode, append_element, if_pos h, breakLine]
  cases hb : b.below.isEmpty with
  | false => rfl
  | true =>
    cases hc : b.top.element.children.isEmpty with
    | false => simp [Frame.put, hc, mapChildren, pushText, Element.toNode]
    | true =>
      have hnil := List.isEmpty_iff.mp hc
      simp [Frame.put, hnil, mapChildren, Element.toNode]

theorem children_receive {e : Element} (h : isBlockTag e.tag = true) {b c : Builder}
    (ht : c.top = b.top) (hb : c.below = b.below) (m : Bool) (memory : Memory) :
    (c.receive m memory [e]).top.element.children =
      b.breakLine.top.element.children ++ [e.toNode] := by
  have hput : (c.receive m memory [e]).top = (b.append e.toNode).top.marked m := by
    rw [append_eq_put h, Frame.marked_put, ← ht, ← hb]
    rfl
  rw [hput, (Frame.marked_same _ m).2.2, Element.toNode, append_element, if_pos h]
  rfl

theorem append_block {e : Element} (h : isBlockTag e.tag = true) (b : Builder) (m : Bool)
    (memory : Memory) :
    ((b.marked m).remember memory).append e.toNode = b.receive m memory [e] := by
  rw [append_eq_put h]
  simp only [remember, below_marked_isEmpty]
  rfl

theorem grown_receive {e : Element} (h : isBlockTag e.tag = true) (b : Builder) (m : Bool)
    (memory : Memory) : Grown e.toNode.outline m b (b.receive m memory [e]) := by
  have hmarked : Grown [] m b ((b.marked m).remember memory) :=
    (grown_marked b m).congr rfl rfl rfl rfl
  rw [← append_block h]
  simpa using hmarked.trans (grown_append _ rfl)

theorem close_receive {e : Element} (h : isBlockTag e.tag = true) (he : e.children = [])
    (hli : e.tag ≠ "li") (b : Builder) (m : Bool) (memory : Memory) (es : List Element) :
    ((b.openElement e).receive m memory es).close =
      b.receive m memory [⟨e.tag, e.properties, lines es⟩] := by
  have hbelow : ((b.openElement e).receive m memory es).below =
      (b.marked m).top :: (b.marked m).below := by
    rw [marked_frames]
    simp [receive, marked, openElement, openFrame, hli]
  have htop : ((b.openElement e).receive m memory es).top =
      es.foldl (Frame.put false) ⟨e, .element, false⟩ := by
    simp [receive, marked, openElement, openFrame, Frame.marked, hli]
  rw [close_of_below hbelow, htop, Frame.closed_foldl_put e he]
  exact append_block (e := ⟨e.tag, e.properties, lines es⟩) h b m memory

end Builder

/-- The events of a table, by its columns, the cells of its head and those of its rows. -/
structure Grid where
  alignments : List Markdown.Alignment
  head : List Nest
  rows : List (List Nest)

namespace Grid

def cellEvents (n : Nest) : List Event :=
  .enter .tableCell :: n.events ++ [.leave .tableCell]

def rowEvents (row : List Nest) : List Event :=
  .enter .tableRow :: row.flatMap cellEvents ++ [.leave .tableRow]

def headEvents (row : List Nest) : List Event :=
  .enter .tableHead :: row.flatMap cellEvents ++ [.leave .tableHead]

def events (t : Grid) : List Event :=
  .enter (.table t.alignments) :: headEvents t.head ++ t.rows.flatMap rowEvents ++ [.leave .table]

/-- All cells in the order of their events. -/
def allCells (t : Grid) : List Nest :=
  t.head ++ t.rows.flatten

/-- What is remembered behind some cells. -/
def afterCells (memory : Memory) (cells : List Nest) : Memory :=
  cells.foldl (fun memory n => n.after memory) memory

/-- The cells of a row, each aligned as its column says. There may be more columns or fewer. -/
def cellElements (tag : String) (alignments : List Markdown.Alignment) (memory : Memory)
    (row : List Nest) : List Element :=
  row.mapIdx fun i n =>
    ⟨tag, Builder.alignAttribute alignments[i]?, n.content (afterCells memory (row.take i))⟩

def rowElement (tag : String) (alignments : List Markdown.Alignment) (memory : Memory)
    (row : List Nest) : Element :=
  ⟨"tr", {}, lines (cellElements tag alignments memory row)⟩

def rowElements (alignments : List Markdown.Alignment) (memory : Memory) (rows : List (List Nest)) :
    List Element :=
  rows.mapIdx fun i r => rowElement "td" alignments (afterCells memory (rows.take i).flatten) r

def bodyElements (alignments : List Markdown.Alignment) (memory : Memory)
    (rows : List (List Nest)) : List Element :=
  if rows.isEmpty then [] else [⟨"tbody", {}, lines (rowElements alignments memory rows)⟩]

def headElement (alignments : List Markdown.Alignment) (memory : Memory) (head : List Nest) :
    Element :=
  ⟨"thead", {}, lines [rowElement "th" alignments memory head]⟩

/-- A head with one row, and a body if there are more rows. -/
def parts (alignments : List Markdown.Alignment) (memory : Memory) (head : List Nest)
    (rows : List (List Nest)) : List Element :=
  headElement alignments memory head :: bodyElements alignments (afterCells memory head) rows

def element (t : Grid) (memory : Memory) : Element :=
  ⟨"table", {}, lines (parts t.alignments memory t.head t.rows)⟩

/-- How many cells the row has that was begun last, if `n` is their number in the row before. -/
def lastLength (n : Nat) (rows : List (List Nest)) : Nat :=
  rows.foldl (fun _ cs => cs.length) n

open Builder Nest

variable {b : Builder}

theorem foldl_cellEvents (n : Nest) (b : Builder) :
    (cellEvents n).foldl push b = n.buildSpan .tableCell b := by
  simp [cellEvents, buildSpan, build, Tag.kind]

theorem close_build_block {n : Nest} (hf : n.fits .cell = true) (b : Builder) {e : Element}
    (h : isBlockTag e.tag = true) (he : e.children = []) (hli : e.tag ≠ "li") :
    (n.build (b.openElement e)).close =
      b.receive n.marks (n.after b.memory) [⟨e.tag, e.properties, n.content b.memory⟩] :=
  (close_build_openElement hf b he hli).trans
    (append_block (e := ⟨e.tag, e.properties, n.content b.memory⟩) h b _ _)

theorem build_cell {n : Nest} (hf : n.fits .cell = true) (hb : b.top.kind = .element) :
    n.buildSpan .tableCell b =
      receive { b with cellIndex := b.cellIndex + 1 } n.marks (n.after b.memory)
        [⟨if b.inTableHead then "th" else "td", alignAttribute b.alignments[b.cellIndex]?,
          n.content b.memory⟩] := by
  have hblock : isBlockTag b.cellElement.tag = true ∧ b.cellElement.children = [] ∧
      b.cellElement.tag ≠ "li" := by
    rw [cellElement_eq]
    dsimp only
    split <;> decide
  obtain ⟨h, he, hli⟩ := hblock
  have hclose := close_build_block hf { b with cellIndex := b.cellIndex + 1 } h he hli
  rw [buildSpan_of_element hb (kind_build hf rfl)]
  refine hclose.trans ?_
  rw [cellElement_eq]
  rfl

theorem cellElements_cons (tag : String) (alignments : List Markdown.Alignment) (memory : Memory)
    (n : Nest) (row : List Nest) :
    cellElements tag alignments memory (n :: row) =
      ⟨tag, alignAttribute alignments[0]?, n.content memory⟩ ::
        cellElements tag (alignments.drop 1) (n.after memory) row := by
  simp [cellElements, List.mapIdx_cons, afterCells]

theorem build_cells {row : List Nest} (hf : ∀ n ∈ row, n.fits .cell = true)
    (hb : b.top.kind = .element) :
    (row.flatMap cellEvents).foldl push b =
      receive { b with cellIndex := b.cellIndex + row.length } (row.any Nest.marks)
        (afterCells b.memory row)
        (cellElements (if b.inTableHead then "th" else "td") (b.alignments.drop b.cellIndex)
          b.memory row) := by
  -- By induction on the row; the index runs along the columns, also beyond the last one.
  induction row generalizing b with
  | nil => exact (receive_nothing b).symm
  | cons n row ih =>
    obtain ⟨hn, hrow⟩ := List.forall_mem_cons.mp hf
    have hkind := (receive_same { b with cellIndex := b.cellIndex + 1 } n.marks (n.after b.memory)
      [⟨if b.inTableHead then "th" else "td", alignAttribute b.alignments[b.cellIndex]?,
          n.content b.memory⟩]).2.trans hb
    rw [List.flatMap_cons, List.foldl_append, foldl_cellEvents, build_cell hn hb, ih hrow hkind,
      cellElements_cons]
    refine (receive_receive { b with cellIndex := b.cellIndex + 1 + row.length } ..).trans ?_
    simp only [List.getElem?_drop, List.drop_drop, List.length_cons, List.any_cons]
    rw [Nat.add_assoc, Nat.add_comm 1]
    rfl

theorem build_openRow {row : List Nest} (hf : ∀ n ∈ row, n.fits .cell = true) (b : Builder) :
    (row.flatMap cellEvents).foldl push (openElement { b with cellIndex := 0 } ⟨"tr", {}, []⟩) =
      receive (openElement { b with cellIndex := row.length } ⟨"tr", {}, []⟩)
        (row.any Nest.marks) (afterCells b.memory row)
        (cellElements (if b.inTableHead then "th" else "td") b.alignments b.memory row) := by
  have hcells := build_cells (b := openElement { b with cellIndex := 0 } ⟨"tr", {}, []⟩) hf rfl
  rw [hcells]
  simp only [openElement, openFrame, Nat.zero_add, List.drop_zero]
  rfl

theorem build_row {cs : List Nest} (hf : ∀ n ∈ cs, n.fits .cell = true)
    (hb : b.top.kind = .element) (hbody : b.tableBodyOpen = true) (hhead : b.inTableHead = false) :
    (rowEvents cs).foldl push b =
      receive { b with cellIndex := cs.length } (cs.any Nest.marks) (afterCells b.memory cs)
        [rowElement "td" b.alignments b.memory cs] := by
  have henter : b.push (.enter .tableRow) =
      openElement { b with cellIndex := 0 } ⟨"tr", {}, []⟩ := by
    rw [push_of_element hb, pushElementEvent, enter, openRow, if_pos hbody]
  have hcells : cellElements (if b.inTableHead then "th" else "td") b.alignments b.memory cs =
      cellElements "td" b.alignments b.memory cs := by rw [hhead]; rfl
  rw [rowEvents, List.cons_append, List.foldl_cons, List.foldl_append, henter, build_openRow hf,
    hcells]
  refine (push_of_element (receive_same ..).2 _).trans ?_
  exact close_receive (e := ⟨"tr", {}, []⟩) (by decide) rfl (by decide)
    { b with cellIndex := cs.length } _ _ _

theorem build_head {cs : List Nest} (hf : ∀ n ∈ cs, n.fits .cell = true)
    (hb : b.top.kind = .element) :
    (headEvents cs).foldl push b =
      receive { b with cellIndex := cs.length, inTableHead := false } (cs.any Nest.marks)
        (afterCells b.memory cs) [headElement b.alignments b.memory cs] := by
  have henter : b.push (.enter .tableHead) =
      openElement { openHead b with cellIndex := 0 } ⟨"tr", {}, []⟩ :=
    push_of_element hb _
  rw [headEvents, List.cons_append, List.foldl_cons, List.foldl_append, henter, build_openRow hf]
  refine (push_of_element (receive_same ..).2 _).trans ?_
  have hrow := close_receive (e := ⟨"tr", {}, []⟩) (by decide) rfl (by decide)
    { openHead b with cellIndex := cs.length, inTableHead := false } (cs.any Nest.marks)
    (afterCells b.memory cs) (cellElements "th" b.alignments b.memory cs)
  have hthead := close_receive (e := ⟨"thead", {}, []⟩) (by decide) rfl (by decide)
    { b with cellIndex := cs.length, inTableHead := false } (cs.any Nest.marks)
    (afterCells b.memory cs) [rowElement "th" b.alignments b.memory cs]
  exact (congrArg close hrow).trans hthead

theorem afterCells_append (memory : Memory) (cs ds : List Nest) :
    afterCells memory (cs ++ ds) = afterCells (afterCells memory cs) ds :=
  List.foldl_append

theorem rowElements_cons (alignments : List Markdown.Alignment) (memory : Memory) (cs : List Nest)
    (rows : List (List Nest)) :
    rowElements alignments memory (cs :: rows) = rowElement "td" alignments memory cs ::
      rowElements alignments (afterCells memory cs) rows := by
  simp [rowElements, List.mapIdx_cons, afterCells]

theorem build_rows {rows : List (List Nest)} (hf : ∀ n ∈ rows.flatten, n.fits .cell = true)
    (hb : b.top.kind = .element) (hbody : b.tableBodyOpen = true) (hhead : b.inTableHead = false) :
    (rows.flatMap rowEvents).foldl push b =
      receive { b with cellIndex := lastLength b.cellIndex rows }
        (rows.flatten.any Nest.marks) (afterCells b.memory rows.flatten)
        (rowElements b.alignments b.memory rows) := by
  induction rows generalizing b with
  | nil => exact (receive_nothing b).symm
  | cons cs rows ih =>
    rw [List.flatten_cons, List.forall_mem_append] at hf
    have hkind := (receive_same { b with cellIndex := cs.length } (cs.any Nest.marks)
      (afterCells b.memory cs) [rowElement "td" b.alignments b.memory cs]).2.trans hb
    rw [List.flatMap_cons, List.foldl_append, build_row hf.1 hb hbody hhead,
      ih hf.2 hkind hbody hhead, rowElements_cons]
    refine (receive_receive { b with cellIndex := lastLength cs.length rows } ..).trans ?_
    rw [List.flatten_cons, List.any_append, afterCells_append]
    rfl

/-- The first row opens the body, and the end of the table closes it. -/
theorem build_body {rows : List (List Nest)} (hf : ∀ n ∈ rows.flatten, n.fits .cell = true)
    (hb : b.top.kind = .element) (hbody : b.tableBodyOpen = false) (hhead : b.inTableHead = false) :
    ((rows.flatMap rowEvents).foldl push b).top.kind = .element ∧
    endBody ((rows.flatMap rowEvents).foldl push b) =
      receive
        { b with
          cellIndex := lastLength b.cellIndex rows
          tableBodyOpen := false }
        (rows.flatten.any Nest.marks) (afterCells b.memory rows.flatten)
        (bodyElements b.alignments b.memory rows) := by
  cases rows with
  | nil =>
    refine ⟨hb, ?_⟩
    have hend : endBody b = b := if_neg (by simp [hbody])
    refine hend.trans ?_
    rw [← hbody]
    exact (receive_nothing b).symm
  | cons cs rows =>
    have hsame : ((cs :: rows).flatMap rowEvents).foldl push b =
        ((cs :: rows).flatMap rowEvents).foldl push (openBody b) := by
      rw [List.flatMap_cons, rowEvents, List.cons_append, List.cons_append, List.foldl_cons,
        List.foldl_cons, push_tableRow hb hbody]
    -- From here on the body is open, so each row is put into it.
    rw [hsame, build_rows (b := openBody b) hf rfl rfl hhead]
    refine ⟨(receive_same ..).2, ?_⟩
    exact close_receive (e := ⟨"tbody", {}, []⟩) (by decide) rfl (by decide)
      { b with
        cellIndex := lastLength b.cellIndex (cs :: rows)
        tableBodyOpen := false } _ _ _

theorem build_parts {head : List Nest} {rows : List (List Nest)}
    (hh : ∀ n ∈ head, n.fits .cell = true) (hr : ∀ n ∈ rows.flatten, n.fits .cell = true)
    (hb : b.top.kind = .element) (hbody : b.tableBodyOpen = false) :
    ((headEvents head ++ rows.flatMap rowEvents).foldl push b).top.kind = .element ∧
    endBody ((headEvents head ++ rows.flatMap rowEvents).foldl push b) =
      receive
        { b with
          cellIndex := lastLength head.length rows
          inTableHead := false
          tableBodyOpen := false }
        ((head ++ rows.flatten).any Nest.marks) (afterCells b.memory (head ++ rows.flatten))
        (parts b.alignments b.memory head rows) := by
  rw [List.foldl_append, build_head hh hb]
  obtain ⟨hkind, hend⟩ := build_body (b := receive { b with
      cellIndex := head.length, inTableHead := false } (head.any Nest.marks)
    (afterCells b.memory head) [headElement b.alignments b.memory head])
    hr ((receive_same ..).2.trans hb) hbody rfl
  refine ⟨hkind, hend.trans ?_⟩
  refine (receive_receive { b with
    cellIndex := lastLength head.length rows
    inTableHead := false
    tableBodyOpen := false } ..).trans ?_
  rw [List.any_append, afterCells_append]
  rfl

/-- The builder behind a table: all that is left of it is the number of cells in its last row. -/
def outOfTable (b : Builder) (t : Grid) : Builder :=
  { b with
    alignments := []
    cellIndex := lastLength t.head.length t.rows
    inTableHead := false
    tableBodyOpen := false }

theorem build_events {t : Grid} (ht : ∀ n ∈ t.allCells, n.fits .cell = true)
    (hb : b.top.kind = .element) :
    t.events.foldl push b =
      receive (outOfTable b t) (t.allCells.any Nest.marks) (afterCells b.memory t.allCells)
        [t.element b.memory] := by
  obtain ⟨hh, hr⟩ := List.forall_mem_append.mp ht
  have henter : b.push (.enter (.table t.alignments)) =
      openElement { b with alignments := t.alignments, tableBodyOpen := false }
        ⟨"table", {}, []⟩ := push_of_element hb _
  obtain ⟨hkind, hend⟩ := build_parts hh hr (b := openElement { b with
    alignments := t.alignments, tableBodyOpen := false } ⟨"table", {}, []⟩) rfl rfl
  rw [events, List.cons_append, List.cons_append, List.foldl_cons, List.foldl_append, henter]
  refine (push_of_element hkind _).trans ?_
  show close { endBody _ with alignments := [] } = _
  rw [hend]
  exact close_receive (e := ⟨"table", {}, []⟩) (by decide) rfl (by decide) (outOfTable b t) _ _ _

/-- The events of a table add one table to the innermost element, with all its cells where they
stand and what the cells hold. They change nothing else but the state of tables, which is clean
behind the table and makes no difference in front of it. -/
theorem events_add_table {t : Grid} (ht : ∀ n ∈ t.allCells, n.fits .cell = true)
    (hb : b.top.kind = .element) :
    (t.events.foldl push b).top.element.children =
      b.breakLine.top.element.children ++ [(t.element b.memory).toNode] ∧
    (∀ n ∈ t.allCells, ∀ memory, Folio.outline (n.content memory) = n.outline false) ∧
    Grown (t.element b.memory).toNode.outline (t.allCells.any Nest.marks) b
      (t.events.foldl push b) ∧
    (t.events.foldl push b).memory = afterCells b.memory t.allCells ∧
    ((t.events.foldl push b).alignments = [] ∧ (t.events.foldl push b).inTableHead = false ∧
      (t.events.foldl push b).tableBodyOpen = false) ∧
    ∀ c : Builder, c.top = b.top → c.below = b.below → c.memory = b.memory →
      t.events.foldl push c = t.events.foldl push b := by
  have hblock : isBlockTag (t.element b.memory).tag = true :=
    (by decide : isBlockTag "table" = true)
  rw [build_events ht hb]
  refine ⟨?_, fun n hn => outline_content (ht n hn), ?_, rfl, ⟨rfl, rfl, rfl⟩, ?_⟩
  · exact children_receive hblock (b := b) (c := outOfTable b t) rfl rfl _
      (afterCells b.memory t.allCells)
  · exact (grown_receive hblock (outOfTable b t) _ _).congr rfl rfl rfl rfl
  · intro c htop hbelow hmemory
    have hsame : outOfTable c t = outOfTable b t := eq_of_parts htop hbelow hmemory rfl
    rw [build_events ht (htop ▸ hb), hmemory, hsame]

/-- A row that is longer than the list of columns, and one that is shorter. -/
def raggedGrid : Grid where
  alignments := [.left, .unset]
  head := [.event (.text "a") .done]
  rows := [[.span .emphasis (.event (.text "b") .done) .done, .done,
    .span (.image "c" "") (.event (.code "d") .done) .done], []]

/-- A builder behind a paragraph of a list item that still believes to be in a table. -/
def staleBuilder : Builder :=
  { openElement {} ⟨"li", {}, [.element "p" {} []]⟩ with
    alignments := [.center], cellIndex := 5, inTableHead := true, tableBodyOpen := true }

theorem events_add_raggedGrid :
    (∀ n ∈ raggedGrid.allCells, n.fits .cell = true) ∧ staleBuilder.top.kind = .element ∧
    (raggedGrid.events.foldl push staleBuilder).top.element.children =
      [.element "p" {} [], .text "\n",
        .element "table" {} (lines [
          ⟨"thead", {}, lines [
            ⟨"tr", {}, lines [⟨"th", ⟨[("align", .text "left")]⟩, [.text "a"]⟩]⟩]⟩,
          ⟨"tbody", {}, lines [
            ⟨"tr", {}, lines [
              ⟨"td", ⟨[("align", .text "left")]⟩, [.element "em" {} [.text "b"]]⟩,
              ⟨"td", {}, []⟩,
              ⟨"td", {}, [.element "img" ⟨[("src", .text "c"), ("alt", .text "d")]⟩ []]⟩]⟩,
            ⟨"tr", {}, []⟩]⟩])] ∧
    (raggedGrid.events.foldl push staleBuilder).alignments = [] ∧
    raggedGrid.events.foldl push { staleBuilder with alignments := [.left], cellIndex := 0 } =
      raggedGrid.events.foldl push staleBuilder := by
  have hf : ∀ n ∈ raggedGrid.allCells, n.fits .cell = true := by decide
  have hb : staleBuilder.top.kind = .element := rfl
  obtain ⟨hchildren, -, -, -, hstate, hlater⟩ := events_add_table hf hb
  exact ⟨hf, hb, hchildren, hstate.1, hlater _ rfl rfl rfl⟩

end Grid

end Folio
