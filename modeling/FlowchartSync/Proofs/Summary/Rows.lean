import FlowchartSync.Proofs.Session.WellFormed
import FlowchartSync.Summary

/-!
# Lines of a summary

A summary is written as rows that begin with the ids of the nodes and the keys of the edges, in
their order (`isSummary_lines`), and trimming takes nothing away from them (`text_eq_joinLines`).
All line feeds in the rows are those of the labels (`sum_count_lines`).  So the summary has one line
for each element just when no label that it shows is of several lines, and each line feed of a label
makes it one line longer (`length_splitLines_text_and_isSummary_iff`).
-/

namespace FlowchartSync

open Text

theorem feed_not_mem_toDigits
    (n : Nat) :
    '\n' ∉ Nat.toDigits 10 n := by
  intro hmem
  have hdigit := Nat.isDigit_of_mem_toDigits (by decide) (by decide) hmem
  cases hdigit

theorem feed_not_mem_wholeText
    (x : Float) :
    '\n' ∉ (Number.wholeText x).toList := by
  unfold Number.wholeText
  split
  · decide
  · split_ifs <;> decide
  · rename_i negative mantissa exponent _
    rw [String.toList_append, List.mem_append, not_or, Nat.toString_eq_ofList_toDigits,
      String.toList_ofList]
    refine ⟨?_, feed_not_mem_toDigits _⟩
    split_ifs <;> decide

namespace Summary

section Rows

theorem feed_not_mem_positionCell
    (position : Point) :
    '\n' ∉ positionCell position := by
  simp [positionCell, feed_not_mem_wholeText]

/-- Cells in columns of given widths and a last cell, with gaps between them. -/
def row (columns : List (Nat × List Char)) (last : List Char) : List Char :=
  columns.flatMap (fun column => padTo column.1 column.2 ++ gap) ++ last

theorem count_padTo
    (width : Nat) (cell : List Char) :
    (padTo width cell).count '\n' = cell.count '\n' := by
  simp [padTo, List.count_replicate]

theorem count_row
    (columns : List (Nat × List Char)) (last : List Char) :
    (row columns last).count '\n' =
      (columns.map fun column => column.2.count '\n').sum + last.count '\n' := by
  have hgap : gap.count '\n' = 0 := by decide
  induction columns with
  | nil =>
      simp [row]
  | cons column columns ih =>
      simp only [row, List.flatMap_cons, List.append_assoc, List.count_append] at ih ⊢
      rw [ih, count_padTo, hgap, List.map_cons, List.sum_cons]
      omega

theorem row_append
    (columns : List (Nat × List Char)) (last : List Char) :
    row columns last = row columns [] ++ last := by
  simp [row]

/-- A cell has room for a gap behind it before anything else follows. -/
theorem prefix_padTo_append
    (width : Nat) (cell rest : List Char) :
    cell ++ gap <+: padTo width cell ++ (gap ++ rest) := by
  have hspaces : ∀ n, List.replicate n ' ' ++ gap = gap ++ List.replicate n ' ' := by
    intro n
    change List.replicate n ' ' ++ List.replicate 2 ' ' = List.replicate 2 ' ' ++ _
    rw [List.replicate_append_replicate, List.replicate_append_replicate, Nat.add_comm]
  refine ⟨List.replicate (width - displayWidth cell) ' ' ++ rest, ?_⟩
  rw [padTo, List.append_assoc, List.append_assoc, ← List.append_assoc gap, ← hspaces,
    List.append_assoc]

/-- A row begins with its first cell and a gap. -/
theorem prefix_row
    (width : Nat) (cell : List Char)
    (columns : List (Nat × List Char)) (last : List Char) :
    cell ++ gap <+: row ((width, cell) :: columns) last := by
  have hrow : row ((width, cell) :: columns) last =
      padTo width cell ++ (gap ++ row columns last) := by
    simp [row]
  rw [hrow]
  exact prefix_padTo_append width cell _

/-- Whether a row ends in a character that is no white space. -/
def EndsInInk (row : List Char) : Prop :=
  ∃ c, row.getLast? = some c ∧ isBlank c = false

theorem EndsInInk.last
    {row : List Char}
    (h : EndsInInk row) :
    ∀ c ∈ row.getLast?, isBlank c = false := by
  obtain ⟨d, hlast, hd⟩ := h
  intro c hc
  rw [hlast] at hc
  cases hc
  exact hd

theorem endsInInk_append
    {last : List Char}
    (h : EndsInInk last)
    (front : List Char) :
    EndsInInk (front ++ last) := by
  obtain ⟨c, hlast, hc⟩ := h
  exact ⟨c, by rw [List.getLast?_append, hlast, Option.some_or], hc⟩

theorem endsInInk_trimEnd
    {text : List Char}
    (h : trimEnd text ≠ []) :
    EndsInInk (trimEnd text) := by
  obtain ⟨c, hlast⟩ := Option.isSome_iff_exists.mp (List.getLast?_isSome.mpr h)
  exact ⟨c, hlast, getLast?_trimEnd text c hlast⟩

end Rows

section Tables

/-- Rows that list some names under a title: each of them begins with its own, and a gap follows. -/
def IsListing (title : List Char) (names rows : List (List Char)) : Prop :=
  List.Forall₂ (fun name row => name ++ gap <+: row) (title :: names) rows

theorem isListing_map
    {α : Type} {title heading : List Char} {name row : α → List Char} {items : List α}
    (hheading : title ++ gap <+: heading)
    (hrow : ∀ item ∈ items, name item ++ gap <+: row item) :
    IsListing title (items.map name) (heading :: items.map row) := by
  refine .cons hheading ?_
  rw [List.forall₂_map_left_iff, List.forall₂_map_right_iff, List.forall₂_same]
  exact hrow

theorem exists_nodeTable_eq
    (nodes : List LiveNode) :
    ∃ idWidth labelWidth shapeWidth,
      nodeTable nodes =
        row [(idWidth, "ID".toList), (labelWidth, "LABEL".toList), (shapeWidth, "SHAPE".toList)]
            "POSITION".toList ::
          nodes.map fun node =>
            row [(idWidth, node.id.toList), (labelWidth, labelCell node.shownLabel),
              (shapeWidth, node.shape.name.toList)] (positionCell node.position) := by
  refine ⟨widthUnder "ID".toList (nodes.map fun node => node.id.toList),
    widthUnder "LABEL".toList (nodes.map fun node => labelCell node.shownLabel),
    widthUnder "SHAPE".toList (nodes.map fun node => node.shape.name.toList), ?_⟩
  simp [nodeTable, row]

theorem exists_edgeTable_eq
    (edges : List LiveEdge) :
    ∃ keyWidth styleWidth,
      edgeTable edges =
        row [(keyWidth, "EDGE".toList), (styleWidth, "STYLE".toList)] "LABEL".toList ::
          edges.map fun edge =>
            trimEnd (row [(keyWidth, edge.key.toList), (styleWidth, edge.style.name.toList)]
              (labelCell edge.label)) := by
  refine ⟨widthUnder "EDGE".toList (edges.map fun edge => edge.key.toList),
    widthUnder "STYLE".toList (edges.map fun edge => edge.style.name.toList), ?_⟩
  simp [edgeTable, row]

/-- The table of some nodes lists their ids, and none of its rows ends in white space. -/
theorem nodeTable_spec
    (nodes : List LiveNode) :
    IsListing "ID".toList (nodes.map fun node => node.id.toList) (nodeTable nodes) ∧
    ∀ row ∈ nodeTable nodes, EndsInInk row := by
  obtain ⟨idWidth, labelWidth, shapeWidth, htable⟩ := exists_nodeTable_eq nodes
  rw [htable]
  refine ⟨isListing_map (prefix_row _ _ _ _) fun _ _ => prefix_row _ _ _ _, ?_⟩
  rw [List.forall_mem_cons, List.forall_mem_map]
  constructor
  · rw [row_append]
    exact endsInInk_append ⟨'N', rfl, rfl⟩ _
  · intro node _
    rw [row_append, positionCell, String.toList_append]
    exact endsInInk_append (endsInInk_append ⟨')', rfl, rfl⟩ _) _

/-- The line feeds in the table of some nodes with proper ids are those of their labels. -/
theorem sum_count_nodeTable
    {nodes : List LiveNode}
    (h : ∀ node ∈ nodes, '\n' ∉ node.id.toList) :
    ((nodeTable nodes).map (List.count '\n')).sum =
      (nodes.map fun node => (labelCell node.shownLabel).count '\n').sum := by
  obtain ⟨idWidth, labelWidth, shapeWidth, htable⟩ := exists_nodeTable_eq nodes
  rw [htable, List.map_cons, List.sum_cons, List.map_map, count_row]
  have hheading : ([(idWidth, "ID".toList), (labelWidth, "LABEL".toList),
      (shapeWidth, "SHAPE".toList)].map fun column => column.2.count '\n').sum +
        "POSITION".toList.count '\n' = 0 := by
    rfl
  rw [hheading, Nat.zero_add]
  congr 1
  apply List.map_congr_left
  intro node hnode
  have hshape : '\n' ∉ node.shape.name.toList := by
    cases node.shape <;> decide
  simp [count_row, List.count_eq_zero.mpr (h node hnode), List.count_eq_zero.mpr hshape,
    List.count_eq_zero.mpr (feed_not_mem_positionCell node.position)]

theorem edgeTable_spec
    (edges : List LiveEdge) :
    IsListing "EDGE".toList (edges.map fun edge => edge.key.toList) (edgeTable edges) ∧
    ∀ row ∈ edgeTable edges, EndsInInk row := by
  obtain ⟨keyWidth, styleWidth, htable⟩ := exists_edgeTable_eq edges
  have hprefix : ∀ edge ∈ edges, edge.key.toList ++ gap <+:
      trimEnd (row [(keyWidth, edge.key.toList), (styleWidth, edge.style.name.toList)]
        (labelCell edge.label)) := by
    intro edge _
    -- The name of the style ends in a letter, so that trimming reaches no further than it.
    have hstyle : EndsInInk edge.style.name.toList := by
      cases edge.style <;> exact ⟨_, rfl, by decide⟩
    have hrow :
        row [(keyWidth, edge.key.toList), (styleWidth, edge.style.name.toList)]
            (labelCell edge.label) =
          padTo keyWidth edge.key.toList ++ (gap ++ edge.style.name.toList) ++
            (List.replicate (styleWidth - displayWidth edge.style.name.toList) ' ' ++
              (gap ++ labelCell edge.label)) := by
      simp [row, padTo]
    rw [hrow]
    exact (prefix_padTo_append _ _ _).trans
      (prefix_trimEnd_append (endsInInk_append (endsInInk_append hstyle _) _).last _)
  have hne : ∀ edge ∈ edges,
      trimEnd (row [(keyWidth, edge.key.toList), (styleWidth, edge.style.name.toList)]
        (labelCell edge.label)) ≠ [] := by
    intro edge hedge hnil
    have h := hprefix edge hedge
    rw [hnil, List.prefix_nil] at h
    simp [gap] at h
  rw [htable]
  refine ⟨isListing_map (prefix_row _ _ _ _) hprefix, ?_⟩
  rw [List.forall_mem_cons, List.forall_mem_map]
  constructor
  · rw [row_append]
    exact endsInInk_append ⟨'L', rfl, rfl⟩ _
  · exact fun edge hedge => endsInInk_trimEnd (hne edge hedge)

/-- The line feeds in the table of some edges with proper keys are those of their trimmed labels. -/
theorem sum_count_edgeTable
    {edges : List LiveEdge}
    (h : ∀ edge ∈ edges, '\n' ∉ edge.key.toList) :
    ((edgeTable edges).map (List.count '\n')).sum =
      (edges.map fun edge => (trimEnd (labelCell edge.label)).count '\n').sum := by
  obtain ⟨keyWidth, styleWidth, htable⟩ := exists_edgeTable_eq edges
  have hheading : (row [(keyWidth, "EDGE".toList), (styleWidth, "STYLE".toList)]
      "LABEL".toList).count '\n' = 0 := by
    rw [count_row]
    rfl
  rw [htable, List.map_cons, List.sum_cons, hheading, Nat.zero_add, List.map_map]
  congr 1
  apply List.map_congr_left
  intro edge hedge
  have hstyle : '\n' ∉ edge.style.name.toList := by
    cases edge.style <;> decide
  have hfront :
      '\n' ∉ row [(keyWidth, edge.key.toList), (styleWidth, edge.style.name.toList)] [] := by
    rw [← List.count_eq_zero, count_row]
    simp [List.count_eq_zero.mpr (h edge hedge), List.count_eq_zero.mpr hstyle]
  rw [Function.comp_apply, row_append, count_trimEnd_append hfront]

end Tables

section Lines

/-- How often the labels that the tables of a session show break off their rows: the line feeds in
the labels of its nodes, and those in the labels of its edges but for the white space at their
ends. -/
def breaks (session : Session) : Nat :=
  (session.nodes.map fun node => (labelCell node.shownLabel).count '\n').sum
    + (session.edges.map fun edge => (trimEnd (labelCell edge.label)).count '\n').sum

/-- The lines that a summary has for a session: three and one for each node, and, if there are
edges, two and one for each edge. -/
def lineCount (session : Session) : Nat :=
  3 + session.nodes.length + if session.edges = [] then 0 else 2 + session.edges.length

/-- Whether some lines are a summary with one line for each element: the verdict, an empty line and
a listing of the nodes by their ids, and, if there are edges, an empty line and a listing of the
edges by their keys. -/
def IsSummary (diagram : Diagram) (session : Session) (shown : List (List Char)) : Prop :=
  ∃ nodeRows edgeRows,
    shown = diagram.verdict.toList :: [] :: (nodeRows ++ edgeRows) ∧
    IsListing "ID".toList (session.nodes.map fun node => node.id.toList) nodeRows ∧
    if session.edges = [] then edgeRows = []
    else
      ∃ rows,
        edgeRows = [] :: rows ∧
        IsListing "EDGE".toList (session.edges.map fun edge => edge.key.toList) rows

theorem length_of_isListing
    {title : List Char} {names rows : List (List Char)}
    (h : IsListing title names rows) :
    rows.length = names.length + 1 :=
  h.length_eq.symm

/-- A listing has a last row. -/
theorem exists_last_of_isListing
    {title : List Char} {names rows : List (List Char)}
    (h : IsListing title names rows)
    (hrows : ∀ row ∈ rows, EndsInInk row) :
    ∃ others last, rows = others ++ [last] ∧ EndsInInk last := by
  obtain rfl | ⟨others, last, rfl⟩ := List.eq_nil_or_concat rows
  · cases length_of_isListing h
  · rw [List.concat_eq_append] at hrows ⊢
    exact ⟨others, last, rfl, hrows last (by simp)⟩

variable (config : Config) {diagram : Diagram}

theorem length_of_isSummary
    {session : Session} {shown : List (List Char)}
    (h : IsSummary diagram session shown) :
    shown.length = lineCount session := by
  obtain ⟨nodeRows, edgeRows, rfl, hnodes, hedges⟩ := h
  have hlength := length_of_isListing hnodes
  rw [List.length_map] at hlength
  unfold lineCount
  split_ifs at hedges ⊢ with hempty
  · subst hedges
    simp only [List.length_cons, List.append_nil, hlength]
    omega
  · obtain ⟨rows, rfl, hlist⟩ := hedges
    have hrows := length_of_isListing hlist
    rw [List.length_map] at hrows
    simp only [List.length_cons, List.length_append, hlength, hrows]
    omega

variable (diagram) in
theorem lines_eq :
    lines config diagram =
      diagram.verdict.toList :: [] ::
        (nodeTable (Session.ofDiagram config diagram).nodes ++
          if (Session.ofDiagram config diagram).edges = [] then []
          else [] :: edgeTable (Session.ofDiagram config diagram).edges) := by
  rw [lines, tables, if_congr List.isEmpty_iff rfl rfl]

variable (diagram) in
theorem isSummary_lines :
    IsSummary diagram (.ofDiagram config diagram) (lines config diagram) := by
  rw [lines_eq]
  refine ⟨_, _, rfl, (nodeTable_spec _).1, ?_⟩
  split_ifs with hempty
  · rfl
  · exact ⟨_, rfl, (edgeTable_spec _).1⟩

variable (diagram) in
/-- The last row of the tables does not end in white space. -/
theorem exists_last_lines :
    ∃ others last, lines config diagram = others ++ [last] ∧ EndsInInk last := by
  obtain ⟨hnodes, hnodeRows⟩ := nodeTable_spec (Session.ofDiagram config diagram).nodes
  obtain ⟨hedges, hedgeRows⟩ := edgeTable_spec (Session.ofDiagram config diagram).edges
  rw [lines_eq]
  split_ifs with hempty
  · obtain ⟨others, last, hrows, hlast⟩ := exists_last_of_isListing hnodes hnodeRows
    refine ⟨diagram.verdict.toList :: [] :: others, last, ?_, hlast⟩
    rw [hrows, List.append_nil]
    rfl
  · obtain ⟨others, last, hrows, hlast⟩ := exists_last_of_isListing hedges hedgeRows
    refine ⟨diagram.verdict.toList :: [] ::
      (nodeTable (Session.ofDiagram config diagram).nodes ++ [] :: others), last, ?_, hlast⟩
    rw [hrows]
    simp

/-- Trimming takes nothing away from the tables. -/
theorem text_eq_joinLines
    (h : diagram.isEditable = true) :
    (text config diagram).toList = joinLines (lines config diagram) := by
  obtain ⟨others, last, hlines, hlast⟩ := exists_last_lines config diagram
  rw [text, if_pos h, String.toList_ofList, hlines, joinLines_concat,
    trimEnd_eq_self (endsInInk_append hlast _).last]

theorem feed_not_mem_verdict :
    '\n' ∉ diagram.verdict.toList := by
  unfold Diagram.verdict
  split_ifs
  · have hkeyword : '\n' ∉ diagram.kind.keyword.toList := by
      cases diagram.kind <;> decide
    have htoken : '\n' ∉ diagram.direction.token.toList := by
      cases diagram.direction <;> decide
    simp [hkeyword, htoken, feed_not_mem_toDigits]
  · decide

/-- All line feeds in the rows of a summary are those of its labels. -/
theorem sum_count_lines
    (h : (Session.ofDiagram config diagram).WellFormed) :
    ((lines config diagram).map (List.count '\n')).sum =
      breaks (.ofDiagram config diagram) := by
  have hids : ∀ node ∈ (Session.ofDiagram config diagram).nodes, '\n' ∉ node.id.toList := by
    intro node hnode
    exact not_mem_identifier (h.identifiers _ (List.mem_map_of_mem hnode)) (by decide)
  have hkeys : ∀ edge ∈ (Session.ofDiagram config diagram).edges, '\n' ∉ edge.key.toList := by
    intro edge hedge
    obtain ⟨hsource, htarget⟩ := h.joins edge hedge
    rw [h.keyed edge hedge]
    have hends : ∀ id ∈ (Session.ofDiagram config diagram).ids, '\n' ∉ id.toList :=
      fun id hid => not_mem_identifier (h.identifiers id hid) (by decide)
    simp [edgeKey, hends _ hsource, hends _ htarget]
  rw [lines_eq, List.map_cons, List.map_cons, List.sum_cons, List.sum_cons, List.map_append,
    List.sum_append, List.count_eq_zero.mpr feed_not_mem_verdict, List.count_nil, Nat.zero_add,
    Nat.zero_add, sum_count_nodeTable hids, breaks]
  congr 1
  split_ifs with hempty
  · rw [hempty]
    rfl
  · rw [List.map_cons, List.sum_cons, sum_count_edgeTable hkeys, List.count_nil, Nat.zero_add]

end Lines

/-- The summary of a flowchart has one line more than it has elements and headings for each line
feed in its labels, and so one line for each of them just when no label has one. -/
theorem length_splitLines_text_and_isSummary_iff
    (config : Config) {code : String}
    (h : (Diagram.ofText code).isEditable = true) :
    (splitLines (text config (.ofText code)).toList).length =
      lineCount (.ofDiagram config (.ofText code)) + breaks (.ofDiagram config (.ofText code)) ∧
    (IsSummary (.ofText code) (.ofDiagram config (.ofText code))
        (splitLines (text config (.ofText code)).toList)
      ↔
    breaks (.ofDiagram config (.ofText code)) = 0) := by
  have hwell := Session.wellFormed_ofDiagram config (Diagram.isGraph_ofText code) h
  have hlines := isSummary_lines config (.ofText code)
  have hne : lines config (.ofText code) ≠ [] := List.cons_ne_nil _ _
  have hlength : (splitLines (text config (.ofText code)).toList).length =
      lineCount (.ofDiagram config (.ofText code)) +
        breaks (.ofDiagram config (.ofText code)) := by
    rw [text_eq_joinLines config h, length_splitLines, count_joinLines hne,
      sum_count_lines config hwell, length_of_isSummary hlines]
  refine ⟨hlength, fun hshown => ?_, fun hbreaks => ?_⟩
  · have hcount := length_of_isSummary hshown
    omega
  · have hunbroken : ∀ line ∈ lines config (.ofText code), '\n' ∉ line := by
      rw [← sum_count_lines config hwell] at hbreaks
      intro line hline
      rw [← List.count_eq_zero]
      exact List.sum_eq_zero_iff_forall_eq_nat.mp hbreaks _ (List.mem_map_of_mem hline)
    rw [text_eq_joinLines config h, splitLines_joinLines hne hunbroken]
    exact hlines

/-- A flowchart with one node, whose label is of two lines. -/
def brokenLabel : String :=
  "graph TD\nA[x#10;y]"

theorem not_isSummary_brokenLabel :
    (Diagram.ofText brokenLabel).isEditable = true ∧
    lineCount (.ofDiagram .standard (.ofText brokenLabel)) = 4 ∧
    (splitLines (text .standard (.ofText brokenLabel)).toList).length = 5 ∧
    ¬ IsSummary (.ofText brokenLabel) (.ofDiagram .standard (.ofText brokenLabel))
      (splitLines (text .standard (.ofText brokenLabel)).toList) := by
  have heditable : (Diagram.ofText brokenLabel).isEditable = true := by
    decide +kernel
  have hcount : lineCount (.ofDiagram .standard (.ofText brokenLabel)) = 4 := by
    decide +kernel
  have hbreaks : breaks (.ofDiagram .standard (.ofText brokenLabel)) = 1 := by
    decide +kernel
  obtain ⟨hlength, hshown⟩ :=
    length_splitLines_text_and_isSummary_iff .standard heditable
  rw [hcount, hbreaks] at hlength
  refine ⟨heditable, hcount, hlength, fun hclaim => ?_⟩
  rw [hshown, hbreaks] at hclaim
  cases hclaim

end Summary
end FlowchartSync
