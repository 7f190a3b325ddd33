import FlowchartSync.Proofs.Diagram.Graph
import FlowchartSync.Proofs.Statement.CodeLine

/-!
# The canonical text as lines

The canonical text of a diagram is read as the lines that it was written in: its declaration, the
line of each node and the line of each edge, without the space before them and without the empty
lines between them (`contentLines_toCode`).  The declaration is read as the kind and the direction
that it was written for, an unsupported diagram being written as a flowchart
(`declaration?_header`).
-/

namespace FlowchartSync

open Text Label

section Declaration

/-- The kind that the declaration of a diagram states. -/
def DiagramKind.written : DiagramKind → DiagramKind
  | flowchart => flowchart
  | graph => graph
  | unsupported => flowchart

theorem DiagramKind.written_of_ne_unsupported
    {kind : DiagramKind}
    (h : kind ≠ .unsupported) :
    kind.written = kind := by
  cases kind with
  | flowchart =>
      rfl
  | graph =>
      rfl
  | unsupported =>
      exact absurd rfl h

/-- The declaration is read as the kind and the direction that it states. -/
theorem Diagram.declaration?_header
    (diagram : Diagram) :
    declaration? diagram.header = some (diagram.kind.written, diagram.direction) := by
  unfold Diagram.header
  cases diagram.kind <;> cases diagram.direction <;> rfl

end Declaration

section Lines

/-- A protected label holds no comment in front of a text that starts with no percent sign. -/
theorem cutComment_protect_append
    {tail : List Char}
    (htail : tail.head? ≠ some '%')
    (label : List Char) :
    cutComment (protect label ++ tail) = protect label ++ cutComment tail := by
  unfold protect
  split_ifs with hrisky
  · have hquote : (['"'] ++ tail).head? ≠ some '%' := by
      simp
    have hplain : '%' ∉ ['"'] := by
      decide
    have hsplit :
        '"' :: escape label ++ ['"'] ++ tail = ['"'] ++ (escape label ++ (['"'] ++ tail)) := by
      simp
    rw [hsplit, cutComment_append hplain, cutComment_escape_append hquote,
      cutComment_append hplain]
    simp
  · exact cutComment_escape_append htail label

theorem feed_not_mem_protect
    (label : List Char) :
    '\n' ∉ protect label := by
  unfold protect
  split_ifs <;> simpa using feed_not_mem_escape label

/-- No part of a comment and no line feed stands in an identifier. -/
theorem not_mem_identifier
    {name : List Char} {x : Char}
    (hname : isIdentifier name = true)
    (hx : isIdentifierChar x = false) :
    x ∉ name := by
  intro hmem
  rw [isIdentifierChar_of_mem hname hmem] at hx
  cases hx

/-- An identifier starts as content does. -/
theorem exists_cons_identifier
    {name : List Char}
    (hname : isIdentifier name = true) :
    ∃ c rest, name = c :: rest ∧ isBlank c = false ∧ c ≠ '%' := by
  obtain ⟨c, rest, rfl, hc⟩ := exists_cons_of_isIdentifier hname
  refine ⟨c, rest, rfl, ?_, ?_⟩
  · rw [Bool.eq_false_iff]
    intro hblank
    rw [isIdentifierChar_of_isBlank hblank] at hc
    cases hc
  · rintro rfl
    revert hc
    decide

theorem exists_getLast?_identifier
    {name : List Char}
    (hname : isIdentifier name = true) :
    ∃ c, name.getLast? = some c ∧ isBlank c = false := by
  obtain ⟨_, _, hcons, _⟩ := exists_cons_of_isIdentifier hname
  cases hlast : name.getLast? with
  | none =>
      rw [List.getLast?_eq_none_iff] at hlast
      rw [hlast] at hcons
      cases hcons
  | some c =>
      refine ⟨c, rfl, ?_⟩
      have hc : isIdentifierChar c = true :=
        isIdentifierChar_of_mem hname (List.mem_of_getLast? hlast)
      rw [Bool.eq_false_iff]
      intro hblank
      rw [isIdentifierChar_of_isBlank hblank] at hc
      cases hc

/-- The line of a node is content as it stands. -/
theorem Node.isContent_code
    {node : Node}
    (hid : isIdentifier node.id.toList = true) :
    IsContent node.code := by
  have hopening : '%' ∉ node.shape.opening := by
    cases node.shape <;> decide
  have hclosing :
      '%' ∉ node.shape.closing ∧ node.shape.closing.head? ≠ some '%' := by
    cases node.shape <;> decide
  refine ⟨?_, ?_, ?_⟩
  · rw [Node.code, cutComment_append (not_mem_identifier hid (by decide)),
      cutComment_append hopening, cutComment_protect_append hclosing.2,
      cutComment_of_not_mem hclosing.1]
  · obtain ⟨c, rest, hcons, hc⟩ := exists_cons_identifier hid
    exact ⟨c, rest ++ _, by rw [Node.code, hcons, List.cons_append], hc⟩
  · have hlast : ∃ c, node.shape.closing.getLast? = some c ∧ isBlank c = false := by
      cases node.shape <;> exact ⟨_, rfl, by decide⟩
    obtain ⟨c, hlast, hc⟩ := hlast
    exact ⟨c, by simp [Node.code, List.getLast?_append, hlast], hc⟩

theorem Node.feed_not_mem_code
    {node : Node}
    (hid : isIdentifier node.id.toList = true) :
    '\n' ∉ node.code := by
  have hdelimiters : '\n' ∉ node.shape.opening ∧ '\n' ∉ node.shape.closing := by
    cases node.shape <;> decide
  simp only [Node.code, List.mem_append, not_or]
  exact ⟨not_mem_identifier hid (by decide), hdelimiters.1, feed_not_mem_protect _,
    hdelimiters.2⟩

/-- The written label of an edge holds no comment in front of its target. -/
theorem Edge.cutComment_writtenLabel
    {edge : Edge}
    (htarget : isIdentifier edge.target.toList = true) :
    cutComment (edge.writtenLabel ++ ' ' :: edge.target.toList) =
      edge.writtenLabel ++ ' ' :: edge.target.toList := by
  have hend : '%' ∉ ' ' :: edge.target.toList := by
    simpa using not_mem_identifier htarget (x := '%') (by decide)
  unfold Edge.writtenLabel
  cases edge.label with
  | none =>
      exact cutComment_of_not_mem hend
  | some label =>
      by_cases hempty : label = ""
      · simpa [hempty] using cutComment_of_not_mem hend
      · have hbar : '%' ∉ ['|'] := by
          decide
        have hafter : '%' ∉ '|' :: ' ' :: edge.target.toList := by
          simpa using hend
        have hsplit :
            '|' :: protect label.toList ++ ['|'] ++ ' ' :: edge.target.toList =
              ['|'] ++ (protect label.toList ++ '|' :: ' ' :: edge.target.toList) := by
          simp
        simp only [if_neg hempty, hsplit]
        rw [cutComment_append hbar, cutComment_protect_append (by simp),
          cutComment_of_not_mem hafter]

theorem Edge.isContent_code
    {edge : Edge}
    (hsource : isIdentifier edge.source.toList = true)
    (htarget : isIdentifier edge.target.toList = true) :
    IsContent edge.code := by
  have htoken : '%' ∉ ' ' :: edge.style.token := by
    cases edge.style <;> decide
  refine ⟨?_, ?_, ?_⟩
  · rw [Edge.code, cutComment_append (not_mem_identifier hsource (by decide)),
      ← List.cons_append, cutComment_append htoken, Edge.cutComment_writtenLabel htarget]
  · obtain ⟨c, rest, hcons, hc⟩ := exists_cons_identifier hsource
    exact ⟨c, rest ++ _, by rw [Edge.code, hcons, List.cons_append], hc⟩
  · obtain ⟨c, hlast, hc⟩ := exists_getLast?_identifier htarget
    exact ⟨c, by simp [Edge.code, List.getLast?_append, List.getLast?_cons, hlast], hc⟩

theorem Edge.feed_not_mem_code
    {edge : Edge}
    (hsource : isIdentifier edge.source.toList = true)
    (htarget : isIdentifier edge.target.toList = true) :
    '\n' ∉ edge.code := by
  have htoken : '\n' ∉ edge.style.token := by
    cases edge.style <;> decide
  have hlabel : '\n' ∉ edge.writtenLabel := by
    unfold Edge.writtenLabel
    cases edge.label with
    | none =>
        simp
    | some label =>
        by_cases hempty : label = ""
        · simp [hempty]
        · simpa [hempty] using feed_not_mem_protect label.toList
  have hnames : '\n' ∉ edge.source.toList ∧ '\n' ∉ edge.target.toList :=
    ⟨not_mem_identifier hsource (by decide), not_mem_identifier htarget (by decide)⟩
  simp [Edge.code, htoken, hlabel, hnames]

end Lines

namespace Diagram

/-- The declaration of a diagram is content as it stands, and one line. -/
theorem isContent_header
    (diagram : Diagram) :
    IsContent diagram.header ∧ '\n' ∉ diagram.header := by
  unfold header
  cases diagram.kind <;> cases diagram.direction <;>
    exact ⟨⟨rfl, ⟨_, _, rfl, by decide, by decide⟩, ⟨_, rfl, by decide⟩⟩, by decide⟩

/-- The canonical text of a graph has its declaration, the lines of its nodes and the lines of its
edges as content. -/
theorem contentLines_toCode
    {diagram : Diagram}
    (h : diagram.IsGraph) :
    contentLines diagram.toCode.toList =
      diagram.header :: (diagram.nodes.map Node.code ++ diagram.edges.map Edge.code) := by
  have hnode : ∀ node ∈ diagram.nodes, IsContent node.code ∧ '\n' ∉ node.code :=
    fun node hmem =>
      ⟨Node.isContent_code (h.identifiers node hmem),
        Node.feed_not_mem_code (h.identifiers node hmem)⟩
  have hedge : ∀ edge ∈ diagram.edges, IsContent edge.code ∧ '\n' ∉ edge.code := by
    intro edge hmem
    have hsource := h.isIdentifier_of_mem (h.sources edge hmem)
    have htarget := h.isIdentifier_of_mem (h.targets edge hmem)
    exact ⟨Edge.isContent_code hsource htarget, Edge.feed_not_mem_code hsource htarget⟩
  obtain ⟨hheader, hheaderFeed⟩ := diagram.isContent_header
  have hindent : (∀ c ∈ indent, isBlank c = true) ∧ '\n' ∉ indent :=
    ⟨List.all_eq_true.mp rfl, by decide⟩
  have hfeeds : ∀ line ∈ diagram.codeLines, '\n' ∉ line := by
    intro line hline
    simp only [codeLines, List.cons_append, List.mem_cons, List.mem_append, List.mem_map] at hline
    rcases hline with rfl | rfl | ⟨node, hmem, rfl⟩ | rfl | ⟨edge, hmem, rfl⟩
    · exact hheaderFeed
    · simp
    · simpa [Node.line_eq, hindent.2] using (hnode node hmem).2
    · simp
    · simpa [Edge.line_eq, hindent.2] using (hedge edge hmem).2
  have hlines : splitLines diagram.toCode.toList = diagram.codeLines := by
    rw [toCode, String.toList_ofList,
      splitLines_joinLines (by simp [codeLines]) hfeeds]
  have hreadHeader :
      ([diagram.header].map fun line => trim (cutComment line)).filter isMeaningful =
        [diagram.header] := by
    have hone : ∀ line ∈ [diagram.header], IsContent line := by
      simpa using hheader
    simpa using filter_trim_lines (by simp) (fun line _ => (List.nil_append line).symm) hone
  have hreadNodes := filter_trim_lines hindent.1 (fun node _ => Node.line_eq node)
    fun node hmem => (hnode node hmem).1
  have hreadEdges := filter_trim_lines hindent.1 (fun edge _ => Edge.line_eq edge)
    fun edge hmem => (hedge edge hmem).1
  have hempty : ([[]].map fun line => trim (cutComment line)).filter isMeaningful = [] := rfl
  have hsplit :
      diagram.codeLines =
        [diagram.header] ++ ([[]] ++ (diagram.nodes.map Node.line ++
          ([[]] ++ diagram.edges.map Edge.line))) := by
    simp [codeLines]
  unfold contentLines
  rw [hlines, hsplit]
  simp only [List.map_append, List.filter_append] at hreadHeader hreadNodes hreadEdges ⊢
  rw [hreadHeader, hreadNodes, hreadEdges, hempty]
  rfl

end Diagram

end FlowchartSync
