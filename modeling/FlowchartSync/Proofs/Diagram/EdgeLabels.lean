import FlowchartSync.Proofs.Diagram.Chains

/-!
# Labels of edges

An edge between two bare ids may have any label without a bar, a line break and a comment mark.  A
label that is one text in quotes shows what stands in them, and any other label shows all of itself
(`edgeLabel?_append`).

There is one exception.  Once the reader of edge labels has read a text in quotes, it expects the
bar behind it and does not start over without the quotes.  So a label that goes on behind a text in
quotes is read as none (`edgeLabel?_partlyQuoted`), its bar is no id, and the line makes no
statement (`ofLine?_partlyQuoted`).
-/

namespace FlowchartSync

open Text Label

namespace Statement

section Quotes

variable {label inside rest : List Char}

/-- What a label shows: what stands in the quotes if it is one text in quotes without a quote
inside, and else all of it. -/
def unquoted (label : List Char) : List Char :=
  match (dropLiteral? ['"'] label).bind (dropLiteralEnd? ['"']) with
  | some inside => if '"' ∈ inside then label else inside
  | none => label

/-- Whether a label starts with a text in quotes and goes on behind it. -/
def IsPartlyQuoted (label : List Char) : Prop :=
  ∃ inside c others, '"' ∉ inside ∧ label = '"' :: (inside ++ '"' :: c :: others)

theorem unquoted_of_quoted
    (hinside : '"' ∉ inside) :
    unquoted ('"' :: (inside ++ ['"'])) = inside := by
  simp [unquoted, dropLiteral?, hinside]

theorem unquoted_of_forall_ne
    (h : ∀ inside, '"' ∉ inside → label ≠ '"' :: (inside ++ ['"'])) :
    unquoted label = label := by
  unfold unquoted
  split
  · rename_i inside hsome
    obtain ⟨body, hbody, hinside⟩ := Option.bind_eq_some_iff.mp hsome
    rw [dropLiteral?_eq_some_iff] at hbody
    rw [dropLiteralEnd?_eq_some_iff] at hinside
    rw [if_pos]
    by_contra hquote
    exact h inside hquote (by rw [hbody, hinside]; rfl)
  · rfl

/-- Quotes are read at a label as if it stood alone, when none stand behind it. -/
theorem quoted?_append
    (label : List Char)
    (hrest : '"' ∉ rest) :
    quoted? (label ++ rest) = (quoted? label).map fun read => (read.1, read.2 ++ rest) := by
  ext ⟨run, after⟩
  simp only [Option.map_eq_some_iff, Prod.exists, Prod.mk.injEq, quoted?_eq_some_iff]
  constructor
  · rintro ⟨hrun, hsplit⟩
    have hclosed : label ++ rest = ('"' :: (run ++ ['"'])) ++ after := by
      simpa using hsplit
    rcases List.append_eq_append_iff.mp hclosed with ⟨middle, hlabel, rfl⟩ | ⟨tail, rfl, rfl⟩
    · -- The closing quote stands in the label, so the label ends with it.
      obtain rfl | ⟨front, c, rfl⟩ := List.eq_nil_or_concat middle
      · exact ⟨run, [], ⟨hrun, by simpa using hlabel.symm⟩, rfl, rfl⟩
      · rw [List.concat_eq_append, ← List.append_assoc, ← List.cons_append] at hlabel
        obtain rfl := List.singleton_inj.mp (List.append_inj_right' hlabel rfl)
        simp at hrest
    · exact ⟨run, tail, ⟨hrun, by simp⟩, rfl, rfl⟩
  · rintro ⟨_, tail, ⟨hrun, rfl⟩, rfl, rfl⟩
    exact ⟨hrun, by simp⟩

/-- Between bars, a label is read as what it shows unless it is partly quoted. -/
theorem edgeLabel?_append
    (hne : label ≠ [])
    (hbar : '|' ∉ label)
    (hrest : '"' ∉ rest)
    (h : ¬ IsPartlyQuoted label) :
    edgeLabel? ('|' :: (label ++ '|' :: rest)) =
      some (String.ofList (unescape (unquoted label)), rest) := by
  have hread : quotedOr? '|' (label ++ '|' :: rest) = some (unquoted label, '|' :: rest) := by
    rw [quotedOr?, quoted?_append label (by simpa using hrest)]
    cases hquoted : quoted? label with
    | none =>
        have hplain : unquoted label = label := by
          apply unquoted_of_forall_ne
          rintro inside hinside rfl
          rw [quoted?_eq_some_iff.mpr ⟨hinside, rfl⟩] at hquoted
          cases hquoted
        simp [hplain, takeUntil?_append hbar hne]
    | some read =>
        obtain ⟨inside, tail⟩ := read
        obtain ⟨hinside, rfl⟩ := quoted?_eq_some_iff.mp hquoted
        cases tail with
        | nil =>
            simp [unquoted_of_quoted hinside]
        | cons c others =>
            exact absurd ⟨inside, c, others, hinside, rfl⟩ h
  have hclose : dropLiteral? "|".toList ('|' :: rest) = some rest := dropLiteral?_append ['|'] rest
  simp only [edgeLabel?, hread, hclose, Option.bind_eq_bind, Option.bind_some]

/-- No bar stands right behind the quotes of a partly quoted label. -/
theorem edgeLabel?_partlyQuoted
    (hbar : '|' ∉ label)
    (h : IsPartlyQuoted label) :
    edgeLabel? ('|' :: (label ++ '|' :: rest)) = none := by
  obtain ⟨inside, c, others, hinside, rfl⟩ := h
  have hread : quotedOr? '|' ('"' :: (inside ++ '"' :: c :: others) ++ '|' :: rest) =
      some (inside, c :: (others ++ '|' :: rest)) := by
    have hquoted : quoted? ('"' :: (inside ++ '"' :: c :: others) ++ '|' :: rest) =
        some (inside, c :: (others ++ '|' :: rest)) :=
      quoted?_eq_some_iff.mpr ⟨hinside, by simp⟩
    rw [quotedOr?, hquoted]
    rfl
  have hc : '|' ≠ c := by
    rintro rfl
    simp at hbar
  have hclose : dropLiteral? "|".toList (c :: (others ++ '|' :: rest)) = none := if_neg hc
  simp only [edgeLabel?, hread, hclose, Option.bind_eq_bind, Option.bind_some, Option.bind_none]

end Quotes

section Edges

/-- An edge with a label between bars, written between two bare ids. -/
structure LabelledEdge where
  source : List Char
  arrow : List Char
  label : List Char
  target : List Char
  isSource : isIdentifier source = true
  chars : ∀ c ∈ arrow, isArrowChar c = true
  isArrow : isArrow arrow = true
  ne_nil : label ≠ []
  barless : '|' ∉ label
  unbroken : '\n' ∉ label
  uncommented : ¬ "%%".toList <:+: label
  isTarget : isIdentifier target = true

namespace LabelledEdge

def behindSource (edge : LabelledEdge) : List Char :=
  ' ' :: (edge.arrow ++ '|' :: (edge.label ++ '|' :: ' ' :: edge.target))

def text (edge : LabelledEdge) : List Char :=
  edge.source ++ edge.behindSource

/-- What a labelled edge says. -/
def edge (edge : LabelledEdge) : Edge :=
  ⟨String.ofList edge.source, String.ofList edge.target,
    some (String.ofList (unescape (unquoted edge.label))), EdgeStyle.classify edge.arrow⟩

variable (edge : LabelledEdge)

theorem isUnbroken :
    IsUnbroken edge.text := by
  have htarget : ∀ {x}, isIdentifierChar x = false → x ≠ '|' → x ≠ ' ' →
      x ∉ '|' :: ' ' :: edge.target := by
    intro x hx hbar hspace
    simp [hbar, hspace, not_mem_identifier edge.isTarget hx]
  have hlabel : IsUnbroken (edge.label ++ '|' :: ' ' :: edge.target) :=
    isUnbroken_append_cons edge.unbroken edge.uncommented
      (htarget rfl (by decide) (by decide)) (htarget rfl (by decide) (by decide))
  have hspace : IsUnbroken [' '] := isUnbroken_of_not_mem (by decide) (by decide)
  have hbar : IsUnbroken ['|'] := isUnbroken_of_not_mem (by decide) (by decide)
  exact (isUnbroken_name edge.isSource).append
    (hspace.append ((isUnbroken_arrow edge.chars).append (hbar.append hlabel)))

theorem exists_cons :
    ∃ c rest, edge.text = c :: rest ∧ isBlank c = false ∧ c ≠ '%' := by
  obtain ⟨c, others, hname, hc⟩ := exists_cons_identifier edge.isSource
  exact ⟨c, _, by rw [text, hname]; rfl, hc⟩

theorem exists_getLast? :
    ∃ c, edge.text.getLast? = some c ∧ isBlank c = false := by
  obtain ⟨c, hlast, hc⟩ := exists_getLast?_identifier edge.isTarget
  have htext : edge.text = edge.source ++
      ' ' :: (edge.arrow ++ '|' :: (edge.label ++ "| ".toList)) ++ edge.target := by
    simp [text, behindSource]
  exact ⟨c, by rw [htext, List.getLast?_append, hlast]; rfl, hc⟩

end LabelledEdge

variable {edge : LabelledEdge}

/-- The line of a labelled edge is read as a chain of the links behind its source. -/
theorem ofLine?_text
    (edge : LabelledEdge) :
    ofLine? edge.text =
      if (links edge.behindSource).isEmpty then none
      else some (.chain (.bare (String.ofList edge.source)) (links edge.behindSource)) := by
  have hne : edge.arrow ≠ [] := ne_nil_of_isArrow edge.isArrow
  rw [LabelledEdge.text, LabelledEdge.behindSource,
    ofLine?_name_arrow edge.isSource edge.chars hne, chain?_name_space edge.isSource]

/-- Behind its arrow, a link is read by what is found as its label. -/
theorem link?_behindSource
    {label : Option String} {left : List Char}
    (hlabel : optionalEdgeLabel ('|' :: (edge.label ++ '|' :: ' ' :: edge.target)) = (label, left)) :
    link? edge.behindSource =
      (reference? (skipGap left)).map fun read =>
        (⟨EdgeStyle.classify edge.arrow, label, read.1⟩, read.2) := by
  have hskip := skipGap_space_arrow edge.chars (ne_nil_of_isArrow edge.isArrow)
    ('|' :: (edge.label ++ '|' :: ' ' :: edge.target))
  have hbar : skipGap ('|' :: (edge.label ++ '|' :: ' ' :: edge.target)) =
      '|' :: (edge.label ++ '|' :: ' ' :: edge.target) := rfl
  have harrow : arrow? (edge.arrow ++ '|' :: (edge.label ++ '|' :: ' ' :: edge.target)) =
      some (EdgeStyle.classify edge.arrow, '|' :: (edge.label ++ '|' :: ' ' :: edge.target)) :=
    arrow?_append edge.chars edge.isArrow (by rintro x ⟨⟩; rfl)
  simp only [link?, LabelledEdge.behindSource, hskip, harrow, hbar, hlabel, Option.bind_eq_bind,
    Option.bind_some]
  cases reference? (skipGap left) <;> rfl

/-- The line of a labelled edge is read as a chain of its one link. -/
theorem ofLine?_labelled
    (h : ¬ IsPartlyQuoted edge.label) :
    ofLine? edge.text =
      some (.chain (.bare (String.ofList edge.source))
        [⟨EdgeStyle.classify edge.arrow, some (String.ofList (unescape (unquoted edge.label))),
          .bare (String.ofList edge.target)⟩]) := by
  have hquote : '"' ∉ ' ' :: edge.target := by
    rw [List.mem_cons, not_or]
    exact ⟨by decide, not_mem_identifier edge.isTarget rfl⟩
  have hread := edgeLabel?_append edge.ne_nil edge.barless hquote h
  have hlabel : optionalEdgeLabel ('|' :: (edge.label ++ '|' :: ' ' :: edge.target)) =
      (some (String.ofList (unescape (unquoted edge.label))), ' ' :: edge.target) := by
    rw [optionalEdgeLabel, hread]
  have hskip : skipGap (' ' :: edge.target) = edge.target := skipGap_name edge.isTarget
  have hlink := link?_behindSource hlabel
  rw [hskip, reference?_name edge.isTarget, Option.map_some] at hlink
  rw [ofLine?_text, links_of_link? hlink, links_nil]
  rfl

/-- The line of an edge with a partly quoted label makes no statement. -/
theorem ofLine?_partlyQuoted
    (h : IsPartlyQuoted edge.label) :
    ofLine? edge.text = none := by
  have hlabel : optionalEdgeLabel ('|' :: (edge.label ++ '|' :: ' ' :: edge.target)) =
      (none, '|' :: (edge.label ++ '|' :: ' ' :: edge.target)) := by
    rw [optionalEdgeLabel, edgeLabel?_partlyQuoted edge.barless h]
  have hlink : link? edge.behindSource = none := by
    rw [link?_behindSource hlabel]
    rfl
  rw [ofLine?_text, links_eq_nil hlink]
  rfl

end Edges

end Statement

namespace Diagram

open Statement

/-- A labelled edge that is the one statement line of a text is read as what it says just when its
label is not partly quoted.  If it is, the text has no statement. -/
theorem edges_labelled_iff
    (page : Page) (edge : LabelledEdge) :
    (ofText (page.text edge.text)).isEditable = true ∧
    ((ofText (page.text edge.text)).edges = [edge.edge] ↔ ¬ IsPartlyQuoted edge.label) ∧
    (statementsOf (page.text edge.text) = [] ↔ IsPartlyQuoted edge.label) := by
  obtain ⟨heditable, hstatements, kind, direction, hread⟩ :=
    ofText_page page edge.isUnbroken edge.exists_cons edge.exists_getLast?
  refine ⟨heditable, ?_⟩
  by_cases h : IsPartlyQuoted edge.label
  · rw [ofLine?_partlyQuoted h] at hstatements hread
    have hedges : (ofText (page.text edge.text)).edges = [] := by
      rw [hread]
      rfl
    rw [hstatements, hedges]
    simp [h]
  · rw [ofLine?_labelled h] at hstatements hread
    have hedges : (ofText (page.text edge.text)).edges = [edge.edge] := by
      rw [hread]
      rfl
    rw [hstatements, hedges]
    simp [h]

/-- An edge whose label goes on behind a text in quotes. -/
def partlyQuoted : LabelledEdge where
  source := "A".toList
  arrow := "-->".toList
  label := "\"x\" y".toList
  target := "B".toList
  isSource := rfl
  chars := List.all_eq_true.mp rfl
  isArrow := rfl
  ne_nil := by decide
  barless := by decide
  unbroken := by decide
  uncommented := by decide
  isTarget := rfl

theorem edges_partlyQuoted :
    partlyQuoted.text = "A -->|\"x\" y| B".toList ∧
    partlyQuoted.edge = ⟨"A", "B", some "\"x\" y", .arrow⟩ ∧
    (ofText (commented.text partlyQuoted.text)).edges ≠ [partlyQuoted.edge] ∧
    statementsOf (commented.text partlyQuoted.text) = [] := by
  have hlabel : IsPartlyQuoted partlyQuoted.label :=
    ⟨['x'], ' ', ['y'], by decide, rfl⟩
  obtain ⟨_, hedges, hstatements⟩ := edges_labelled_iff commented partlyQuoted
  exact ⟨rfl, by decide +kernel, fun hclaim => hedges.mp hclaim hlabel, hstatements.mpr hlabel⟩

end Diagram
end FlowchartSync
