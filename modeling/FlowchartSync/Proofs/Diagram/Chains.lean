import FlowchartSync.Proofs.Diagram.CodeText
import FlowchartSync.Proofs.Diagram.Mentions
import FlowchartSync.Proofs.Diagram.Subgraphs
import FlowchartSync.Proofs.Statement.Grammar

/-!
# Texts with one chain

A chain on a line of its own is read as what it says, with white space around it and a comment
behind it (`contentLines_page`).  When it is the one statement of a text, the text has one edge for
each link, between the mentions on its two sides (`readsChain_page`).
-/

namespace FlowchartSync

open Text Label

namespace Statement

section Lines

/-- The delimiters of the table are parts of a line, and end in no white space. -/
theorem isUnbroken_delimiters
    {pair : Delimiter}
    (h : pair ∈ Delimiter.table) :
    IsUnbroken pair.opening ∧ ('\n' ∉ pair.closing ∧ '%' ∉ pair.closing) ∧
      ∃ c, pair.closing.getLast? = some c ∧ isBlank c = false := by
  have hmarks : ∀ pair ∈ Delimiter.table,
      ('\n' ∉ pair.opening ∧ '%' ∉ pair.opening) ∧ '\n' ∉ pair.closing ∧ '%' ∉ pair.closing := by
    decide
  obtain ⟨hopening, hclosing⟩ := hmarks pair h
  refine ⟨isUnbroken_of_not_mem hopening.1 hopening.2, hclosing, ?_⟩
  fin_cases h <;> exact ⟨_, rfl, by decide⟩

theorem isUnbroken_name
    {name : List Char}
    (h : isIdentifier name = true) :
    IsUnbroken name :=
  isUnbroken_of_not_mem (not_mem_identifier h (by decide)) (not_mem_identifier h (by decide))

theorem Gap.isUnbroken
    (gap : Gap) :
    IsUnbroken gap.text := by
  apply isUnbroken_of_not_mem
  · exact fun hmem => absurd (gap.isGap _ hmem) (by decide)
  · exact fun hmem => absurd (gap.isGap _ hmem) (by decide)

/-- A raw label is part of a line together with what closes it. -/
theorem RawLabel.isUnbroken_append_cons
    (label : RawLabel) {c : Char} {others : List Char}
    (hfeed : '\n' ∉ c :: others)
    (hpercent : '%' ∉ c :: others) :
    IsUnbroken (label.text ++ c :: others) :=
  Text.isUnbroken_append_cons (fun hmem => absurd (label.plain '\n' hmem) (by decide))
    label.uncommented hfeed hpercent

theorem RawBracket.isUnbroken
    (bracket : RawBracket) :
    IsUnbroken bracket.text := by
  obtain ⟨hopening, ⟨hfeed, hpercent⟩, c, hlast, _⟩ := isUnbroken_delimiters bracket.listed
  have hclosing : bracket.delimiter.closing ≠ [] := by
    intro hnil
    rw [hnil] at hlast
    cases hlast
  obtain ⟨d, others, hcons⟩ := List.exists_cons_of_ne_nil hclosing
  rw [hcons] at hfeed hpercent
  rw [RawBracket.text, hcons]
  exact hopening.append (bracket.label.isUnbroken_append_cons hfeed hpercent)

theorem RawReference.isUnbroken
    (reference : RawReference) :
    IsUnbroken reference.text := by
  cases hbracket : reference.bracket with
  | none =>
      rw [RawReference.text_bare hbracket]
      exact isUnbroken_name reference.isName
  | some bracket =>
      rw [RawReference.text_bracketed hbracket]
      exact (isUnbroken_name reference.isName).append bracket.isUnbroken

theorem isUnbroken_arrow
    {run : List Char}
    (h : ∀ c ∈ run, isArrowChar c = true) :
    IsUnbroken run := by
  apply isUnbroken_of_not_mem
  · exact fun hmem => absurd (h _ hmem) (by decide)
  · exact fun hmem => absurd (h _ hmem) (by decide)

theorem RawLink.isUnbroken
    (link : RawLink) :
    IsUnbroken link.text := by
  have harrow : IsUnbroken link.arrow := isUnbroken_arrow link.chars
  have hbar : IsUnbroken ['|'] := isUnbroken_of_not_mem (by decide) (by decide)
  have hlabel : IsUnbroken link.labelText := by
    unfold RawLink.labelText
    cases link.label with
    | none =>
        exact link.between.isUnbroken.append link.after.isUnbroken
    | some label =>
        have hclosed : IsUnbroken (label.text ++ ['|']) :=
          label.isUnbroken_append_cons (by decide) (by decide)
        simpa using link.between.isUnbroken.append
          (hbar.append (hclosed.append link.after.isUnbroken))
  exact link.before.isUnbroken.append (harrow.append (hlabel.append link.target.isUnbroken))

theorem RawChain.isUnbroken
    (chain : RawChain) :
    IsUnbroken chain.text := by
  have hlinks : ∀ links : List RawLink, IsUnbroken (links.flatMap RawLink.text) := by
    intro links
    induction links with
    | nil =>
        exact isUnbroken_of_not_mem (by simp) (by simp)
    | cons link links ih =>
        exact link.isUnbroken.append ih
  exact chain.head.isUnbroken.append (hlinks chain.links)

/-- A mention ends in a character that is no white space. -/
theorem RawReference.exists_getLast?
    (reference : RawReference) :
    ∃ c, reference.text.getLast? = some c ∧ isBlank c = false := by
  cases hbracket : reference.bracket with
  | none =>
      rw [RawReference.text_bare hbracket]
      exact exists_getLast?_identifier reference.isName
  | some bracket =>
      obtain ⟨_, _, c, hlast, hc⟩ := isUnbroken_delimiters bracket.listed
      rw [RawReference.text_bracketed hbracket]
      exact ⟨c, by simp [RawBracket.text, List.getLast?_append, hlast], hc⟩

/-- A chain starts with an id. -/
theorem RawChain.exists_cons
    (chain : RawChain) :
    ∃ c rest, chain.text = c :: rest ∧ isBlank c = false ∧ c ≠ '%' := by
  obtain ⟨c, others, hname, hc⟩ := exists_cons_identifier chain.head.isName
  unfold RawChain.text
  cases hbracket : chain.head.bracket with
  | none =>
      exact ⟨c, _, by rw [RawReference.text_bare hbracket, hname]; rfl, hc⟩
  | some bracket =>
      exact ⟨c, _, by rw [RawReference.text_bracketed hbracket, hname]; rfl, hc⟩

/-- A chain ends with the mention of its last link. -/
theorem RawChain.exists_getLast?
    (chain : RawChain) :
    ∃ c, chain.text.getLast? = some c ∧ isBlank c = false := by
  rcases List.eq_nil_or_concat chain.links with hnil | ⟨links, last, hlinks⟩
  · exact absurd hnil chain.ne_nil
  · obtain ⟨c, hlast, hc⟩ := last.target.exists_getLast?
    refine ⟨c, ?_, hc⟩
    rw [RawChain.text, hlinks]
    simp [RawLink.text, List.getLast?_append, hlast]

end Lines

end Statement

namespace Diagram

open Statement

section Pages

/-- The lines among some that carry statements, without comments and surrounding white space. -/
def contents (lines : List (List Char)) : List (List Char) :=
  (lines.map fun line => trim (cutComment line)).filter isMeaningful

/-- What may stand around one line in a text that can be edited: lines above it that declare a
flowchart and state nothing more, white space before it, white space and perhaps a comment behind
it, and lines below it that state nothing. -/
structure Page where
  above : List (List Char)
  declaration : List Char
  skipped : List (List Char)
  space : List Char
  trailing : List Char
  below : List (List Char)
  opening : contents above = declaration :: skipped
  declares : (declaration? declaration).isSome = true
  above_silent : statements skipped = []
  below_silent : statements (contents below) = []
  blank : ∀ c ∈ space, isBlank c = true
  blank_end : ∀ c ∈ cutComment trailing, isBlank c = true
  unbroken : ∀ line ∈ space :: trailing :: (above ++ below), '\n' ∉ line

/-- The text of a page with its line. -/
def Page.text (page : Page) (line : List Char) : String :=
  String.ofList (joinLines
    (page.above ++ (page.space ++ (line ++ page.trailing)) :: page.below))

variable {line : List Char}

/-- The line of a page is read without what stands around it. -/
theorem contentLines_page
    (page : Page)
    (hline : IsUnbroken line)
    (hfirst : ∃ c rest, line = c :: rest ∧ isBlank c = false ∧ c ≠ '%')
    (hlast : ∃ c, line.getLast? = some c ∧ isBlank c = false) :
    contentLines (page.text line).toList =
      page.declaration :: (page.skipped ++ line :: contents page.below) := by
  obtain ⟨c, rest, hcons, hc, hpercent⟩ := hfirst
  have hspace : '%' ∉ page.space := not_mem_of_forall_isBlank rfl page.blank
  have hread : trim (cutComment (page.space ++ (line ++ page.trailing))) = line := by
    rw [cutComment_append hspace, hline.uncut]
    exact trim_between page.blank ⟨c, rest, hcons, hc⟩ hlast page.blank_end
  have hmeaningful : isMeaningful line = true := by
    simpa [hcons, isMeaningful] using hpercent
  have hfeeds : ∀ part ∈ page.above ++ (page.space ++ (line ++ page.trailing)) :: page.below,
      '\n' ∉ part := by
    have hpage := page.unbroken
    simp only [List.forall_mem_cons, List.forall_mem_append] at hpage ⊢
    obtain ⟨hbefore, hbehind, habove, hbelow⟩ := hpage
    exact ⟨habove, by simp [hbefore, hline.feed, hbehind], hbelow⟩
  have hlines : contentLines (page.text line).toList =
      contents (page.above ++ (page.space ++ (line ++ page.trailing)) :: page.below) := by
    rw [Page.text, String.toList_ofList, contentLines, splitLines_joinLines (by simp) hfeeds]
    rfl
  have hopening := page.opening
  unfold contents at hlines hopening ⊢
  rw [hlines, List.map_append, List.filter_append, hopening, List.map_cons, hread,
    List.filter_cons_of_pos hmeaningful, List.cons_append]

/-- A page says what its line says, if that is anything. -/
theorem ofText_page
    (page : Page)
    (hline : IsUnbroken line)
    (hfirst : ∃ c rest, line = c :: rest ∧ isBlank c = false ∧ c ≠ '%')
    (hlast : ∃ c, line.getLast? = some c ∧ isBlank c = false) :
    (ofText (page.text line)).isEditable = true ∧
    statementsOf (page.text line) = (ofLine? line).toList ∧
    ∃ kind direction, ofText (page.text line) =
      (Sketch.empty.applyAll (ofLine? line).toList).finish kind direction := by
  have hlines := contentLines_page page hline hfirst hlast
  have hstatements : statements (page.skipped ++ line :: contents page.below) =
      (ofLine? line).toList := by
    have habove := page.above_silent
    have hbelow := page.below_silent
    unfold Diagram.statements at habove hbelow ⊢
    rw [List.filterMap_append, habove, List.nil_append, ← List.singleton_append,
      List.filterMap_append, hbelow, List.append_nil]
    cases hread : ofLine? line <;> simp [hread]
  obtain ⟨⟨kind, direction⟩, hdeclares⟩ := Option.isSome_iff_exists.mp page.declares
  have hread : ofText (page.text line) =
      (Sketch.empty.applyAll (ofLine? line).toList).finish kind direction := by
    rw [ofText, hlines, ofLines, hdeclares, hstatements]
  refine ⟨?_, ?_, kind, direction, hread⟩
  · rw [hread]
    simpa [isEditable, Sketch.finish] using kind_ne_unsupported_of_declaration? hdeclares
  · rw [statementsOf, hlines, List.tail_cons, hstatements]

end Pages

section Chains

/-- What a text is read as that a chain is the one statement of: each link is one edge between the
mentions on its two sides, and each mention with delimiters is read as their pair and the label
between them, with nothing of what follows. -/
structure ReadsChain (text : String) (chain : RawChain) : Prop where
  editable : (ofText text).isEditable = true
  statements : statementsOf text = [chain.statement]
  edges : (ofText text).edges =
    List.zipWith (fun source link =>
      ⟨String.ofList source.name, String.ofList link.target.name,
        link.label.map RawLabel.decoded, EdgeStyle.classify link.arrow⟩)
      chain.references chain.links
  count : (ofText text).edges.length = chain.references.length - 1
  nodes : (ofText text).nodes =
    Sketch.mentionedNodes (chain.references.map RawReference.reference)
  mentions : ∀ reference ∈ chain.references, ∀ bracket, reference.bracket = some bracket →
    ∀ rest, reference? (reference.text ++ rest) =
      some (⟨String.ofList reference.name,
        some ⟨bracket.delimiter.shape, String.ofList (unescape bracket.label.text)⟩⟩, rest)

/-- The edges of a chain join its mentions. -/
theorem edges_statement
    (chain : RawChain) :
    chain.statement.edges =
      List.zipWith (fun source link =>
        ⟨String.ofList source.name, String.ofList link.target.name,
          link.label.map RawLabel.decoded, EdgeStyle.classify link.arrow⟩)
        chain.references chain.links := by
  have htargets : chain.head.reference :: (chain.links.map RawLink.link).map Link.target =
      chain.references.map RawReference.reference := by
    rw [RawChain.references, List.map_cons, List.map_map, List.map_map]
    rfl
  rw [RawChain.statement, Statement.edges, htargets, List.zipWith_map]
  rfl

theorem references_statement
    (chain : RawChain) :
    chain.statement.references = chain.references.map RawReference.reference := by
  rw [RawChain.references, List.map_cons, List.map_map, RawChain.statement, Statement.references,
    List.map_map]
  rfl

/-- A chain that is the one statement of a text is read as it was written. -/
theorem readsChain_page
    (page : Page) (chain : RawChain) :
    ReadsChain (page.text chain.text) chain := by
  obtain ⟨heditable, hstatements, kind, direction, hread⟩ :=
    ofText_page page chain.isUnbroken chain.exists_cons chain.exists_getLast?
  rw [ofLine?_raw chain] at hstatements hread
  have hlinked : ∀ statement ∈ [chain.statement], statement.IsLinked := by
    intro statement hmem
    rw [List.mem_singleton.mp hmem]
    exact isLinked_of_ofLine? (ofLine?_raw chain)
  obtain ⟨hnodes, hedges⟩ := Sketch.applyAll_spec hlinked
  rw [List.flatMap_singleton, references_statement] at hnodes
  rw [List.flatMap_singleton, edges_statement] at hedges
  constructor
  · exact heditable
  · exact hstatements
  · rw [hread]
    exact hedges
  · rw [hread]
    simp [Sketch.finish, hedges, RawChain.references]
  · rw [hread]
    exact hnodes
  · intro reference _ bracket hbracket rest
    rw [reference?_raw_bracketed hbracket, RawReference.reference, hbracket]
    rfl

/-- A page with a comment behind its line and a line without a statement above it. -/
def commented : Page where
  above := ["graph TD".toList, "".toList, "classDef plain".toList]
  declaration := "graph TD".toList
  skipped := ["classDef plain".toList]
  space := "  ".toList
  trailing := " %% last".toList
  below := ["%% end".toList]
  opening := by decide
  declares := by decide
  above_silent := by decide +kernel
  below_silent := by decide
  blank := List.all_eq_true.mp rfl
  blank_end := List.all_eq_true.mp rfl
  unbroken := by decide

/-- A chain between nodes that are called like keywords. -/
def keywords : RawChain where
  head := ⟨"subgraph".toList, rfl, some ⟨.ofTexts "[/" "/]" .parallelogram, by decide,
    ⟨"a#35;".toList, by decide, List.all_eq_true.mp rfl, by decide⟩⟩⟩
  links := [
    ⟨⟨[], List.forall_mem_nil _⟩, "-.->".toList, List.all_eq_true.mp rfl, rfl,
      ⟨"\t".toList, List.all_eq_true.mp rfl⟩,
      some ⟨"50 %".toList, by decide, List.all_eq_true.mp rfl, by decide⟩,
      ⟨[], List.forall_mem_nil _⟩, ⟨"end".toList, rfl, none⟩⟩,
    ⟨⟨" ".toList, List.all_eq_true.mp rfl⟩, "--".toList, List.all_eq_true.mp rfl, rfl,
      ⟨[], List.forall_mem_nil _⟩, none, ⟨[], List.forall_mem_nil _⟩,
      ⟨"end".toList, rfl, some ⟨.ofTexts "[[[" "]]]" .rect, by decide,
        ⟨"b".toList, by decide, List.all_eq_true.mp rfl, by decide⟩⟩⟩⟩]
  ne_nil := List.cons_ne_nil _ _

theorem readsChain_keywords :
    ReadsChain (commented.text keywords.text) keywords ∧
    keywords.text = "subgraph[/a#35;/]-.->\t|50 %|end --end[[[b]]]".toList ∧
    (ofText (commented.text keywords.text)).edges =
      [⟨"subgraph", "end", some "50 %", .dotted⟩, ⟨"end", "end", none, .line⟩] := by
  have hread := readsChain_page commented keywords
  refine ⟨hread, by decide, ?_⟩
  rw [hread.edges]
  decide +kernel

end Chains

end Diagram
end FlowchartSync
