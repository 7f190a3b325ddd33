import FlowchartSync.Proofs.Statement.CodeLine
import Mathlib.Tactic.FinCases

/-!
# The grammar of chains

A chain is a mention of a node and links to others, written with any arrows, any pairs of
delimiters, and gaps wherever they may stand.  Its labels are raw: they stand without quotes and
hold no character that could close or reshape the delimiters around them.

A pair of delimiters around a raw label is read as that pair, whatever follows it, as no pair that
the table lists before it fits (`bracket?_raw`).  A bare mention ends where the next arrow or the
gap before it starts.  So the links of a chain are read one by one (`links_raw`).  No keyword comes
in between, even if the first mention is called like one (`ofLine?_raw`).
-/

namespace FlowchartSync
namespace Statement

open Text Label

section Pieces

/-- Whether a character may stand in a label without quotes: it is no bracket, bar, slash, quote or
line feed. -/
def isRaw (c : Char) : Bool :=
  !"[]()\x7b\x7d|/\\\"\n".toList.contains c

/-- A label as it may stand without quotes: it is not empty, and it holds no character that may not
stand there and no comment mark. -/
structure RawLabel where
  text : List Char
  ne_nil : text ≠ []
  plain : ∀ c ∈ text, isRaw c = true
  uncommented : ¬ "%%".toList <:+: text

/-- A pair of delimiters of the table around a raw label. -/
structure RawBracket where
  delimiter : Delimiter
  listed : delimiter ∈ Delimiter.table
  label : RawLabel

/-- An identifier, perhaps with delimiters. -/
structure RawReference where
  name : List Char
  isName : isIdentifier name = true
  bracket : Option RawBracket

/-- A possibly empty run of spaces and tabs. -/
structure Gap where
  text : List Char
  isGap : ∀ c ∈ text, isGap c = true

/-- An arrow, perhaps with a label, and the mention that it leads to, with gaps anywhere
between. -/
structure RawLink where
  before : Gap
  arrow : List Char
  chars : ∀ c ∈ arrow, isArrowChar c = true
  isArrow : isArrow arrow = true
  between : Gap
  label : Option RawLabel
  after : Gap
  target : RawReference

/-- A mention and at least one link. -/
structure RawChain where
  head : RawReference
  links : List RawLink
  ne_nil : links ≠ []

/-- The text of a raw label with its entity codes read. -/
def RawLabel.decoded (label : RawLabel) : String :=
  String.ofList (unescape label.text)

def RawBracket.text (bracket : RawBracket) : List Char :=
  bracket.delimiter.opening ++ (bracket.label.text ++ bracket.delimiter.closing)

/-- What a pair of delimiters shows: the shape of the pair, and the label. -/
def RawBracket.bracket (bracket : RawBracket) : Bracket :=
  ⟨bracket.delimiter.shape, bracket.label.decoded⟩

def RawReference.text (reference : RawReference) : List Char :=
  match reference.bracket with
  | none => reference.name
  | some bracket => reference.name ++ bracket.text

/-- What is mentioned: the id, and what the delimiters show if there are any. -/
def RawReference.reference (reference : RawReference) : Reference :=
  ⟨String.ofList reference.name, reference.bracket.map RawBracket.bracket⟩

/-- The label of a link between bars, if it has one, with the gaps around it. -/
def RawLink.labelText (link : RawLink) : List Char :=
  match link.label with
  | none => link.between.text ++ link.after.text
  | some label => link.between.text ++ '|' :: (label.text ++ '|' :: link.after.text)

def RawLink.text (link : RawLink) : List Char :=
  link.before.text ++ (link.arrow ++ (link.labelText ++ link.target.text))

/-- What a link says: the style of its arrow, its label, and its target. -/
def RawLink.link (link : RawLink) : Link :=
  ⟨EdgeStyle.classify link.arrow, link.label.map RawLabel.decoded, link.target.reference⟩

def RawChain.text (chain : RawChain) : List Char :=
  chain.head.text ++ chain.links.flatMap RawLink.text

/-- The mentions of a chain, in order. -/
def RawChain.references (chain : RawChain) : List RawReference :=
  chain.head :: chain.links.map RawLink.target

/-- What a chain says. -/
def RawChain.statement (chain : RawChain) : Statement :=
  .chain chain.head.reference (chain.links.map RawLink.link)

end Pieces

section Brackets

theorem RawLabel.not_isRisky
    (label : RawLabel) {c : Char}
    (hc : c ∈ label.text) :
    isRisky c = false := by
  have hlisted : "[]()\x7b\x7d|/\\".toList ⊆ "[]()\x7b\x7d|/\\\"\n".toList := by
    decide
  have hplain := label.plain c hc
  rw [Bool.eq_false_iff]
  intro hrisky
  have hstop := hlisted (List.contains_iff_mem.mp hrisky)
  simp only [isRaw, List.contains_iff_mem.mpr hstop] at hplain
  cases hplain

theorem RawLabel.exists_cons
    (label : RawLabel) :
    ∃ c rest, label.text = c :: rest ∧ isRisky c = false ∧ c ≠ '"' := by
  cases htext : label.text with
  | nil =>
      exact absurd htext label.ne_nil
  | cons c rest =>
      have hc : c ∈ label.text := by
        rw [htext]
        exact List.mem_cons_self
      refine ⟨c, rest, rfl, label.not_isRisky hc, ?_⟩
      rintro rfl
      exact absurd (label.plain '"' hc) (by decide)

/-- A raw label is not read as one in quotes. -/
theorem quoted?_raw
    (label : RawLabel) (rest : List Char) :
    quoted? (label.text ++ rest) = none := by
  obtain ⟨c, others, hcons, _, hquote⟩ := label.exists_cons
  apply quoted?_eq_none
  rw [hcons]
  rintro x ⟨⟩
  exact hquote

theorem quotedBefore?_raw
    (closing : List Char) (label : RawLabel) (rest : List Char) :
    quotedBefore? closing (label.text ++ rest) = none := by
  simp [quotedBefore?, quoted?_raw]

/-- A pair of the table reads the raw label between its two parts. -/
theorem between?_raw
    (bracket : RawBracket) (rest : List Char) :
    between? bracket.delimiter (bracket.text ++ rest) = some (bracket.label.text, rest) := by
  have hcloses : ∀ pair ∈ Delimiter.table, pair.closing.any isCloser = true := by
    decide
  obtain ⟨marker, stop, others, hparts⟩ :=
    exists_closingParts_of_any (hcloses bracket.delimiter bracket.listed)
  have hstop : stop ∉ bracket.label.text := by
    intro hmem
    have hrisky := bracket.label.not_isRisky hmem
    rw [isRisky_of_isCloser hparts.stop_closes] at hrisky
    cases hrisky
  have hread :
      unquoted? bracket.delimiter.closing
          (bracket.label.text ++ (bracket.delimiter.closing ++ rest)) =
        some (bracket.label.text, rest) :=
    (unquoted?_eq_some_iff hparts).mpr ⟨bracket.label.ne_nil, hstop, by simp⟩
  rw [RawBracket.text, List.append_assoc, List.append_assoc, between?_opening,
    quotedBefore?_raw, hread]
  rfl

/-- In the table, an opener is blocked by every pair after it, but for the trapezoid's, with which
the parallelogram's starts as well. -/
theorem pairwise_isBlocked_table :
    Delimiter.table.Pairwise fun earlier later =>
      (earlier = canonicalPair .trapezoid ∧ later = canonicalPair .parallelogram) ∨
        isBlocked earlier.opening later.opening = true := by
  decide

/-- The trapezoid does not fit a raw label that a parallelogram closes. -/
theorem between?_trapezoid_raw_eq_none
    {bracket : RawBracket}
    (h : bracket.delimiter = canonicalPair .parallelogram)
    (rest : List Char) :
    between? (canonicalPair .trapezoid) (bracket.text ++ rest) = none := by
  have hbracket : ']' ∉ bracket.label.text :=
    fun hmem => absurd (bracket.label.plain ']' hmem) (by decide)
  rw [RawBracket.text, h, List.append_assoc, List.append_assoc,
    show (canonicalPair .parallelogram).opening = (canonicalPair .trapezoid).opening from rfl,
    between?_opening, quotedBefore?_raw]
  exact unquoted?_trapezoid_eq_none hbracket rest

/-- A bracket is read as the pair that was written, and its text goes on right behind it. -/
theorem bracket?_raw
    (bracket : RawBracket) (rest : List Char) :
    bracket? (bracket.text ++ rest) = some (bracket.bracket, rest) := by
  obtain ⟨earlier, later, hsplit⟩ := List.append_of_mem bracket.listed
  have hblocked := pairwise_isBlocked_table
  rw [hsplit, List.pairwise_append] at hblocked
  refine bracket?_of_split hsplit ?_ (between?_raw bracket rest)
  intro pair hpair
  rcases hblocked.2.2 pair hpair bracket.delimiter List.mem_cons_self with ⟨rfl, hshape⟩ | hblocks
  · exact between?_trapezoid_raw_eq_none hshape rest
  · obtain ⟨c, others, hcons, hc, _⟩ := bracket.label.exists_cons
    apply between?_eq_none_of_opening
    rw [RawBracket.text, hcons, List.append_assoc, List.cons_append, List.cons_append]
    exact dropLiteral?_eq_none_of_isBlocked hblocks hc _

end Brackets

section Seams

variable {c : Char} {rest : List Char}

/-- Whether a text goes on like a chain behind a mention, with a gap or an arrow, or is over. -/
def IsSeam (rest : List Char) : Prop :=
  ∀ c ∈ rest.head?, isGap c = true ∨ isArrowChar c = true

theorem isArrowChar_of_isIdentifierChar
    (h : isIdentifierChar c = true) :
    isArrowChar c = false := by
  rw [Bool.eq_false_iff]
  intro harrow
  rw [isIdentifierChar_of_isArrowChar harrow] at h
  cases h

theorem isArrowChar_of_isGap
    (h : isGap c = true) :
    isArrowChar c = false := by
  rw [Bool.eq_false_iff]
  intro harrow
  rw [isGap_of_isArrowChar harrow] at h
  cases h

/-- No identifier and no opener goes on with what follows a mention. -/
theorem IsSeam.not_isIdentifierChar
    (h : IsSeam rest) :
    ∀ c ∈ rest.head?, isIdentifierChar c = false := by
  intro c hc
  rcases h c hc with hgap | harrow
  · exact isIdentifierChar_of_isBlank (isBlank_of_isGap hgap)
  · exact isIdentifierChar_of_isArrowChar harrow

/-- An opener of the table starts with a bracket, which is part of no name, no gap, no arrow and no
keyword. -/
theorem exists_cons_opening_of_mem
    {pair : Delimiter}
    (h : pair ∈ Delimiter.table) :
    ∃ c others,
      pair.opening = c :: others ∧
      isIdentifierChar c = false ∧
      isGap c = false ∧
      isArrowChar c = false ∧
      ("subgraph".toList.all fun w => !sameLetter w c) = true := by
  fin_cases h <;>
    exact ⟨_, _, rfl, by decide, by decide, by decide, by decide⟩

theorem IsSeam.bracket?_eq_none
    (h : IsSeam rest) :
    bracket? rest = none := by
  unfold bracket?
  rw [List.findSome?_eq_none_iff]
  intro pair hpair
  obtain ⟨c, others, hopening, _, hgap, harrow, _⟩ := exists_cons_opening_of_mem hpair
  have hnone : dropLiteral? pair.opening rest = none := by
    rw [Option.eq_none_iff_forall_ne_some]
    intro after hsome
    rw [dropLiteral?_eq_some_iff, hopening] at hsome
    subst hsome
    rcases h c rfl with hgap' | harrow'
    · rw [hgap] at hgap'
      cases hgap'
    · rw [harrow] at harrow'
      cases harrow'
  rw [between?_eq_none_of_opening hnone]
  rfl

theorem ne_nil_of_isArrow
    {run : List Char}
    (h : isArrow run = true) :
    run ≠ [] := by
  rintro rfl
  cases h

theorem RawLink.arrow_ne_nil
    (link : RawLink) :
    link.arrow ≠ [] :=
  ne_nil_of_isArrow link.isArrow

theorem RawLink.head_arrow
    (link : RawLink) (rest : List Char) :
    ∀ c ∈ (link.arrow ++ rest).head?, isArrowChar c = true :=
  forall_mem_head?_append_of_ne_nil link.arrow_ne_nil link.chars rest

theorem isSeam_link
    (link : RawLink) (rest : List Char) :
    IsSeam (link.text ++ rest) := by
  rw [RawLink.text, List.append_assoc, List.append_assoc]
  apply forall_mem_head?_append
  · exact fun c hc => Or.inl (link.before.isGap c hc)
  · exact fun c hc => Or.inr (link.head_arrow _ c hc)

theorem isSeam_links
    (links : List RawLink) :
    IsSeam (links.flatMap RawLink.text) := by
  cases links with
  | nil =>
      rintro c ⟨⟩
  | cons link links =>
      exact isSeam_link link _

end Seams

section Mentions

variable {rest : List Char}

/-- The first character of a bracket is its opener's. -/
theorem RawBracket.exists_cons
    (bracket : RawBracket) (rest : List Char) :
    ∃ c others,
      bracket.text ++ rest = c :: others ∧
      isIdentifierChar c = false ∧
      isGap c = false ∧
      ("subgraph".toList.all fun w => !sameLetter w c) = true := by
  obtain ⟨c, others, hopening, hname, hgap, _, hkeyword⟩ :=
    exists_cons_opening_of_mem bracket.listed
  exact ⟨c, _, by rw [RawBracket.text, hopening]; rfl, hname, hgap, hkeyword⟩

theorem RawReference.text_bracketed
    {reference : RawReference} {bracket : RawBracket}
    (h : reference.bracket = some bracket) :
    reference.text = reference.name ++ bracket.text := by
  rw [RawReference.text, h]

theorem RawReference.text_bare
    {reference : RawReference}
    (h : reference.bracket = none) :
    reference.text = reference.name := by
  rw [RawReference.text, h]

/-- A mention with delimiters is read as it was written, whatever follows it. -/
theorem reference?_raw_bracketed
    {reference : RawReference} {bracket : RawBracket}
    (h : reference.bracket = some bracket)
    (rest : List Char) :
    reference? (reference.text ++ rest) = some (reference.reference, rest) := by
  have hhead : ∀ x ∈ (bracket.text ++ rest).head?, isIdentifierChar x = false := by
    obtain ⟨c, others, hcons, hc, _⟩ := bracket.exists_cons rest
    rw [hcons]
    rintro x ⟨⟩
    exact hc
  rw [RawReference.text_bracketed h, List.append_assoc,
    reference?_bracketed reference.isName hhead (bracket?_raw bracket rest)]
  simp [RawReference.reference, h]

/-- A mention is read as it was written when a chain goes on or is over behind it. -/
theorem reference?_raw
    (reference : RawReference)
    (hrest : IsSeam rest) :
    reference? (reference.text ++ rest) = some (reference.reference, rest) := by
  cases hbracket : reference.bracket with
  | none =>
      rw [RawReference.text_bare hbracket,
        reference?_bare reference.isName hrest.not_isIdentifierChar hrest.bracket?_eq_none]
      simp [RawReference.reference, hbracket, Reference.bare]
  | some bracket =>
      exact reference?_raw_bracketed hbracket rest

/-- A mention starts with its id. -/
theorem RawReference.head_text
    (reference : RawReference) (rest : List Char) :
    ∀ c ∈ (reference.text ++ rest).head?, isIdentifierChar c = true := by
  have hname : ∀ more : List Char, ∀ c ∈ (reference.name ++ more).head?,
      isIdentifierChar c = true := by
    intro more
    obtain ⟨d, others, hcons, hd⟩ := exists_cons_of_isIdentifier reference.isName
    rw [hcons]
    rintro c ⟨⟩
    exact hd
  cases hbracket : reference.bracket with
  | none =>
      rw [RawReference.text_bare hbracket]
      exact hname rest
  | some bracket =>
      rw [RawReference.text_bracketed hbracket, List.append_assoc]
      exact hname (bracket.text ++ rest)

end Mentions

section Links

variable {rest : List Char}

/-- An arrow is read up to the label or the mention behind it. -/
theorem arrow?_raw
    (link : RawLink) (rest : List Char) :
    arrow? (link.arrow ++ (link.labelText ++ (link.target.text ++ rest))) =
      some (EdgeStyle.classify link.arrow, link.labelText ++ (link.target.text ++ rest)) := by
  have hgap : ∀ gap : Gap, ∀ c ∈ gap.text, isArrowChar c = false :=
    fun gap c hc => isArrowChar_of_isGap (gap.isGap c hc)
  have htarget : ∀ c ∈ (link.target.text ++ rest).head?, isArrowChar c = false :=
    fun c hc => isArrowChar_of_isIdentifierChar (link.target.head_text rest c hc)
  apply arrow?_append link.chars link.isArrow
  unfold RawLink.labelText
  cases link.label with
  | none =>
      rw [List.append_assoc]
      exact forall_mem_head?_append (hgap link.between)
        (forall_mem_head?_append (hgap link.after) htarget)
  | some label =>
      rw [List.append_assoc]
      apply forall_mem_head?_append (hgap link.between)
      rintro c ⟨⟩
      rfl

/-- Behind an arrow the label of a link is read, if it has one, and then the target is next. -/
theorem optionalEdgeLabel_raw
    (link : RawLink) {target : List Char}
    (htarget : ∀ c ∈ target.head?, isIdentifierChar c = true) :
    ∃ left : List Char,
      optionalEdgeLabel (skipGap (link.labelText ++ target)) =
        (link.label.map RawLabel.decoded, left) ∧
      skipGap left = target := by
  have hstart : ∀ c ∈ target.head?, isGap c = false :=
    fun c hc => isGap_of_isIdentifierChar (htarget c hc)
  cases hlabel : link.label with
  | none =>
      have hgaps : ∀ c ∈ link.between.text ++ link.after.text, isGap c = true := by
        intro c hc
        rcases List.mem_append.mp hc with hc | hc
        · exact link.between.isGap c hc
        · exact link.after.isGap c hc
      have hnone : edgeLabel? target = none := by
        cases target with
        | nil =>
            rfl
        | cons c others =>
            have hbar : c ≠ '|' := by
              rintro rfl
              exact absurd (htarget '|' rfl) (by decide)
            unfold edgeLabel?
            split
            · rename_i heq
              exact absurd (List.cons.inj heq).1 hbar
            · rfl
      refine ⟨target, ?_, by simpa using skipGap_append (List.forall_mem_nil _) hstart⟩
      rw [RawLink.labelText, hlabel]
      simp only [skipGap_append hgaps hstart, optionalEdgeLabel, hnone, Option.map_none]
  | some label =>
      refine ⟨link.after.text ++ target, ?_, skipGap_append link.after.isGap hstart⟩
      have hbar : '|' ∉ label.text := fun hmem => absurd (label.plain '|' hmem) (by decide)
      have hread :
          quotedOr? '|' (label.text ++ '|' :: (link.after.text ++ target)) =
            some (label.text, '|' :: (link.after.text ++ target)) := by
        simp [quotedOr?, quoted?_raw, takeUntil?_append hbar label.ne_nil]
      have hrest : dropLiteral? "|".toList ('|' :: (link.after.text ++ target)) =
          some (link.after.text ++ target) :=
        dropLiteral?_append ['|'] _
      have hskip : skipGap (link.labelText ++ target) =
          '|' :: (label.text ++ '|' :: (link.after.text ++ target)) := by
        rw [RawLink.labelText, hlabel]
        simp only [List.append_assoc, List.cons_append]
        exact skipGap_append link.between.isGap (by rintro c ⟨⟩; rfl)
      rw [hskip]
      simp only [optionalEdgeLabel, edgeLabel?, hread, hrest, Option.bind_eq_bind,
        Option.bind_some, Option.map_some, RawLabel.decoded]

theorem skipGap_link
    (link : RawLink) (rest : List Char) :
    skipGap (link.text ++ rest) =
      link.arrow ++ (link.labelText ++ (link.target.text ++ rest)) := by
  rw [RawLink.text, List.append_assoc, List.append_assoc, List.append_assoc]
  exact skipGap_append link.before.isGap fun c hc => isGap_of_isArrowChar (link.head_arrow _ c hc)

/-- A link is read as it was written when the chain goes on or is over behind it. -/
theorem link?_raw
    (link : RawLink)
    (hrest : IsSeam rest) :
    link? (link.text ++ rest) = some (link.link, rest) := by
  obtain ⟨left, hlabel, hleft⟩ := optionalEdgeLabel_raw link (link.target.head_text rest)
  simp only [link?, skipGap_link, arrow?_raw, Option.bind_eq_bind, Option.bind_some, hlabel, hleft,
    reference?_raw link.target hrest]
  rfl

/-- The links of a chain are read one after the other. -/
theorem links_raw
    (rawLinks : List RawLink) :
    links (rawLinks.flatMap RawLink.text) = rawLinks.map RawLink.link := by
  induction rawLinks with
  | nil =>
      exact links_nil
  | cons link rawLinks ih =>
      rw [List.flatMap_cons, links_of_link? (link?_raw link (isSeam_links rawLinks)), ih,
        List.map_cons]

end Links

section Lines

theorem chain?_raw
    (chain : RawChain) :
    chain? chain.text = some chain.statement := by
  simp [chain?, RawChain.text, reference?_raw chain.head (isSeam_links chain.links), links_raw,
    chain.ne_nil, RawChain.statement]

/-- The line of a chain opens no subgraph, also if its first id is the keyword: what follows the
keyword is a bracket, or an arrow with a gap before it or none. -/
theorem openSubgraph?_raw
    (chain : RawChain) :
    openSubgraph? chain.text = none := by
  cases hbracket : chain.head.bracket with
  | some bracket =>
      obtain ⟨c, others, hcons, _, hgap, hkeyword⟩ :=
        bracket.exists_cons (chain.links.flatMap RawLink.text)
      rw [RawChain.text, RawReference.text_bracketed hbracket, List.append_assoc, hcons]
      exact openSubgraph?_eq_none chain.head.isName hkeyword (Or.inl hgap)
  | none =>
      obtain ⟨link, links, hlinks⟩ := List.exists_cons_of_ne_nil chain.ne_nil
      have hnone : takeIdentifier? (skipGap (chain.links.flatMap RawLink.text)) = none := by
        rw [hlinks, List.flatMap_cons, skipGap_link]
        exact takeIdentifier?_eq_none fun c hc =>
          isIdentifierChar_of_isArrowChar (link.head_arrow _ c hc)
      have hseam := isSeam_links chain.links
      rw [RawChain.text, RawReference.text_bare hbracket]
      cases htext : chain.links.flatMap RawLink.text with
      | nil =>
          rw [hlinks, List.flatMap_cons, RawLink.text] at htext
          simp [link.arrow_ne_nil] at htext
      | cons c others =>
          rw [htext] at hnone hseam
          refine openSubgraph?_eq_none chain.head.isName ?_ (Or.inr hnone)
          rcases hseam c rfl with hgap | harrow
          · simp only [isGap, Bool.or_eq_true, beq_iff_eq] at hgap
            rcases hgap with rfl | rfl <;> decide
          · rcases eq_of_isArrowChar harrow with rfl | rfl | rfl | rfl <;> decide

/-- The line of a chain closes no subgraph, as it holds an arrow. -/
theorem closeSubgraph?_raw
    (chain : RawChain) :
    closeSubgraph? chain.text = none := by
  obtain ⟨link, hlink⟩ := List.exists_mem_of_ne_nil chain.links chain.ne_nil
  obtain ⟨c, hc⟩ := List.exists_mem_of_ne_nil link.arrow link.arrow_ne_nil
  have hmem : c ∈ chain.text := by
    have htext : c ∈ link.text := by
      simp [RawLink.text, hc]
    exact List.mem_append_right _ (List.mem_flatMap.mpr ⟨link, hlink, htext⟩)
  apply closeSubgraph?_eq_none hmem
  rcases eq_of_isArrowChar (link.chars c hc) with rfl | rfl | rfl | rfl <;> decide

/-- The line of a chain is read as what the chain says. -/
theorem ofLine?_raw
    (chain : RawChain) :
    ofLine? chain.text = some chain.statement := by
  simp [ofLine?, openSubgraph?_raw, closeSubgraph?_raw, chain?_raw]

end Lines

end Statement
end FlowchartSync
