import FlowchartSync.Diagram.Reading
import FlowchartSync.Proofs.Text.Lines
import Mathlib.Logic.Relation

/-!
# Formatting says nothing

A text can be formatted without a change of what it says (`Reformats`):

* the white space at either end of a line may be any other;
* a line that is blank, or starts with a percent sign behind its white space, may stand anywhere;
* a comment may follow any line after white space;
* a line that makes no statement may stand anywhere behind the first meaningful line.

The first three leave the meaningful lines as they are, because a line is cut at its comment before
it is trimmed and looked at (`content_between`, `content_comment`, `not_isMeaningful_content`).  The
last adds a meaningful line, but never the first one, and its statement is skipped.  So any number
of such changes on any lines leaves the same declaration and the same statements
(`SaysSame.of_reformats`), and the diagram stays what it was (`ofText_eq_of_reformatted`).
-/

namespace FlowchartSync

namespace Text

/-- What a line carries: the line without its comment and surrounding white space. -/
def content (line : List Char) : List Char :=
  trim (cutComment line)

section Content

variable {space line rest : List Char}

theorem content_space_append
    (hspace : ∀ c ∈ space, isBlank c = true)
    (line : List Char) :
    content (space ++ line) = content line := by
  rw [content, cutComment_append (not_mem_of_forall_isBlank rfl hspace), trim_space_append hspace]
  rfl

/-- What follows a line carries nothing if it is white space up to its comment. -/
theorem content_append
    (hhead : ∀ c ∈ rest.head?, c ≠ '%')
    (hrest : ∀ c ∈ cutComment rest, isBlank c = true)
    (line : List Char) :
    content (line ++ rest) = content line := by
  by_cases hmark : "%%".toList <:+: line
  · rw [content, cutComment_append_of_infix hmark]
    rfl
  · cases rest with
    | nil =>
        rw [List.append_nil]
    | cons c rest =>
        rw [content, cutComment_append_cons hmark (hhead c rfl), trim_append_space hrest, content,
          cutComment_eq_self_iff.mpr hmark]

/-- White space on either side of a line carries nothing. -/
theorem content_between
    {trailing : List Char}
    (hspace : ∀ c ∈ space, isBlank c = true)
    (htrailing : ∀ c ∈ trailing, isBlank c = true)
    (line : List Char) :
    content (space ++ (line ++ trailing)) = content line := by
  rw [content_space_append hspace]
  apply content_append
  · rintro c hc rfl
    exact not_mem_of_forall_isBlank rfl htrailing (List.mem_of_mem_head? hc)
  · rwa [cutComment_of_not_mem (not_mem_of_forall_isBlank rfl htrailing)]

/-- A comment after white space carries nothing. -/
theorem content_comment
    {c : Char}
    (hc : isBlank c = true)
    (line comment : List Char) :
    content (line ++ c :: ("%%".toList ++ comment)) = content line := by
  have hne : c ≠ '%' := by
    rintro rfl
    exact absurd hc (by decide)
  apply content_append
  · rintro d ⟨⟩
    exact hne
  · have hcut : cutComment (c :: ("%%".toList ++ comment)) = [c] := by
      simp [cutComment, hne]
    rw [hcut]
    simpa using hc

/-- Whether a line is blank, or starts with a percent sign behind its white space. -/
def IsSilent (line : List Char) : Prop :=
  ∀ c ∈ (trimStart line).head?, c = '%'

theorem not_isMeaningful_content
    (h : IsSilent line) :
    isMeaningful (content line) = false := by
  have hsplit : line.takeWhile isBlank ++ trimStart line = line :=
    List.takeWhile_append_dropWhile
  rw [← hsplit, content_space_append fun c hc => List.mem_takeWhile_imp hc]
  unfold IsSilent at h
  cases hstart : trimStart line with
  | nil =>
      rfl
  | cons c rest =>
      rw [hstart] at h
      obtain rfl : c = '%' := h c rfl
      -- A second percent sign makes a comment of it, and without one it is a directive.
      rw [content, cutComment]
      split_ifs with hmark
      · rfl
      · obtain ⟨after, htrim⟩ := exists_trim_cons (c := '%') rfl (cutComment rest)
        rw [htrim]
        rfl

end Content

/-- The meaningful lines among some lines. -/
def meaningfulLines (lines : List (List Char)) : List (List Char) :=
  (lines.map content).filter isMeaningful

theorem meaningfulLines_append
    (lines others : List (List Char)) :
    meaningfulLines (lines ++ others) = meaningfulLines lines ++ meaningfulLines others := by
  rw [meaningfulLines, List.map_append, List.filter_append]
  rfl

theorem meaningfulLines_cons
    (line : List Char) (lines : List (List Char)) :
    meaningfulLines (line :: lines) =
      if isMeaningful (content line) then content line :: meaningfulLines lines
      else meaningfulLines lines := by
  rw [meaningfulLines, List.map_cons, List.filter_cons]
  rfl

end Text

namespace Diagram

open Text

/-- One change of the lines of a text that says nothing.  A comment that follows a line behind a
line feed is a silent line of its own. -/
inductive Reformats : List (List Char) → List (List Char) → Prop
  | spacing
      (before after : List (List Char))
      {leading leading' trailing trailing' : List Char}
      (line : List Char)
      (hleading : ∀ c ∈ leading, isBlank c = true)
      (htrailing : ∀ c ∈ trailing, isBlank c = true)
      (hleading' : ∀ c ∈ leading', isBlank c = true ∧ c ≠ '\n')
      (htrailing' : ∀ c ∈ trailing', isBlank c = true ∧ c ≠ '\n') :
      Reformats (before ++ (leading ++ (line ++ trailing)) :: after)
        (before ++ (leading' ++ (line ++ trailing')) :: after)
  | silent
      (before after : List (List Char))
      {line : List Char}
      (hline : '\n' ∉ line)
      (hsilent : IsSilent line) :
      Reformats (before ++ after) (before ++ line :: after)
  | comment
      (before after : List (List Char))
      (line : List Char)
      {c : Char} {comment : List Char}
      (hblank : isBlank c = true)
      (hc : c ≠ '\n')
      (hcomment : '\n' ∉ comment) :
      Reformats (before ++ line :: after)
        (before ++ (line ++ c :: ("%%".toList ++ comment)) :: after)
  | stray
      (before after : List (List Char))
      {line : List Char}
      (hbefore : ∃ first ∈ before, isMeaningful (content first) = true)
      (hline : '\n' ∉ line)
      (hstray : Statement.ofLine? (content line) = none) :
      Reformats (before ++ after) (before ++ line :: after)

/-- Whether a text is another one after any number of such changes. -/
def Reformatted (text other : String) : Prop :=
  ∃ lines : List (List Char),
    Relation.ReflTransGen Reformats (splitLines text.toList) lines ∧
    other.toList = joinLines lines

/-- Whether meaningful lines declare the same and make the same statements. -/
structure SaysSame (lines others : List (List Char)) : Prop where
  declaration : others.head? = lines.head?
  statements : statements others.tail = statements lines.tail

namespace SaysSame

variable {lines others : List (List Char)}

theorem trans
    {further : List (List Char)}
    (h : SaysSame lines others)
    (hfurther : SaysSame others further) :
    SaysSame lines further :=
  ⟨hfurther.declaration.trans h.declaration, hfurther.statements.trans h.statements⟩

theorem ofLines_eq
    (h : SaysSame lines others) :
    ofLines others = ofLines lines := by
  obtain ⟨hdeclaration, hstatements⟩ := h
  cases lines with
  | nil =>
      cases others with
      | nil =>
          rfl
      | cons other others =>
          cases hdeclaration
  | cons line lines =>
      cases others with
      | nil =>
          cases hdeclaration
      | cons other others =>
          cases hdeclaration
          rw [List.tail_cons, List.tail_cons] at hstatements
          rw [ofLines, ofLines, hstatements]

/-- One change of the lines leaves the declaration and the statements. -/
theorem of_reformats
    (h : Reformats lines others) :
    SaysSame (meaningfulLines lines) (meaningfulLines others) := by
  cases h with
  | spacing before after line hleading htrailing hleading' htrailing' =>
      have hcontent := content_between (fun c hc => (hleading' c hc).1)
        (fun c hc => (htrailing' c hc).1) line
      simp only [meaningfulLines_append, meaningfulLines_cons, hcontent,
        content_between hleading htrailing]
      exact ⟨rfl, rfl⟩
  | silent before after hline hsilent =>
      simp only [meaningfulLines_append, meaningfulLines_cons, not_isMeaningful_content hsilent]
      exact ⟨rfl, rfl⟩
  | comment before after line hblank hc hcomment =>
      simp only [meaningfulLines_append, meaningfulLines_cons, content_comment hblank]
      exact ⟨rfl, rfl⟩
  | stray before after hbefore hline hstray =>
      -- The declaration stands in front of the added line, which therefore is a statement line.
      obtain ⟨first, hfirst, hmeaningful⟩ := hbefore
      have hmem : content first ∈ meaningfulLines before :=
        List.mem_filter.mpr ⟨List.mem_map_of_mem hfirst, hmeaningful⟩
      obtain ⟨declared, front, hfront⟩ := List.exists_cons_of_ne_nil (List.ne_nil_of_mem hmem)
      simp only [meaningfulLines_append, meaningfulLines_cons, hfront, List.cons_append]
      refine ⟨rfl, ?_⟩
      rw [List.tail_cons, List.tail_cons]
      split_ifs
      · rw [Diagram.statements, List.filterMap_append, List.filterMap_cons, hstray,
          ← List.filterMap_append]
        rfl
      · rfl

end SaysSame

/-- Whether lines are those of a text: there is one, and no line feed stands in any. -/
def IsSplit (lines : List (List Char)) : Prop :=
  lines ≠ [] ∧ ∀ line ∈ lines, '\n' ∉ line

theorem isSplit_append_cons
    {before after : List (List Char)} {line : List Char} :
    IsSplit (before ++ line :: after)
      ↔
    (∀ other ∈ before, '\n' ∉ other) ∧ '\n' ∉ line ∧ ∀ other ∈ after, '\n' ∉ other := by
  rw [IsSplit, List.forall_mem_append, List.forall_mem_cons]
  exact and_iff_right (by simp)

theorem IsSplit.of_reformats
    {lines others : List (List Char)}
    (hsplit : IsSplit lines)
    (h : Reformats lines others) :
    IsSplit others := by
  cases h with
  | spacing before after line hleading htrailing hleading' htrailing' =>
      rw [isSplit_append_cons] at hsplit ⊢
      obtain ⟨hbefore, hold, hafter⟩ := hsplit
      refine ⟨hbefore, ?_, hafter⟩
      simp only [List.mem_append, not_or] at hold ⊢
      exact ⟨fun hmem => (hleading' _ hmem).2 rfl, hold.2.1,
        fun hmem => (htrailing' _ hmem).2 rfl⟩
  | silent before after hline hsilent =>
      obtain ⟨hbefore, hafter⟩ := List.forall_mem_append.mp hsplit.2
      exact isSplit_append_cons.mpr ⟨hbefore, hline, hafter⟩
  | comment before after line hblank hc hcomment =>
      rw [isSplit_append_cons] at hsplit ⊢
      obtain ⟨hbefore, hline, hafter⟩ := hsplit
      refine ⟨hbefore, ?_, hafter⟩
      simp [hline, hc.symm, hcomment]
  | stray before after hbefore hline hstray =>
      obtain ⟨hfront, hafter⟩ := List.forall_mem_append.mp hsplit.2
      exact isSplit_append_cons.mpr ⟨hfront, hline, hafter⟩

/-- Any number of changes of the lines of a text leaves lines of a text, and what they say. -/
theorem isSplit_and_saysSame_of_reflTransGen
    {lines others : List (List Char)}
    (hsplit : IsSplit lines)
    (h : Relation.ReflTransGen Reformats lines others) :
    IsSplit others ∧ SaysSame (meaningfulLines lines) (meaningfulLines others) := by
  induction h with
  | refl =>
      exact ⟨hsplit, rfl, rfl⟩
  | tail _ hlast ih =>
      exact ⟨ih.1.of_reformats hlast, ih.2.trans (SaysSame.of_reformats hlast)⟩

theorem saysSame_of_reformatted
    {text other : String}
    (h : Reformatted text other) :
    SaysSame (contentLines text.toList) (contentLines other.toList) := by
  obtain ⟨lines, hlines, hother⟩ := h
  have hopened : IsSplit (splitLines text.toList) := pieces_spec '\n' text.toList
  obtain ⟨hsplit, hsame⟩ := isSplit_and_saysSame_of_reflTransGen hopened hlines
  have hread : splitLines other.toList = lines := by
    rw [hother]
    exact splitLines_joinLines hsplit.1 hsplit.2
  rw [← hread] at hsame
  exact hsame

/-- Whether a text declares a flowchart is read from its first meaningful line. -/
theorem declares_eq_any_head?
    (text : String) :
    declares text =
      (contentLines text.toList).head?.any fun first => (declaration? first).isSome := by
  unfold declares
  cases contentLines text.toList <;> rfl

/-- Formatting changes neither the diagram of a text nor whether it can be edited. -/
theorem ofText_eq_of_reformatted
    {text other : String}
    (h : Reformatted text other) :
    ofText other = ofText text ∧ declares other = declares text := by
  have hsame := saysSame_of_reformatted h
  refine ⟨hsame.ofLines_eq, ?_⟩
  rw [declares_eq_any_head?, declares_eq_any_head?, hsame.declaration]

def bareText : String :=
  "graph TD\nsubgraph S\nA --> B\nend\nC[x]"

/-- The same text with a directive before the declaration, other white space around it, a comment
behind the chain, and a line that is almost the end of the subgraph. -/
def dressedText : String :=
  "% note\n\u00a0graph TD\r\nsubgraph S\nA --> B\t%%%b\nend.\nend\nC[x]"

def bareLines : List (List Char) :=
  ["graph TD".toList, "subgraph S".toList, "A --> B".toList, "end".toList, "C[x]".toList]

def dressedLines : List (List Char) :=
  ["% note".toList, "\u00a0graph TD\r".toList, "subgraph S".toList, "A --> B\t%%%b".toList,
    "end.".toList, "end".toList, "C[x]".toList]

theorem ofText_dressedText :
    Reformatted bareText dressedText ∧
    ofText dressedText = ofText bareText ∧
    declares dressedText = declares bareText ∧
    (ofText bareText).subgraphs = [⟨"S", none, ["A", "B"]⟩] := by
  have hsplit : splitLines bareText.toList = bareLines := by decide +kernel
  have hjoin : dressedText.toList = joinLines dressedLines := by decide +kernel
  have hdirective : Reformats bareLines ("% note".toList :: bareLines) :=
    .silent [] bareLines (by decide) (by rintro _ ⟨⟩; rfl)
  have hspaces : Reformats ("% note".toList :: bareLines)
      ("% note".toList :: "\u00a0graph TD\r".toList :: bareLines.tail) :=
    @Reformats.spacing ["% note".toList] bareLines.tail [] ['\u00a0'] [] ['\r'] "graph TD".toList
      (by simp) (by simp) (List.forall_mem_singleton.mpr (by decide))
      (List.forall_mem_singleton.mpr (by decide))
  have hcomment : Reformats ("% note".toList :: "\u00a0graph TD\r".toList :: bareLines.tail)
      (dressedLines.take 4 ++ ["end".toList, "C[x]".toList]) :=
    @Reformats.comment (dressedLines.take 3) ["end".toList, "C[x]".toList] "A --> B".toList '\t'
      "%b".toList rfl (by decide) (by decide)
  have hstray : Reformats (dressedLines.take 4 ++ ["end".toList, "C[x]".toList]) dressedLines :=
    @Reformats.stray (dressedLines.take 4) ["end".toList, "C[x]".toList] "end.".toList
      ⟨"\u00a0graph TD\r".toList, by decide, by decide⟩ (by decide) (by decide +kernel)
  have hreformatted : Reformatted bareText dressedText := by
    refine ⟨dressedLines, ?_, hjoin⟩
    rw [hsplit]
    exact (((Relation.ReflTransGen.single hdirective).tail hspaces).tail hcomment).tail hstray
  obtain ⟨hread, hdeclares⟩ := ofText_eq_of_reformatted hreformatted
  exact ⟨hreformatted, hread, hdeclares, by decide +kernel⟩

end Diagram
end FlowchartSync
