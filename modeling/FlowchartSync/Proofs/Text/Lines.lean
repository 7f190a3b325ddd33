import FlowchartSync.Proofs.Text.Span
import FlowchartSync.Proofs.Text.Trimming
import FlowchartSync.Text.Lines
import Mathlib.Algebra.GroupWithZero.Nat

/-!
# Lines that are written and read

Lines joined by line feeds are split into the same lines again (`splitLines_joinLines`).  A line
that is content as it stands, with white space before it or not, is read as just that content
(`trim_cutComment_append`).
-/

namespace FlowchartSync.Text

section Splitting

variable {separator : Char} {line : List Char}

/-- A piece without the separator is the first piece of a text that goes on with it. -/
theorem pieces_append
    (hline : separator ∉ line)
    (rest : List Char) :
    pieces separator (line ++ separator :: rest) = line :: pieces separator rest := by
  induction line with
  | nil =>
      simp [pieces]
  | cons c line ih =>
      rw [List.mem_cons, not_or] at hline
      rw [List.cons_append, pieces, if_neg (Ne.symm hline.1), ih hline.2]

theorem pieces_of_not_mem
    (hline : separator ∉ line) :
    pieces separator line = [line] := by
  induction line with
  | nil =>
      rfl
  | cons c line ih =>
      rw [List.mem_cons, not_or] at hline
      rw [pieces, if_neg (Ne.symm hline.1), ih hline.2]

/-- What stands in front of a text without the separator is the front of its first piece. -/
theorem pieces_append_of_pieces
    {text piece : List Char} {others : List (List Char)}
    (hline : separator ∉ line)
    (htext : pieces separator text = piece :: others) :
    pieces separator (line ++ text) = (line ++ piece) :: others := by
  induction line with
  | nil =>
      exact htext
  | cons c line ih =>
      rw [List.mem_cons, not_or] at hline
      rw [List.cons_append, pieces, if_neg (Ne.symm hline.1), ih hline.2]
      rfl

/-- A text has pieces, and the separator stands in none of them. -/
theorem pieces_spec
    (separator : Char) (text : List Char) :
    pieces separator text ≠ [] ∧ ∀ piece ∈ pieces separator text, separator ∉ piece := by
  induction text with
  | nil =>
      simp [pieces]
  | cons c text ih =>
      rw [pieces]
      split_ifs with hc
      · exact ⟨List.cons_ne_nil _ _, List.forall_mem_cons.mpr ⟨List.not_mem_nil, ih.2⟩⟩
      · obtain ⟨piece, others, hpieces⟩ := List.exists_cons_of_ne_nil ih.1
        rw [hpieces, List.forall_mem_cons] at ih
        rw [hpieces]
        refine ⟨List.cons_ne_nil _ _, List.forall_mem_cons.mpr ⟨?_, ih.2.2⟩⟩
        rw [List.mem_cons, not_or]
        exact ⟨Ne.symm hc, ih.2.1⟩

/-- A separator ends a piece wherever it stands. -/
theorem pieces_append_cons
    (front rest : List Char) :
    pieces separator (front ++ separator :: rest) =
      pieces separator front ++ pieces separator rest := by
  induction front with
  | nil =>
      simp [pieces]
  | cons c front ih =>
      obtain ⟨piece, others, hpieces⟩ :=
        List.exists_cons_of_ne_nil (pieces_spec separator front).1
      rw [List.cons_append, pieces, pieces, ih, hpieces]
      split_ifs <;> rfl

theorem exists_last_separator
    {text : List Char}
    (h : separator ∈ text) :
    ∃ front last, text = front ++ separator :: last ∧ separator ∉ last := by
  obtain ⟨last, front, hsplit, hlast⟩ :=
    List.eq_append_cons_of_mem (List.mem_reverse.mpr h)
  refine ⟨front.reverse, last.reverse, ?_, by rwa [List.mem_reverse]⟩
  rw [← List.reverse_reverse text, hsplit]
  simp

/-- What follows a text goes on with its last piece, up to the next separator.  That piece is empty
just when the text is empty or ends in a separator. -/
theorem exists_pieces_append
    (separator : Char) (text : List Char) :
    ∃ others last,
      (∀ rest, separator ∉ rest → pieces separator (text ++ rest) = others ++ [last ++ rest]) ∧
      (last = [] ↔ text = [] ∨ text.getLast? = some separator) := by
  by_cases hmem : separator ∈ text
  · obtain ⟨front, last, rfl, hlast⟩ := exists_last_separator hmem
    refine ⟨pieces separator front, last, fun rest hrest => ?_, ?_⟩
    · have hrun : separator ∉ last ++ rest := by
        rw [List.mem_append, not_or]
        exact ⟨hlast, hrest⟩
      rw [List.append_assoc, List.cons_append, pieces_append_cons, pieces_of_not_mem hrun]
    · cases last with
      | nil =>
          simp
      | cons c last =>
          rw [List.getLast?_append_cons, List.getLast?_cons_cons]
          simpa using fun hend => hlast (List.mem_of_mem_getLast? hend)
  · refine ⟨[], text, fun rest hrest => ?_, ?_⟩
    · have hrun : separator ∉ text ++ rest := by
        rw [List.mem_append, not_or]
        exact ⟨hmem, hrest⟩
      exact pieces_of_not_mem hrun
    · refine ⟨Or.inl, ?_⟩
      rintro (hnil | hend)
      · exact hnil
      · exact absurd (List.mem_of_mem_getLast? hend) hmem

/-- Joined lines are split where they were joined. -/
theorem splitLines_joinLines
    {lines : List (List Char)}
    (hne : lines ≠ [])
    (hlines : ∀ line ∈ lines, '\n' ∉ line) :
    splitLines (joinLines lines) = lines := by
  unfold splitLines
  induction lines with
  | nil =>
      exact absurd rfl hne
  | cons line lines ih =>
      rw [List.forall_mem_cons] at hlines
      cases lines with
      | nil =>
          exact pieces_of_not_mem hlines.1
      | cons next lines =>
          rw [joinLines, pieces_append hlines.1, ih (by simp) hlines.2]

/-- Lines that are joined are all but the last one ended by line feeds. -/
theorem joinLines_concat
    (lines : List (List Char)) (last : List Char) :
    joinLines (lines ++ [last]) = lines.flatMap (· ++ ['\n']) ++ last := by
  induction lines with
  | nil =>
      rfl
  | cons line lines ih =>
      obtain ⟨next, others, hcons⟩ :=
        List.exists_cons_of_ne_nil (List.append_ne_nil_of_right_ne_nil lines (by simp : [last] ≠ []))
      rw [List.cons_append, hcons, joinLines, ← hcons, ih]
      simp

/-- A text has one line more than line feeds. -/
theorem length_splitLines
    (text : List Char) :
    (splitLines text).length = text.count '\n' + 1 := by
  unfold splitLines
  induction text with
  | nil =>
      rfl
  | cons c text ih =>
      obtain ⟨piece, others, hpieces⟩ := List.exists_cons_of_ne_nil (pieces_spec '\n' text).1
      rw [pieces]
      split_ifs with hc
      · rw [List.length_cons, ih, hc, List.count_cons_self]
      · rw [List.count_cons_of_ne hc, ← ih, hpieces]
        rfl

/-- Joining some lines puts a line feed between any two of them. -/
theorem count_joinLines
    {lines : List (List Char)}
    (hne : lines ≠ []) :
    (joinLines lines).count '\n' + 1 = lines.length + (lines.map (List.count '\n')).sum := by
  induction lines with
  | nil =>
      exact absurd rfl hne
  | cons line lines ih =>
      cases lines with
      | nil =>
          simp [joinLines, Nat.add_comm]
      | cons next lines =>
          have hrest := ih (List.cons_ne_nil next lines)
          rw [joinLines, List.count_append, List.count_cons_self, List.map_cons, List.sum_cons,
            List.length_cons]
          omega

end Splitting

section Comments

/-- A text without percent signs is no comment, whatever follows it. -/
theorem cutComment_append
    {front : List Char}
    (hfront : '%' ∉ front)
    (rest : List Char) :
    cutComment (front ++ rest) = front ++ cutComment rest := by
  induction front with
  | nil =>
      rfl
  | cons c front ih =>
      rw [List.mem_cons, not_or] at hfront
      have hc : ¬ (c = '%' ∧ (front ++ rest).head? = some '%') :=
        fun h => hfront.1 h.1.symm
      rw [List.cons_append, cutComment, if_neg hc, ih hfront.2, List.cons_append]

theorem cutComment_of_not_mem
    {line : List Char}
    (hline : '%' ∉ line) :
    cutComment line = line := by
  simpa [cutComment] using cutComment_append hline []

/-- A text without a comment mark is no comment in front of a character that starts none with it. -/
theorem cutComment_append_cons
    {front : List Char} {c : Char}
    (hfront : ¬ "%%".toList <:+: front)
    (hc : c ≠ '%')
    (rest : List Char) :
    cutComment (front ++ c :: rest) = front ++ cutComment (c :: rest) := by
  induction front with
  | nil =>
      rfl
  | cons d front ih =>
      have hrest : ¬ "%%".toList <:+: front :=
        fun h => hfront (h.trans (List.suffix_cons d front).isInfix)
      have hd : ¬ (d = '%' ∧ (front ++ c :: rest).head? = some '%') := by
        rintro ⟨rfl, hhead⟩
        cases front with
        | nil =>
            exact hc (Option.some.inj hhead)
        | cons e front =>
            obtain rfl : e = '%' := Option.some.inj hhead
            exact hfront ⟨[], front, rfl⟩
      rw [List.cons_append, cutComment, if_neg hd, ih hrest, List.cons_append]

/-- A comment mark starts at the front of a text or further on. -/
theorem commentMark_infix_cons
    {c : Char} {line : List Char} :
    "%%".toList <:+: c :: line
      ↔
    (c = '%' ∧ line.head? = some '%') ∨ "%%".toList <:+: line := by
  have hfront : "%%".toList <+: c :: line ↔ c = '%' ∧ line.head? = some '%' := by
    cases line <;> simp [List.cons_prefix_cons, eq_comm]
  rw [List.infix_cons_iff, hfront]

/-- A text stays as it is just when no comment mark stands in it. -/
theorem cutComment_eq_self_iff
    {line : List Char} :
    cutComment line = line ↔ ¬ "%%".toList <:+: line := by
  induction line with
  | nil =>
      simp [cutComment]
  | cons c line ih =>
      rw [cutComment, commentMark_infix_cons]
      split_ifs with hmark
      · simp [hmark]
      · simpa [hmark] using ih

/-- What follows a comment mark does not matter. -/
theorem cutComment_append_of_infix
    {line : List Char}
    (h : "%%".toList <:+: line)
    (rest : List Char) :
    cutComment (line ++ rest) = cutComment line := by
  induction line with
  | nil =>
      simp at h
  | cons c line ih =>
      rw [List.cons_append, cutComment, cutComment]
      rcases commentMark_infix_cons.mp h with hmark | hlater
      · rw [if_pos hmark, if_pos ⟨hmark.1, by simp [hmark.2]⟩]
      · have hhead : (line ++ rest).head? = line.head? := by
          cases line with
          | nil =>
              simp at hlater
          | cons d line =>
              rfl
        rw [hhead, ih hlater]

/-- A part of a line: it holds no line feed, and no comment starts in it, whatever follows it. -/
structure IsUnbroken (text : List Char) : Prop where
  feed : '\n' ∉ text
  uncut : ∀ rest, cutComment (text ++ rest) = text ++ cutComment rest

theorem isUnbroken_of_not_mem
    {text : List Char}
    (hfeed : '\n' ∉ text)
    (hpercent : '%' ∉ text) :
    IsUnbroken text :=
  ⟨hfeed, cutComment_append hpercent⟩

/-- A text without a comment mark is part of a line together with what stands right behind it. -/
theorem isUnbroken_append_cons
    {text others : List Char} {c : Char}
    (hfeed : '\n' ∉ text)
    (hmark : ¬ "%%".toList <:+: text)
    (hfeed' : '\n' ∉ c :: others)
    (hpercent : '%' ∉ c :: others) :
    IsUnbroken (text ++ c :: others) := by
  constructor
  · rw [List.mem_append, not_or]
    exact ⟨hfeed, hfeed'⟩
  · intro rest
    have hc : c ≠ '%' := by
      rintro rfl
      exact hpercent List.mem_cons_self
    rw [List.append_assoc, List.cons_append, cutComment_append_cons hmark hc,
      ← List.cons_append, cutComment_append hpercent, List.append_assoc]

theorem IsUnbroken.append
    {text others : List Char}
    (h : IsUnbroken text)
    (hothers : IsUnbroken others) :
    IsUnbroken (text ++ others) := by
  constructor
  · rw [List.mem_append, not_or]
    exact ⟨h.feed, hothers.feed⟩
  · intro rest
    rw [List.append_assoc, h.uncut, hothers.uncut, List.append_assoc]

end Comments

section Content

/-- A text that is read from its line as it stands: it holds no comment, and neither of its ends
is white space or a sign of a directive. -/
structure IsContent (text : List Char) : Prop where
  uncommented : cutComment text = text
  first : ∃ c rest, text = c :: rest ∧ isBlank c = false ∧ c ≠ '%'
  last : ∃ c, text.getLast? = some c ∧ isBlank c = false

/-- White space on either side of a text is trimmed away, and nothing else is. -/
theorem trim_between
    {space text trailing : List Char}
    (hspace : ∀ c ∈ space, isBlank c = true)
    (hfirst : ∃ c rest, text = c :: rest ∧ isBlank c = false)
    (hlast : ∃ c, text.getLast? = some c ∧ isBlank c = false)
    (htrailing : ∀ c ∈ trailing, isBlank c = true) :
    trim (space ++ (text ++ trailing)) = text := by
  have htext : IsTrimmed text := by
    obtain ⟨c, rest, rfl, hc⟩ := hfirst
    obtain ⟨d, hend, hd⟩ := hlast
    constructor
    · rintro x ⟨⟩
      exact hc
    · intro x hx
      rw [hend] at hx
      cases hx
      exact hd
  exact htext.trim_between hspace htrailing

/-- White space before content is trimmed away, and nothing else is. -/
theorem trim_cutComment_append
    {space text : List Char}
    (hspace : ∀ c ∈ space, isBlank c = true)
    (htext : IsContent text) :
    trim (cutComment (space ++ text)) = text := by
  obtain ⟨c, rest, hcons, hc, _⟩ := htext.first
  rw [cutComment_append (not_mem_of_forall_isBlank rfl hspace), htext.uncommented]
  simpa using trim_between hspace ⟨c, rest, hcons, hc⟩ htext.last (List.forall_mem_nil _)

theorem isMeaningful_of_isContent
    {text : List Char}
    (htext : IsContent text) :
    isMeaningful text = true := by
  obtain ⟨c, rest, rfl, _, hc⟩ := htext.first
  simpa [isMeaningful] using hc

/-- Lines of content with the same white space before them are read as the content. -/
theorem filter_trim_lines
    {α : Type} {items : List α} {line content : α → List Char} {space : List Char}
    (hspace : ∀ c ∈ space, isBlank c = true)
    (hline : ∀ item ∈ items, line item = space ++ content item)
    (hcontent : ∀ item ∈ items, IsContent (content item)) :
    ((items.map line).map fun line => trim (cutComment line)).filter isMeaningful =
      items.map content := by
  have hread :
      (items.map line).map (fun line => trim (cutComment line)) = items.map content := by
    rw [List.map_map]
    apply List.map_congr_left
    intro item hitem
    rw [Function.comp_apply, hline item hitem]
    exact trim_cutComment_append hspace (hcontent item hitem)
  rw [hread, List.filter_eq_self]
  intro text htext
  obtain ⟨item, hitem, rfl⟩ := List.mem_map.mp htext
  exact isMeaningful_of_isContent (hcontent item hitem)

end Content

end FlowchartSync.Text
