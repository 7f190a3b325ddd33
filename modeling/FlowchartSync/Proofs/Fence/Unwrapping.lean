import FlowchartSync.Fence
import FlowchartSync.Proofs.Text.Lines

/-!
# Unwrapping code blocks

What is unwrapped is trimmed, and it is no code block again, as no line inside a block starts with
the marks of one (`dropLiteral?_trim_of_body?`).  So a second unwrapping changes nothing
(`extract_extract_and_isTrimmed`).

A block with its tag in any case, white space around the tag and around the block, and lines without
marks is unwrapped to its lines (`body?_fenced`).  The one exception is the block without lines.
The line feed behind its opening is gone when the one in front of its closing is looked for
(`body?_fenced_eq_none`), so it is taken for a text that is no block
(`extract_text_eq_trim_joinLines_iff`).
-/

namespace FlowchartSync.Fence

open Text

section Marks

variable {text : List Char}

/-- A text that starts with marks behind its white space has a line that does. -/
theorem any_startsWithMarks
    (h : startsWithMarks text = true) :
    (splitLines text).any startsWithMarks = true := by
  induction text with
  | nil =>
      cases h
  | cons c text ih =>
      by_cases hc : isBlank c = true
      · have hskip : ∀ rest, startsWithMarks (c :: rest) = startsWithMarks rest := by
          intro rest
          rw [startsWithMarks, startsWithMarks, trimStart, List.dropWhile_cons_of_pos hc, trimStart]
        have hrest := ih (by rwa [hskip] at h)
        obtain ⟨first, others, hlines⟩ :=
          List.exists_cons_of_ne_nil (pieces_spec '\n' text).1
        rw [splitLines, hlines, List.any_cons] at hrest
        rw [splitLines, pieces, hlines]
        split_ifs
        · rw [List.any_cons, List.any_cons, hrest, Bool.or_true]
        · rwa [List.any_cons, hskip]
      · -- The marks stand at the front and hold no line feed.
        obtain ⟨rest, hrest⟩ := Option.isSome_iff_exists.mp h
        rw [trimStart, List.dropWhile_cons_of_neg hc, dropLiteral?_eq_some_iff] at hrest
        obtain ⟨first, others, hlines⟩ :=
          List.exists_cons_of_ne_nil (pieces_spec '\n' rest).1
        have hfeed : '\n' ∉ marks := by decide
        rw [hrest, splitLines, pieces_append_of_pieces hfeed hlines, List.any_cons]
        rfl

theorem startsWithMarks_append
    (h : startsWithMarks text = true)
    (more : List Char) :
    startsWithMarks (text ++ more) = true := by
  obtain ⟨rest, hrest⟩ := Option.isSome_iff_exists.mp h
  rw [dropLiteral?_eq_some_iff] at hrest
  have hstart : trimStart (text ++ more) = trimStart text ++ more := by
    rw [trimStart, List.dropWhile_append, ← trimStart, hrest]
    rfl
  rw [startsWithMarks, hstart, hrest, List.append_assoc, dropLiteral?_append]
  rfl

end Marks

section Parts

variable {text body line rest : List Char}

theorem splitFirstLine?_eq_some_iff :
    splitFirstLine? text = some (line, rest)
      ↔
    '\n' ∉ line ∧ text = line ++ '\n' :: rest := by
  constructor
  · intro h
    unfold splitFirstLine? at h
    split at h
    · cases h
    · rename_i c after hdrop
      cases h
      have hc : c = '\n' := by
        have hstop := List.head?_dropWhile_not (· != '\n') text
        rw [hdrop] at hstop
        simpa using hstop
      subst hc
      refine ⟨fun hmem => ?_, ?_⟩
      · simpa using List.mem_takeWhile_imp hmem
      · rw [← hdrop, List.takeWhile_append_dropWhile]
  · rintro ⟨hline, rfl⟩
    rw [splitFirstLine?, takeWhile_ne_append hline, dropWhile_ne_append hline]

theorem opensDiagram_iff :
    opensDiagram line = true
      ↔
    ∃ tag, line = marks ++ tag ∧ IsSpelling diagramTag (trim tag) := by
  unfold opensDiagram
  constructor
  · intro h
    split at h
    · cases h
    · rename_i tag htag
      exact ⟨tag, dropLiteral?_eq_some_iff.mp htag, sameWord_iff.mp h⟩
  · rintro ⟨tag, rfl, htag⟩
    rw [dropLiteral?_append]
    exact sameWord_iff.mpr htag

/-- The inside of a block in its parts. -/
theorem body?_eq_some_iff :
    body? text = some body
      ↔
    ∃ opening rest inside,
      splitFirstLine? text = some (opening, rest) ∧
      opensDiagram opening = true ∧
      dropLiteralEnd? marks rest = some inside ∧
      dropLastBreak? inside = some body ∧
      (splitLines body).any startsWithMarks = false := by
  constructor
  · intro h
    simp only [body?, Option.bind_eq_bind, Option.bind_eq_some_iff, Prod.exists] at h
    obtain ⟨opening, rest, hsplit, h⟩ := h
    split_ifs at h with hopening
    simp only [Option.bind_eq_some_iff] at h
    obtain ⟨inside, hclosing, body', hbreak, h⟩ := h
    split_ifs at h with hlines
    cases h
    exact ⟨opening, rest, inside, hsplit, hopening, hclosing, hbreak, by simpa using hlines⟩
  · rintro ⟨opening, rest, inside, hsplit, hopening, hclosing, hbreak, hlines⟩
    simp only [body?, hsplit, hopening, hclosing, hbreak, hlines, Option.bind_eq_bind,
      Option.bind_some, if_true, Bool.false_eq_true, if_false]

theorem body?_eq_none_of_dropLiteral?
    (h : dropLiteral? marks text = none) :
    body? text = none := by
  rw [Option.eq_none_iff_forall_ne_some]
  intro body hsome
  obtain ⟨opening, rest, _, hsplit, hopening, _⟩ := body?_eq_some_iff.mp hsome
  obtain ⟨_, rfl⟩ := splitFirstLine?_eq_some_iff.mp hsplit
  obtain ⟨tag, rfl, _⟩ := opensDiagram_iff.mp hopening
  rw [List.append_assoc, dropLiteral?_append] at h
  cases h

end Parts

section Idempotence

variable {text body : List Char}

/-- What stands inside a block starts with no marks when it is trimmed. -/
theorem dropLiteral?_trim_of_body?
    (h : body? text = some body) :
    dropLiteral? marks (trim body) = none := by
  obtain ⟨_, _, _, _, _, _, _, hlines⟩ := body?_eq_some_iff.mp h
  rw [Option.eq_none_iff_forall_ne_some]
  intro rest hsome
  obtain ⟨trailing, htrailing⟩ := trimEnd_prefix (trimStart body)
  have hmarked : startsWithMarks body = true := by
    rw [dropLiteral?_eq_some_iff] at hsome
    rw [startsWithMarks, ← htrailing, ← trim, hsome, List.append_assoc, dropLiteral?_append]
    rfl
  rw [any_startsWithMarks hmarked] at hlines
  cases hlines

theorem isTrimmed_unwrap
    (text : List Char) :
    IsTrimmed (unwrap text) := by
  unfold unwrap
  split <;> exact isTrimmed_trim _

/-- What is unwrapped is no code block. -/
theorem body?_unwrap
    (text : List Char) :
    body? (unwrap text) = none := by
  unfold unwrap
  split
  · rename_i body hbody
    exact body?_eq_none_of_dropLiteral? (dropLiteral?_trim_of_body? hbody)
  · assumption

theorem unwrap_eq_self
    (htrimmed : IsTrimmed text)
    (hbody : body? text = none) :
    unwrap text = text := by
  rw [unwrap, htrimmed.trim_eq, hbody]

/-- Unwrapping a second time changes nothing, and what is unwrapped has no white space at its
ends. -/
theorem extract_extract_and_isTrimmed
    (text : String) :
    extract (extract text) = extract text ∧ IsTrimmed (extract text).toList := by
  rw [extract, extract, String.toList_ofList,
    unwrap_eq_self (isTrimmed_unwrap text.toList) (body?_unwrap text.toList)]
  exact ⟨rfl, isTrimmed_unwrap text.toList⟩

end Idempotence

section Blocks

/-- A code block with a diagram as it may be written.  Its lines hold no line feed, and none of
them starts with marks. -/
structure Block where
  before : List Char
  gap : List Char
  tag : List Char
  trailing : List Char
  lines : List (List Char)
  after : List Char
  before_blank : ∀ c ∈ before, isBlank c = true
  gap_blank : ∀ c ∈ gap, isBlank c = true ∧ c ≠ '\n'
  tag_spelled : IsSpelling diagramTag tag
  trailing_blank : ∀ c ∈ trailing, isBlank c = true ∧ c ≠ '\n'
  unbroken : ∀ line ∈ lines, '\n' ∉ line
  unmarked : ∀ line ∈ lines, startsWithMarks line = false
  after_blank : ∀ c ∈ after, isBlank c = true

namespace Block

/-- The line that opens a block. -/
def opening (block : Block) : List Char :=
  marks ++ (block.gap ++ (block.tag ++ block.trailing))

/-- A block from its opening to its closing marks. -/
def fenced (block : Block) : List Char :=
  block.opening ++ '\n' :: (block.lines.flatMap (· ++ ['\n']) ++ marks)

/-- A block in the white space around it. -/
def text (block : Block) : String :=
  String.ofList (block.before ++ (block.fenced ++ block.after))

variable (block : Block)

theorem isBlank_of_mem_tag :
    ∀ c ∈ block.tag, isBlank c = false :=
  block.tag_spelled.isBlank_of_mem rfl

theorem feed_not_mem_opening :
    '\n' ∉ block.opening := by
  have hmarks : '\n' ∉ marks := by decide
  have htag : '\n' ∉ block.tag :=
    fun hmem => absurd (block.isBlank_of_mem_tag '\n' hmem) (by decide)
  simp only [opening, List.mem_append, not_or]
  exact ⟨hmarks, fun hmem => (block.gap_blank _ hmem).2 rfl, htag,
    fun hmem => (block.trailing_blank _ hmem).2 rfl⟩

theorem opensDiagram_opening :
    opensDiagram block.opening = true := by
  refine opensDiagram_iff.mpr ⟨_, rfl, ?_⟩
  rw [(isTrimmed_of_forall block.isBlank_of_mem_tag).trim_between
    (fun c hc => (block.gap_blank c hc).1) fun c hc => (block.trailing_blank c hc).1]
  exact block.tag_spelled

theorem splitFirstLine?_fenced :
    splitFirstLine? block.fenced =
      some (block.opening, block.lines.flatMap (· ++ ['\n']) ++ marks) :=
  splitFirstLine?_eq_some_iff.mpr ⟨block.feed_not_mem_opening, rfl⟩

theorem isTrimmed_fenced :
    IsTrimmed block.fenced := by
  constructor
  · rintro c ⟨⟩
    rfl
  · intro c hc
    have hlast : block.fenced.getLast? = marks.getLast? := by
      rw [fenced, ← List.cons_append, ← List.append_assoc,
        List.getLast?_append_of_ne_nil _ (by decide)]
    rw [hlast] at hc
    cases hc
    rfl

theorem trim_text :
    trim block.text.toList = block.fenced := by
  rw [text, String.toList_ofList]
  exact block.isTrimmed_fenced.trim_between block.before_blank block.after_blank

end Block

/-- The line feed behind the last of some lines is dropped, and so is the carriage return in front
of it, which can only be the end of that line. -/
theorem exists_dropLastBreak?
    (lines : List (List Char)) (last : List Char) :
    ∃ kept ending,
      last = kept ++ ending ∧ (∀ c ∈ ending, isBlank c = true) ∧
      dropLastBreak? ((lines ++ [last]).flatMap (· ++ ['\n'])) =
        some (joinLines (lines ++ [kept])) := by
  have hwhole :
      (lines ++ [last]).flatMap (· ++ ['\n']) = joinLines (lines ++ [last]) ++ ['\n'] := by
    rw [joinLines_concat]
    simp
  rw [hwhole]
  simp only [dropLastBreak?, dropLiteralEnd?_append, Option.bind_eq_bind, Option.bind_some]
  obtain rfl | ⟨front, c, rfl⟩ := List.eq_nil_or_concat last
  · refine ⟨[], [], rfl, List.forall_mem_nil _, ?_⟩
    rw [joinLines_concat, List.append_nil]
    obtain rfl | ⟨others, line, rfl⟩ := List.eq_nil_or_concat lines
    · rfl
    · have hfeed : (others.concat line).flatMap (· ++ ['\n']) =
          others.flatMap (· ++ ['\n']) ++ line ++ ['\n'] := by
        simp
      rw [hfeed, dropLiteralEnd?_concat_of_ne (by decide), Option.getD_none]
  · rw [List.concat_eq_append, joinLines_concat, ← List.append_assoc]
    by_cases hc : c = '\r'
    · subst hc
      refine ⟨front, ['\r'], rfl, List.forall_mem_singleton.mpr rfl, ?_⟩
      rw [dropLiteralEnd?_append, joinLines_concat, Option.getD_some]
    · refine ⟨front ++ [c], [], (List.append_nil _).symm, List.forall_mem_nil _, ?_⟩
      rw [dropLiteralEnd?_concat_of_ne hc, joinLines_concat, Option.getD_none, List.append_assoc]

/-- A block without lines has no line feed left in front of its closing marks. -/
theorem body?_fenced_eq_none
    {block : Block}
    (h : block.lines = []) :
    body? block.fenced = none := by
  rw [Option.eq_none_iff_forall_ne_some]
  intro body hsome
  obtain ⟨_, _, inside, hsplit, _, hclosing, hbreak, _⟩ := body?_eq_some_iff.mp hsome
  rw [block.splitFirstLine?_fenced, h] at hsplit
  cases hsplit
  cases hclosing
  cases hbreak

/-- A block with lines is taken for one, and its inside is its lines. -/
theorem body?_fenced
    {block : Block}
    (h : block.lines ≠ []) :
    ∃ body, body? block.fenced = some body ∧ trim body = trim (joinLines block.lines) := by
  obtain hnil | ⟨lines, last, hlines⟩ := List.eq_nil_or_concat block.lines
  · exact absurd hnil h
  rw [List.concat_eq_append] at hlines
  obtain ⟨kept, ending, rfl, hending, hbreak⟩ := exists_dropLastBreak? lines last
  have hunbroken := block.unbroken
  have hunmarked := block.unmarked
  rw [hlines, List.forall_mem_append, List.forall_mem_singleton] at hunbroken hunmarked
  have hfeeds : ∀ line ∈ lines ++ [kept], '\n' ∉ line := by
    rw [List.forall_mem_append, List.forall_mem_singleton]
    exact ⟨hunbroken.1, fun hmem => hunbroken.2 (List.mem_append_left _ hmem)⟩
  have hmarks : ∀ line ∈ lines ++ [kept], ¬ startsWithMarks line = true := by
    rw [List.forall_mem_append, List.forall_mem_singleton]
    refine ⟨fun line hline => by simp [hunmarked.1 line hline], fun hmarked => ?_⟩
    rw [startsWithMarks_append hmarked] at hunmarked
    cases hunmarked.2
  have hplain : (splitLines (joinLines (lines ++ [kept]))).any startsWithMarks = false := by
    rw [splitLines_joinLines (by simp) hfeeds, List.any_eq_false]
    exact hmarks
  refine ⟨joinLines (lines ++ [kept]), ?_, ?_⟩
  · rw [← hlines] at hbreak
    exact body?_eq_some_iff.mpr ⟨_, _, _, block.splitFirstLine?_fenced, block.opensDiagram_opening,
      dropLiteralEnd?_append _ _, hbreak, hplain⟩
  · rw [hlines, joinLines_concat, joinLines_concat, ← List.append_assoc, trim_append_space hending]

/-- A block is unwrapped to its lines just when it has any, and one without lines stays as it
stands. -/
theorem extract_text_eq_trim_joinLines_iff
    (block : Block) :
    (extract block.text = String.ofList (trim (joinLines block.lines)) ↔ block.lines ≠ []) ∧
    (block.lines = [] → extract block.text = String.ofList block.fenced) := by
  have hempty : block.lines = [] → extract block.text = String.ofList block.fenced := by
    intro hnil
    rw [extract, unwrap, block.trim_text, body?_fenced_eq_none hnil]
  refine ⟨⟨?_, ?_⟩, hempty⟩
  · rintro hsame hnil
    rw [hempty hnil, hnil, String.ofList_inj] at hsame
    cases hsame
  · intro hne
    obtain ⟨body, hbody, htrim⟩ := body?_fenced hne
    rw [extract, unwrap, block.trim_text, hbody]
    exact congrArg String.ofList htrim

/-- The smallest block: its closing marks stand right under its opening. -/
def emptyBlock : Block where
  before := []
  gap := []
  tag := diagramTag
  trailing := []
  lines := []
  after := []
  before_blank := List.forall_mem_nil _
  gap_blank := List.forall_mem_nil _
  tag_spelled := sameWord_iff.mp rfl
  trailing_blank := List.forall_mem_nil _
  unbroken := List.forall_mem_nil _
  unmarked := List.forall_mem_nil _
  after_blank := List.forall_mem_nil _

theorem extract_emptyBlock :
    emptyBlock.lines = [] ∧
    emptyBlock.text = "```mermaid\n```" ∧
    extract emptyBlock.text = "```mermaid\n```" ∧
    String.ofList (trim (joinLines emptyBlock.lines)) = "" := by
  refine ⟨rfl, rfl, ?_, rfl⟩
  exact (extract_text_eq_trim_joinLines_iff emptyBlock).2 rfl

end Blocks

end FlowchartSync.Fence
