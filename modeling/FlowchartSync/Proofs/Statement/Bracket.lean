import FlowchartSync.Proofs.Label.Codes
import FlowchartSync.Statement.Line

/-!
# Reading a written label between delimiters

A label is written in quotes when it holds a character of some delimiter, and as it stands
otherwise.  Either way the pair of delimiters around it reads exactly the label back, and no other
pair that the table lists before it fits (`bracket?_written`).

There is one exception.  The delimiters of a trapezoid start like those of a parallelogram and
stand before them in the table, so a parallelogram whose label closes a trapezoid is read as that
trapezoid (`bracket?_misread`).
-/

namespace FlowchartSync
namespace Statement

open Text Label

section Runs

/-- A text is read in quotes up to the first quote after the opening one. -/
theorem quoted?_eq_some_iff
    {text run rest : List Char} :
    quoted? text = some (run, rest)
      ↔
    '"' ∉ run ∧ text = '"' :: (run ++ '"' :: rest) := by
  constructor
  · intro h
    unfold quoted? at h
    split at h
    · rename_i inside
      split at h
      · rename_i c after hdrop
        simp only [Option.some.injEq, Prod.mk.injEq] at h
        obtain ⟨rfl, rfl⟩ := h
        have hc : c = '"' := by
          have hstop := List.head?_dropWhile_not (· != '"') inside
          rw [hdrop] at hstop
          simpa using hstop
        subst hc
        refine ⟨fun hmem => ?_, ?_⟩
        · simpa using List.mem_takeWhile_imp hmem
        · rw [← hdrop, List.takeWhile_append_dropWhile]
      · cases h
    · cases h
  · rintro ⟨hrun, rfl⟩
    simp only [quoted?, takeWhile_ne_append hrun, dropWhile_ne_append hrun]

theorem takeUntil?_append
    {stop : Char} {run : List Char}
    (hrun : stop ∉ run)
    (hne : run ≠ [])
    (rest : List Char) :
    takeUntil? stop (run ++ stop :: rest) = some (run, stop :: rest) := by
  unfold takeUntil?
  rw [takeWhile_ne_append hrun, dropWhile_ne_append hrun]
  split
  · exact absurd rfl hne
  · rfl

/-- A run that is taken is not empty, holds no stop character, and starts the text. -/
theorem eq_append_of_takeUntil?
    {stop : Char} {text run rest : List Char}
    (h : takeUntil? stop text = some (run, rest)) :
    run ≠ [] ∧ stop ∉ run ∧ text = run ++ rest := by
  unfold takeUntil? at h
  split at h
  · cases h
  · rename_i hne
    simp only [Option.some.injEq, Prod.mk.injEq] at h
    obtain ⟨rfl, rfl⟩ := h
    refine ⟨fun hnil => hne hnil, fun hmem => ?_, List.takeWhile_append_dropWhile.symm⟩
    simpa using List.mem_takeWhile_imp hmem

end Runs

section Labels

/-- The parts of a closing delimiter: a marker without brackets, the first bracket, and what
follows it. -/
structure ClosingParts (closing marker : List Char) (stop : Char) (others : List Char) : Prop where
  split : closing = marker ++ stop :: others
  marker_open : ∀ x ∈ marker, isCloser x = false
  stop_closes : isCloser stop = true

theorem isRisky_of_isCloser
    {c : Char}
    (h : isCloser c = true) :
    isRisky c = true := by
  simp only [isCloser, Bool.or_eq_true, beq_iff_eq] at h
  rcases h with (rfl | rfl) | rfl <;> rfl

/-- A closing delimiter with a bracket in it has a first one. -/
theorem exists_closingParts_of_any
    {closing : List Char}
    (h : closing.any isCloser = true) :
    ∃ marker stop others, ClosingParts closing marker stop others := by
  cases hdrop : closing.dropWhile (!isCloser ·) with
  | nil =>
      obtain ⟨c, hc, hcloses⟩ := List.any_eq_true.mp h
      have hopen := List.dropWhile_eq_nil_iff.mp hdrop c hc
      simp [hcloses] at hopen
  | cons stop others =>
      refine ⟨closing.takeWhile (!isCloser ·), stop, others, ?_, ?_, ?_⟩
      · rw [← hdrop, List.takeWhile_append_dropWhile]
      · intro x hx
        simpa using List.mem_takeWhile_imp hx
      · have hstop := List.head?_dropWhile_not (!isCloser ·) closing
        rw [hdrop] at hstop
        simpa using hstop

/-- A label without quotes ends where its closing delimiter does, and holds no first bracket of
that delimiter. -/
theorem unquoted?_eq_some_iff
    {closing marker others text label rest : List Char} {stop : Char}
    (hparts : ClosingParts closing marker stop others) :
    unquoted? closing text = some (label, rest)
      ↔
    label ≠ [] ∧ stop ∉ label ∧ text = label ++ closing ++ rest := by
  have hmarker : ∀ x ∈ marker, (!isCloser x) = true := by
    intro x hx
    rw [hparts.marker_open x hx]
    rfl
  have hdrop : closing.dropWhile (!isCloser ·) = stop :: others := by
    rw [hparts.split, List.dropWhile_append_of_pos hmarker]
    simp [hparts.stop_closes]
  have htake : closing.takeWhile (!isCloser ·) = marker := by
    rw [hparts.split, List.takeWhile_append_of_pos hmarker]
    simp [hparts.stop_closes]
  simp only [unquoted?, hdrop, htake]
  constructor
  · intro h
    simp only [Option.bind_eq_bind, Option.bind_eq_some_iff] at h
    obtain ⟨⟨run, tail⟩, htaken, label', hlabel, after, hafter, hlast⟩ := h
    obtain ⟨_, hstop, rfl⟩ := eq_append_of_takeUntil? htaken
    rw [dropLiteralEnd?_eq_some_iff] at hlabel
    rw [dropLiteral?_eq_some_iff] at hafter
    subst hlabel hafter
    split at hlast
    · cases hlast
    · rename_i hne
      cases hlast
      refine ⟨by simpa using hne, fun h => hstop (List.mem_append_left _ h), ?_⟩
      simp [hparts.split]
  · rintro ⟨hne, hlabel, rfl⟩
    have hrun : stop ∉ label ++ marker := by
      rw [List.mem_append]
      rintro (h | h)
      · exact hlabel h
      · have hopen := hparts.marker_open stop h
        rw [hparts.stop_closes] at hopen
        cases hopen
    have htext :
        label ++ closing ++ rest = (label ++ marker) ++ stop :: (others ++ rest) := by
      simp [hparts.split]
    rw [htext, takeUntil?_append hrun (by simp [hne])]
    simp only [Option.bind_eq_bind, Option.bind_some, dropLiteralEnd?_append]
    rw [← List.cons_append, dropLiteral?_append]
    simp [hne]

/-- A label in quotes is read as what stands between them, when the closing delimiter follows. -/
theorem quotedBefore?_eq_some_iff
    {closing text label rest : List Char} :
    quotedBefore? closing text = some (label, rest)
      ↔
    '"' ∉ label ∧ text = '"' :: (label ++ '"' :: (closing ++ rest)) := by
  simp only [quotedBefore?, Option.bind_eq_bind, Option.bind_eq_some_iff]
  constructor
  · rintro ⟨⟨run, tail⟩, htaken, after, hafter, hlast⟩
    cases hlast
    obtain ⟨hrun, rfl⟩ := quoted?_eq_some_iff.mp htaken
    rw [dropLiteral?_eq_some_iff] at hafter
    subst hafter
    exact ⟨hrun, rfl⟩
  · rintro ⟨hlabel, rfl⟩
    exact ⟨(label, closing ++ rest), quoted?_eq_some_iff.mpr ⟨hlabel, rfl⟩, rest,
      dropLiteral?_append closing rest, rfl⟩

/-- Nothing is read in quotes where no quote stands first. -/
theorem quoted?_eq_none
    {text : List Char}
    (h : ∀ x ∈ text.head?, x ≠ '"') :
    quoted? text = none := by
  rw [Option.eq_none_iff_forall_ne_some]
  rintro ⟨inside, after⟩ hsome
  obtain ⟨_, rfl⟩ := quoted?_eq_some_iff.mp hsome
  exact h '"' rfl rfl

/-- Nothing is read in quotes at a written label that stands without quotes. -/
theorem quoted?_escape_append
    (label : List Char) {tail : List Char}
    (htail : ∀ x ∈ tail.head?, x ≠ '"') :
    quoted? (escape label ++ tail) = none := by
  apply quoted?_eq_none
  cases hwritten : escape label with
  | nil =>
      exact htail
  | cons c rest =>
      rintro x ⟨⟩ rfl
      exact quote_not_mem_escape label (by rw [hwritten]; exact List.mem_cons_self)

theorem quotedBefore?_escape_append
    (closing label : List Char) {tail : List Char}
    (htail : ∀ x ∈ tail.head?, x ≠ '"') :
    quotedBefore? closing (escape label ++ tail) = none := by
  simp [quotedBefore?, quoted?_escape_append label htail]

/-- A pair of delimiters reads what its two ways of writing a label read, quotes first. -/
theorem between?_opening
    (delimiter : Delimiter) (text : List Char) :
    between? delimiter (delimiter.opening ++ text) =
      (quotedBefore? delimiter.closing text).or (unquoted? delimiter.closing text) := by
  simp [between?]

/-- A pair of delimiters reads nothing where its opener does not stand. -/
theorem between?_eq_none_of_opening
    {delimiter : Delimiter} {text : List Char}
    (h : dropLiteral? delimiter.opening text = none) :
    between? delimiter text = none := by
  simp [between?, h]

end Labels

section Written

/-- The canonical pair of a shape. -/
def canonicalPair (shape : Shape) : Delimiter :=
  ⟨shape.opening, shape.closing, shape⟩

theorem exists_closingParts
    (shape : Shape) :
    ∃ marker stop others, ClosingParts shape.closing marker stop others :=
  exists_closingParts_of_any (by cases shape <;> rfl)

/-- A protected label starts with a character that is not risky. -/
theorem exists_cons_protect
    {label : List Char}
    (hne : label ≠ []) :
    ∃ c rest, protect label = c :: rest ∧ isRisky c = false := by
  unfold protect
  split_ifs with hrisky
  · exact ⟨'"', escape label ++ ['"'], rfl, rfl⟩
  · cases hwritten : escape label with
    | nil =>
        exact absurd hwritten (escape_ne_nil hne)
    | cons c rest =>
        refine ⟨c, rest, rfl, ?_⟩
        rw [hwritten] at hrisky
        simp only [List.any_cons, Bool.or_eq_true, not_or] at hrisky
        simpa using hrisky.1

/-- Before the closing delimiter of its shape a protected label is read as the written label. -/
theorem between?_canonicalPair
    (shape : Shape) {label : List Char}
    (hne : label ≠ [])
    (rest : List Char) :
    between? (canonicalPair shape)
        (shape.opening ++ (protect label ++ (shape.closing ++ rest))) =
      some (escape label, rest) := by
  have hquote : '"' ∉ escape label := quote_not_mem_escape label
  rw [show shape.opening = (canonicalPair shape).opening from rfl, between?_opening]
  unfold protect
  split_ifs with hrisky
  · have hread :
        quotedBefore? shape.closing
            ('"' :: (escape label ++ '"' :: (shape.closing ++ rest))) =
          some (escape label, rest) :=
      quotedBefore?_eq_some_iff.mpr ⟨hquote, rfl⟩
    simp [canonicalPair, hread]
  · obtain ⟨marker, stop, others, hparts⟩ := exists_closingParts shape
    have hplain : stop ∉ escape label := by
      intro hmem
      exact hrisky (List.any_eq_true.mpr
        ⟨stop, hmem, isRisky_of_isCloser hparts.stop_closes⟩)
    have hread :
        unquoted? shape.closing (escape label ++ (shape.closing ++ rest)) =
          some (escape label, rest) :=
      (unquoted?_eq_some_iff hparts).mpr ⟨escape_ne_nil hne, hplain, by simp⟩
    have hclosing : ∀ x ∈ (shape.closing ++ rest).head?, x ≠ '"' := by
      cases shape <;> simp [Shape.closing]
    simp [canonicalPair, hread, quotedBefore?_escape_append _ label hclosing]

/-- Whether one opener cannot stand where another one does that is followed by a character that is
not risky: the two differ, or the one goes on with a risky character. -/
def isBlocked (opening other : List Char) : Bool :=
  (dropLiteral? opening other).isNone &&
    match dropLiteral? other opening with
    | none => true
    | some [] => false
    | some (c :: _) => isRisky c

theorem dropLiteral?_eq_none_of_isBlocked
    {opening other : List Char} {c : Char}
    (hblocked : isBlocked opening other = true)
    (hc : isRisky c = false)
    (rest : List Char) :
    dropLiteral? opening (other ++ c :: rest) = none := by
  rw [Option.eq_none_iff_forall_ne_some]
  intro text hsome
  rw [dropLiteral?_eq_some_iff, List.append_eq_append_iff] at hsome
  unfold isBlocked at hblocked
  rw [Bool.and_eq_true] at hblocked
  rcases hsome with ⟨more, rfl, hmore⟩ | ⟨more, rfl, _⟩
  · rw [dropLiteral?_append] at hblocked
    cases more with
    | nil =>
        cases hblocked.2
    | cons d more =>
        obtain ⟨rfl, _⟩ := List.cons.inj hmore
        have hrisky : isRisky c = true := hblocked.2
        rw [hc] at hrisky
        cases hrisky
  · rw [dropLiteral?_append] at hblocked
    cases hblocked.1

/-- The place of the canonical pair of a shape in the table. -/
def placeInTable : Shape → Nat
  | .hexagon => 0
  | .diamond => 1
  | .trapezoidAlt => 2
  | .trapezoid => 3
  | .parallelogram => 4
  | .doubleCircle => 6
  | .subroutine => 7
  | .stadium => 8
  | .circle => 9
  | .cylinder => 10
  | .rounded => 11
  | .rect => 12

theorem table_split
    (shape : Shape) :
    Delimiter.table =
      Delimiter.table.take (placeInTable shape) ++
        canonicalPair shape :: Delimiter.table.drop (placeInTable shape + 1) := by
  cases shape <;> rfl

/-- In the table, the openers before the canonical pair of a shape are blocked by that pair, but
for the trapezoid before the parallelogram. -/
theorem isBlocked_of_earlier
    (shape : Shape) :
    ∀ pair ∈ Delimiter.table.take (placeInTable shape),
      (shape = .parallelogram ∧ pair = canonicalPair .trapezoid) ∨
        isBlocked pair.opening shape.opening = true := by
  cases shape <;> decide

/-- A pair with a blocked opener reads nothing at a protected label. -/
theorem between?_eq_none_of_isBlocked
    {pair : Delimiter} {opening label : List Char}
    (hblocked : isBlocked pair.opening opening = true)
    (hne : label ≠ [])
    (rest : List Char) :
    between? pair (opening ++ (protect label ++ rest)) = none := by
  obtain ⟨c, others, hprotect, hc⟩ := exists_cons_protect hne
  apply between?_eq_none_of_opening
  rw [hprotect, List.cons_append]
  exact dropLiteral?_eq_none_of_isBlocked hblocked hc (others ++ rest)

/-- The first pair of the table that fits decides how a bracket is read. -/
theorem bracket?_of_split
    {pair : Delimiter} {earlier later : List Delimiter} {text label rest : List Char}
    (hsplit : Delimiter.table = earlier ++ pair :: later)
    (hearlier : ∀ other ∈ earlier, between? other text = none)
    (hread : between? pair text = some (label, rest)) :
    bracket? text = some (⟨pair.shape, String.ofList (unescape label)⟩, rest) := by
  unfold bracket?
  rw [hsplit, List.findSome?_append, Option.or_eq_some_iff]
  refine Or.inr ⟨?_, ?_⟩
  · rw [List.findSome?_eq_none_iff]
    intro other hother
    rw [hearlier other hother]
    rfl
  · rw [List.findSome?_cons, hread]
    rfl

/-- The canonical pair of a shape is read when no pair before it fits. -/
theorem bracket?_of_first
    {shape : Shape} {text label rest : List Char}
    (hearlier : ∀ pair ∈ Delimiter.table.take (placeInTable shape), between? pair text = none)
    (hread : between? (canonicalPair shape) text = some (label, rest)) :
    bracket? text = some (⟨shape, String.ofList (unescape label)⟩, rest) :=
  bracket?_of_split (table_split shape) hearlier hread

theorem closingParts_trapezoid :
    ClosingParts (canonicalPair .trapezoid).closing ['\\'] ']' [] :=
  ⟨rfl, List.forall_mem_singleton.mpr rfl, rfl⟩

/-- A parallelogram's label in quotes is not closed like a trapezoid's. -/
theorem quotedBefore?_trapezoid_eq_none
    (label rest : List Char) :
    quotedBefore? (canonicalPair .trapezoid).closing
        (protect label ++ (Shape.parallelogram.closing ++ rest)) = none := by
  unfold protect
  split_ifs with hrisky
  · rw [Option.eq_none_iff_forall_ne_some]
    rintro ⟨inside, after⟩ hsome
    obtain ⟨hinside, hsplit⟩ := quotedBefore?_eq_some_iff.mp hsome
    have hclose :
        '"' :: (escape label ++ '"' :: ('/' :: ']' :: rest)) =
          '"' :: (inside ++ '"' :: ('\\' :: ']' :: after)) := by
      simpa [Shape.closing, canonicalPair] using hsplit
    have htails :=
      (append_cons_inj (quote_not_mem_escape label) hinside (List.cons.inj hclose).2).2
    exact absurd (List.cons.inj htails).1 (by decide)
  · exact quotedBefore?_escape_append _ label (by simp [Shape.closing])

/-- A run without a closing bracket that a parallelogram closes is not closed like a trapezoid's. -/
theorem unquoted?_trapezoid_eq_none
    {run : List Char}
    (hrun : ']' ∉ run)
    (rest : List Char) :
    unquoted? (canonicalPair .trapezoid).closing
        (run ++ (Shape.parallelogram.closing ++ rest)) = none := by
  rw [Option.eq_none_iff_forall_ne_some]
  rintro ⟨inside, after⟩ hsome
  obtain ⟨_, hinside, hsplit⟩ := (unquoted?_eq_some_iff closingParts_trapezoid).mp hsome
  have hsplit' : (run ++ ['/']) ++ ']' :: rest = (inside ++ ['\\']) ++ ']' :: after := by
    simpa [Shape.closing, canonicalPair] using hsplit
  have hends : run ++ ['/'] = inside ++ ['\\'] :=
    (append_cons_inj (by simpa using hrun) (by simpa using hinside) hsplit').1
  exact absurd (List.append_inj' hends rfl).2 (by decide)

/-- A parallelogram's label that is read without quotes as a trapezoid's closes a trapezoid. -/
theorem closesTrapezoid_of_unquoted?
    {label rest inside after : List Char}
    (h : unquoted? (canonicalPair .trapezoid).closing
        (protect label ++ (Shape.parallelogram.closing ++ rest)) = some (inside, after)) :
    ClosesTrapezoid label := by
  obtain ⟨_, hinside, hsplit⟩ := (unquoted?_eq_some_iff closingParts_trapezoid).mp h
  have hfirst : ']' ∉ inside ++ ['\\'] := by
    simpa using hinside
  have hsplit' :
      (protect label ++ ['/']) ++ ']' :: rest = (inside ++ ['\\']) ++ ']' :: after := by
    simpa [Shape.closing, canonicalPair] using hsplit
  by_cases hbracket : ']' ∈ escape label
  · obtain ⟨before, others, hescape, hbefore⟩ := List.eq_append_cons_of_mem hbracket
    have hrisky : (escape label).any isRisky = true :=
      List.any_eq_true.mpr ⟨']', hbracket, rfl⟩
    have hwhole :
        ('"' :: before) ++ ']' :: (others ++ '"' :: '/' :: ']' :: rest) =
          (inside ++ ['\\']) ++ ']' :: after := by
      rw [← hsplit', protect, if_pos hrisky, hescape]
      simp
    have hrun : '"' :: before = inside ++ ['\\'] :=
      (append_cons_inj (by simpa using hbefore) hfirst hwhole).1
    rw [← closesTrapezoid_escape, hescape]
    refine ⟨by simp, ?_⟩
    rw [takeWhile_ne_append hbefore]
    cases inside with
    | nil =>
        exact absurd (List.cons.inj hrun).1 (by decide)
    | cons c inside =>
        rw [List.cons_append] at hrun
        rw [(List.cons.inj hrun).2]
        simp
  · -- The first closing bracket is the parallelogram's own, which stands after a slash.
    have hplain : ']' ∉ protect label := by
      unfold protect
      split_ifs <;> simpa using hbracket
    rw [unquoted?_trapezoid_eq_none hplain] at h
    cases h

/-- The trapezoid before the parallelogram fits only labels that close it. -/
theorem between?_trapezoid_eq_none
    {label : List Char}
    (hopen : ¬ ClosesTrapezoid label)
    (rest : List Char) :
    between? (canonicalPair .trapezoid)
        (Shape.parallelogram.opening ++
          (protect label ++ (Shape.parallelogram.closing ++ rest))) = none := by
  rw [show Shape.parallelogram.opening = (canonicalPair .trapezoid).opening from rfl,
    between?_opening, quotedBefore?_trapezoid_eq_none, Option.none_or,
    Option.eq_none_iff_forall_ne_some]
  rintro ⟨inside, after⟩ hsome
  exact hopen (closesTrapezoid_of_unquoted? hsome)

/-- A label between the canonical delimiters of its shape is read back with that shape, unless the
delimiters are a parallelogram's and the label closes a trapezoid. -/
theorem bracket?_written
    {shape : Shape} {label : List Char}
    (hne : label ≠ [])
    (hopen : shape = .parallelogram → ¬ ClosesTrapezoid label)
    (rest : List Char) :
    bracket? (shape.opening ++ (protect label ++ (shape.closing ++ rest))) =
      some (⟨shape, String.ofList label⟩, rest) := by
  have hearlier :
      ∀ pair ∈ Delimiter.table.take (placeInTable shape),
        between? pair (shape.opening ++ (protect label ++ (shape.closing ++ rest))) = none := by
    intro pair hpair
    rcases isBlocked_of_earlier shape pair hpair with ⟨rfl, rfl⟩ | hblocked
    · exact between?_trapezoid_eq_none (hopen rfl) rest
    · exact between?_eq_none_of_isBlocked hblocked hne _
  rw [bracket?_of_first hearlier (between?_canonicalPair shape hne rest), unescape_escape]

/-- A parallelogram whose label closes a trapezoid is read as that trapezoid, and its text goes on
behind the bracket that closes it. -/
theorem bracket?_misread
    {before : List Char} (after : List Char)
    (hbefore : ']' ∉ before)
    (rest : List Char) :
    ∃ label : List Char,
      bracket? (Shape.parallelogram.opening ++
          (protect (before ++ '\\' :: ']' :: after) ++
            (Shape.parallelogram.closing ++ rest))) =
        some (⟨.trapezoid, String.ofList label⟩,
          escape after ++ '"' :: (Shape.parallelogram.closing ++ rest)) := by
  obtain ⟨written, hwritten, hplain⟩ := escape_closing after hbefore
  have hrisky :
      (escape (before ++ '\\' :: ']' :: after)).any isRisky = true :=
    List.any_eq_true.mpr ⟨']', by rw [hwritten]; simp, rfl⟩
  have hread :
      between? (canonicalPair .trapezoid)
          (Shape.parallelogram.opening ++
            (protect (before ++ '\\' :: ']' :: after) ++
              (Shape.parallelogram.closing ++ rest))) =
        some ('"' :: written, escape after ++ '"' :: (Shape.parallelogram.closing ++ rest)) := by
    rw [show Shape.parallelogram.opening = (canonicalPair .trapezoid).opening from rfl,
      between?_opening, quotedBefore?_trapezoid_eq_none, Option.none_or,
      unquoted?_eq_some_iff closingParts_trapezoid]
    refine ⟨by simp, by simpa using hplain, ?_⟩
    rw [protect, if_pos hrisky, hwritten]
    simp [canonicalPair, Shape.closing]
  refine ⟨unescape ('"' :: written), bracket?_of_first ?_ hread⟩
  intro pair hpair
  rcases isBlocked_of_earlier .trapezoid pair hpair with ⟨hshape, _⟩ | hblocked
  · cases hshape
  · exact between?_eq_none_of_isBlocked hblocked (by simp) _

end Written

end Statement
end FlowchartSync
