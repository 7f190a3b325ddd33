import FlowchartSync.Proofs.Statement.References
import Mathlib.Data.List.Induction
import Mathlib.Data.List.Infix

/-!
# Openings and closings

Some statements of a text open or close subgraphs.  They need not balance: a subgraph may stay open
to the end, and a closing may find none to close.

A subgraph is open as long as nothing behind its opening closes more subgraphs than it opens
(`StaysOpen`), and the last one of those that are open is the innermost (`innermost?`).  So an
opening adds a subgraph to the open ones (`openSubgraphs_concat_opening`), and a closing takes away
the innermost one, if there is one (`openSubgraphs_concat_closing`).
-/

namespace FlowchartSync

namespace Statement

/-- The id and the label of the subgraph that a statement opens. -/
def opening? : Statement → Option (String × Option String)
  | .openSubgraph id label => some (id, label)
  | _ => none

/-- Whether a statement opens or closes a subgraph. -/
def isGrouping : Statement → Bool
  | .openSubgraph _ _ => true
  | .closeSubgraph => true
  | _ => false

/-- The only line that closes a subgraph is the word alone. -/
theorem ofLine?_eq_closeSubgraph_iff
    {line : List Char} :
    ofLine? line = some .closeSubgraph ↔ line = "end".toList := by
  constructor
  · intro h
    rcases ofLine?_cases h with
      ⟨_, _, _, hopen⟩ | ⟨hend, _⟩ | ⟨_, _, _, _, hchain⟩ | ⟨_, _, _, _, _, _, hnode⟩
    · cases hopen
    · exact hend
    · cases hchain
    · cases hnode
  · rintro rfl
    decide +kernel

end Statement

/-- The subgraphs that statements open, in order. -/
def openings (statements : List Statement) : List (String × Option String) :=
  statements.filterMap Statement.opening?

/-- How many subgraphs statements close, if so many are open. -/
def closings (statements : List Statement) : Nat :=
  statements.count .closeSubgraph

/-- Whether statements leave a subgraph open that was open before them: from their start on they
never close more subgraphs than they open. -/
def StaysOpen (statements : List Statement) : Prop :=
  ∀ part ∈ statements.inits, closings part ≤ (openings part).length

instance (statements : List Statement) : Decidable (StaysOpen statements) :=
  inferInstanceAs (Decidable (∀ part ∈ statements.inits, closings part ≤ (openings part).length))

/-- Whether the subgraph of a number is open after statements: it was opened after as many others
as its number says, and the statements behind its opening leave it open. -/
def IsOpen (statements : List Statement) (number : Nat) : Prop :=
  ∃ place < statements.length,
    statements[place]?.any (·.opening?.isSome) = true ∧
    (openings (statements.take place)).length = number ∧
    StaysOpen (statements.drop (place + 1))

instance (statements : List Statement) (number : Nat) : Decidable (IsOpen statements number) :=
  inferInstanceAs (Decidable (∃ place < statements.length, _ ∧ _ ∧ _))

/-- The subgraphs that are open after statements, by their numbers in order of opening. -/
def openSubgraphs (statements : List Statement) : List Nat :=
  (List.range (openings statements).length).filter fun number => IsOpen statements number

/-- The subgraph that was opened last of those that are open. -/
def innermost? (statements : List Statement) : Option Nat :=
  (openSubgraphs statements).getLast?

example : openSubgraphs [.closeSubgraph, .openSubgraph "A" none, .openSubgraph "B" none,
    .closeSubgraph, .openSubgraph "C" none] = [0, 2] := by
  decide

section Counting

variable {statements : List Statement} {statement : Statement} {number : Nat}

theorem openings_append
    (statements others : List Statement) :
    openings (statements ++ others) = openings statements ++ openings others :=
  List.filterMap_append

theorem openings_concat
    (statements : List Statement) (statement : Statement) :
    openings (statements ++ [statement]) = openings statements ++ statement.opening?.toList := by
  rw [openings_append]
  cases statement <;> rfl

theorem closings_append
    (statements others : List Statement) :
    closings (statements ++ others) = closings statements + closings others :=
  List.count_append

theorem length_openings_cons
    (hopening : statement.opening?.isSome = true)
    (statements : List Statement) :
    (openings (statement :: statements)).length = (openings statements).length + 1 := by
  obtain ⟨named, hnamed⟩ := Option.isSome_iff_exists.mp hopening
  simp [openings, hnamed]

/-- A subgraph is open when what stands behind its opening leaves it open. -/
theorem isOpen_iff :
    IsOpen statements number
      ↔
    ∃ before opening between, statements = before ++ opening :: between ∧
      opening.opening?.isSome = true ∧ (openings before).length = number ∧
      StaysOpen between := by
  constructor
  · rintro ⟨place, hplace, hopening, hnumber, hstays⟩
    rw [List.getElem?_eq_getElem hplace] at hopening
    exact ⟨_, statements[place], _, by simp, hopening, hnumber, hstays⟩
  · rintro ⟨before, opening, between, rfl, hopening, hnumber, hstays⟩
    exact ⟨before.length, by simp, by simpa using hopening, by simpa using hnumber,
      by simpa using hstays⟩

theorem lt_of_isOpen
    (h : IsOpen statements number) :
    number < (openings statements).length := by
  obtain ⟨before, opening, between, rfl, hopening, rfl, _⟩ := isOpen_iff.mp h
  rw [openings_append, List.length_append, length_openings_cons hopening]
  omega

theorem grouping_cases
    (statement : Statement) :
    statement.opening?.isSome = true ∨ statement = .closeSubgraph ∨
      statement.isGrouping = false := by
  cases statement <;> simp [Statement.opening?, Statement.isGrouping]

theorem counts_of_opening
    (hopening : statement.opening?.isSome = true) :
    (openings [statement]).length = 1 ∧ closings [statement] = 0 := by
  cases statement with
  | openSubgraph id label =>
      exact ⟨rfl, rfl⟩
  | closeSubgraph =>
      cases hopening
  | chain head links =>
      cases hopening
  | node reference =>
      cases hopening

theorem counts_of_plain
    (hplain : statement.isGrouping = false) :
    openings [statement] = [] ∧ closings [statement] = 0 := by
  cases statement with
  | openSubgraph id label =>
      cases hplain
  | closeSubgraph =>
      cases hplain
  | chain head links =>
      exact ⟨rfl, rfl⟩
  | node reference =>
      exact ⟨rfl, rfl⟩

/-- The counts of statements around an opening. -/
theorem counts_split
    (hopening : statement.opening?.isSome = true)
    (before between : List Statement) :
    (openings (before ++ statement :: between)).length =
        (openings before).length + 1 + (openings between).length ∧
      closings (before ++ statement :: between) = closings before + closings between := by
  obtain ⟨hopened, hclosed⟩ := counts_of_opening hopening
  rw [List.append_cons, openings_append, openings_append, closings_append, closings_append,
    List.length_append, List.length_append, hopened, hclosed]
  exact ⟨rfl, rfl⟩

theorem staysOpen_concat :
    StaysOpen (statements ++ [statement])
      ↔
    StaysOpen statements ∧
      closings statements + closings [statement] ≤
        (openings statements).length + (openings [statement]).length := by
  rw [← closings_append, ← List.length_append, ← openings_append]
  simp only [StaysOpen, List.mem_inits, List.prefix_concat_iff]
  constructor
  · intro h
    exact ⟨fun part hpart => h part (Or.inr hpart), h _ (Or.inl rfl)⟩
  · rintro ⟨hparts, hall⟩ part (rfl | hpart)
    · exact hall
    · exact hparts part hpart

theorem StaysOpen.closings_le
    (h : StaysOpen statements) :
    closings statements ≤ (openings statements).length :=
  h statements ((List.mem_inits _ _).mpr (List.prefix_refl _))

theorem StaysOpen.of_append
    {others : List Statement}
    (h : StaysOpen (statements ++ others)) :
    StaysOpen statements := by
  intro part hpart
  rw [List.mem_inits] at hpart
  exact h part ((List.mem_inits _ _).mpr (hpart.trans (List.prefix_append _ _)))

/-- Statements that open more subgraphs than they close leave one of them open. -/
theorem exists_staysOpen_of_lt
    {excess : Nat}
    (h : closings statements + excess < (openings statements).length) :
    ∃ before opening between, statements = before ++ opening :: between ∧
      opening.opening?.isSome = true ∧ StaysOpen between ∧
      closings between + excess ≤ (openings between).length := by
  -- From the end: an opening there is the one, unless more than one must be left open.
  induction statements using List.reverseRecOn generalizing excess with
  | nil =>
      simp [openings] at h
  | append_singleton front last ih =>
      rw [closings_append, openings_append, List.length_append] at h
      have hextend : ∀ less,
          closings front + less < (openings front).length →
          closings [last] + excess ≤ (openings [last]).length + less →
          ∃ before opening between, front ++ [last] = before ++ opening :: between ∧
            opening.opening?.isSome = true ∧ StaysOpen between ∧
            closings between + excess ≤ (openings between).length := by
        intro less hfront hlast
        obtain ⟨before, opening, between, rfl, hopening, hstays, hcount⟩ := ih hfront
        refine ⟨before, opening, between ++ [last], by simp, hopening, ?_, ?_⟩
        · exact staysOpen_concat.mpr ⟨hstays, by omega⟩
        · rw [closings_append, openings_append, List.length_append]
          omega
      rcases grouping_cases last with hopening | rfl | hplain
      · obtain ⟨hopened, hclosed⟩ := counts_of_opening hopening
        cases excess with
        | zero =>
            exact ⟨front, last, [], rfl, hopening, by decide, by decide⟩
        | succ excess =>
            exact hextend excess (by omega) (by omega)
      · have hopened : (openings [.closeSubgraph]).length = 0 := rfl
        have hclosed : closings [.closeSubgraph] = 1 := rfl
        exact hextend (excess + 1) (by omega) (by omega)
      · obtain ⟨hopened, hclosed⟩ := counts_of_plain hplain
        rw [hopened, hclosed] at h hextend
        exact hextend excess h (by simp)

/-- One more statement leaves a subgraph open as what stands behind its opening says, or it opens
it. -/
theorem isOpen_concat :
    IsOpen (statements ++ [statement]) number
      ↔
    (∃ before opening between, statements = before ++ opening :: between ∧
      opening.opening?.isSome = true ∧ (openings before).length = number ∧
      StaysOpen (between ++ [statement])) ∨
    (statement.opening?.isSome = true ∧ number = (openings statements).length) := by
  rw [isOpen_iff]
  constructor
  · rintro ⟨before, opening, between, hsplit, hopening, hnumber, hstays⟩
    rcases between.eq_nil_or_concat with rfl | ⟨front, last, hconcat⟩
    · obtain ⟨rfl, hlast⟩ := List.append_inj' hsplit rfl
      obtain rfl := List.singleton_inj.mp hlast
      exact Or.inr ⟨hopening, hnumber.symm⟩
    · rw [List.concat_eq_append] at hconcat
      subst hconcat
      rw [← List.cons_append, ← List.append_assoc] at hsplit
      obtain ⟨rfl, hlast⟩ := List.append_inj' hsplit rfl
      obtain rfl := List.singleton_inj.mp hlast
      exact Or.inl ⟨before, opening, front, rfl, hopening, hnumber, hstays⟩
  · rintro (⟨before, opening, between, rfl, hopening, hnumber, hstays⟩ | ⟨hopening, rfl⟩)
    · exact ⟨before, opening, between ++ [statement], by simp, hopening, hnumber, hstays⟩
    · exact ⟨statements, statement, [], rfl, hopening, rfl, by decide⟩

/-- A statement that closes nothing opens at most its own subgraph. -/
theorem isOpen_concat_of_closings_eq_zero
    (hclosed : closings [statement] = 0) :
    IsOpen (statements ++ [statement]) number
      ↔
    IsOpen statements number ∨
      (statement.opening?.isSome = true ∧ number = (openings statements).length) := by
  rw [isOpen_concat, isOpen_iff]
  apply or_congr_left
  constructor
  · rintro ⟨before, opening, between, hsplit, hopening, hnumber, hstays⟩
    exact ⟨before, opening, between, hsplit, hopening, hnumber, (staysOpen_concat.mp hstays).1⟩
  · rintro ⟨before, opening, between, hsplit, hopening, hnumber, hstays⟩
    have hle := hstays.closings_le
    exact ⟨before, opening, between, hsplit, hopening, hnumber,
      staysOpen_concat.mpr ⟨hstays, by omega⟩⟩

/-- A closing closes the subgraph that was opened last of those that are open. -/
theorem isOpen_concat_closing :
    IsOpen (statements ++ [.closeSubgraph]) number
      ↔
    IsOpen statements number ∧ ∃ later, number < later ∧ IsOpen statements later := by
  rw [isOpen_concat]
  constructor
  · rintro (⟨before, opening, between, rfl, hopening, rfl, hstays⟩ | ⟨hopening, _⟩)
    · obtain ⟨hbetween, hcount⟩ := staysOpen_concat.mp hstays
      refine ⟨isOpen_iff.mpr ⟨before, opening, between, rfl, hopening, rfl, hbetween⟩, ?_⟩
      have hlt : closings between + 0 < (openings between).length := hcount
      obtain ⟨front, inner, rest, rfl, hinner, hrest, _⟩ := exists_staysOpen_of_lt hlt
      refine ⟨(openings (before ++ opening :: front)).length, ?_, ?_⟩
      · have hcounts := (counts_split hopening before front).1
        omega
      · exact isOpen_iff.mpr
          ⟨before ++ opening :: front, inner, rest, by simp, hinner, rfl, hrest⟩
    · cases hopening
  · rintro ⟨houter, later, hlt, hlater⟩
    obtain ⟨before, opening, between, rfl, hopening, rfl, hbetween⟩ := isOpen_iff.mp houter
    obtain ⟨front, inner, rest, hsplit, hinner, rfl, hrest⟩ := isOpen_iff.mp hlater
    refine Or.inl ⟨before, opening, between, rfl, hopening, rfl, staysOpen_concat.mpr
      ⟨hbetween, ?_⟩⟩
    -- The later opening stands behind the earlier one, and nothing behind it closes it.
    rcases List.append_eq_append_iff.mp hsplit with ⟨part, rfl, hpart⟩ | ⟨part, rfl, _⟩
    · cases part with
      | nil =>
          simp at hlt
      | cons first part =>
          rw [List.cons_append] at hpart
          obtain ⟨rfl, rfl⟩ := List.cons.inj hpart
          have hpart := hbetween.of_append.closings_le
          have hrest := hrest.closings_le
          have hcounts := counts_split hinner part rest
          change closings _ + 1 ≤ _ + 0
          omega
    · rw [openings_append, List.length_append] at hlt
      omega

end Counting

section OpenSubgraphs

variable {statements : List Statement} {statement : Statement}

theorem mem_openSubgraphs
    {number : Nat} :
    number ∈ openSubgraphs statements ↔ IsOpen statements number := by
  rw [openSubgraphs, List.mem_filter, List.mem_range, decide_eq_true_iff]
  exact and_iff_right_of_imp lt_of_isOpen

theorem pairwise_openSubgraphs
    (statements : List Statement) :
    (openSubgraphs statements).Pairwise (· < ·) :=
  List.pairwise_lt_range.filter _

theorem openSubgraphs_concat_opening
    (hopening : statement.opening?.isSome = true) :
    openSubgraphs (statements ++ [statement]) =
      openSubgraphs statements ++ [(openings statements).length] := by
  obtain ⟨hopened, hclosed⟩ := counts_of_opening hopening
  rw [openSubgraphs, openings_append, List.length_append, hopened, List.range_succ,
    List.filter_append, openSubgraphs]
  congr 1
  · apply List.filter_congr
    intro number hnumber
    rw [List.mem_range] at hnumber
    simp [isOpen_concat_of_closings_eq_zero hclosed, hnumber.ne]
  · simp [isOpen_concat_of_closings_eq_zero hclosed, hopening]

theorem openSubgraphs_concat_plain
    (hplain : statement.isGrouping = false) :
    openSubgraphs (statements ++ [statement]) = openSubgraphs statements := by
  obtain ⟨hopened, hclosed⟩ := counts_of_plain hplain
  have hnone : statement.opening? = none := by
    cases statement <;> first | rfl | cases hplain
  rw [openSubgraphs, openings_append, hopened, List.append_nil, openSubgraphs]
  simp only [isOpen_concat_of_closings_eq_zero hclosed, hnone]
  simp

/-- The members of an ascending list that have a greater one are all but the last. -/
theorem filter_exists_lt_eq_dropLast
    {numbers : List Nat}
    (h : numbers.Pairwise (· < ·)) :
    numbers.filter (fun number => ∃ later ∈ numbers, number < later) = numbers.dropLast := by
  rcases numbers.eq_nil_or_concat with rfl | ⟨front, last, hconcat⟩
  · rfl
  · rw [List.concat_eq_append] at hconcat
    subst hconcat
    rw [List.pairwise_append] at h
    have hfront : ∀ number ∈ front, number < last :=
      fun number hnumber => h.2.2 number hnumber last List.mem_cons_self
    have hlast : ¬ ∃ later ∈ front ++ [last], last < later := by
      rintro ⟨later, hlater, hlt⟩
      rcases List.mem_append.mp hlater with hlater | hlater
      · exact absurd (hfront later hlater) hlt.asymm
      · exact absurd (List.mem_singleton.mp hlater) hlt.ne'
    rw [List.dropLast_concat, List.filter_append, List.filter_singleton, decide_eq_false hlast]
    simp only [cond_false, List.append_nil, List.filter_eq_self, decide_eq_true_iff]
    exact fun number hnumber => ⟨last, by simp, hfront number hnumber⟩

theorem openSubgraphs_concat_closing
    (statements : List Statement) :
    openSubgraphs (statements ++ [.closeSubgraph]) = (openSubgraphs statements).dropLast := by
  have hopened : openings (statements ++ [.closeSubgraph]) = openings statements := by
    rw [openings_append]
    exact List.append_nil _
  have hlast :
      (openSubgraphs statements).filter
          (fun number => ∃ later ∈ openSubgraphs statements, number < later) =
        (openSubgraphs statements).dropLast :=
    filter_exists_lt_eq_dropLast (pairwise_openSubgraphs statements)
  rw [← hlast, openSubgraphs, hopened]
  conv_rhs => arg 2; rw [openSubgraphs]
  rw [List.filter_filter]
  apply List.filter_congr
  intro number _
  rw [Bool.eq_iff_iff, Bool.and_eq_true, decide_eq_true_iff, decide_eq_true_iff,
    decide_eq_true_iff, isOpen_concat_closing]
  simp only [mem_openSubgraphs]
  tauto

theorem isOpen_of_innermost?
    {number : Nat}
    (h : innermost? statements = some number) :
    IsOpen statements number :=
  mem_openSubgraphs.mp (List.mem_of_getLast? h)

end OpenSubgraphs

end FlowchartSync
