import FlowchartSync.Proofs.Text.Span
import FlowchartSync.Text.Columns
import Mathlib.Algebra.GroupWithZero.Nat
import Mathlib.Tactic.SplitIfs

/-!
# Characters in a text and on their own

A text may take more columns than its characters take on their own.  A control character is counted
in a text and nowhere else, and the selectors of the emoji style and of fullwidth quotes widen the
character in front of them.  Other characters are level: joined with what stands right of them they
are counted with no more columns than on their own (`count_bound`), but for the letters of flags in
front of an emoji, where a third letter undoes the joining of two others.  What a joint owes for
such letters is kept as its debt, and with it a text of level characters is no wider than the
characters are on their own (`displayWidth_le_looseWidth`).
-/

namespace FlowchartSync.Text
namespace Columns

section Tables

variable {code : Nat}

/-- Code points between two others that no range of a table reaches lie in none. -/
theorem inRanges_eq_false_of_within
    {low high : Nat} {table : List (Nat × Nat)}
    (htable : ∀ range ∈ table, range.2 < low ∨ high < range.1)
    (hlow : low ≤ code)
    (hhigh : code ≤ high) :
    inRanges table code = false := by
  rw [Bool.eq_false_iff]
  intro hmem
  obtain ⟨range, hrange, hstart, hend⟩ := inRanges_iff.mp hmem
  have hapart := htable range hrange
  omega

theorem one_le_glyphWidth
    (h : inRanges zeroRanges code = false) :
    1 ≤ glyphWidth code := by
  unfold glyphWidth
  rw [if_neg (by simp [h] : ¬ inRanges zeroRanges code = true)]
  split_ifs <;> decide

theorem one_le_glyphWidth_latin
    (h : code ≤ 0xA0) :
    1 ≤ glyphWidth code := by
  by_cases hlast : code = 0xA0
  · rw [hlast]
    decide +kernel
  · rw [glyphWidth, if_pos (by omega)]

theorem one_le_glyphWidth_flagHalf
    (h : isFlagHalf code = true) :
    1 ≤ glyphWidth code := by
  simp only [isFlagHalf, within, Bool.and_eq_true, decide_eq_true_eq] at h
  exact one_le_glyphWidth (inRanges_eq_false_of_within (by decide +kernel) h.1 h.2)

theorem textOnDemandRanges_apart :
    (textOnDemandRanges.all fun range => zeroRanges.all fun zero =>
      zero.2.blt range.1 || range.2.blt zero.1) = true := by
  decide +kernel

theorem one_le_glyphWidth_textOnDemand
    (h : inRanges textOnDemandRanges code = true) :
    1 ≤ glyphWidth code := by
  obtain ⟨range, hrange, hlow, hhigh⟩ := inRanges_iff.mp h
  have hapart := List.all_eq_true.mp textOnDemandRanges_apart range hrange
  simp only [List.all_eq_true, Bool.or_eq_true, Nat.blt_eq] at hapart
  exact one_le_glyphWidth (inRanges_eq_false_of_within hapart hlow hhigh)

end Tables

/-- The columns that a joint still owes: two letters of a flag in front of an emoji are counted as
one with it, and are counted after all when a third letter pairs them differently. -/
def Joint.debt : Joint → Int
  | .joinedFlagsEven => 2
  | _ => 0

theorem join?_bound
    {code : Nat} {joint left : Joint} {columns : Int}
    (hjoint : joint ≠ .fullwidthQuote)
    (h : join? code joint = some (columns, left)) :
    left ≠ .fullwidthQuote ∧ columns + left.debt ≤ glyphWidth code + joint.debt := by
  have hflag := @one_le_glyphWidth_flagHalf code
  have hjoiner : 1 ≤ glyphWidth 0x2D7F := by decide +kernel
  have hkirat : 1 ≤ glyphWidth 0x16D68 := by decide +kernel
  unfold join? at h
  split at h
  all_goals grind [Joint.debt]

/-- A context in which no character is counted with more columns than it has on its own: no
selector stands right of it that widens what it follows. -/
structure Context.IsLevel (context : Context) : Prop where
  unstyled : context.emojiStyle = false
  unquoted : context.joint ≠ .fullwidthQuote

/-- A level context whose joint owes nothing. -/
structure Context.IsFresh (context : Context) : Prop extends context.IsLevel where
  settled : context.joint.debt = 0

theorem isFresh_ite
    {p : Prop} [Decidable p] {left right : Context}
    (hleft : left.IsFresh)
    (hright : right.IsFresh) :
    (if p then left else right).IsFresh := by
  split_ifs
  · exact hleft
  · exact hright

variable {context : Context}

/-- Whether a character is neither a control character nor a selector that widens what it follows,
the one of the emoji style or the one of fullwidth quotes. -/
def isLevel (c : Char) : Bool :=
  !isControl c.toNat && c.toNat != 0xFE0F && c.toNat != 0xFE01

theorem isFresh_contextOf
    {code : Nat}
    (hstyle : code ≠ 0xFE0F)
    (hquote : code ≠ 0xFE01) :
    (contextOf code).IsFresh := by
  rw [contextOf, if_neg hstyle]
  refine isFresh_ite ⟨⟨rfl, nofun⟩, rfl⟩ ?_
  rw [if_neg hquote]
  repeat' apply isFresh_ite
  all_goals exact ⟨⟨rfl, nofun⟩, rfl⟩

theorem Joint.debt_nonneg
    (joint : Joint) :
    0 ≤ joint.debt := by
  unfold debt
  split <;> decide

/-- A joint that invisible characters may stand in owes nothing, with a joiner before it or not. -/
theorem isFresh_of_isTransparent
    {joint : Joint}
    (h : joint.isTransparent = true) :
    (Context.of joint).IsFresh ∧ (Context.of joint.withJoiner).IsFresh := by
  have hjoint : (joint ≠ .fullwidthQuote ∧ joint.debt = 0) ∧
      joint.withJoiner ≠ .fullwidthQuote ∧ joint.withJoiner.debt = 0 := by
    revert h
    cases joint <;> simp [Joint.isTransparent, Joint.withJoiner, Joint.debt]
  exact ⟨⟨⟨rfl, hjoint.1.1⟩, hjoint.1.2⟩, ⟨⟨rfl, hjoint.2.1⟩, hjoint.2.2⟩⟩

theorem withTextStyle_bound
    (h : context.IsLevel) :
    context.withTextStyle.IsLevel ∧ context.withTextStyle.joint.debt ≤ context.joint.debt := by
  unfold Context.withTextStyle
  split_ifs
  · exact ⟨⟨h.unstyled, h.unquoted⟩, Int.le_refl _⟩
  · exact ⟨⟨rfl, nofun⟩, context.joint.debt_nonneg⟩

theorem countJoining_bound
    {code : Nat}
    (h : context.IsLevel)
    (hstyle : code ≠ 0xFE0F)
    (hquote : code ≠ 0xFE01) :
    (countJoining code context).2.IsLevel ∧
    (countJoining code context).1 + (countJoining code context).2.joint.debt ≤
      glyphWidth code + context.joint.debt := by
  have hdebt := context.joint.debt_nonneg
  unfold countJoining
  rw [if_neg hstyle]
  dsimp only
  by_cases htext : code = 0xFE0E
  · obtain ⟨hlevel, hbound⟩ := withTextStyle_bound h
    rw [if_pos htext]
    refine ⟨hlevel, ?_⟩
    dsimp only
    omega
  rw [if_neg htext]
  by_cases hdemand : (context.textStyle && inRanges textOnDemandRanges code) = true
  · have hwidth := one_le_glyphWidth_textOnDemand (Bool.and_eq_true _ _ ▸ hdemand).2
    rw [if_pos hdemand]
    refine ⟨⟨rfl, nofun⟩, ?_⟩
    change (1 : Int) + 0 ≤ _
    omega
  rw [if_neg hdemand]
  by_cases hinside : (context.joint.isTransparent && isInvisible code) = true
  · obtain ⟨hfresh, hjoined⟩ := isFresh_of_isTransparent (Bool.and_eq_true _ _ ▸ hinside).1
    have hleft : (Context.of (if code = 0x200D then context.joint.withJoiner
        else context.joint)).IsFresh := by
      split_ifs
      · exact hjoined
      · exact hfresh
    rw [if_pos hinside]
    refine ⟨hleft.toIsLevel, ?_⟩
    rw [hleft.settled]
    dsimp only
    omega
  rw [if_neg hinside]
  cases hjoin : join? code context.joint with
  | some joined =>
      obtain ⟨hquoteless, hbound⟩ := join?_bound h.unquoted hjoin
      exact ⟨⟨rfl, hquoteless⟩, hbound⟩
  | none =>
      have hfresh := isFresh_contextOf hstyle hquote
      refine ⟨hfresh.toIsLevel, ?_⟩
      dsimp only
      rw [hfresh.settled]
      omega

theorem countPlain_bound
    {code : Nat}
    (h : context.IsLevel)
    (hstyle : code ≠ 0xFE0F)
    (hquote : code ≠ 0xFE01) :
    (countPlain code context).2.IsLevel ∧
    (countPlain code context).1 + (countPlain code context).2.joint.debt ≤
      glyphWidth code + context.joint.debt := by
  unfold countPlain
  by_cases hlatin : code ≤ 0xA0
  · have hwidth := one_le_glyphWidth_latin hlatin
    have hdebt := context.joint.debt_nonneg
    rw [if_pos hlatin]
    split_ifs
    all_goals
      refine ⟨⟨rfl, nofun⟩, ?_⟩
      change (_ : Int) + 0 ≤ _
      dsimp only
      omega
  · rw [if_neg hlatin]
    exact countJoining_bound h hstyle hquote

/-- A character that is level is counted with no more columns than it has on its own, but for what
the joint right of it owes. -/
theorem count_bound
    {c : Char}
    (h : context.IsLevel)
    (hc : isLevel c = true) :
    (count c context).2.IsLevel ∧
    (count c context).1 + (count c context).2.joint.debt ≤ charWidth c + context.joint.debt := by
  simp only [isLevel, Bool.and_eq_true, Bool.not_eq_true', bne_iff_ne] at hc
  obtain ⟨⟨hcontrol, hstyle⟩, hquote⟩ := hc
  have hwidth : charWidth c = glyphWidth c.toNat := by
    rw [charWidth, hcontrol]
    rfl
  have hsame : { context with emojiStyle := false } = context := by
    rw [← h.unstyled]
  have hcount : count c context = countPlain c.toNat context := by
    rw [count, h.unstyled, Bool.false_and, if_neg Bool.false_ne_true, hsame]
  rw [hcount, hwidth]
  exact countPlain_bound h hstyle hquote

theorem measure_bound
    {text : List Char}
    (h : ∀ c ∈ text, isLevel c = true) :
    (measure text).2.IsLevel ∧
    (measure text).1 + (measure text).2.joint.debt ≤ ((text.map charWidth).sum : Nat) := by
  induction text with
  | nil =>
      exact ⟨⟨rfl, nofun⟩, Int.le_refl _⟩
  | cons c text ih =>
      rw [List.forall_mem_cons] at h
      obtain ⟨hlevel, hbound⟩ := ih h.2
      obtain ⟨hleft, hown⟩ := count_bound hlevel h.1
      refine ⟨hleft, ?_⟩
      rw [measure, List.map_cons, List.sum_cons]
      dsimp only
      omega

end Columns

/-- The columns that the characters of a text take when each of them stands alone. -/
def looseWidth (text : List Char) : Nat :=
  (text.map Columns.charWidth).sum

/-- A text of level characters is no wider than they are on their own. -/
theorem displayWidth_le_looseWidth
    {text : List Char}
    (h : ∀ c ∈ text, Columns.isLevel c = true) :
    displayWidth text ≤ looseWidth text := by
  obtain ⟨_, hbound⟩ := Columns.measure_bound h
  have hdebt := (Columns.measure text).2.joint.debt_nonneg
  rw [displayWidth, looseWidth]
  omega

end FlowchartSync.Text
