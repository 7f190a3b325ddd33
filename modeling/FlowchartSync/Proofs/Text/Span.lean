import FlowchartSync.Text.Identifier
import FlowchartSync.Text.Blank
import FlowchartSync.Text.Literal
import Mathlib.Data.List.Forall2
import Mathlib.Data.List.TakeWhile

/-!
# Runs of characters

What the readers of runs give on a text that is put together from the run, the character that ends
it and the rest: a run up to a stop character, an identifier, a fixed word, a keyword, a gap.
-/

namespace FlowchartSync.Text

section Stop

variable {stop : Char} {run : List Char}

/-- A run without the stop character is taken up to the stop character. -/
theorem takeWhile_ne_append
    (hrun : stop ∉ run)
    (rest : List Char) :
    (run ++ stop :: rest).takeWhile (· != stop) = run := by
  have hall : ∀ x ∈ run, (x != stop) = true := by
    intro x hx
    simpa using fun heq : x = stop => hrun (heq ▸ hx)
  rw [List.takeWhile_append_of_pos hall]
  simp

theorem dropWhile_ne_append
    (hrun : stop ∉ run)
    (rest : List Char) :
    (run ++ stop :: rest).dropWhile (· != stop) = stop :: rest := by
  have hall : ∀ x ∈ run, (x != stop) = true := by
    intro x hx
    simpa using fun heq : x = stop => hrun (heq ▸ hx)
  rw [List.dropWhile_append_of_pos hall]
  simp

/-- A text has one split at its first stop character. -/
theorem append_cons_inj
    {run' rest rest' : List Char}
    (hrun : stop ∉ run)
    (hrun' : stop ∉ run')
    (h : run ++ stop :: rest = run' ++ stop :: rest') :
    run = run' ∧ rest = rest' := by
  have hsame : run = run' := by
    rw [← takeWhile_ne_append hrun rest, h, takeWhile_ne_append hrun']
  subst hsame
  exact ⟨rfl, (List.cons.inj (List.append_cancel_left h)).2⟩

end Stop

section Words

@[simp] theorem dropLiteral?_append
    (word rest : List Char) :
    dropLiteral? word (word ++ rest) = some rest :=
  dropLiteral?_eq_some_iff.mpr rfl

@[simp] theorem dropLiteralEnd?_append
    (text word : List Char) :
    dropLiteralEnd? word (text ++ word) = some text := by
  simp [dropLiteralEnd?]

/-- A word is dropped from exactly the texts that it ends. -/
theorem dropLiteralEnd?_eq_some_iff
    {word text rest : List Char} :
    dropLiteralEnd? word text = some rest
      ↔
    text = rest ++ word := by
  constructor
  · intro h
    obtain ⟨reversed, hdrop, rfl⟩ := Option.map_eq_some_iff.mp h
    rw [dropLiteral?_eq_some_iff] at hdrop
    rw [← List.reverse_reverse text, hdrop]
    simp
  · rintro rfl
    exact dropLiteralEnd?_append rest word

theorem dropLiteralEnd?_concat_of_ne
    {c d : Char}
    (h : c ≠ d)
    (text : List Char) :
    dropLiteralEnd? [d] (text ++ [c]) = none := by
  rw [Option.eq_none_iff_forall_ne_some]
  intro rest hsome
  rw [dropLiteralEnd?_eq_some_iff] at hsome
  exact h (List.singleton_inj.mp (List.append_inj_right' hsome rfl))

end Words

section Identifiers

/-- A code point lies in a table when one of its ranges holds it. -/
theorem inRanges_iff
    {table : List (Nat × Nat)} {code : Nat} :
    inRanges table code = true
      ↔
    ∃ range ∈ table, range.1 ≤ code ∧ code ≤ range.2 := by
  simp [inRanges]

/-- No range of white space meets a range of letters and numbers. -/
theorem blankRanges_disjoint :
    ∀ blank ∈ blankRanges, ∀ range ∈ identifierRanges,
      blank.2 < range.1 ∨ range.2 < blank.1 := by
  decide +kernel

/-- The same for the code points below the second table. -/
theorem isIdentifierChar_ofNat_of_blank :
    ∀ code < 0x80, inRanges blankRanges code = true →
      isIdentifierChar (Char.ofNat code) = false := by
  decide +kernel

/-- White space is no part of an identifier. -/
theorem isIdentifierChar_of_isBlank
    {c : Char}
    (hc : isBlank c = true) :
    isIdentifierChar c = false := by
  by_cases hascii : c.toNat < 0x80
  · have h := isIdentifierChar_ofNat_of_blank c.toNat hascii hc
    rwa [Char.ofNat_toNat] at h
  · rw [isIdentifierChar, if_neg hascii, Bool.eq_false_iff]
    intro hletter
    obtain ⟨blank, hblank, hblankLow, hblankHigh⟩ := inRanges_iff.mp hc
    obtain ⟨range, hrange, hlow, hhigh⟩ := inRanges_iff.mp hletter
    have hapart := blankRanges_disjoint blank hblank range hrange
    omega

/-- An identifier in parts: its first character and the others. -/
theorem exists_cons_of_isIdentifier
    {name : List Char}
    (h : isIdentifier name = true) :
    ∃ c rest, name = c :: rest ∧ isIdentifierChar c = true := by
  cases name with
  | nil =>
      simp [isIdentifier] at h
  | cons c rest =>
      simp only [isIdentifier, List.all_cons, Bool.and_eq_true] at h
      exact ⟨c, rest, rfl, h.2.1⟩

theorem isIdentifierChar_of_mem
    {name : List Char} {c : Char}
    (h : isIdentifier name = true)
    (hc : c ∈ name) :
    isIdentifierChar c = true := by
  simp only [isIdentifier, Bool.and_eq_true, List.all_eq_true] at h
  exact h.2 c hc

/-- An identifier is taken up to the first character that is no part of it. -/
theorem takeIdentifier?_append
    {name : List Char}
    (h : isIdentifier name = true)
    {rest : List Char}
    (hrest : ∀ x ∈ rest.head?, isIdentifierChar x = false) :
    takeIdentifier? (name ++ rest) = some (name, rest) := by
  have hname : ∀ x ∈ name, isIdentifierChar x = true :=
    fun x hx => isIdentifierChar_of_mem h hx
  have htake : rest.takeWhile isIdentifierChar = [] := by
    cases rest with
    | nil =>
        rfl
    | cons x rest =>
        simp [hrest x rfl]
  have hdrop : rest.dropWhile isIdentifierChar = rest := by
    cases rest with
    | nil =>
        rfl
    | cons x rest =>
        simp [hrest x rfl]
  unfold takeIdentifier?
  rw [List.takeWhile_append_of_pos hname, List.dropWhile_append_of_pos hname, htake, hdrop,
    List.append_nil]
  obtain ⟨c, tail, rfl, _⟩ := exists_cons_of_isIdentifier h
  rfl

theorem takeIdentifier?_eq_none
    {text : List Char}
    (h : ∀ c ∈ text.head?, isIdentifierChar c = false) :
    takeIdentifier? text = none := by
  cases text with
  | nil =>
      rfl
  | cons c rest =>
      simp [takeIdentifier?, h c rfl]

theorem isIdentifier_of_takeIdentifier?
    {text name rest : List Char}
    (h : takeIdentifier? text = some (name, rest)) :
    isIdentifier name = true := by
  have hname : name ≠ [] :=
    (append_eq_of_takeIdentifier? h).1
  unfold takeIdentifier? at h
  split at h
  · cases h
  · simp only [Option.some.injEq, Prod.mk.injEq] at h
    obtain ⟨rfl, _⟩ := h
    simp [isIdentifier, hname]

end Identifiers

section Spellings

variable {word text rest : List Char} {w c : Char}

/-- Whether a text spells a word, in any case of its ASCII letters. -/
def IsSpelling (word text : List Char) : Prop :=
  List.Forall₂ (fun w c => sameLetter w c = true) word text

/-- A keyword is dropped from exactly the texts that start with a spelling of it. -/
theorem dropKeyword?_eq_some_iff :
    dropKeyword? word text = some rest
      ↔
    ∃ spelled, IsSpelling word spelled ∧ text = spelled ++ rest := by
  induction word generalizing text with
  | nil =>
      constructor
      · rintro ⟨⟩
        exact ⟨[], .nil, rfl⟩
      · rintro ⟨_, ⟨⟩, rfl⟩
        rfl
  | cons w word ih =>
      cases text with
      | nil =>
          simp [dropKeyword?, IsSpelling, List.forall₂_cons_left_iff]
      | cons c text =>
          rw [dropKeyword?]
          split_ifs with hsame
          · rw [ih]
            constructor
            · rintro ⟨spelled, hspelled, rfl⟩
              exact ⟨c :: spelled, .cons hsame hspelled, rfl⟩
            · rintro ⟨_, ⟨⟩ | ⟨_, hspelled⟩, ⟨⟩⟩
              exact ⟨_, hspelled, rfl⟩
          · constructor
            · rintro ⟨⟩
            · rintro ⟨_, ⟨⟩ | ⟨hsame', _⟩, ⟨⟩⟩
              exact absurd hsame' hsame

theorem sameWord_iff :
    sameWord word text = true ↔ IsSpelling word text := by
  simp [sameWord, dropKeyword?_eq_some_iff]

theorem IsSpelling.exists_cons
    (h : IsSpelling (w :: word) text) :
    ∃ c spelled, text = c :: spelled ∧ sameLetter w c = true := by
  cases h with
  | cons hsame _ => exact ⟨_, _, rfl, hsame⟩

/-- White space has no case. -/
theorem toLower_of_isBlank
    (hc : isBlank c = true) :
    c.toLower = c := by
  have hranges : ∀ range ∈ blankRanges, range.2 < 'A'.toNat ∨ 'Z'.toNat < range.1 := by
    decide
  obtain ⟨range, hrange, hlow, hhigh⟩ := inRanges_iff.mp hc
  have hapart := hranges range hrange
  have hplain : ¬ ('A'.toNat ≤ c.toNat ∧ c.toNat ≤ 'Z'.toNat) := by
    omega
  exact dif_neg hplain

/-- What spells a character that is no white space in either case is no white space. -/
theorem isBlank_of_sameLetter
    (hw : isBlank w.toLower = false)
    (h : sameLetter w c = true) :
    isBlank c = false := by
  rw [Bool.eq_false_iff]
  intro hblank
  rw [sameLetter, beq_iff_eq, toLower_of_isBlank hblank] at h
  rw [h, hblank] at hw
  cases hw

/-- What spells a word without white space holds none. -/
theorem IsSpelling.isBlank_of_mem
    (h : IsSpelling word text)
    (hword : (word.all fun w => !isBlank w.toLower) = true) :
    ∀ c ∈ text, isBlank c = false := by
  induction h with
  | nil =>
      exact List.forall_mem_nil _
  | cons hsame _ ih =>
      rw [List.all_cons, Bool.and_eq_true, Bool.not_eq_true'] at hword
      exact List.forall_mem_cons.mpr ⟨isBlank_of_sameLetter hword.1 hsame, ih hword.2⟩

end Spellings

section Heads

/-- What holds of all characters in front and of the first one behind holds of the first one. -/
theorem forall_mem_head?_append
    {p : Char → Prop} {front rest : List Char}
    (hfront : ∀ c ∈ front, p c)
    (hrest : ∀ c ∈ rest.head?, p c) :
    ∀ c ∈ (front ++ rest).head?, p c := by
  cases front with
  | nil =>
      exact hrest
  | cons c front =>
      rintro x ⟨⟩
      exact hfront c List.mem_cons_self

theorem forall_mem_head?_append_of_ne_nil
    {p : Char → Prop} {front : List Char}
    (hne : front ≠ [])
    (hfront : ∀ c ∈ front, p c)
    (rest : List Char) :
    ∀ c ∈ (front ++ rest).head?, p c := by
  intro c hc
  rw [List.head?_append_of_ne_nil front hne] at hc
  exact hfront c (List.mem_of_mem_head? hc)

theorem isBlank_of_isGap
    {c : Char}
    (hc : isGap c = true) :
    isBlank c = true := by
  simp only [isGap, Bool.or_eq_true, beq_iff_eq] at hc
  rcases hc with rfl | rfl <;> decide

/-- A gap is skipped up to a character that is no part of it. -/
theorem skipGap_append
    {gap rest : List Char}
    (hgap : ∀ c ∈ gap, isGap c = true)
    (hrest : ∀ c ∈ rest.head?, isGap c = false) :
    skipGap (gap ++ rest) = rest := by
  rw [skipGap, List.dropWhile_append_of_pos hgap]
  cases rest with
  | nil =>
      rfl
  | cons c rest =>
      rw [List.dropWhile_cons_of_neg (by simp [hrest c rfl])]

end Heads

end FlowchartSync.Text
