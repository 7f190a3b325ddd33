import FlowchartSync.Proofs.Diagram.Formatting

/-!
# Declarations

A text is a flowchart when its first meaningful line begins like a declaration: a keyword, a gap,
and the two letters of a direction, all letters in any case (`isSome_declaration?_iff`).  Nothing
is asked of what stands behind the two letters.  So a declaration is made of whole words, but for
the lines in which an identifier goes on behind the direction, which are declarations all the same
(`declares_iff_and_wholeWords_iff`).
-/

namespace FlowchartSync
namespace Diagram

open Text

section Lines

variable {text line : List Char}

/-- Whether a line is what the first meaningful line of a text carries: without its comment and the
white space around it, it is not empty and no directive, as the lines above it all are. -/
def IsFirstMeaningful (text line : List Char) : Prop :=
  ∃ above raw below,
    splitLines text = above ++ raw :: below ∧
    (∀ other ∈ above, content other = [] ∨ (content other).head? = some '%') ∧
    content raw = line ∧
    line ≠ [] ∧ line.head? ≠ some '%'

theorem isMeaningful_iff :
    isMeaningful line = true ↔ line ≠ [] ∧ line.head? ≠ some '%' := by
  cases line <;> simp [isMeaningful]

theorem not_isMeaningful_iff :
    isMeaningful line = false ↔ line = [] ∨ line.head? = some '%' := by
  cases line <;> simp [isMeaningful]

theorem head?_contentLines_eq_some_iff :
    (contentLines text).head? = some line ↔ IsFirstMeaningful text line := by
  have hfind : (contentLines text).head? =
      ((splitLines text).find? (isMeaningful ∘ content)).map content := by
    rw [← List.find?_map, contentLines, List.head?_filter]
    rfl
  rw [hfind, Option.map_eq_some_iff]
  constructor
  · rintro ⟨raw, hraw, hline⟩
    obtain ⟨hmeaningful, above, below, hsplit, habove⟩ := List.find?_eq_some_iff_append.mp hraw
    rw [Function.comp_apply, hline, isMeaningful_iff] at hmeaningful
    refine ⟨above, raw, below, hsplit, fun other hother => ?_, hline, hmeaningful⟩
    exact not_isMeaningful_iff.mp (by simpa using habove other hother)
  · rintro ⟨above, raw, below, hsplit, habove, hline, hmeaningful⟩
    refine ⟨raw, List.find?_eq_some_iff_append.mpr ⟨?_, above, below, hsplit, ?_⟩, hline⟩
    · rw [Function.comp_apply, hline, isMeaningful_iff]
      exact hmeaningful
    · intro other hother
      simpa using not_isMeaningful_iff.mpr (habove other hother)

end Lines

section Words

variable {line after token rest : List Char}

/-- Whether a line begins like a declaration with a rest behind it: a keyword, a gap of at least
one space or tab, and the two letters of a direction.  The letters are in any case. -/
inductive BeginsDeclaration : List Char → List Char → Prop
  | intro
      {keyword direction : String} {word gap token rest : List Char}
      (hkeyword : keyword ∈ ["flowchart", "graph"])
      (hword : IsSpelling keyword.toList word)
      (hgap : ∀ c ∈ gap, isGap c = true)
      (hne : gap ≠ [])
      (hdirection : direction ∈ ["TD", "TB", "BT", "DT", "LR", "RL"])
      (htoken : IsSpelling direction.toList token) :
      BeginsDeclaration (word ++ (gap ++ (token ++ rest))) rest

/-- A keyword is read where one of the two is spelled; no line starts with both. -/
theorem exists_declaredKind?_iff :
    (∃ kind, declaredKind? line = some (kind, after))
      ↔
    ∃ keyword ∈ ["flowchart", "graph"], ∃ word,
      IsSpelling keyword.toList word ∧ line = word ++ after := by
  have hread : (∃ kind, declaredKind? line = some (kind, after)) ↔
      dropKeyword? "flowchart".toList line = some after ∨
        dropKeyword? "flowchart".toList line = none ∧
          dropKeyword? "graph".toList line = some after := by
    simp [declaredKind?, exists_or]
  have hapart : ∀ word, IsSpelling "graph".toList word →
      dropKeyword? "flowchart".toList (word ++ after) = none := by
    intro word hword
    obtain ⟨c, spelled, rfl, hc⟩ := IsSpelling.exists_cons hword
    have hf : sameLetter 'f' c = false := by
      rw [sameLetter, beq_iff_eq] at hc
      rw [sameLetter, ← hc]
      rfl
    show (if sameLetter 'f' c = true then _ else none) = none
    simp [hf]
  rw [hread]
  simp only [dropKeyword?_eq_some_iff, List.mem_cons, List.not_mem_nil, or_false,
    exists_eq_or_imp, exists_eq_left]
  constructor
  · rintro (hflowchart | ⟨_, hgraph⟩)
    · exact Or.inl hflowchart
    · exact Or.inr hgraph
  · rintro (hflowchart | ⟨word, hword, rfl⟩)
    · exact Or.inl hflowchart
    · exact Or.inr ⟨hapart word hword, word, hword, rfl⟩

theorem isSome_ofToken?_iff :
    (Direction.ofToken? token).isSome = true
      ↔
    ∃ direction ∈ ["TD", "TB", "BT", "DT", "LR", "RL"], IsSpelling direction.toList token := by
  simp [Direction.ofToken?, Direction.spellings, sameWord_iff]

/-- The two letters of a direction stand right behind the gap. -/
theorem skipGap_token
    {direction : String} {gap : List Char}
    (hgap : ∀ c ∈ gap, isGap c = true)
    (hdirection : direction ∈ ["TD", "TB", "BT", "DT", "LR", "RL"])
    (htoken : IsSpelling direction.toList token)
    (rest : List Char) :
    token.length = 2 ∧
    skipGap (gap ++ (token ++ rest)) = token ++ rest := by
  have hletters : ∀ direction ∈ ["TD", "TB", "BT", "DT", "LR", "RL"],
      direction.toList.length = 2 ∧
        (direction.toList.all fun w => !isBlank w.toLower) = true := by
    decide
  obtain ⟨hlength, hplain⟩ := hletters direction hdirection
  have htwo : token.length = 2 := htoken.length_eq.symm.trans hlength
  have hne : token ≠ [] := by
    rintro rfl
    cases htwo
  refine ⟨htwo, skipGap_append hgap (forall_mem_head?_append_of_ne_nil hne ?_ rest)⟩
  intro c hc
  rw [Bool.eq_false_iff]
  intro hcgap
  have hblank := htoken.isBlank_of_mem hplain c hc
  rw [isBlank_of_isGap hcgap] at hblank
  cases hblank

/-- How the reader takes a line apart. -/
theorem beginsDeclaration_iff :
    BeginsDeclaration line rest
      ↔
    ∃ kind after,
      declaredKind? line = some (kind, after) ∧
      after.takeWhile isGap ≠ [] ∧
      (Direction.ofToken? ((skipGap after).take 2)).isSome = true ∧
      (skipGap after).drop 2 = rest := by
  constructor
  · rintro ⟨hkeyword, hword, hgap, hne, hdirection, htoken⟩
    obtain ⟨kind, hkind⟩ := exists_declaredKind?_iff.mpr ⟨_, hkeyword, _, hword, rfl⟩
    obtain ⟨hlength, hskip⟩ := skipGap_token hgap hdirection htoken rest
    refine ⟨kind, _, hkind, ?_, ?_, ?_⟩
    · rw [List.takeWhile_append_of_pos hgap]
      exact List.append_ne_nil_of_left_ne_nil hne _
    · rw [hskip, List.take_left' hlength]
      exact isSome_ofToken?_iff.mpr ⟨_, hdirection, htoken⟩
    · rw [hskip, List.drop_left' hlength]
  · rintro ⟨kind, after, hkind, hne, hdirection, rfl⟩
    obtain ⟨keyword, hkeyword, word, hword, rfl⟩ := exists_declaredKind?_iff.mp ⟨kind, hkind⟩
    obtain ⟨direction, hdirection, htoken⟩ := isSome_ofToken?_iff.mp hdirection
    have hbegins : BeginsDeclaration
        (word ++ (after.takeWhile isGap ++ ((skipGap after).take 2 ++ (skipGap after).drop 2)))
        ((skipGap after).drop 2) :=
      .intro hkeyword hword (fun c hc => List.mem_takeWhile_imp hc) hne hdirection htoken
    rwa [List.take_append_drop, skipGap, List.takeWhile_append_dropWhile] at hbegins

theorem isSome_declaration?_iff :
    (declaration? line).isSome = true ↔ ∃ rest, BeginsDeclaration line rest := by
  constructor
  · intro h
    obtain ⟨declared, hread⟩ := Option.isSome_iff_exists.mp h
    simp only [declaration?, Option.bind_eq_bind, Option.bind_eq_some_iff, Prod.exists] at hread
    obtain ⟨kind, after, hkind, hread⟩ := hread
    split_ifs at hread with hgap
    obtain ⟨direction, hdirection, _⟩ := Option.bind_eq_some_iff.mp hread
    rw [List.isEmpty_iff] at hgap
    exact ⟨_, beginsDeclaration_iff.mpr ⟨kind, after, hkind, hgap,
      Option.isSome_of_eq_some hdirection, rfl⟩⟩
  · rintro ⟨rest, h⟩
    obtain ⟨kind, after, hkind, hgap, hdirection, _⟩ := beginsDeclaration_iff.mp h
    obtain ⟨direction, hdirection⟩ := Option.isSome_iff_exists.mp hdirection
    rw [ne_eq, ← List.isEmpty_iff] at hgap
    simp only [declaration?, hkind, hdirection, Option.bind_eq_bind, Option.bind_some, if_neg hgap,
      Option.isSome_some]

theorem BeginsDeclaration.rest_eq
    {other : List Char}
    (h : BeginsDeclaration line rest)
    (hother : BeginsDeclaration line other) :
    rest = other := by
  obtain ⟨kind, after, hkind, _, _, rfl⟩ := beginsDeclaration_iff.mp h
  obtain ⟨kind', after', hkind', _, _, rfl⟩ := beginsDeclaration_iff.mp hother
  rw [hkind] at hkind'
  cases hkind'
  rfl

end Words

section Declarations

/-- Whether the first meaningful line of a text begins like a declaration, with a rest behind
it. -/
def DeclaresBefore (text : String) (rest : List Char) : Prop :=
  ∃ line, IsFirstMeaningful text.toList line ∧ BeginsDeclaration line rest

/-- Whether a word in front of a text ends there: no identifier goes on with the text. -/
def EndsWord (rest : List Char) : Prop :=
  ∀ c ∈ rest.head?, isIdentifierChar c = false

theorem DeclaresBefore.rest_eq
    {text : String} {rest other : List Char}
    (h : DeclaresBefore text rest)
    (hother : DeclaresBefore text other) :
    rest = other := by
  obtain ⟨line, hline, hbegins⟩ := h
  obtain ⟨line', hline', hbegins'⟩ := hother
  rw [← head?_contentLines_eq_some_iff] at hline hline'
  obtain rfl := Option.some.inj (hline.symm.trans hline')
  exact hbegins.rest_eq hbegins'

theorem declares_iff
    (text : String) :
    declares text = true ↔ ∃ rest, DeclaresBefore text rest := by
  rw [declares_eq_any_head?]
  cases hfirst : (contentLines text.toList).head? with
  | none =>
      simp [DeclaresBefore, ← head?_contentLines_eq_some_iff, hfirst]
  | some line =>
      simp [DeclaresBefore, ← head?_contentLines_eq_some_iff, hfirst, isSome_declaration?_iff]

/-- A text declares a flowchart just when its first meaningful line begins like a declaration.
This is the same as beginning with the whole words of one just when no identifier goes on behind
the direction. -/
theorem declares_iff_and_wholeWords_iff
    (text : String) :
    (declares text = true ↔ ∃ rest, DeclaresBefore text rest) ∧
    ((declares text = true ↔ ∃ rest, DeclaresBefore text rest ∧ EndsWord rest)
      ↔
    ∀ rest, DeclaresBefore text rest → EndsWord rest) := by
  refine ⟨declares_iff text, ?_⟩
  rw [declares_iff]
  constructor
  · intro hwhole rest hrest
    obtain ⟨other, hother, hends⟩ := hwhole.mp ⟨rest, hrest⟩
    rwa [hrest.rest_eq hother]
  · intro hends
    constructor
    · rintro ⟨rest, hrest⟩
      exact ⟨rest, hrest, hends rest hrest⟩
    · rintro ⟨rest, hrest, _⟩
      exact ⟨rest, hrest⟩

/-- A text whose declaration runs on behind its direction. -/
def runOn : String :=
  "%% note\n\n  Graph\tTDX"

theorem declares_runOn :
    declares runOn = true ∧
    DeclaresBefore runOn ['X'] ∧
    ¬ (declares runOn = true ↔ ∃ rest, DeclaresBefore runOn rest ∧ EndsWord rest) := by
  have hbegins : BeginsDeclaration ("Graph".toList ++ (['\t'] ++ ("TD".toList ++ ['X']))) ['X'] :=
    .intro (by decide : "graph" ∈ ["flowchart", "graph"]) (sameWord_iff.mp rfl)
      (List.forall_mem_singleton.mpr rfl) (by decide)
      (by decide : "TD" ∈ ["TD", "TB", "BT", "DT", "LR", "RL"]) (sameWord_iff.mp rfl)
  have hfirst : IsFirstMeaningful runOn.toList "Graph\tTDX".toList :=
    head?_contentLines_eq_some_iff.mp (by decide +kernel)
  have hrest : DeclaresBefore runOn ['X'] := ⟨_, hfirst, hbegins⟩
  obtain ⟨hdeclares, hwhole⟩ := declares_iff_and_wholeWords_iff runOn
  refine ⟨hdeclares.mpr ⟨_, hrest⟩, hrest, fun hclaim => ?_⟩
  exact absurd (hwhole.mp hclaim ['X'] hrest 'X' rfl) (by decide)

end Declarations

end Diagram
end FlowchartSync
