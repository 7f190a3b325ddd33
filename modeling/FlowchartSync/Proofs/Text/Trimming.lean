import FlowchartSync.Text.Blank
import Mathlib.Data.List.TakeWhile

/-!
# Trimmed texts

Trimming takes white space away from both ends of a text and leaves a text with none at either end
(`isTrimmed_trim`).  A text with none there is left as it is (`IsTrimmed.trim_eq`), and white space
that is put around it is trimmed away again (`IsTrimmed.trim_between`).
-/

namespace FlowchartSync.Text

/-- Whether a text neither starts nor ends with white space. -/
structure IsTrimmed (text : List Char) : Prop where
  first : ∀ c ∈ text.head?, isBlank c = false
  last : ∀ c ∈ text.getLast?, isBlank c = false

variable {front space text : List Char}

section Ends

theorem head?_trimStart
    (text : List Char) :
    ∀ c ∈ (trimStart text).head?, isBlank c = false := by
  intro c hc
  have hstop := List.head?_dropWhile_not isBlank text
  rw [trimStart] at hc
  rw [Option.mem_def.mp hc] at hstop
  exact hstop

/-- White space at the end of a text is all that trimming its end takes away. -/
theorem trimEnd_prefix
    (text : List Char) :
    trimEnd text <+: text := by
  have hsuffix : text.reverse.dropWhile isBlank <:+ text.reverse :=
    List.dropWhile_suffix isBlank
  rw [trimEnd, ← List.reverse_suffix, List.reverse_reverse]
  exact hsuffix

theorem getLast?_trimEnd
    (text : List Char) :
    ∀ c ∈ (trimEnd text).getLast?, isBlank c = false := by
  intro c hc
  rw [trimEnd, List.getLast?_reverse] at hc
  exact head?_trimStart text.reverse c hc

/-- What is left of a text starts as the text did. -/
theorem head?_trimEnd
    (text : List Char) :
    ∀ c ∈ (trimEnd text).head?, c ∈ text.head? := by
  intro c hc
  obtain ⟨trailing, happend⟩ := trimEnd_prefix text
  obtain ⟨others, hcons⟩ := List.head?_eq_some_iff.mp hc
  rw [← happend, hcons]
  rfl

theorem isTrimmed_trim
    (text : List Char) :
    IsTrimmed (trim text) :=
  ⟨fun c hc => head?_trimStart text c (head?_trimEnd _ c hc), getLast?_trimEnd _⟩

theorem isTrimmed_of_forall
    (h : ∀ c ∈ text, isBlank c = false) :
    IsTrimmed text :=
  ⟨fun c hc => h c (List.mem_of_mem_head? hc), fun c hc => h c (List.mem_of_mem_getLast? hc)⟩

theorem dropWhile_isBlank_of_head?
    (h : ∀ c ∈ text.head?, isBlank c = false) :
    text.dropWhile isBlank = text := by
  cases text with
  | nil =>
      rfl
  | cons c rest =>
      rw [List.dropWhile_cons_of_neg (by simp [h c rfl])]

theorem trimEnd_append
    (front text : List Char) :
    trimEnd (front ++ text) =
      if trimEnd text = [] then trimEnd front else front ++ trimEnd text := by
  have hempty : (text.reverse.dropWhile isBlank).isEmpty = true ↔ trimEnd text = [] := by
    rw [trimEnd, List.reverse_eq_nil_iff, List.isEmpty_iff]
  rw [trimEnd, List.reverse_append, List.dropWhile_append, if_congr hempty rfl rfl]
  split_ifs
  · rfl
  · simp [trimEnd]

/-- A text that does not end in white space is not shortened at its end. -/
theorem trimEnd_eq_self
    (h : ∀ c ∈ text.getLast?, isBlank c = false) :
    trimEnd text = text := by
  have hend : text.reverse.dropWhile isBlank = text.reverse := by
    apply dropWhile_isBlank_of_head?
    rwa [List.head?_reverse]
  rw [trimEnd, hend, List.reverse_reverse]

/-- What does not end in white space is kept in front of anything. -/
theorem prefix_trimEnd_append
    (h : ∀ c ∈ front.getLast?, isBlank c = false)
    (text : List Char) :
    front <+: trimEnd (front ++ text) := by
  rw [trimEnd_append]
  split_ifs
  · simp [trimEnd_eq_self h]
  · exact List.prefix_append front _

/-- Behind a text without line feeds the line feeds that stay are those of the trimmed rest. -/
theorem count_trimEnd_append
    (hfront : '\n' ∉ front)
    (text : List Char) :
    (trimEnd (front ++ text)).count '\n' = (trimEnd text).count '\n' := by
  rw [trimEnd_append]
  split_ifs with hempty
  · have hkept : trimEnd front ⊆ front :=
      List.IsPrefix.subset <| trimEnd_prefix front
    have hnone : '\n' ∉ trimEnd front := fun h => hfront (hkept h)
    rw [List.count_eq_zero.mpr hnone, hempty, List.count_nil]
  · rw [List.count_append, List.count_eq_zero.mpr hfront, Nat.zero_add]

theorem IsTrimmed.trim_eq
    (h : IsTrimmed text) :
    trim text = text := by
  rw [trim, trimStart, dropWhile_isBlank_of_head? h.first, trimEnd_eq_self h.last]

end Ends

section Surroundings

theorem not_mem_of_forall_isBlank
    {x : Char}
    (hx : isBlank x = false)
    (hspace : ∀ c ∈ space, isBlank c = true) :
    x ∉ space := by
  intro hmem
  rw [hspace x hmem] at hx
  cases hx

theorem trim_space_append
    (hspace : ∀ c ∈ space, isBlank c = true)
    (line : List Char) :
    trim (space ++ line) = trim line := by
  rw [trim, trimStart, List.dropWhile_append_of_pos hspace]
  rfl

theorem trim_append_space
    (hspace : ∀ c ∈ space, isBlank c = true)
    (line : List Char) :
    trim (line ++ space) = trim line := by
  have hstart : space.dropWhile isBlank = [] :=
    List.dropWhile_eq_nil_iff.mpr hspace
  have hend : trimEnd space = [] := by
    rw [trimEnd, List.dropWhile_eq_nil_iff.mpr fun c hc => hspace c (List.mem_reverse.mp hc)]
    rfl
  rw [trim, trim, trimStart, trimStart, List.dropWhile_append]
  split_ifs with hblank
  · rw [List.isEmpty_iff.mp hblank, hstart]
  · rw [trimEnd_append, if_pos hend]

/-- White space on either side of a trimmed text is trimmed away, and nothing else is. -/
theorem IsTrimmed.trim_between
    {trailing : List Char}
    (h : IsTrimmed text)
    (hspace : ∀ c ∈ space, isBlank c = true)
    (htrailing : ∀ c ∈ trailing, isBlank c = true) :
    trim (space ++ (text ++ trailing)) = text := by
  rw [trim_space_append hspace, trim_append_space htrailing, h.trim_eq]

/-- A text that starts with no white space keeps its first character when it is trimmed. -/
theorem exists_trim_cons
    {c : Char}
    (hc : isBlank c = false)
    (line : List Char) :
    ∃ rest, trim (c :: line) = c :: rest := by
  rw [trim, trimStart, List.dropWhile_cons_of_neg (by simp [hc]), trimEnd, List.reverse_cons,
    List.dropWhile_append]
  split_ifs
  · exact ⟨[], by simp [hc]⟩
  · exact ⟨(line.reverse.dropWhile isBlank).reverse, by simp⟩

end Surroundings

end FlowchartSync.Text
