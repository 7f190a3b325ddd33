import FlowchartSync.Proofs.Label.Escape

/-!
# Entity codes in parts of a written label

A label may be read in other pieces than it was written in.  Whatever the piece, the entity codes
in it stand for characters that writing codes (`codesOnly_escape_append`), so reading a piece
brings up no other character than those that stand in it (`mem_of_mem_unescape`).
-/

namespace FlowchartSync.Label

/-- Every entity code that starts anywhere in a text stands for a character that writing codes. -/
def CodesOnly (text : List Char) : Prop :=
  ∀ start : List Char, start <:+ text →
    ∀ value rest, entity? start = some (value, rest) → value ∈ codedChars

namespace CodesOnly

theorem of_suffix
    {text part : List Char}
    (h : CodesOnly text)
    (hpart : part <:+ text) :
    CodesOnly part :=
  fun start hstart => h start (hstart.trans hpart)

theorem nil : CodesOnly [] := by
  intro start hstart value rest hread
  rw [List.suffix_nil.mp hstart] at hread
  simp [entity?] at hread

/-- A character in front adds at most the code that starts with it. -/
theorem cons
    {c : Char} {text : List Char}
    (hfirst : ∀ value rest, entity? (c :: text) = some (value, rest) → value ∈ codedChars)
    (h : CodesOnly text) :
    CodesOnly (c :: text) := by
  intro start hstart value rest hread
  rcases List.suffix_cons_iff.mp hstart with rfl | hsuffix
  · exact hfirst value rest hread
  · exact h start hsuffix value rest hread

theorem append
    {front text : List Char}
    (hfront : '#' ∉ front)
    (h : CodesOnly text) :
    CodesOnly (front ++ text) := by
  induction front with
  | nil =>
      exact h
  | cons c front ih =>
      rw [List.mem_cons, not_or] at hfront
      rw [List.cons_append]
      refine cons ?_ (ih hfront.2)
      intro value rest hread
      rw [entity?_eq_none_of_ne _ (Ne.symm hfront.1)] at hread
      cases hread

end CodesOnly

/-- A text that starts with an entity code is the code and the rest. -/
theorem exists_code_of_entity?
    {text rest : List Char} {value : Char}
    (h : entity? text = some (value, rest)) :
    ∃ name : List Char,
      text = '#' :: (name ++ [';']) ++ rest ∧
      (∀ x ∈ name, x.isAlphanum = true) ∧
      entityValue? name = some value := by
  cases text with
  | nil =>
      simp [entity?] at h
  | cons c text =>
      by_cases hc : c = '#'
      · subst hc
        obtain ⟨hvalue, hrest⟩ := entity?_eq_some_iff.mp h
        refine ⟨text.takeWhile Char.isAlphanum, ?_, fun x hx => List.mem_takeWhile_imp hx, hvalue⟩
        have hsplit :
            text.takeWhile Char.isAlphanum ++ ';' :: rest = text := by
          rw [← hrest, List.takeWhile_append_dropWhile]
        simpa using hsplit.symm
      · rw [entity?_eq_none_of_ne text hc] at h
        cases h

/-- An entity code is read the same whatever follows it. -/
theorem entity?_append
    {text rest : List Char} {value : Char}
    (h : entity? text = some (value, rest))
    (more : List Char) :
    entity? (text ++ more) = some (value, rest ++ more) := by
  obtain ⟨name, rfl, hname, hvalue⟩ := exists_code_of_entity? h
  rw [List.append_assoc]
  exact entity?_code hname hvalue (rest ++ more)

/-- The codes in the start of a text are among the codes of the text. -/
theorem CodesOnly.of_append
    {text more : List Char}
    (h : CodesOnly (text ++ more)) :
    CodesOnly text := by
  intro start hstart value rest hread
  have hlonger : start ++ more <:+ text ++ more := by
    obtain ⟨front, rfl⟩ := hstart
    exact ⟨front, by simp⟩
  exact h (start ++ more) hlonger value (rest ++ more) (entity?_append hread more)

/-- Reading brings up no character that neither stands in the text nor can be coded. -/
theorem mem_of_mem_unescape
    {text : List Char} {x : Char}
    (hcodes : CodesOnly text)
    (hx : x ∈ unescape text) :
    x ∈ text ∨ x ∈ codedChars := by
  fun_induction unescape text with
  | case1 =>
      cases hx
  | case2 c rest value after found ih =>
      have hafter : after <:+ c :: rest := by
        obtain ⟨name, hcode, _⟩ := exists_code_of_entity? found
        exact ⟨_, hcode.symm⟩
      rcases List.mem_cons.mp hx with rfl | hx
      · exact Or.inr (hcodes (c :: rest) (List.suffix_refl _) x after found)
      · rcases ih (hcodes.of_suffix hafter) hx with hmem | hcoded
        · exact Or.inl (hafter.mem hmem)
        · exact Or.inr hcoded
  | case3 c rest found ih =>
      rcases List.mem_cons.mp hx with rfl | hx
      · exact Or.inl List.mem_cons_self
      · rcases ih (hcodes.of_suffix (List.suffix_cons c rest)) hx with hmem | hcoded
        · exact Or.inl (List.mem_cons_of_mem c hmem)
        · exact Or.inr hcoded

/-- The codes in a written label are those that writing made, also in front of a text that goes on
without a code. -/
theorem codesOnly_escape_append
    {tail : List Char}
    (htail : ∀ x ∈ tail.head?, x.isAlphanum = false ∧ x ≠ ';')
    (hplain : '#' ∉ tail)
    (label : List Char) :
    CodesOnly (escape label ++ tail) := by
  induction label with
  | nil =>
      simpa [escape] using CodesOnly.append hplain CodesOnly.nil
  | cons c rest ih =>
      rcases escapeChar_cases c rest with
        ⟨name, hcode, hname, hvalue, hcoded⟩ | ⟨hself, _, _, _, _, hhash⟩
      · have hletters : '#' ∉ name ++ [';'] := by
          intro hx
          rcases List.mem_append.mp hx with hx | hx
          · exact absurd (hname '#' hx) (by decide)
          · exact absurd (List.mem_singleton.mp hx) (by decide)
        rw [escape, hcode, List.append_assoc, List.cons_append]
        refine CodesOnly.cons ?_ (CodesOnly.append hletters ih)
        intro value after hread
        rw [← List.cons_append, entity?_code hname hvalue] at hread
        cases hread
        exact hcoded
      · rw [escape, hself, List.append_assoc, List.singleton_append]
        refine CodesOnly.cons ?_ ih
        intro value after hread
        by_cases hc : c = '#'
        · subst hc
          rw [entity?_escape_append_eq_none htail (hhash rfl)] at hread
          cases hread
        · rw [entity?_eq_none_of_ne _ hc] at hread
          cases hread

end FlowchartSync.Label
