import FlowchartSync.Label
import FlowchartSync.Proofs.Text.Lines

/-!
# The written form of a label

Each character of a label is written as itself or as an entity code.  All laws of writing follow
from this one case distinction (`escapeChar_cases`):

* reading a written label gives the label back (`unescape_escape`);
* a written label holds no quote, no line break and no doubled percent sign;
* an entity code in a written label stands for one of the five characters that writing codes.

The middle of the argument is that writing neither makes nor breaks the name of an entity: letters
and digits are written as themselves, and everything else starts with a character that is neither
(`takeWhile_escape_append`, `dropWhile_escape_append`).
-/

namespace FlowchartSync.Label

/-- The characters that can be written as an entity code. -/
def codedChars : List Char :=
  ['"', '\n', '\r', '%', '#']

/-- A character of a label is written as a code for it or as itself, and as itself only where the
statements can carry it. -/
theorem escapeChar_cases
    (c : Char) (rest : List Char) :
    (∃ name : List Char,
        escapeChar c rest = '#' :: (name ++ [';']) ∧
        (∀ x ∈ name, x.isAlphanum = true) ∧
        entityValue? name = some c ∧
        c ∈ codedChars)
      ∨
    (escapeChar c rest = [c] ∧
        c ≠ '"' ∧ c ≠ '\n' ∧ c ≠ '\r' ∧
        ¬ (c = '%' ∧ rest.head? = some '%') ∧
        (c = '#' → entity? ('#' :: rest) = none)) := by
  unfold escapeChar
  split_ifs with hquote hfeed hreturn hpercent hhash
  · subst hquote
    exact Or.inl ⟨"quot".toList, rfl, List.all_eq_true.mp rfl, rfl, by decide⟩
  · subst hfeed
    exact Or.inl ⟨"10".toList, rfl, List.all_eq_true.mp rfl, rfl, by decide⟩
  · subst hreturn
    exact Or.inl ⟨"13".toList, rfl, List.all_eq_true.mp rfl, rfl, by decide⟩
  · obtain ⟨rfl, _⟩ := hpercent
    exact Or.inl ⟨"37".toList, rfl, List.all_eq_true.mp rfl, rfl, by decide⟩
  · obtain ⟨rfl, _⟩ := hhash
    exact Or.inl ⟨"35".toList, rfl, List.all_eq_true.mp rfl, rfl, by decide⟩
  · refine Or.inr ⟨rfl, hquote, hfeed, hreturn, hpercent, ?_⟩
    rintro rfl
    simpa using hhash

/-- The first character of a written label is the label's own or the start of a code. -/
theorem head_escape
    {label text : List Char} {x : Char}
    (h : escape label = x :: text) :
    x = '#' ∨ ∃ rest, label = x :: rest := by
  cases label with
  | nil =>
      simp [escape] at h
  | cons c rest =>
      rcases escapeChar_cases c rest with
        ⟨name, hcode, _⟩ | ⟨hself, _⟩
      · left
        rw [escape, hcode] at h
        exact (List.cons.inj h).1.symm
      · right
        rw [escape, hself] at h
        exact ⟨rest, by rw [(List.cons.inj h).1]⟩

theorem escapeChar_ne_nil
    (c : Char) (rest : List Char) :
    escapeChar c rest ≠ [] := by
  rcases escapeChar_cases c rest with
    ⟨name, hcode, _⟩ | ⟨hself, _⟩
  · simp [hcode]
  · simp [hself]

theorem escape_ne_nil
    {label : List Char}
    (h : label ≠ []) :
    escape label ≠ [] := by
  cases label with
  | nil =>
      exact absurd rfl h
  | cons c rest =>
      rw [escape]
      exact List.append_ne_nil_of_left_ne_nil (escapeChar_ne_nil c rest) _

section Entities

/-- An entity code is the longest run of letters and digits after `#`, with a value and with a
semicolon after it. -/
theorem entity?_eq_some_iff
    {text rest : List Char} {value : Char} :
    entity? ('#' :: text) = some (value, rest)
      ↔
    entityValue? (text.takeWhile Char.isAlphanum) = some value ∧
      text.dropWhile Char.isAlphanum = ';' :: rest := by
  simp only [entity?]
  split
  · rename_i hvalue hrest
    rw [hvalue, hrest]
    simp
  · rename_i hnone
    constructor
    · intro h
      cases h
    · rintro ⟨hvalue, hrest⟩
      exact absurd hrest (hnone value rest hvalue)

theorem entity?_eq_none_of_ne
    {c : Char} (text : List Char)
    (hc : c ≠ '#') :
    entity? (c :: text) = none := by
  unfold entity?
  split
  · rename_i heq
    exact absurd (List.cons.inj heq).1 hc
  · rfl

/-- A name with a value, between `#` and `;`, is read as that value. -/
theorem entity?_code
    {name : List Char} {value : Char}
    (hname : ∀ x ∈ name, x.isAlphanum = true)
    (hvalue : entityValue? name = some value)
    (rest : List Char) :
    entity? ('#' :: (name ++ [';']) ++ rest) = some (value, rest) := by
  have hsplit :
      '#' :: (name ++ [';']) ++ rest = '#' :: (name ++ ';' :: rest) := by
    simp
  rw [hsplit, entity?_eq_some_iff,
    List.takeWhile_append_of_pos hname, List.dropWhile_append_of_pos hname]
  have hstop : Char.isAlphanum ';' = false := by
    decide
  simp [hstop, hvalue]

/-- Neither a letter nor a digit is ever written as a code. -/
theorem escapeChar_of_isAlphanum
    {c : Char} (rest : List Char)
    (hc : c.isAlphanum = true) :
    escapeChar c rest = [c] := by
  rcases escapeChar_cases c rest with
    ⟨name, _, _, _, hcoded⟩ | ⟨hself, _⟩
  · have hall : (codedChars.all fun x => !x.isAlphanum) = true := by
      decide
    have hnot := List.all_eq_true.mp hall c hcoded
    rw [hc] at hnot
    cases hnot
  · exact hself

/-- What is written for other characters does not start with a letter or a digit. -/
theorem escape_cons_of_not_isAlphanum
    {c : Char} (rest : List Char)
    (hc : c.isAlphanum = false) :
    ∃ x text, escape (c :: rest) = x :: text ∧ x.isAlphanum = false := by
  rcases escapeChar_cases c rest with
    ⟨name, hcode, _⟩ | ⟨hself, _⟩
  · exact ⟨'#', name ++ [';'] ++ escape rest, by simp [escape, hcode], by decide⟩
  · exact ⟨c, escape rest, by simp [escape, hself], hc⟩

variable {tail : List Char}

/-- Writing keeps the letters and digits at the start of a label. -/
theorem takeWhile_escape_append
    (htail : ∀ x ∈ tail.head?, x.isAlphanum = false)
    (label : List Char) :
    (escape label ++ tail).takeWhile Char.isAlphanum =
      label.takeWhile Char.isAlphanum := by
  induction label with
  | nil =>
      cases tail with
      | nil =>
          rfl
      | cons x tail =>
          simp [escape, htail x rfl]
  | cons c rest ih =>
      cases hc : c.isAlphanum with
      | true =>
          rw [escape, escapeChar_of_isAlphanum rest hc]
          simp [hc, ih]
      | false =>
          obtain ⟨x, text, htext, hx⟩ :=
            escape_cons_of_not_isAlphanum rest hc
          rw [htext]
          simp [hc, hx]

/-- Behind its first letters and digits a label is written as if it stood alone. -/
theorem dropWhile_escape_append
    (htail : ∀ x ∈ tail.head?, x.isAlphanum = false)
    (label : List Char) :
    (escape label ++ tail).dropWhile Char.isAlphanum =
      escape (label.dropWhile Char.isAlphanum) ++ tail := by
  induction label with
  | nil =>
      cases tail with
      | nil =>
          rfl
      | cons x tail =>
          simp [escape, htail x rfl]
  | cons c rest ih =>
      cases hc : c.isAlphanum with
      | true =>
          rw [escape, escapeChar_of_isAlphanum rest hc]
          simp [hc, ih]
      | false =>
          obtain ⟨x, text, htext, hx⟩ :=
            escape_cons_of_not_isAlphanum rest hc
          rw [List.dropWhile_cons_of_neg (by simp [hc]), htext]
          simp [hx]

/-- Writing makes no entity code out of a `#` that starts none in the label. -/
theorem entity?_escape_append_eq_none
    (htail : ∀ x ∈ tail.head?, x.isAlphanum = false ∧ x ≠ ';')
    {label : List Char}
    (h : entity? ('#' :: label) = none) :
    entity? ('#' :: (escape label ++ tail)) = none := by
  have hletters : ∀ x ∈ tail.head?, x.isAlphanum = false :=
    fun x hx => (htail x hx).1
  by_contra hsome
  obtain ⟨⟨value, rest⟩, hread⟩ := Option.ne_none_iff_exists'.mp hsome
  rw [entity?_eq_some_iff, takeWhile_escape_append hletters,
    dropWhile_escape_append hletters] at hread
  obtain ⟨hvalue, hrest⟩ := hread
  cases hdrop : label.dropWhile Char.isAlphanum with
  | nil =>
      rw [hdrop] at hrest
      exact (htail ';' (by simpa [escape] using congrArg List.head? hrest)).2 rfl
  | cons c after =>
      rw [hdrop] at hrest
      have hhead : ∃ text, escape (c :: after) = ';' :: text := by
        cases hwritten : escape (c :: after) with
        | nil =>
            exact absurd hwritten (escape_ne_nil (by simp))
        | cons x text =>
            rw [hwritten] at hrest
            exact ⟨text, by rw [(List.cons.inj hrest).1]⟩
      obtain ⟨text, htext⟩ := hhead
      rcases head_escape htext with hhash | ⟨after', hsame⟩
      · cases hhash
      · have hfound : entity? ('#' :: label) = some (value, after') := by
          rw [entity?_eq_some_iff, hdrop]
          exact ⟨hvalue, hsame⟩
        rw [h] at hfound
        cases hfound

end Entities

section RoundTrip

theorem unescape_of_entity?
    {text rest : List Char} {value : Char}
    (h : entity? text = some (value, rest)) :
    unescape text = value :: unescape rest := by
  cases text with
  | nil =>
      simp [entity?] at h
  | cons c text =>
      rw [unescape]
      split
      · rename_i found
        rw [h] at found
        cases found
        rfl
      · rename_i found
        rw [h] at found
        cases found

theorem unescape_cons_of_entity?_eq_none
    {c : Char} {rest : List Char}
    (h : entity? (c :: rest) = none) :
    unescape (c :: rest) = c :: unescape rest := by
  rw [unescape]
  split
  · rename_i found
    rw [h] at found
    cases found
  · rfl

/-- Reading a written label gives the label back. -/
theorem unescape_escape
    (label : List Char) :
    unescape (escape label) = label := by
  induction label with
  | nil =>
      simp [escape, unescape]
  | cons c rest ih =>
      rcases escapeChar_cases c rest with
        ⟨name, hcode, hname, hvalue, _⟩ | ⟨hself, _, _, _, _, hhash⟩
      · rw [escape, hcode,
          unescape_of_entity? (entity?_code hname hvalue (escape rest)), ih]
      · have hnone : entity? (c :: escape rest) = none := by
          by_cases hc : c = '#'
          · subst hc
            have hnone := @entity?_escape_append_eq_none [] (by simp) _ (hhash rfl)
            simpa using hnone
          · exact entity?_eq_none_of_ne (escape rest) hc
        rw [escape, hself, List.singleton_append,
          unescape_cons_of_entity?_eq_none hnone, ih]

end RoundTrip

section Characters

/-- Whether a character may stand in an entity code. -/
def isCodePart (c : Char) : Bool :=
  c == '#' || c == ';' || c.isAlphanum

theorem escapeChar_of_not_mem_codedChars
    {c : Char} (rest : List Char)
    (hc : c ∉ codedChars) :
    escapeChar c rest = [c] := by
  rcases escapeChar_cases c rest with
    ⟨name, _, _, _, hcoded⟩ | ⟨hself, _⟩
  · exact absurd hcoded hc
  · exact hself

/-- What is written for a character belongs to a code or is the character itself, which is then
neither a quote nor a line break. -/
theorem mem_escapeChar
    {c x : Char} {rest : List Char}
    (hx : x ∈ escapeChar c rest) :
    (x = c ∧ x ≠ '"' ∧ x ≠ '\n' ∧ x ≠ '\r') ∨ isCodePart x = true := by
  rcases escapeChar_cases c rest with
    ⟨name, hcode, hname, _⟩ | ⟨hself, hquote, hfeed, hreturn, _⟩
  · right
    rw [hcode] at hx
    simp only [List.mem_cons, List.mem_append, List.not_mem_nil, or_false] at hx
    rcases hx with rfl | hletter | rfl
    · rfl
    · simp [isCodePart, hname x hletter]
    · rfl
  · left
    rw [hself, List.mem_singleton] at hx
    subst hx
    exact ⟨rfl, hquote, hfeed, hreturn⟩

/-- A label in front of another text is written in front of that text's written form, and what is
written for it is its own or belongs to a code. -/
theorem escape_append
    (before after : List Char) :
    ∃ written : List Char,
      escape (before ++ after) = written ++ escape after ∧
      ∀ x ∈ written,
        (x ∈ before ∧ x ≠ '"' ∧ x ≠ '\n' ∧ x ≠ '\r') ∨ isCodePart x = true := by
  induction before with
  | nil =>
      exact ⟨[], rfl, by simp⟩
  | cons c rest ih =>
      obtain ⟨written, hwritten, hmem⟩ := ih
      refine ⟨escapeChar c (rest ++ after) ++ written, ?_, ?_⟩
      · rw [List.cons_append, escape, hwritten, List.append_assoc]
      · intro x hx
        rcases List.mem_append.mp hx with hx | hx
        · rcases mem_escapeChar hx with ⟨rfl, hplain⟩ | hcode
          · exact Or.inl ⟨List.mem_cons_self, hplain⟩
          · exact Or.inr hcode
        · rcases hmem x hx with ⟨hrest, hplain⟩ | hcode
          · exact Or.inl ⟨List.mem_cons_of_mem c hrest, hplain⟩
          · exact Or.inr hcode

/-- What stands in a written label stands in the label or belongs to a code, and is neither a
quote nor a line break. -/
theorem mem_escape
    {label : List Char} {x : Char}
    (hx : x ∈ escape label) :
    (x ∈ label ∧ x ≠ '"' ∧ x ≠ '\n' ∧ x ≠ '\r') ∨ isCodePart x = true := by
  obtain ⟨written, hwritten, hmem⟩ := escape_append label []
  simp only [List.append_nil, escape] at hwritten
  exact hmem x (hwritten ▸ hx)

/-- A character that is no part of a code is written nowhere but for itself. -/
theorem not_mem_of_forall_mem
    {text written : List Char} {c : Char}
    (hc : isCodePart c = false)
    (htext : c ∉ text)
    (hwritten : ∀ x ∈ written, x ∈ text ∨ isCodePart x = true) :
    c ∉ written := by
  intro hmem
  rcases hwritten c hmem with hlabel | hcode
  · exact htext hlabel
  · rw [hc] at hcode
    cases hcode

theorem quote_not_mem_escape
    (label : List Char) :
    '"' ∉ escape label := by
  intro h
  rcases mem_escape h with ⟨_, hquote, _⟩ | hcode
  · exact hquote rfl
  · revert hcode
    decide

theorem feed_not_mem_escape
    (label : List Char) :
    '\n' ∉ escape label := by
  intro h
  rcases mem_escape h with ⟨_, _, hfeed, _⟩ | hcode
  · exact hfeed rfl
  · revert hcode
    decide

end Characters

section Comments

/-- A written label holds no comment, also in front of a text that does not start with a percent
sign. -/
theorem cutComment_escape_append
    {tail : List Char}
    (htail : tail.head? ≠ some '%')
    (label : List Char) :
    Text.cutComment (escape label ++ tail) = escape label ++ Text.cutComment tail := by
  induction label with
  | nil =>
      rfl
  | cons c rest ih =>
      rcases escapeChar_cases c rest with
        ⟨name, hcode, hname, _⟩ | ⟨hself, _, _, _, hpercent, _⟩
      · have hplain : '%' ∉ '#' :: (name ++ [';']) := by
          simp only [List.mem_cons, List.mem_append, List.not_mem_nil, or_false, not_or]
          refine ⟨by decide, fun hmem => ?_, by decide⟩
          exact absurd (hname '%' hmem) (by decide)
        rw [escape, hcode, List.append_assoc, Text.cutComment_append hplain, ih,
          List.append_assoc]
      · have hkept : ¬ (c = '%' ∧ (escape rest ++ tail).head? = some '%') := by
          rintro ⟨hc, hhead⟩
          cases hwritten : escape rest with
          | nil =>
              rw [hwritten] at hhead
              exact htail hhead
          | cons x text =>
              rw [hwritten] at hhead
              obtain rfl : x = '%' := by
                simpa using hhead
              rcases head_escape hwritten with hhash | ⟨rest', rfl⟩
              · cases hhash
              · exact hpercent ⟨hc, rfl⟩
        rw [escape, hself, List.append_assoc, List.singleton_append, Text.cutComment,
          if_neg hkept, ih]
        rfl

end Comments

section ClosingBracket

/-- A text whose first closing square bracket stands right after a backslash. -/
def ClosesTrapezoid (text : List Char) : Prop :=
  ']' ∈ text ∧ (text.takeWhile (· != ']')).getLast? = some '\\'

instance (text : List Char) : Decidable (ClosesTrapezoid text) :=
  inferInstanceAs (Decidable (_ ∧ _))

/-- A text whose first closing square bracket stands after a backslash, taken apart there. -/
theorem closesTrapezoid_iff
    {text : List Char} :
    ClosesTrapezoid text
      ↔
    ∃ before after : List Char,
      text = before ++ '\\' :: ']' :: after ∧ ']' ∉ before := by
  constructor
  · rintro ⟨hmem, hlast⟩
    obtain ⟨run, after, rfl, hrun⟩ := List.eq_append_cons_of_mem hmem
    rw [Text.takeWhile_ne_append hrun, List.getLast?_eq_some_iff] at hlast
    obtain ⟨before, rfl⟩ := hlast
    exact ⟨before, after, by simp, fun h => hrun (List.mem_append_left _ h)⟩
  · rintro ⟨before, after, rfl, hbefore⟩
    have hrun : ']' ∉ before ++ ['\\'] := by
      simpa using hbefore
    have hsplit :
        before ++ '\\' :: ']' :: after = (before ++ ['\\']) ++ ']' :: after := by
      simp
    refine ⟨by simp, ?_⟩
    rw [hsplit, Text.takeWhile_ne_append hrun]
    simp

/-- A text closes a trapezoid when a backslash ends what stands before its first closing square
bracket. -/
theorem closesTrapezoid_append
    {before : List Char} (after : List Char)
    (hbefore : ']' ∉ before) :
    ClosesTrapezoid (before ++ ']' :: after) ↔ before.getLast? = some '\\' := by
  unfold ClosesTrapezoid
  rw [Text.takeWhile_ne_append hbefore]
  simp

/-- The last character written for a character is a backslash when that character is one. -/
theorem getLast?_escapeChar
    (c : Char) (rest : List Char) :
    (escapeChar c rest).getLast? = some '\\' ↔ c = '\\' := by
  rcases escapeChar_cases c rest with
    ⟨name, hcode, _, _, hcoded⟩ | ⟨hself, _⟩
  · have hc : c ≠ '\\' := by
      rintro rfl
      revert hcoded
      decide
    have hend : ('#' :: (name ++ [';'])).getLast? = some ';' := by
      rw [← List.cons_append, List.getLast?_concat]
    rw [hcode, hend]
    simp [hc]
  · simp [hself]

/-- Before its first closing square bracket a label is written without one, and what is written
there ends with a backslash when the label does. -/
theorem escape_append_bracket
    {before : List Char} (after : List Char)
    (hbefore : ']' ∉ before) :
    ∃ written : List Char,
      escape (before ++ ']' :: after) = written ++ ']' :: escape after ∧
      ']' ∉ written ∧
      (written.getLast? = some '\\' ↔ before.getLast? = some '\\') := by
  have hbracket : escape (']' :: after) = ']' :: escape after := by
    rw [escape, escapeChar_of_not_mem_codedChars _ (by decide)]
    rfl
  rcases before.eq_nil_or_concat with rfl | ⟨front, c, hconcat⟩
  · exact ⟨[], hbracket, by simp, by simp⟩
  · rw [List.concat_eq_append] at hconcat
    subst hconcat
    -- The last character before the bracket is written as itself or ends as a code does.
    obtain ⟨written, hwritten, hmem⟩ := escape_append front (c :: ']' :: after)
    have hpart : escape (c :: ']' :: after) =
        escapeChar c (']' :: after) ++ ']' :: escape after := by
      rw [escape, hbracket]
    refine ⟨written ++ escapeChar c (']' :: after), ?_, ?_, ?_⟩
    · rw [List.append_assoc, List.singleton_append, hwritten, hpart, List.append_assoc]
    · apply not_mem_of_forall_mem rfl hbefore
      intro x hx
      rcases List.mem_append.mp hx with hx | hx
      · exact (hmem x hx).imp_left fun h => List.mem_append_left [c] h.1
      · exact (mem_escapeChar hx).imp_left fun h => List.mem_append_right front (by simp [h.1])
    · have hends :
          (written ++ escapeChar c (']' :: after)).getLast? =
            (escapeChar c (']' :: after)).getLast? := by
        rw [List.getLast?_append, List.getLast?_eq_some_getLast (escapeChar_ne_nil _ _),
          Option.some_or]
      rw [hends, getLast?_escapeChar]
      simp

/-- Writing keeps a text that closes a trapezoid, and keeps what follows it apart. -/
theorem escape_closing
    {before : List Char} (after : List Char)
    (hbefore : ']' ∉ before) :
    ∃ written : List Char,
      escape (before ++ '\\' :: ']' :: after) = written ++ '\\' :: ']' :: escape after ∧
      ']' ∉ written := by
  have hslash : ']' ∉ before ++ ['\\'] := by
    simpa using hbefore
  obtain ⟨written, hwritten, hnot, hlast⟩ := escape_append_bracket after hslash
  obtain ⟨front, rfl⟩ := List.getLast?_eq_some_iff.mp (hlast.mpr (by simp))
  exact ⟨front, by simpa using hwritten, fun h => hnot (List.mem_append_left _ h)⟩

/-- Writing neither makes nor breaks a text that closes a trapezoid. -/
theorem closesTrapezoid_escape
    (label : List Char) :
    ClosesTrapezoid (escape label) ↔ ClosesTrapezoid label := by
  by_cases hmem : ']' ∈ label
  · obtain ⟨before, after, rfl, hbefore⟩ := List.eq_append_cons_of_mem hmem
    obtain ⟨written, hwritten, hnot, hlast⟩ := escape_append_bracket after hbefore
    rw [hwritten, closesTrapezoid_append _ hnot, closesTrapezoid_append _ hbefore, hlast]
  · have hwritten : ']' ∉ escape label :=
      not_mem_of_forall_mem rfl hmem fun x hx => (mem_escape hx).imp_left And.left
    exact iff_of_false (fun h => hwritten h.1) fun h => hmem h.1

end ClosingBracket

section Carrying

/-- A text that fits between quotes in one line: no quote ends it, no line break ends the line, and
no comment starts in it. -/
structure IsCarried (text : List Char) : Prop where
  quote : '"' ∉ text
  feed : '\n' ∉ text
  carriageReturn : '\r' ∉ text
  percents : ¬ ['%', '%'] <:+: text

theorem return_not_mem_escape
    (label : List Char) :
    '\r' ∉ escape label := by
  intro h
  rcases mem_escape h with ⟨_, _, _, hreturn⟩ | hcode
  · exact hreturn rfl
  · revert hcode
    decide

/-- No two percent signs stand side by side in a written label, since it would be cut there. -/
theorem percents_not_infix_escape
    (label : List Char) :
    ¬ ['%', '%'] <:+: escape label := by
  have huncut : Text.cutComment (escape label ++ []) = escape label ++ Text.cutComment [] :=
    cutComment_escape_append (by simp) label
  rw [Text.cutComment, List.append_nil] at huncut
  exact Text.cutComment_eq_self_iff.mp huncut

/-- Writing loses nothing of a label, and a line can carry what is written. -/
theorem unescape_escape_and_isCarried
    (label : List Char) :
    unescape (escape label) = label ∧ IsCarried (escape label) := by
  refine ⟨unescape_escape label, ?_, ?_, ?_, ?_⟩
  · exact quote_not_mem_escape label
  · exact feed_not_mem_escape label
  · exact return_not_mem_escape label
  · exact percents_not_infix_escape label

end Carrying

end FlowchartSync.Label
