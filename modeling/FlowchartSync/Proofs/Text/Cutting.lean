import FlowchartSync.Proofs.Text.Columns

/-!
# Texts cut to a width

Whether a text fits is decided by its width as a text, but what is kept of it by the columns of its
characters on their own: the longest front that leaves room for the ellipsis
(`isLongestWithin_takeColumns`).  The two widths may differ.  So a text is cut right just when that
front leaves the room as a text, too, as it does in a text of level characters
(`isCutTo_cutTo_iff_and_of_isLevel`).
-/

namespace FlowchartSync.Text

section Cutting

variable {room width : Nat} {text front : List Char}

/-- Whether a text is the longest front of another whose characters, each on its own, take no more
than some columns. -/
structure IsLongestWithin (room : Nat) (text front : List Char) : Prop where
  isFront : front <+: text
  fits : looseWidth front ≤ room
  longest : ∀ other, other <+: text → looseWidth other ≤ room → other <+: front

theorem isLongestWithin_takeColumns
    (room : Nat) (text : List Char) :
    IsLongestWithin room text (takeColumns room text) := by
  induction text generalizing room with
  | nil =>
      exact ⟨List.prefix_rfl, Nat.zero_le room, fun other hother _ => hother⟩
  | cons c text ih =>
      rw [takeColumns]
      split_ifs with hc
      · obtain ⟨hfront, hfits, hlongest⟩ := ih (room - Columns.charWidth c)
        refine ⟨(List.prefix_cons_inj c).mpr hfront, ?_, ?_⟩
        · rw [looseWidth, List.map_cons, List.sum_cons, ← looseWidth]
          omega
        · intro other hother hroom
          cases other with
          | nil =>
              exact List.nil_prefix
          | cons d other =>
              obtain ⟨rfl, hrest⟩ := List.cons_prefix_cons.mp hother
              rw [looseWidth, List.map_cons, List.sum_cons, ← looseWidth] at hroom
              exact (List.prefix_cons_inj d).mpr (hlongest other hrest (by omega))
      · refine ⟨List.nil_prefix, Nat.zero_le room, ?_⟩
        intro other hother hroom
        cases other with
        | nil =>
            exact List.prefix_rfl
        | cons d other =>
            obtain ⟨rfl, _⟩ := List.cons_prefix_cons.mp hother
            rw [looseWidth, List.map_cons, List.sum_cons] at hroom
            omega

theorem IsLongestWithin.eq
    {other : List Char}
    (h : IsLongestWithin room text front)
    (hother : IsLongestWithin room text other) :
    front = other :=
  (hother.longest front h.isFront h.fits).eq_of_length_le
    (h.longest other hother.isFront hother.fits).length_le

/-- The ellipsis takes one column of its own behind any text. -/
theorem measure_append_ellipsis
    (text : List Char) :
    (Columns.measure (text ++ [ellipsis])).1 = (Columns.measure text).1 + 1 ∧
    (Columns.measure (text ++ [ellipsis])).2 = (Columns.measure text).2 := by
  induction text with
  | nil =>
      decide +kernel
  | cons c text ih =>
      obtain ⟨hcolumns, hcontext⟩ := ih
      rw [List.cons_append, Columns.measure, Columns.measure]
      dsimp only
      rw [hcolumns, hcontext]
      exact ⟨by omega, rfl⟩

theorem displayWidth_append_ellipsis_le_iff
    (hwidth : 0 < width) :
    displayWidth (front ++ [ellipsis]) ≤ width ↔ displayWidth front < width := by
  rw [displayWidth, displayWidth, (measure_append_ellipsis front).1]
  omega

/-- Whether a text is cut right: the cut fits, a text that fits is not cut, and of any other text a
proper front is kept and marked, if there is any room. -/
structure IsCutTo (width : Nat) (text cut : List Char) : Prop where
  fits : displayWidth cut ≤ width
  whole : displayWidth text ≤ width → cut = text
  marked :
    width < displayWidth text → 0 < width →
      ∃ front, front <+: text ∧ front ≠ text ∧ cut = front ++ [ellipsis]

theorem cutTo_of_le
    (h : displayWidth text ≤ width) :
    cutTo width text = text :=
  if_pos h

theorem cutTo_of_lt
    (h : width < displayWidth text)
    (hwidth : 0 < width)
    (hfront : IsLongestWithin (width - 1) text front) :
    cutTo width text = front ++ [ellipsis] := by
  rw [cutTo, if_neg (by omega), if_neg (by omega),
    (isLongestWithin_takeColumns (width - 1) text).eq hfront]

theorem isCutTo_cutTo
    (h : width < displayWidth text → 0 < width →
      ∀ front, IsLongestWithin (width - 1) text front → displayWidth front < width) :
    IsCutTo width text (cutTo width text) := by
  have hfront := isLongestWithin_takeColumns (width - 1) text
  refine ⟨?_, cutTo_of_le, fun hlt hwidth => ?_⟩
  · by_cases hle : displayWidth text ≤ width
    · rwa [cutTo_of_le hle]
    · rcases Nat.eq_zero_or_pos width with rfl | hwidth
      · rw [cutTo, if_neg hle, if_pos rfl]
        exact Nat.le_refl 0
      · have hlt : width < displayWidth text := by omega
        rw [cutTo_of_lt hlt hwidth hfront, displayWidth_append_ellipsis_le_iff hwidth]
        exact h hlt hwidth _ hfront
  · have hnarrow := h hlt hwidth _ hfront
    refine ⟨_, hfront.isFront, fun hsame => ?_, cutTo_of_lt hlt hwidth hfront⟩
    rw [hsame] at hnarrow
    omega

/-- A text is cut right just when the longest front whose characters, each on its own, leave room
for the ellipsis leaves that room as a text.  This is so for every text of level characters. -/
theorem isCutTo_cutTo_iff_and_of_isLevel
    (width : Nat) (text : List Char) :
    (IsCutTo width text (cutTo width text)
      ↔
    (width < displayWidth text → 0 < width →
      ∀ front, IsLongestWithin (width - 1) text front → displayWidth front < width)) ∧
    ((∀ c ∈ text, Columns.isLevel c = true) → IsCutTo width text (cutTo width text)) := by
  refine ⟨⟨?_, isCutTo_cutTo⟩, fun hlevel => isCutTo_cutTo ?_⟩
  · intro hcut hlt hwidth front hfront
    have hfits := hcut.fits
    rwa [cutTo_of_lt hlt hwidth hfront, displayWidth_append_ellipsis_le_iff hwidth] at hfits
  · intro _ hwidth front hfront
    have hfrontLevel : ∀ c ∈ front, Columns.isLevel c = true :=
      fun c hc => hlevel c (hfront.isFront.subset hc)
    have hloose := displayWidth_le_looseWidth hfrontLevel
    have hfits := hfront.fits
    omega

/-- Two tabs do not fit into one column, but on their own take none, so that both are kept. -/
theorem not_isCutTo_tabs :
    cutTo 1 ['\t', '\t'] = ['\t', '\t', ellipsis] ∧
    displayWidth ['\t', '\t', ellipsis] = 3 ∧
    ¬ IsCutTo 1 ['\t', '\t'] (cutTo 1 ['\t', '\t']) := by
  have hwide : 1 < displayWidth ['\t', '\t'] := by
    decide +kernel
  have hfront : IsLongestWithin (1 - 1) ['\t', '\t'] ['\t', '\t'] :=
    ⟨List.prefix_rfl, by decide +kernel, fun other hother _ => hother⟩
  have hcut : cutTo 1 ['\t', '\t'] = ['\t', '\t', ellipsis] :=
    cutTo_of_lt hwide Nat.one_pos hfront
  have hcolumns : displayWidth ['\t', '\t', ellipsis] = 3 := by
    decide +kernel
  refine ⟨hcut, hcolumns, fun hright => ?_⟩
  have hfits := hright.fits
  rw [hcut, hcolumns] at hfits
  omega

end Cutting

end FlowchartSync.Text
