import FlowchartSync.Statement.Reader

/-!
# What the readers leave

Every reader leaves a suffix of its text, and a link consumes at least its arrow.  A chain of
links therefore comes to an end.
-/

namespace FlowchartSync
namespace Statement

open Text

theorem suffix_of_takeUntil? {stop : Char} {text run rest : List Char}
    (found : takeUntil? stop text = some (run, rest)) : rest <:+ text := by
  unfold takeUntil? at found
  split at found
  · cases found
  · simp only [Option.some.injEq, Prod.mk.injEq] at found
    obtain ⟨rfl, rfl⟩ := found
    exact List.dropWhile_suffix _

theorem suffix_of_quoted? {text run rest : List Char}
    (found : quoted? text = some (run, rest)) : rest <:+ text := by
  unfold quoted? at found
  split at found
  · rename_i tail
    split at found
    · rename_i c after heq
      simp only [Option.some.injEq, Prod.mk.injEq] at found
      obtain ⟨rfl, rfl⟩ := found
      have whole : c :: after <:+ tail := heq ▸ List.dropWhile_suffix _
      exact ((List.suffix_cons c after).trans whole).trans (List.suffix_cons _ tail)
    · cases found
  · cases found

theorem suffix_of_quotedOr? {stop : Char} {text run rest : List Char}
    (found : quotedOr? stop text = some (run, rest)) : rest <:+ text := by
  simp only [quotedOr?, Option.orElse_eq_orElse, Option.orElse_eq_or,
    Option.or_eq_some_iff] at found
  rcases found with inQuotes | ⟨_, plain⟩
  · exact suffix_of_quoted? inQuotes
  · exact suffix_of_takeUntil? plain

theorem suffix_of_dropLiteral? {word text rest : List Char}
    (found : dropLiteral? word text = some rest) : rest <:+ text :=
  ⟨word, (dropLiteral?_eq_some_iff.1 found).symm⟩

theorem suffix_of_unquoted? {closing text label rest : List Char}
    (found : unquoted? closing text = some (label, rest)) : rest <:+ text := by
  unfold unquoted? at found
  split at found
  · cases found
  · simp only [Option.bind_eq_bind, Option.bind_eq_some_iff] at found
    obtain ⟨⟨run, tail⟩, taken, label', _, after, dropped, last⟩ := found
    split at last
    · cases last
    · cases last
      exact (suffix_of_dropLiteral? dropped).trans (suffix_of_takeUntil? taken)

theorem suffix_of_quotedBefore? {closing text label rest : List Char}
    (found : quotedBefore? closing text = some (label, rest)) : rest <:+ text := by
  simp only [quotedBefore?, Option.bind_eq_bind, Option.bind_eq_some_iff] at found
  obtain ⟨⟨run, tail⟩, taken, after, dropped, last⟩ := found
  cases last
  exact (suffix_of_dropLiteral? dropped).trans (suffix_of_quoted? taken)

theorem suffix_of_between? {delimiter : Delimiter} {text label rest : List Char}
    (found : between? delimiter text = some (label, rest)) : rest <:+ text := by
  simp only [between?, Option.bind_eq_bind, Option.bind_eq_some_iff] at found
  obtain ⟨inside, opened, closed⟩ := found
  simp only [Option.orElse_eq_orElse, Option.orElse_eq_or, Option.or_eq_some_iff] at closed
  rcases closed with inQuotes | ⟨_, plain⟩
  · exact (suffix_of_quotedBefore? inQuotes).trans (suffix_of_dropLiteral? opened)
  · exact (suffix_of_unquoted? plain).trans (suffix_of_dropLiteral? opened)

theorem suffix_of_bracket? {text rest : List Char} {bracket : Bracket}
    (found : bracket? text = some (bracket, rest)) : rest <:+ text := by
  obtain ⟨delimiter, _, fits⟩ := List.exists_of_findSome?_eq_some found
  simp only [Option.bind_eq_bind, Option.bind_eq_some_iff] at fits
  obtain ⟨⟨label, tail⟩, between, last⟩ := fits
  cases last
  exact suffix_of_between? between

theorem suffix_of_reference? {text rest : List Char} {reference : Reference}
    (found : reference? text = some (reference, rest)) : rest <:+ text := by
  simp only [reference?, Option.bind_eq_bind, Option.bind_eq_some_iff] at found
  obtain ⟨⟨id, tail⟩, taken, last⟩ := found
  have step : tail <:+ text := ⟨id, (append_eq_of_takeIdentifier? taken).2⟩
  split at last
  · rename_i bracketed
    cases last
    exact (suffix_of_bracket? bracketed).trans step
  · cases last
    exact step

theorem suffix_optionalEdgeLabel (text : List Char) :
    (optionalEdgeLabel text).2 <:+ text := by
  unfold optionalEdgeLabel
  split
  · rename_i label rest found
    unfold edgeLabel? at found
    split at found
    · rename_i tail
      simp only [Option.bind_eq_bind, Option.bind_eq_some_iff] at found
      obtain ⟨⟨run, after⟩, taken, last, dropped, same⟩ := found
      cases same
      exact ((suffix_of_dropLiteral? dropped).trans (suffix_of_quotedOr? taken)).trans
        (List.suffix_cons _ tail)
    · cases found
  · exact List.suffix_refl _

theorem length_lt_of_arrow? {text rest : List Char} {style : EdgeStyle}
    (found : arrow? text = some (style, rest)) : rest.length < text.length := by
  simp only [arrow?] at found
  split at found
  · rename_i arrow
    cases found
    have split : (text.takeWhile isArrowChar).length + (text.dropWhile isArrowChar).length
        = text.length := by
      rw [← List.length_append, List.takeWhile_append_dropWhile]
    simp only [isArrow, Bool.and_eq_true, decide_eq_true_eq] at arrow
    omega
  · cases found

theorem length_lt_of_link? {text rest : List Char} {link : Link}
    (found : link? text = some (link, rest)) : rest.length < text.length := by
  simp only [link?, Option.bind_eq_bind, Option.bind_eq_some_iff] at found
  obtain ⟨⟨style, afterArrow⟩, arrow, ⟨target, left⟩, reference, same⟩ := found
  cases same
  dsimp only at reference ⊢
  have gap (piece : List Char) : (skipGap piece).length ≤ piece.length :=
    (List.dropWhile_suffix isGap).length_le
  have afterLabel := (suffix_optionalEdgeLabel (skipGap afterArrow)).length_le
  have afterReference := (suffix_of_reference? reference).length_le
  have afterStyle := length_lt_of_arrow? arrow
  have first := gap text
  have second := gap afterArrow
  have third := gap (optionalEdgeLabel (skipGap afterArrow)).2
  omega

end Statement
end FlowchartSync
