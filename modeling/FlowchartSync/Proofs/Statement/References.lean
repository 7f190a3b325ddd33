import FlowchartSync.Proofs.Text.Span
import FlowchartSync.Statement.Line

/-!
# The references of a statement

A statement mentions nodes: a chain its head and the target of each link, a single node itself.
Each mention is read where it stands in the line: the first at the start of the line
(`reference?_of_ofLine?`), each later one somewhere in what the first leaves over.
-/

namespace FlowchartSync
namespace Statement

open Text

/-- The mentions of nodes in a statement, in order. -/
def references : Statement → List Reference
  | .openSubgraph _ _ => []
  | .closeSubgraph => []
  | .chain head links => head :: links.map Link.target
  | .node reference => [reference]

/-- Something that is read as a mention somewhere in a text. -/
def MentionedIn (text : List Char) (reference : Reference) : Prop :=
  ∃ start rest, start <:+ text ∧ reference? start = some (reference, rest)

theorem MentionedIn.of_suffix
    {text part : List Char} {reference : Reference}
    (h : MentionedIn part reference)
    (hpart : part <:+ text) :
    MentionedIn text reference := by
  obtain ⟨start, rest, hstart, hread⟩ := h
  exact ⟨start, rest, hstart.trans hpart, hread⟩

theorem isIdentifier_of_reference?
    {text rest : List Char} {reference : Reference}
    (h : reference? text = some (reference, rest)) :
    isIdentifier reference.id.toList = true := by
  simp only [reference?, Option.bind_eq_bind, Option.bind_eq_some_iff] at h
  obtain ⟨⟨name, after⟩, hname, hlast⟩ := h
  have hid := isIdentifier_of_takeIdentifier? hname
  split at hlast <;> (cases hlast; simpa using hid)

/-- The target of a link is mentioned in the link's text, and what it leaves over is the end of
that text. -/
theorem mentionedIn_of_link?
    {text rest : List Char} {link : Link}
    (h : link? text = some (link, rest)) :
    MentionedIn text link.target ∧ rest <:+ text := by
  simp only [link?, Option.bind_eq_bind, Option.bind_eq_some_iff] at h
  obtain ⟨⟨style, afterArrow⟩, harrow, ⟨target, left⟩, hreference, hlast⟩ := h
  cases hlast
  dsimp only at hreference ⊢
  have hstyle : afterArrow <:+ text := by
    simp only [arrow?] at harrow
    split at harrow
    · cases harrow
      exact (List.dropWhile_suffix _).trans (List.dropWhile_suffix _)
    · cases harrow
  have hstart : skipGap (optionalEdgeLabel (skipGap afterArrow)).2 <:+ text :=
    (List.dropWhile_suffix _).trans
      ((suffix_optionalEdgeLabel (skipGap afterArrow)).trans
        ((List.dropWhile_suffix _).trans hstyle))
  exact ⟨⟨_, _, hstart, hreference⟩, (suffix_of_reference? hreference).trans hstart⟩

/-- Every target of the links in a text is mentioned there. -/
theorem mentionedIn_of_mem_links
    {text : List Char} {link : Link}
    (h : link ∈ links text) :
    MentionedIn text link.target := by
  fun_induction links text with
  | case1 text first rest found ih =>
      obtain ⟨hmention, hrest⟩ := mentionedIn_of_link? found
      rcases List.mem_cons.mp h with rfl | h
      · exact hmention
      · exact (ih h).of_suffix hrest
  | case2 text found =>
      cases h

/-- The statement of a line opens a subgraph of a proper name, closes one with the word alone, is a
chain with a link, or gives a node its delimiters. -/
theorem ofLine?_cases
    {line : List Char} {statement : Statement}
    (h : ofLine? line = some statement) :
    (∃ name label,
      isIdentifier name = true ∧ statement = .openSubgraph (String.ofList name) label) ∨
    (line = "end".toList ∧ statement = .closeSubgraph) ∨
    (∃ head rest,
      reference? line = some (head, rest) ∧
      links rest ≠ [] ∧
      statement = .chain head (links rest)) ∨
    ∃ name rest bracket after,
      takeIdentifier? line = some (name, rest) ∧
      bracket? rest = some (bracket, after) ∧
      statement = .node ⟨String.ofList name, some bracket⟩ := by
  simp only [ofLine?, Option.orElse_eq_orElse, Option.orElse_eq_or, Option.or_eq_some_iff] at h
  rcases h with hopen | ⟨_, hclose | ⟨_, hchain | ⟨_, hnode⟩⟩⟩
  · simp only [openSubgraph?, Option.bind_eq_bind, Option.bind_eq_some_iff] at hopen
    obtain ⟨afterKeyword, _, hopen⟩ := hopen
    split at hopen
    · cases hopen
    · obtain ⟨⟨name, rest⟩, hname, hlast⟩ := Option.bind_eq_some_iff.mp hopen
      cases hlast
      exact Or.inl ⟨name, _, isIdentifier_of_takeIdentifier? hname, rfl⟩
  · unfold closeSubgraph? at hclose
    split at hclose
    · rename_i hend
      cases hclose
      exact Or.inr (Or.inl ⟨hend, rfl⟩)
    · cases hclose
  · simp only [chain?, Option.bind_eq_bind, Option.bind_eq_some_iff] at hchain
    obtain ⟨⟨head, rest⟩, hhead, hchain⟩ := hchain
    dsimp only at hchain
    split at hchain
    · cases hchain
    · rename_i hlinks
      cases hchain
      rw [List.isEmpty_iff] at hlinks
      exact Or.inr (Or.inr (Or.inl ⟨head, rest, hhead, hlinks, rfl⟩))
  · simp only [node?, Option.bind_eq_bind, Option.bind_eq_some_iff] at hnode
    obtain ⟨⟨name, rest⟩, hname, ⟨bracket, after⟩, hbracket, hlast⟩ := hnode
    cases hlast
    exact Or.inr (Or.inr (Or.inr ⟨name, rest, bracket, after, hname, hbracket, rfl⟩))

/-- The mentions of a line's statement: none, or one at the start of the line and the others in
what it leaves over. -/
theorem reference?_of_ofLine?
    {line : List Char} {statement : Statement}
    (h : ofLine? line = some statement) :
    statement.references = [] ∨
    ∃ head rest others,
      reference? line = some (head, rest) ∧
      statement.references = head :: others ∧
      ∀ reference ∈ others, MentionedIn rest reference := by
  rcases ofLine?_cases h with
    ⟨_, _, _, rfl⟩ | ⟨_, rfl⟩ | ⟨head, rest, hhead, _, rfl⟩ |
      ⟨name, rest, bracket, after, hname, hbracket, rfl⟩
  · exact Or.inl rfl
  · exact Or.inl rfl
  · refine Or.inr ⟨head, rest, (links rest).map Link.target, hhead, rfl, ?_⟩
    intro reference hreference
    obtain ⟨link, hlink, rfl⟩ := List.mem_map.mp hreference
    exact mentionedIn_of_mem_links hlink
  · refine Or.inr ⟨_, after, [], ?_, rfl, by simp⟩
    simp [reference?, hname, hbracket]

/-- Every mention of a line's statement is read somewhere in the line. -/
theorem mentionedIn_of_ofLine?
    {line : List Char} {statement : Statement}
    (h : ofLine? line = some statement)
    {reference : Reference}
    (hreference : reference ∈ statement.references) :
    MentionedIn line reference := by
  rcases reference?_of_ofLine? h with hnone | ⟨head, rest, others, hhead, hsplit, hothers⟩
  · rw [hnone] at hreference
    cases hreference
  · rw [hsplit] at hreference
    rcases List.mem_cons.mp hreference with rfl | hother
    · exact ⟨line, rest, List.suffix_refl line, hhead⟩
    · exact (hothers reference hother).of_suffix (suffix_of_reference? hhead)

end Statement
end FlowchartSync
