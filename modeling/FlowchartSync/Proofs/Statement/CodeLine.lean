import FlowchartSync.Diagram.Code
import FlowchartSync.Proofs.Statement.Bracket
import FlowchartSync.Proofs.Statement.References

/-!
# Written lines as statements

The line of a node is read as one mention with the delimiters of its shape, and the line of an edge
as a chain of one link between two bare mentions.  A line of neither kind starts a subgraph or ends
one, whatever the ids: a node's id stands right before its delimiter, and an edge's source before
an arrow.

The line of a parallelogram that closes a trapezoid is read otherwise, but even so no mention in it
gives a parallelogram with a closing bracket in its label
(`not_closesInParallelogram_of_misread`).
-/

namespace FlowchartSync

open Text Label

/-- The line of a node without the space before it. -/
def Node.code (node : Node) : List Char :=
  node.id.toList ++
    (node.shape.opening ++ (protect node.shownLabel.toList ++ node.shape.closing))

/-- The line of an edge without the space before it. -/
def Edge.code (edge : Edge) : List Char :=
  edge.source.toList ++
    ' ' :: (edge.style.token ++ (edge.writtenLabel ++ ' ' :: edge.target.toList))

/-- The label that an edge shows: none if it is empty. -/
def Edge.shownLabel (edge : Edge) : Option String :=
  edge.label.filter (· != "")

theorem Node.line_eq
    (node : Node) :
    node.line = indent ++ node.code := by
  simp [Node.line, Node.code]

theorem Edge.line_eq
    (edge : Edge) :
    edge.line = indent ++ edge.code := by
  simp [Edge.line, Edge.code]

/-- A node with a proper id shows a label. -/
theorem Node.shownLabel_ne_nil
    {node : Node}
    (hid : isIdentifier node.id.toList = true) :
    node.shownLabel.toList ≠ [] := by
  unfold Node.shownLabel
  split_ifs with hempty
  · obtain ⟨c, rest, hcons, _⟩ := exists_cons_of_isIdentifier hid
    simp [hcons]
  · simpa using hempty

namespace Statement

section Keywords

/-- A keyword in front of a name ends within the name. -/
theorem exists_suffix_of_dropKeyword?
    {word name rest text : List Char} {c : Char}
    (hc : (word.all fun w => !sameLetter w c) = true)
    (h : dropKeyword? word (name ++ c :: rest) = some text) :
    ∃ part, part <:+ name ∧ text = part ++ c :: rest := by
  induction word generalizing name with
  | nil =>
      simp only [dropKeyword?, Option.some.injEq] at h
      exact ⟨name, List.suffix_refl name, h.symm⟩
  | cons w word ih =>
      rw [List.all_cons, Bool.and_eq_true, Bool.not_eq_true'] at hc
      cases name with
      | nil =>
          simp [dropKeyword?, hc.1] at h
      | cons d name =>
          rw [List.cons_append, dropKeyword?] at h
          split_ifs at h
          obtain ⟨part, hpart, rfl⟩ := ih hc.2 h
          exact ⟨part, hpart.trans (List.suffix_cons d name), rfl⟩

theorem isGap_of_isIdentifierChar
    {c : Char}
    (hc : isIdentifierChar c = true) :
    isGap c = false := by
  rw [Bool.eq_false_iff]
  intro hgap
  rw [isIdentifierChar_of_isBlank (isBlank_of_isGap hgap)] at hc
  cases hc

/-- A name opens no subgraph when what follows it is no gap with an identifier after it. -/
theorem openSubgraph?_eq_none
    {name rest : List Char} {c : Char}
    (hname : isIdentifier name = true)
    (hc : ("subgraph".toList.all fun w => !sameLetter w c) = true)
    (hrest : isGap c = false ∨ takeIdentifier? (skipGap (c :: rest)) = none) :
    openSubgraph? (name ++ c :: rest) = none := by
  rw [Option.eq_none_iff_forall_ne_some]
  intro statement hsome
  simp only [openSubgraph?, Option.bind_eq_bind, Option.bind_eq_some_iff] at hsome
  obtain ⟨afterKeyword, hkeyword, hsome⟩ := hsome
  obtain ⟨part, hpart, rfl⟩ := exists_suffix_of_dropKeyword? hc hkeyword
  split at hsome
  · cases hsome
  · rename_i hgap
    cases part with
    | cons d part =>
        have hd : isIdentifierChar d = true :=
          isIdentifierChar_of_mem hname (hpart.mem List.mem_cons_self)
        exact hgap (by simp [isGap_of_isIdentifierChar hd])
    | nil =>
        rcases hrest with hplain | hnone
        · exact hgap (by simp [hplain])
        · rw [List.nil_append, hnone] at hsome
          cases hsome

/-- Only the bare keyword closes a subgraph. -/
theorem closeSubgraph?_eq_none
    {line : List Char} {c : Char}
    (hmem : c ∈ line)
    (hc : c ∉ "end".toList) :
    closeSubgraph? line = none := by
  unfold closeSubgraph?
  rw [if_neg]
  rintro rfl
  exact hc hmem

end Keywords

section Mentions

/-- A name is a bare mention when no delimiters follow it. -/
theorem reference?_bare
    {name rest : List Char}
    (hname : isIdentifier name = true)
    (hrest : ∀ x ∈ rest.head?, isIdentifierChar x = false)
    (hbracket : bracket? rest = none) :
    reference? (name ++ rest) = some (.bare (String.ofList name), rest) := by
  simp [reference?, takeIdentifier?_append hname hrest, hbracket, Reference.bare]

theorem reference?_bracketed
    {name rest after : List Char} {bracket : Bracket}
    (hname : isIdentifier name = true)
    (hrest : ∀ x ∈ rest.head?, isIdentifierChar x = false)
    (hbracket : bracket? rest = some (bracket, after)) :
    reference? (name ++ rest) = some (⟨String.ofList name, some bracket⟩, after) := by
  simp [reference?, takeIdentifier?_append hname hrest, hbracket]

end Mentions

section Chains

/-- The links of a text start with the one that can be read first. -/
theorem links_of_link?
    {text rest : List Char} {link : Link}
    (h : link? text = some (link, rest)) :
    links text = link :: links rest := by
  rw [links]
  split
  · rename_i found
    rw [h] at found
    cases found
    rfl
  · rename_i found
    rw [h] at found
    cases found

theorem links_eq_nil
    {text : List Char}
    (h : link? text = none) :
    links text = [] := by
  rw [links]
  split
  · rename_i found
    rw [h] at found
    cases found
  · rfl

theorem links_nil :
    links [] = [] :=
  links_eq_nil rfl

end Chains

section Nodes

/-- An opening delimiter starts with a bracket, which no name and no keyword goes on with. -/
theorem exists_cons_opening
    (shape : Shape) :
    ∃ c rest,
      shape.opening = c :: rest ∧
      isIdentifierChar c = false ∧
      isGap c = false ∧
      ("subgraph".toList.all fun w => !sameLetter w c) = true ∧
      c ∉ "end".toList := by
  cases shape <;>
    exact ⟨_, _, rfl, by decide, by decide, by decide, by decide⟩

/-- A line of a name and a delimiter is read by what stands between the delimiters. -/
theorem ofLine?_name_opening
    {name : List Char} (shape : Shape) (rest : List Char)
    (hname : isIdentifier name = true) :
    ofLine? (name ++ (shape.opening ++ rest)) =
      (chain? (name ++ (shape.opening ++ rest))).or
        (node? (name ++ (shape.opening ++ rest))) := by
  obtain ⟨c, others, hopening, _, hgap, hkeyword, hend⟩ := exists_cons_opening shape
  rw [hopening, List.cons_append]
  have hopen : openSubgraph? (name ++ c :: (others ++ rest)) = none :=
    openSubgraph?_eq_none hname hkeyword (Or.inl hgap)
  have hclose :
      closeSubgraph? (name ++ c :: (others ++ rest)) = none :=
    closeSubgraph?_eq_none (by simp) hend
  simp [ofLine?, hopen, hclose]

/-- The line of a node is read as a mention of it with its shape and the label that it shows. -/
theorem ofLine?_node
    {node : Node}
    (hid : isIdentifier node.id.toList = true)
    (hopen : node.shape = .parallelogram → ¬ ClosesTrapezoid node.shownLabel.toList) :
    ofLine? node.code =
      some (.node ⟨node.id, some ⟨node.shape, node.shownLabel⟩⟩) := by
  have hbracket :
      bracket? (node.shape.opening ++
          (protect node.shownLabel.toList ++ node.shape.closing)) =
        some (⟨node.shape, node.shownLabel⟩, []) := by
    simpa using bracket?_written (Node.shownLabel_ne_nil hid) hopen []
  obtain ⟨c, others, hopening, hc, _⟩ := exists_cons_opening node.shape
  have hhead :
      ∀ x ∈ (node.shape.opening ++
          (protect node.shownLabel.toList ++ node.shape.closing)).head?,
        isIdentifierChar x = false := by
    simpa [hopening] using hc
  have hreference := reference?_bracketed hid hhead hbracket
  have hchain : chain? node.code = none := by
    unfold Node.code
    simp [chain?, hreference, links_nil]
  have hnode :
      node? node.code = some (.node ⟨node.id, some ⟨node.shape, node.shownLabel⟩⟩) := by
    unfold Node.code
    simp [node?, takeIdentifier?_append hid hhead, hbracket]
  unfold Node.code at hchain hnode ⊢
  rw [ofLine?_name_opening node.shape _ hid, hchain, hnode]
  rfl

end Nodes

section Edges

theorem bracket?_space
    (rest : List Char) :
    bracket? (' ' :: rest) = none := by
  rfl

theorem bracket?_nil :
    bracket? [] = none := by
  rfl

/-- A name alone is a bare mention. -/
theorem reference?_name
    {name : List Char}
    (hname : isIdentifier name = true) :
    reference? name = some (.bare (String.ofList name), []) := by
  have hnil : ∀ x ∈ ([] : List Char).head?, isIdentifierChar x = false := by
    simp
  simpa using reference?_bare hname hnil bracket?_nil

theorem eq_of_isArrowChar
    {c : Char}
    (h : isArrowChar c = true) :
    c = '-' ∨ c = '.' ∨ c = '=' ∨ c = '>' := by
  simpa [isArrowChar, or_assoc] using h

theorem isIdentifierChar_of_isArrowChar
    {c : Char}
    (h : isArrowChar c = true) :
    isIdentifierChar c = false := by
  rcases eq_of_isArrowChar h with rfl | rfl | rfl | rfl <;> decide

theorem isGap_of_isArrowChar
    {c : Char}
    (h : isArrowChar c = true) :
    isGap c = false := by
  rcases eq_of_isArrowChar h with rfl | rfl | rfl | rfl <;> decide

/-- A run of arrow characters with a stroke is read as an arrow, up to a character that is no part
of one. -/
theorem arrow?_append
    {run rest : List Char}
    (hchars : ∀ x ∈ run, isArrowChar x = true)
    (harrow : isArrow run = true)
    (hrest : ∀ x ∈ rest.head?, isArrowChar x = false) :
    arrow? (run ++ rest) = some (EdgeStyle.classify run, rest) := by
  have htake : rest.takeWhile isArrowChar = [] := by
    cases rest with
    | nil =>
        rfl
    | cons x rest =>
        simp [hrest x rfl]
  have hdrop : rest.dropWhile isArrowChar = rest := by
    cases rest with
    | nil =>
        rfl
    | cons x rest =>
        simp [hrest x rfl]
  unfold arrow?
  rw [List.takeWhile_append_of_pos hchars, List.dropWhile_append_of_pos hchars, htake, hdrop,
    List.append_nil]
  simp [harrow]

theorem isArrowChar_of_mem_token
    (style : EdgeStyle) :
    ∀ x ∈ style.token, isArrowChar x = true :=
  List.all_eq_true.mp (by cases style <;> rfl)

/-- A token is read as the arrow of its style. -/
theorem arrow?_token
    (style : EdgeStyle) {rest : List Char}
    (hrest : ∀ x ∈ rest.head?, isArrowChar x = false) :
    arrow? (style.token ++ rest) = some (style, rest) := by
  have harrow : isArrow style.token = true := by
    cases style <;> decide
  have hstyle : EdgeStyle.classify style.token = style := by
    cases style <;> decide
  rw [arrow?_append (isArrowChar_of_mem_token style) harrow hrest, hstyle]

/-- A protected label is read back between bars. -/
theorem edgeLabel?_written
    {label : List Char}
    (hne : label ≠ [])
    (rest : List Char) :
    edgeLabel? ('|' :: (protect label ++ '|' :: rest)) =
      some (String.ofList label, rest) := by
  have hread :
      quotedOr? '|' (protect label ++ '|' :: rest) = some (escape label, '|' :: rest) := by
    unfold protect
    split_ifs with hrisky
    · have hquoted :
          quoted? ('"' :: (escape label ++ '"' :: ('|' :: rest))) =
            some (escape label, '|' :: rest) :=
        quoted?_eq_some_iff.mpr ⟨quote_not_mem_escape label, rfl⟩
      simp [quotedOr?, hquoted]
    · have hbar : '|' ∉ escape label := by
        intro hmem
        exact hrisky (List.any_eq_true.mpr ⟨'|', hmem, rfl⟩)
      have hquoted : quoted? (escape label ++ '|' :: rest) = none :=
        quoted?_escape_append label (by simp)
      simp [quotedOr?, hquoted, takeUntil?_append hbar (escape_ne_nil hne)]
  have hbar : dropLiteral? "|".toList ('|' :: rest) = some rest :=
    dropLiteral?_append ['|'] rest
  simp only [edgeLabel?, hread, Option.bind_eq_bind, Option.bind_some, hbar, unescape_escape]

theorem skipGap_name
    {name : List Char}
    (hname : isIdentifier name = true) :
    skipGap name = name := by
  obtain ⟨c, rest, rfl, hc⟩ := exists_cons_of_isIdentifier hname
  simp [skipGap, isGap_of_isIdentifierChar hc]

/-- Behind an arrow the written label of an edge is read, or nothing when there is none. -/
theorem optionalEdgeLabel_written
    (edge : Edge)
    (htarget : isIdentifier edge.target.toList = true) :
    ∃ rest : List Char,
      optionalEdgeLabel (skipGap (edge.writtenLabel ++ ' ' :: edge.target.toList)) =
        (edge.shownLabel, rest) ∧
      skipGap rest = edge.target.toList := by
  have hspace : skipGap (' ' :: edge.target.toList) = edge.target.toList :=
    skipGap_name htarget
  have hnone : edgeLabel? edge.target.toList = none := by
    obtain ⟨c, rest, hcons, hc⟩ := exists_cons_of_isIdentifier htarget
    have hbar : c ≠ '|' := by
      rintro rfl
      revert hc
      decide
    rw [hcons]
    unfold edgeLabel?
    split
    · rename_i heq
      exact absurd (List.cons.inj heq).1 hbar
    · rfl
  unfold Edge.writtenLabel Edge.shownLabel
  cases hlabel : edge.label with
  | none =>
      refine ⟨edge.target.toList, ?_, skipGap_name htarget⟩
      simp [hspace, optionalEdgeLabel, hnone]
  | some label =>
      by_cases hempty : label = ""
      · subst hempty
        refine ⟨edge.target.toList, ?_, skipGap_name htarget⟩
        simp [hspace, optionalEdgeLabel, hnone, Option.filter]
      · refine ⟨' ' :: edge.target.toList, ?_, hspace⟩
        have hne : label.toList ≠ [] := by
          simpa using hempty
        have hread := edgeLabel?_written hne (' ' :: edge.target.toList)
        have hbar : skipGap ('|' :: (protect label.toList ++ '|' :: ' ' :: edge.target.toList)) =
            '|' :: (protect label.toList ++ '|' :: ' ' :: edge.target.toList) := rfl
        simp [hempty, hbar, optionalEdgeLabel, hread, Option.filter]

/-- Behind its source an edge is read as one link to its target. -/
theorem link?_written
    {edge : Edge}
    (htarget : isIdentifier edge.target.toList = true) :
    link? (' ' :: (edge.style.token ++ (edge.writtenLabel ++ ' ' :: edge.target.toList))) =
      some (⟨edge.style, edge.shownLabel, .bare edge.target⟩, []) := by
  have hhead :
      ∀ x ∈ (edge.writtenLabel ++ ' ' :: edge.target.toList).head?, isArrowChar x = false := by
    unfold Edge.writtenLabel
    cases edge.label with
    | none =>
        simp [isArrowChar]
    | some label =>
        by_cases hempty : label = "" <;> simp [hempty, isArrowChar]
  have hspace :
      skipGap (' ' :: (edge.style.token ++ (edge.writtenLabel ++ ' ' :: edge.target.toList))) =
        edge.style.token ++ (edge.writtenLabel ++ ' ' :: edge.target.toList) := by
    cases edge.style <;> rfl
  obtain ⟨rest, hlabel, hrest⟩ := optionalEdgeLabel_written edge htarget
  have hreference :
      reference? edge.target.toList = some (.bare edge.target, []) := by
    simpa using reference?_name htarget
  simp only [link?, hspace, arrow?_token edge.style hhead, Option.bind_eq_bind, Option.bind_some,
    hlabel, hrest, hreference]

/-- A name with a space behind it is the bare mention that a chain starts from. -/
theorem chain?_name_space
    {name : List Char}
    (hname : isIdentifier name = true)
    (text : List Char) :
    chain? (name ++ ' ' :: text) =
      if (links (' ' :: text)).isEmpty then none
      else some (.chain (.bare (String.ofList name)) (links (' ' :: text))) := by
  simp [chain?, reference?_bare hname (by simp; decide) (bracket?_space text)]

theorem skipGap_space_arrow
    {run : List Char}
    (hchars : ∀ c ∈ run, isArrowChar c = true)
    (hne : run ≠ [])
    (rest : List Char) :
    skipGap (' ' :: (run ++ rest)) = run ++ rest := by
  have hhead := forall_mem_head?_append_of_ne_nil hne hchars rest
  exact skipGap_append (List.forall_mem_singleton.mpr rfl) fun c hc =>
    isGap_of_isArrowChar (hhead c hc)

/-- A line of a name and an arrow behind a space is read as a chain or not at all. -/
theorem ofLine?_name_arrow
    {name run : List Char}
    (hname : isIdentifier name = true)
    (hchars : ∀ c ∈ run, isArrowChar c = true)
    (hne : run ≠ [])
    (rest : List Char) :
    ofLine? (name ++ ' ' :: (run ++ rest)) = chain? (name ++ ' ' :: (run ++ rest)) := by
  have hhead := forall_mem_head?_append_of_ne_nil hne hchars rest
  have hnone : takeIdentifier? (skipGap (' ' :: (run ++ rest))) = none := by
    rw [skipGap_space_arrow hchars hne]
    exact takeIdentifier?_eq_none fun c hc => isIdentifierChar_of_isArrowChar (hhead c hc)
  have hopen := openSubgraph?_eq_none hname (by decide) (Or.inr hnone)
  have hclose : closeSubgraph? (name ++ ' ' :: (run ++ rest)) = none :=
    closeSubgraph?_eq_none (c := ' ') (by simp) (by decide)
  have hspace : ∀ x ∈ (' ' :: (run ++ rest)).head?, isIdentifierChar x = false := by
    rintro x ⟨⟩
    rfl
  have hnode : node? (name ++ ' ' :: (run ++ rest)) = none := by
    simp [node?, takeIdentifier?_append hname hspace, bracket?_space]
  simp [ofLine?, hopen, hclose, hnode]

/-- The line of an edge is read as a chain of one link between its ends. -/
theorem ofLine?_edge
    {edge : Edge}
    (hsource : isIdentifier edge.source.toList = true)
    (htarget : isIdentifier edge.target.toList = true) :
    ofLine? edge.code =
      some (.chain (.bare edge.source)
        [⟨edge.style, edge.shownLabel, .bare edge.target⟩]) := by
  have htoken : edge.style.token ≠ [] := by
    cases edge.style <;> decide
  rw [Edge.code, ofLine?_name_arrow hsource (isArrowChar_of_mem_token edge.style) htoken,
    chain?_name_space hsource, links_of_link? (link?_written htarget), links_nil]
  simp

end Edges

section Misread

/-- The end of a written label in quotes: at most one quote is left, and all codes in it are
codes that writing made. -/
structure IsRemnant (text : List Char) : Prop where
  quotes : text.count '"' ≤ 1
  codes : CodesOnly text

theorem IsRemnant.of_suffix
    {text part : List Char}
    (h : IsRemnant text)
    (hpart : part <:+ text) :
    IsRemnant part :=
  ⟨(hpart.sublist.count_le '"').trans h.quotes, h.codes.of_suffix hpart⟩

/-- What is left of a written label and its closing quote and delimiter. -/
theorem isRemnant_escape_append
    (label : List Char) (shape : Shape) :
    IsRemnant (escape label ++ '"' :: shape.closing) := by
  constructor
  · have hlabel : (escape label).count '"' = 0 :=
      List.count_eq_zero.mpr (quote_not_mem_escape label)
    have hclosing : shape.closing.count '"' = 0 := by
      cases shape <;> rfl
    simp [List.count_append, hlabel, hclosing]
  · exact codesOnly_escape_append (by simp) (by cases shape <;> decide) label

/-- A parallelogram read in the end of a written label has no closing bracket in its label. -/
theorem bracket?_remnant
    {text rest : List Char} {bracket : Bracket}
    (htext : IsRemnant text)
    (h : bracket? text = some (bracket, rest))
    (hshape : bracket.shape = .parallelogram) :
    ']' ∉ bracket.label.toList := by
  obtain ⟨pair, hpair, hfits⟩ := List.exists_of_findSome?_eq_some h
  simp only [Option.bind_eq_bind, Option.bind_eq_some_iff] at hfits
  obtain ⟨⟨label, after⟩, hbetween, hlast⟩ := hfits
  cases hlast
  have honly : ∀ pair ∈ Delimiter.table,
      pair.shape = .parallelogram → pair = canonicalPair .parallelogram := by
    decide
  rw [honly pair hpair hshape] at hbetween
  simp only [between?, Option.bind_eq_bind, Option.bind_eq_some_iff] at hbetween
  obtain ⟨inside, hopening, hbetween⟩ := hbetween
  have hinside : IsRemnant inside :=
    htext.of_suffix (suffix_of_dropLiteral? hopening)
  simp only [Option.orElse_eq_orElse, Option.orElse_eq_or, Option.or_eq_some_iff] at hbetween
  rcases hbetween with hquoted | ⟨_, hunquoted⟩
  · -- Two quotes would be needed, and at most one is left.
    obtain ⟨_, rfl⟩ := quotedBefore?_eq_some_iff.mp hquoted
    have hcount := hinside.quotes
    simp only [List.count_cons, List.count_append, beq_self_eq_true, if_true] at hcount
    omega
  · have hparts :
        ClosingParts (canonicalPair .parallelogram).closing ['/'] ']' [] :=
      ⟨rfl, List.forall_mem_singleton.mpr rfl, rfl⟩
    obtain ⟨_, hplain, rfl⟩ := (unquoted?_eq_some_iff hparts).mp hunquoted
    have hcodes : CodesOnly label := by
      have hwhole := hinside.codes
      rw [List.append_assoc] at hwhole
      exact hwhole.of_append
    rw [String.toList_ofList]
    intro hmem
    rcases mem_of_mem_unescape hcodes hmem with hlabel | hcoded
    · exact hplain hlabel
    · revert hcoded
      decide

/-- Whether a mention gives its node the shape of a parallelogram and a label with a closing
bracket. -/
def ClosesInParallelogram (reference : Reference) : Prop :=
  ∃ bracket, reference.bracket = some bracket ∧
    bracket.shape = .parallelogram ∧ ']' ∈ bracket.label.toList

/-- A mention in the end of a written label is no parallelogram with a closing bracket. -/
theorem not_closesInParallelogram_of_remnant
    {text : List Char} {reference : Reference}
    (htext : IsRemnant text)
    (h : MentionedIn text reference) :
    ¬ ClosesInParallelogram reference := by
  rintro ⟨bracket, hbracket, hshape, hmem⟩
  obtain ⟨start, rest, hstart, hread⟩ := h
  simp only [reference?, Option.bind_eq_bind, Option.bind_eq_some_iff] at hread
  obtain ⟨⟨name, after⟩, hname, hlast⟩ := hread
  have hafter : IsRemnant after := by
    refine (htext.of_suffix hstart).of_suffix ?_
    exact ⟨name, (append_eq_of_takeIdentifier? hname).2⟩
  split at hlast
  · rename_i bracket' after' hread
    cases hlast
    cases hbracket
    exact bracket?_remnant hafter hread hshape hmem
  · cases hlast
    cases hbracket

/-- The line of a parallelogram that closes a trapezoid mentions no parallelogram with a closing
bracket in its label, be it the node itself or another one. -/
theorem not_closesInParallelogram_of_misread
    {node : Node} {statement : Statement}
    (hid : isIdentifier node.id.toList = true)
    (hshape : node.shape = .parallelogram)
    (hcloses : ClosesTrapezoid node.shownLabel.toList)
    (h : ofLine? node.code = some statement) :
    ∀ reference ∈ statement.references, ¬ ClosesInParallelogram reference := by
  obtain ⟨before, after, hlabel, hbefore⟩ := closesTrapezoid_iff.mp hcloses
  obtain ⟨label, hbracket⟩ := bracket?_misread after hbefore []
  rw [← hlabel, ← hshape, List.append_nil] at hbracket
  obtain ⟨c, others, hopening, hc, _⟩ := exists_cons_opening node.shape
  have hreference :
      reference? node.code =
        some (⟨node.id, some ⟨.trapezoid, String.ofList label⟩⟩,
          escape after ++ '"' :: node.shape.closing) := by
    simpa [Node.code] using
      reference?_bracketed hid (by simpa [hopening] using hc) hbracket
  intro reference hmem
  rcases reference?_of_ofLine? h with hnone | ⟨head, rest, targets, hhead, hsplit, htargets⟩
  · rw [hnone] at hmem
    cases hmem
  · rw [hreference] at hhead
    cases hhead
    rw [hsplit] at hmem
    rcases List.mem_cons.mp hmem with rfl | htarget
    · rintro ⟨bracket, hsome, htrapezoid, _⟩
      cases hsome
      cases htrapezoid
    · exact not_closesInParallelogram_of_remnant (isRemnant_escape_append after node.shape)
        (htargets reference htarget)

end Misread

end Statement
end FlowchartSync
