import FlowchartSync.Path
import FlowchartSync.Proofs.Text.Lines

/-!
# Extensions of paths

An extension that is put behind a path becomes the extension of its file name, if the path ends in a
piece that can take it.  Behind an empty path or a slash it stands as a name of its own, and a name
that is nothing but a dot and a word has no extension (`extension?_append`).
-/

namespace FlowchartSync.Path

open Text

/-- Whether a path ends within a piece, so that what is put behind it goes on with a name: it is
not empty and has no slash at its end. -/
def EndsInPiece (path : List Char) : Prop :=
  path ≠ [] ∧ path.getLast? ≠ some '/'

instance (path : List Char) : Decidable (EndsInPiece path) :=
  inferInstanceAs (Decidable (path ≠ [] ∧ path.getLast? ≠ some '/'))

/-- Whether a word may be appended as an extension: it is not empty, and no dot or slash stands in
it. -/
structure IsExtension (extension : List Char) : Prop where
  ne_nil : extension ≠ []
  dotless : '.' ∉ extension
  slashless : '/' ∉ extension

variable {path name extension : List Char}

/-- A name with an extension neither stays in its directory nor leads upwards. -/
theorem leadsTo_append
    (h : IsExtension extension)
    (name : List Char) :
    staysPut (name ++ '.' :: extension) = false ∧
    name ++ '.' :: extension ≠ "..".toList := by
  obtain ⟨c, rest, rfl⟩ := List.exists_cons_of_ne_nil h.ne_nil
  have hc : c ≠ '.' := by
    rintro rfl
    exact h.dotless List.mem_cons_self
  constructor
  · cases name <;> simp [staysPut]
  · cases name with
    | nil =>
        simp [hc]
    | cons d name =>
        cases name <;> simp

/-- A name that ends in a piece of a path is the file name with the extension behind it. -/
theorem exists_fileName?_append
    (h : IsExtension extension)
    (path : List Char) :
    ∃ name,
      fileName? (path ++ '.' :: extension) = some (name ++ '.' :: extension) ∧
      (name = [] ↔ ¬ EndsInPiece path) := by
  obtain ⟨others, name, hsteps, hname⟩ := exists_pieces_append '/' path
  refine ⟨name, ?_, ?_⟩
  · obtain ⟨hmoves, hforward⟩ := leadsTo_append h name
    have hslashless : '/' ∉ '.' :: extension := by
      rw [List.mem_cons, not_or]
      exact ⟨by decide, h.slashless⟩
    have hlast : (parts (path ++ '.' :: extension)).getLast? =
        some (name ++ '.' :: extension) := by
      rw [parts, steps, hsteps _ hslashless, List.filter_append, List.filter_singleton, hmoves]
      simp
    rw [fileName?, hlast]
    exact if_neg hforward
  · rw [hname, EndsInPiece]
    tauto

/-- The extension behind a name is the extension of the whole, and a name of nothing else has
none. -/
theorem extensionOf?_append
    (h : IsExtension extension)
    (name : List Char) :
    extensionOf? (name ++ '.' :: extension) = if name = [] then none else some extension := by
  have hreverse :
      (name ++ '.' :: extension).reverse = extension.reverse ++ '.' :: name.reverse := by
    simp
  have hdotless : '.' ∉ extension.reverse := by
    rw [List.mem_reverse]
    exact h.dotless
  rw [extensionOf?, hreverse, dropWhile_ne_append hdotless, takeWhile_ne_append hdotless,
    List.reverse_reverse, List.drop_one, List.tail_cons]
  cases hcases : name.reverse with
  | nil =>
      rw [List.reverse_eq_nil_iff] at hcases
      rw [if_pos hcases]
  | cons c rest =>
      have hne : name ≠ [] := by
        rintro rfl
        cases hcases
      rw [if_neg hne]

theorem extension?_append
    (h : IsExtension extension)
    (path : List Char) :
    extension? (path ++ '.' :: extension) = if EndsInPiece path then some extension else none := by
  obtain ⟨name, hfile, hname⟩ := exists_fileName?_append h path
  rw [extension?, hfile, Option.bind_eq_bind, Option.bind_some, extensionOf?_append h]
  simp only [hname, ite_not]

end FlowchartSync.Path
