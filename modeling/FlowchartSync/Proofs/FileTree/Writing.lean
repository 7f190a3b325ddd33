import FlowchartSync.FileTree
import FlowchartSync.Proofs.Path.Extensions

/-!
# Writing to file trees

A write puts a file at the place that its path leads to (`exists_put_of_write`).  There is no
directory at that place before, so that no path that goes through directories is bent by it
(`locate_put`), and what was written to a path is read from it (`read_of_write`).
-/

namespace FlowchartSync.FileTree

section Entries

variable {tree : FileTree} {place other : Location} {entry : FileEntry}

theorem lookup_filter_ne
    (entries : List (Location × FileEntry))
    (h : other ≠ place) :
    (entries.filter fun old => old.1 != place).lookup other = entries.lookup other := by
  induction entries with
  | nil =>
      rfl
  | cons old entries ih =>
      by_cases hold : old.1 = place
      · have hother : (other == old.1) = false := by
          rw [hold, beq_eq_false_iff_ne]
          exact h
        rw [List.filter_cons_of_neg (by simp [hold]), ih, List.lookup_cons, hother]
      · rw [List.filter_cons_of_pos (by simpa using hold), List.lookup_cons, List.lookup_cons, ih]

/-- An entry is put at its place, and what stands elsewhere stays. -/
theorem entry?_put
    (hplace : place ≠ []) :
    entry? (tree.put place entry) other =
      if other = place then some entry else tree.entry? other := by
  split_ifs with hother
  · rw [hother, entry?, put, if_neg (by simpa using hplace), List.lookup_cons_self]
  · have hbeq : (other == place) = false := by
      rw [beq_eq_false_iff_ne]
      exact hother
    unfold entry? put
    rw [List.lookup_cons, hbeq]
    dsimp only
    rw [lookup_filter_ne _ hother]

theorem isDirectory_of_follow
    {step : List Char}
    (h : tree.follow place step = .ok other) :
    tree.entry? place = some .directory := by
  unfold follow at h
  split at h
  · cases h
  · cases h
  · assumption

/-- A step is followed as before when something is put where there is no directory. -/
theorem follow_put
    {file : Location} {step : List Char}
    (hfile : tree.entry? file ≠ some .directory)
    (h : tree.follow place step = .ok other) :
    (tree.put file entry).follow place step = .ok other := by
  have hplace : tree.entry? place = some .directory := isDirectory_of_follow h
  have hroot : file ≠ [] := by
    rintro rfl
    exact hfile rfl
  have hne : place ≠ file := by
    rintro rfl
    exact hfile hplace
  have hsame : entry? (tree.put file entry) place = tree.entry? place := by
    rw [entry?_put hroot, if_neg hne]
  rw [← h, follow, follow, hsame]

end Entries

section Paths

variable {tree written : FileTree} {place : Location} {entry : FileEntry}

/-- So is a path, which goes through directories only. -/
theorem foldlM_follow_put
    {file target : Location} {steps : List (List Char)}
    (hfile : tree.entry? file ≠ some .directory)
    (h : steps.foldlM tree.follow place = .ok target) :
    steps.foldlM (tree.put file entry).follow place = .ok target := by
  induction steps generalizing place with
  | nil =>
      exact h
  | cons step steps ih =>
      rw [List.foldlM_cons] at h ⊢
      cases hstep : tree.follow place step with
      | error fault =>
          rw [hstep] at h
          cases h
      | ok next =>
          rw [hstep] at h
          rw [follow_put hfile hstep]
          exact ih h

theorem locate_put
    {file target : Location} {steps : List (List Char)}
    (hfile : tree.entry? file ≠ some .directory)
    (h : tree.locate steps = .ok target) :
    (tree.put file entry).locate steps = .ok target :=
  foldlM_follow_put hfile h

/-- A path without a slash at its end has nothing to trim. -/
theorem trimmedSteps_of_endsInPiece
    {path : List Char}
    (h : Path.EndsInPiece path) :
    trimmedSteps path = Path.steps path := by
  obtain ⟨others, last, hsteps, hlast⟩ := Text.exists_pieces_append '/' path
  have hpieces : Path.steps path = others ++ [last] := by
    simpa [Path.steps] using hsteps [] List.not_mem_nil
  have hne : last ≠ [] := by
    rw [ne_eq, hlast, not_or]
    exact h
  have hkept : last.isEmpty = false := by
    simpa using hne
  rw [trimmedSteps, hpieces, List.reverse_append, List.reverse_singleton, List.singleton_append,
    List.dropWhile_cons_of_neg (by simp [hkept])]
  simp

/-- What a write does: the path leads to a place with no directory, and the file is put there. -/
theorem exists_put_of_write
    {path : List Char} {content : Option String}
    (h : tree.write path content = .ok written) :
    ∃ place,
      Path.EndsInPiece path ∧
      tree.locate (Path.steps path) = .ok place ∧
      tree.entry? place ≠ some .directory ∧
      written = tree.put place (.file content) := by
  unfold write at h
  split_ifs at h with hempty hslash
  · cases hplace : tree.locate (trimmedSteps path) <;> rw [hplace] at h <;> cases h
  · have hends : Path.EndsInPiece path := ⟨by simpa using hempty, hslash⟩
    rw [trimmedSteps_of_endsInPiece hends] at h
    cases hplace : tree.locate (Path.steps path) with
    | error fault =>
        rw [hplace] at h
        cases h
    | ok place =>
        rw [hplace] at h
        dsimp only [bind, Except.bind] at h
        split at h
        · cases h
        · rename_i hfile
          cases h
          exact ⟨place, hends, rfl, hfile, rfl⟩

/-- A text that was written to a path is read from it. -/
theorem read_of_write
    {path : List Char} {text : String}
    (h : tree.write path (some text) = .ok written) :
    written.read path = .ok text := by
  obtain ⟨place, hends, hplace, hfile, rfl⟩ := exists_put_of_write h
  have hroot : place ≠ [] := by
    rintro rfl
    exact hfile rfl
  have hempty : path.isEmpty = false := by
    simpa using hends.1
  have hentry : entry? (tree.put place (.file (some text))) place = some (.file (some text)) := by
    rw [entry?_put hroot, if_pos rfl]
  simp [read, hempty, locate_put hfile hplace, hentry, bind, Except.bind]

end Paths

end FlowchartSync.FileTree
