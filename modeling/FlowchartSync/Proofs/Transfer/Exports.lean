import FlowchartSync.Proofs.FileTree.Writing
import FlowchartSync.Transfer

/-!
# Exports that are imported again

The path of an export gets the extension of diagrams if it lacks it, and then has it if it can take
it (`hasExtension_exportPath`).  Such exports come back by an import.  An empty path, or one that
ends in a slash, gets the extension as a whole name, which counts as a name without extension, and
what is exported there is refused by every import (`comesBack_iff_and_refused`).
-/

namespace FlowchartSync

section ExportPaths

variable {path : List Char}

theorem isExtension_exportExtension :
    Path.IsExtension exportExtension :=
  ⟨by decide, by decide, by decide⟩

/-- Whether the path that a diagram is exported to has the extension of diagrams: it has it from
the start, or it ends in a piece that takes it. -/
def TakesExtension (path : List Char) : Prop :=
  Path.hasExtension exportExtension path = true ∨ Path.EndsInPiece path

instance (path : List Char) : Decidable (TakesExtension path) :=
  inferInstanceAs (Decidable (_ ∨ _))

theorem exportPath_eq_self_iff :
    exportPath path = path ↔ Path.hasExtension exportExtension path = true := by
  unfold exportPath
  split_ifs with h <;> simp [h]

theorem isImportable_of_hasExtension
    (h : Path.hasExtension exportExtension path = true) :
    isImportable path = true :=
  List.any_eq_true.mpr ⟨exportExtension, List.mem_cons_self, h⟩

theorem hasExtension_exportPath
    (h : TakesExtension path) :
    Path.hasExtension exportExtension (exportPath path) = true := by
  unfold exportPath
  split_ifs with hpath
  · exact hpath
  · have hends : Path.EndsInPiece path := h.resolve_left hpath
    rw [Path.hasExtension, Path.extension?_append isExtension_exportExtension, if_pos hends]
    rfl

/-- A path that cannot take the extension gets it as a whole name, which has no extension at all. -/
theorem extension?_exportPath_eq_none
    (h : ¬ TakesExtension path) :
    Path.extension? (exportPath path) = none := by
  obtain ⟨hpath, hends⟩ := not_or.mp h
  rw [exportPath, if_neg hpath, Path.extension?_append isExtension_exportExtension, if_neg hends]

theorem isImportable_exportPath_eq_false
    (h : ¬ TakesExtension path) :
    isImportable (exportPath path) = false := by
  simp [isImportable, Path.hasExtension, extension?_exportPath_eq_none h]

end ExportPaths

section Transfers

/-- What makes an export to a path good for an import: the path written to has the extension of
diagrams, so that it is importable and not changed by a further export, and after each export that
succeeds the diagram is imported from there. -/
structure ComesBack (path : String) : Prop where
  extension : Path.hasExtension exportExtension (exportPath path.toList) = true
  importable : isImportable (exportPath path.toList) = true
  settled : exportPath (exportPath path.toList) = exportPath path.toList
  imports :
    ∀ (tree written : FileTree) (text target : String),
      tree.exportText path text = .ok (target, written) →
      Fence.extract text ≠ "" →
      written.importDiagram target = .ok (Fence.extract text)

/-- An export that succeeds leaves its text to be read at the path it was exported to. -/
theorem FileTree.read_of_exportText
    {tree written : FileTree} {path text target : String}
    (h : tree.exportText path text = .ok (target, written)) :
    target.toList = exportPath path.toList ∧ written.read target.toList = .ok text := by
  rw [FileTree.exportText] at h
  cases hwrite : tree.write (exportPath path.toList) (some text) with
  | error fault =>
      rw [hwrite] at h
      cases h
  | ok after =>
      rw [hwrite] at h
      cases h
      rw [String.toList_ofList]
      exact ⟨rfl, FileTree.read_of_write hwrite⟩

theorem comesBack_of_takesExtension
    {path : String}
    (h : TakesExtension path.toList) :
    ComesBack path := by
  have hextension := hasExtension_exportPath h
  have himportable := isImportable_of_hasExtension hextension
  refine ⟨hextension, himportable, exportPath_eq_self_iff.mpr hextension, ?_⟩
  intro tree written text target hexport hcode
  obtain ⟨htarget, hread⟩ := FileTree.read_of_exportText hexport
  rw [FileTree.importDiagram, hread, importContent, htarget, himportable]
  simp [hcode]

theorem not_comesBack_of_not_takesExtension
    {path : String}
    (h : ¬ TakesExtension path.toList) :
    ¬ ComesBack path := by
  intro hback
  have himportable := hback.importable
  rw [isImportable_exportPath_eq_false h] at himportable
  cases himportable

/-- What was exported to a path that cannot take the extension is not imported from there. -/
theorem importDiagram_of_not_takesExtension
    {tree written : FileTree} {path text target : String}
    (h : ¬ TakesExtension path.toList)
    (hexport : tree.exportText path text = .ok (target, written)) :
    written.importDiagram target = .error (.unsupportedExtension target) := by
  obtain ⟨htarget, hread⟩ := FileTree.read_of_exportText hexport
  rw [FileTree.importDiagram, hread, importContent, htarget, isImportable_exportPath_eq_false h]
  rfl

/-- Exports to a path come back just when the path takes the extension.  Where it does not, the
path written to is not importable, and every import of what was exported is refused. -/
theorem comesBack_iff_and_refused
    (path : String) :
    (ComesBack path ↔ TakesExtension path.toList) ∧
    (¬ TakesExtension path.toList →
      isImportable (exportPath path.toList) = false ∧
      ∀ (tree written : FileTree) (text target : String),
        tree.exportText path text = .ok (target, written) →
        written.importDiagram target = .error (.unsupportedExtension target)) := by
  refine ⟨⟨?_, comesBack_of_takesExtension⟩, fun h => ⟨isImportable_exportPath_eq_false h, ?_⟩⟩
  · intro hback
    by_contra h
    exact not_comesBack_of_not_takesExtension h hback
  · intro tree written text target
    exact importDiagram_of_not_takesExtension h

/-- A tree with one directory in it. -/
def withDirectory : FileTree :=
  ⟨[(["out".toList], .directory)]⟩

/-- An export to a path with a slash at its end. -/
theorem not_comesBack_directory :
    ∃ written,
      withDirectory.exportText "out/" "graph TD" = .ok ("out/.mmd", written) ∧
      written.read "out/.mmd".toList = .ok "graph TD" ∧
      Fence.extract "graph TD" = "graph TD" ∧
      written.importDiagram "out/.mmd" = .error (.unsupportedExtension "out/.mmd") ∧
      ¬ ComesBack "out/" := by
  have hpath : ¬ TakesExtension "out/".toList := by
    decide
  have hexport : withDirectory.exportText "out/" "graph TD" = .ok ("out/.mmd",
      withDirectory.put ["out".toList, ".mmd".toList] (.file (some "graph TD"))) := by
    rfl
  exact ⟨_, hexport, (FileTree.read_of_exportText hexport).2, by decide +kernel,
    importDiagram_of_not_takesExtension hpath hexport, not_comesBack_of_not_takesExtension hpath⟩

end Transfers

end FlowchartSync
