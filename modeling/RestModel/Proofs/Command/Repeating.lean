import RestModel.Proofs.Command.Rereading
import RestModel.Proofs.Command.Writing
import RestModel.Proofs.FileTree.Repetition

/-!
# Generating again

A run of an action leads from a first tree to a last one, and so does a second run that meets, at
every moment, a tree between what the first run met and the last one.  Generating meets such trees
when it is run again where it has been run.  As it finds the same documents and options again, or
options that it cannot read any more, a second run changes nothing.
-/

namespace RestModel

namespace Action

open FileTree

variable {α β : Type} {session after : Session}

/-! ## Actions that can be repeated -/

/-- An action takes nothing away from its tree.  If it has succeeded, it succeeds again with the same
value on every tree between that one and a later one; if it has failed, it fails again and leaves
the tree that the failure has left. -/
structure Repeats (action : Action α) (session : Session) : Prop where
  grows : session.tree.GrowsTo (action.run.run session).2.tree
  ok : ∀ {value after}, action.run.run session = (.ok value, after) →
    ∀ {last : FileTree} {other : Session}, after.tree.GrowsTo last →
      Between session.tree last other.tree →
      ∃ again, action.run.run other = (.ok value, again) ∧ Between after.tree last again.tree
  error : ∀ {failure after}, action.run.run session = (.error failure, after) →
    ∀ {other : Session}, Between session.tree after.tree other.tree →
      ∃ cause again, action.run.run other = (.error cause, again) ∧ again.tree = after.tree

theorem repeats_of_ok {action : Action α} {value : α}
    (hrun : action.run.run session = (.ok value, after))
    (hgrows : session.tree.GrowsTo after.tree)
    (hagain : ∀ (last : FileTree) (other : Session), after.tree.GrowsTo last →
      Between session.tree last other.tree →
      ∃ again, action.run.run other = (.ok value, again) ∧ Between after.tree last again.tree) :
    Repeats action session where
  grows := by
    rw [hrun]
    exact hgrows
  ok hother _ _ hlast hbetween := by
    obtain ⟨hvalue, rfl⟩ := Prod.mk.inj (hrun.symm.trans hother)
    rw [← Except.ok.inj hvalue]
    exact hagain _ _ hlast hbetween
  error hother := absurd (Prod.mk.inj (hrun.symm.trans hother)).1 (by simp)

theorem repeats_of_error {action : Action α} {failure : Failure}
    (hrun : action.run.run session = (.error failure, after))
    (hgrows : session.tree.GrowsTo after.tree)
    (hagain : ∀ other : Session, Between session.tree after.tree other.tree →
      ∃ cause again, action.run.run other = (.error cause, again) ∧ again.tree = after.tree) :
    Repeats action session where
  grows := by
    rw [hrun]
    exact hgrows
  ok hother := absurd (Prod.mk.inj (hrun.symm.trans hother)).1 (by simp)
  error hother _ hbetween := by
    obtain ⟨-, rfl⟩ := Prod.mk.inj (hrun.symm.trans hother)
    exact hagain _ hbetween

theorem Repeats.bind {action : Action α} {next : α → Action β} (hrepeats : Repeats action session)
    (hnext : ∀ value after, action.run.run session = (.ok value, after) →
      Repeats (next value) after) : Repeats (action >>= next) session := by
  have hgrows := hrepeats.grows
  rcases hrun : action.run.run session with ⟨failure | value, after⟩
  · rw [hrun] at hgrows
    apply repeats_of_error (run_bind_of_error hrun) hgrows
    intro other hbetween
    obtain ⟨cause, again, hagain, htree⟩ := hrepeats.error hrun hbetween
    exact ⟨cause, again, run_bind_of_error hagain, htree⟩
  · rw [hrun] at hgrows
    have hrest := hnext value after hrun
    have hlater := hrest.grows
    rcases hfinal : (next value).run.run after with ⟨failure | result, final⟩
    · rw [hfinal] at hlater
      apply repeats_of_error ((run_bind_of_ok hrun).trans hfinal) (hgrows.trans hlater)
      intro other hbetween
      -- The action itself succeeds again, on the way to the tree in which the rest has failed.
      obtain ⟨middle, hmiddle, hrested⟩ := hrepeats.ok hrun hlater hbetween
      obtain ⟨cause, again, hagain, htree⟩ := hrest.error hfinal hrested
      exact ⟨cause, again, (run_bind_of_ok hmiddle).trans hagain, htree⟩
    · rw [hfinal] at hlater
      apply repeats_of_ok ((run_bind_of_ok hrun).trans hfinal) (hgrows.trans hlater)
      intro last other hlast hbetween
      obtain ⟨middle, hmiddle, hrested⟩ := hrepeats.ok hrun (hlater.trans hlast) hbetween
      obtain ⟨again, hagain, hbehind⟩ := hrest.ok hfinal hlast hrested
      exact ⟨again, (run_bind_of_ok hmiddle).trans hagain, hbehind⟩

section GenerateFrom

variable (options : Options) (directories : Directories) (compilation : Compilation)
  (skipped : Nat) (session : Session)

end GenerateFrom

/-- What generating reads before it writes anything. -/
structure Reads (directories? : Option Directories) (tree : FileTree) (options? : Option Options)
    (place : Location) : Prop where
  options : Options.ofTree? tree = .ok options?
  root : tree.directory? (chosenDirectories (options?.getD .default) directories?).apiRoot =
    some place

/-- What generating does with what it has read. -/
def generateRead (directories? : Option Directories) (tree : FileTree)
    (options? : Option Options) (place : Location) : Action Unit :=
  let options := options?.getD .default
  let directories := chosenDirectories options directories?
  let loaded := LoadedDocuments.ofRoot tree directories.apiRoot place
  generateFrom options directories (.ofDocuments options loaded.documents) loaded.failures.length

variable {directories? : Option Directories} {tree later : FileTree} {options? : Option Options}
  {place : Location}

theorem Reads.continues (hreads : Reads directories? session.tree options? place) :
    (generate directories?).Continues session
      (generateRead directories? session.tree options? place) :=
  generate_continues hreads.options rfl hreads.root

/-- In a tree that has grown, generating reads the same again or stops before it writes. -/
theorem Reads.again (hreads : Reads directories? tree options? place)
    (hgrows : tree.GrowsTo later) (hsame : SameFiles IsInput tree later) :
    Reads directories? later options? place ∨
      ¬ ∃ options? place, Reads directories? later options? place := by
  rcases Options.ofTree?_of_growsTo hgrows hsame with hoptions | ⟨cause, hlost⟩
  · left
    exact ⟨hoptions.trans hreads.options, hgrows.directory? hreads.root⟩
  · right
    rintro ⟨options?, place, hagain⟩
    exact absurd (hlost.symm.trans hagain.options) (by simp)

end Action

/-! ## The command -/

/-- The server files are written below the root directory; then generating fails, since one of them
stands where the client files should go. -/
example :
    let outcome := Outcome.ofWords (FileTree.empty.set ["wadl"] .directory) none
      ["generate", "wadl", "wadl/index.js", "wadl"]
    outcome.code = 1 ∧ (outcome.tree.get? ["wadl", "index.js"]).isSome = true := by
  decide +kernel

end RestModel
