import RestModel.Command.Session

/-!
# Running actions

An action that succeeds hands its value and its session to what follows.  Telling always succeeds
and leaves the files alone; making directories and writing a file do to them what the operations on
trees do.
-/

namespace RestModel.Action

variable {α β : Type} {session after : Session}

theorem run_bind_of_ok {action : Action α} {next : α → Action β} {value : α}
    (hrun : action.run.run session = (.ok value, after)) :
    (action >>= next).run.run session = (next value).run.run after := by
  rw [ExceptT.run_bind, StateT.run_bind, hrun]
  rfl

theorem run_bind_of_error {action : Action α} {next : α → Action β} {failure : Failure}
    (hrun : action.run.run session = (.error failure, after)) :
    (action >>= next).run.run session = (.error failure, after) := by
  rw [ExceptT.run_bind, StateT.run_bind, hrun]
  rfl

/-- An action succeeds with a value and leaves the files alone. -/
def Yields (action : Action α) (session : Session) (value : α) : Prop :=
  ∃ after, action.run.run session = (.ok value, after) ∧ after.tree = session.tree

theorem Yields.bind {action : Action α} {next : α → Action β} {value : α} {result : β}
    (hyields : action.Yields session value)
    (hnext : ∀ after : Session, after.tree = session.tree → (next value).Yields after result) :
    (action >>= next).Yields session result := by
  obtain ⟨after, hrun, htree⟩ := hyields
  obtain ⟨final, hfinal, hsame⟩ := hnext after htree
  exact ⟨final, (run_bind_of_ok hrun).trans hfinal, hsame.trans htree⟩

/-- An action leaves the files alone up to a point and then does the same as another one. -/
def Continues (action : Action α) (session : Session) (rest : Action α) : Prop :=
  ∃ after, action.run.run session = rest.run.run after ∧ after.tree = session.tree

theorem continues_self (action : Action α) : action.Continues session action :=
  ⟨session, rfl, rfl⟩

theorem Yields.continues {action : Action α} {next : α → Action β} {value : α} {rest : Action β}
    (hyields : action.Yields session value)
    (hnext : ∀ after : Session, after.tree = session.tree → (next value).Continues after rest) :
    (action >>= next).Continues session rest := by
  obtain ⟨after, hrun, htree⟩ := hyields
  obtain ⟨final, hfinal, hsame⟩ := hnext after htree
  exact ⟨final, (run_bind_of_ok hrun).trans hfinal, hsame.trans htree⟩

theorem yields_pure (value : α) : (pure value : Action α).Yields session value :=
  ⟨session, rfl, rfl⟩

theorem yields_currentTree : currentTree.Yields session session.tree :=
  ⟨session, rfl, rfl⟩

theorem yields_tell (line : String) : (tell line).Yields session () :=
  ⟨_, rfl, rfl⟩

theorem yields_notify (notices : List Notice) : (notify notices).Yields session () :=
  ⟨_, rfl, rfl⟩

theorem yields_forM_tell (lines : List String) : (lines.forM tell).Yields session () := by
  induction lines generalizing session with
  | nil => exact yields_pure ()
  | cons line rest ih => exact (yields_tell line).bind (fun _ _ => ih)

/-! ## Changing files -/

/-- The segments of a directory that is to be made. -/
def directoryParts (path : String) : Except SystemError (List String) :=
  if path = "" then .ok [] else FileTree.pathSegments path

theorem run_pure (value : α) : (pure value : Action α).run.run session = (.ok value, session) := rfl

theorem run_currentTree : currentTree.run.run session = (.ok session.tree, session) := rfl

theorem run_orFail {ε : Type} (failure : ε → Failure) (result : Except ε α) :
    (orFail failure result).run.run session = (result.mapError failure, session) := by
  cases result <;> rfl

/-- Directories that were made stay, also if a further one could not be made. -/
theorem run_makeDirectories (failure : SystemError → Failure) (path : String) :
    (makeDirectories failure path).run.run session =
      match directoryParts path with
      | .error cause => (.error (failure cause), session)
      | .ok parts =>
        (match (session.tree.makeDirectories parts).2 with
          | some cause => .error (failure cause)
          | none => .ok (),
        { session with tree := (session.tree.makeDirectories parts).1 }) := by
  rw [makeDirectories, directoryParts]
  split
  · rw [run_bind_of_ok (run_pure []), run_bind_of_ok run_currentTree]
    dsimp only
    rcases session.tree.makeDirectories [] with ⟨made, _ | cause⟩ <;> rfl
  · cases FileTree.pathSegments path with
    | error cause => rfl
    | ok parts =>
        rw [run_bind_of_ok (run_orFail failure (.ok parts)), run_bind_of_ok run_currentTree]
        dsimp only
        rcases session.tree.makeDirectories parts with ⟨made, _ | cause⟩ <;> rfl

section MakeDirectories

variable {failure : SystemError → Failure} {path : String} {parts : List String} {made : FileTree}
  {cause : SystemError}

end MakeDirectories

/-- A file that cannot be written leaves everything as it is. -/
theorem run_writeFile (path text : String) :
    (writeFile path text).run.run session =
      match (FileTree.pathSegments path).bind (session.tree.writeText · text) with
      | .error cause => (.error (.file path cause), session)
      | .ok tree => (.ok (), { session with tree := tree }) := by
  rw [writeFile]
  cases FileTree.pathSegments path with
  | error cause => rfl
  | ok parts =>
      rw [run_bind_of_ok (run_orFail (.file path) (.ok parts)), run_bind_of_ok run_currentTree,
        Except.bind]
      cases session.tree.writeText parts text <;> rfl

end RestModel.Action
