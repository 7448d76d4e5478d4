import RowFactory.Disk.Tree
import RowFactory.Error

/-! # Programs on a model of a disk

A program that may fail goes on after a step with the result of the step, on the disk that the step has left.
-/

namespace RowFactory.Disk

variable {α : Type} {t changed : Tree} {result : α}

theorem run_bind_eq_ok {β : Type} {step : ExceptT Error (StateM Tree) β}
    {next : β → ExceptT Error (StateM Tree) α} (h : (step >>= next).run t = (.ok result, changed)) :
    ∃ value made, step.run t = (.ok value, made) ∧ (next value).run made = (.ok result, changed) := by
  change (ExceptT.bindCont next (step.run t).1) (step.run t).2 = _ at h
  cases hStep : step.run t with
  | mk outcome made =>
    rw [hStep] at h
    cases outcome with
    | error e => cases h
    | ok value => exact ⟨value, made, rfl, h⟩

theorem run_bind_of_ok {β : Type} {step : ExceptT Error (StateM Tree) β} {next : β → ExceptT Error (StateM Tree) α}
    {value : β} {made : Tree} (h : step.run t = (.ok value, made)) :
    (step >>= next).run t = (next value).run made := by
  change (ExceptT.bindCont next (step.run t).1) (step.run t).2 = _
  rw [h]
  rfl

theorem run_bind_of_error {β : Type} {step : ExceptT Error (StateM Tree) β} {next : β → ExceptT Error (StateM Tree) α}
    {e : Error} {made : Tree} (h : step.run t = (.error e, made)) : (step >>= next).run t = (.error e, made) := by
  change (ExceptT.bindCont next (step.run t).1) (step.run t).2 = _
  rw [h]
  rfl

theorem run_readText (path : String) (t : Tree) (next : Except String String → ExceptT Error (StateM Tree) α) :
    ((liftM (Files.readText path : StateM Tree _) : ExceptT Error (StateM Tree) _) >>= next).run t =
      (next (t.readText path)).run t := rfl

theorem run_createDirectories (path : String) (t : Tree)
    (next : Except String Unit → ExceptT Error (StateM Tree) α) :
    ((liftM (Files.createDirectories path : StateM Tree _) : ExceptT Error (StateM Tree) _) >>=
        next).run t =
      (next (if (t.createDirectories path).2 then .ok () else .error "there is a file on the way")).run
        (t.createDirectories path).1 := by
  have hStep : (Files.createDirectories path : StateM Tree _) t =
      (if (t.createDirectories path).2 then .ok () else .error "there is a file on the way",
        (t.createDirectories path).1) := by
    simp only [Files.createDirectories]
    rcases t.createDirectories path with ⟨made, _ | _⟩ <;> rfl
  change (next ((Files.createDirectories path : StateM Tree _) t).1).run
    ((Files.createDirectories path : StateM Tree _) t).2 = _
  rw [hStep]

theorem run_writeText (path text : String) (t : Tree)
    (next : Except String Unit → ExceptT Error (StateM Tree) α) :
    ((liftM (Files.writeText path text : StateM Tree _) : ExceptT Error (StateM Tree) _) >>= next).run t =
      match t.write path (.text text) with
      | .ok changed => (next (.ok ())).run changed
      | .error reason => (next (.error reason)).run t := by
  change (next (changing (fun t => t.write path (.text text)) t).1).run
    (changing (fun t => t.write path (.text text)) t).2 = _
  rw [changing]
  cases t.write path (.text text) <;> rfl

theorem run_isDirectory (path : String) (t : Tree) (next : Bool → ExceptT Error (StateM Tree) α) :
    ((liftM (Files.isDirectory path : StateM Tree _) : ExceptT Error (StateM Tree) _) >>= next).run t =
      (next (decide (t.nodeAt? path = some .directory))).run t := rfl

theorem run_filesBelow {path : String} {t : Tree} {place : Place} (h : t.locate path = some place)
    (next : Except String (List String) → ExceptT Error (StateM Tree) α) :
    ((liftM (Files.filesBelow path : StateM Tree _) : ExceptT Error (StateM Tree) _) >>= next).run t =
      (next (.ok (t.filesBelow place))).run t := by
  have hStep : (Files.filesBelow path : StateM Tree _) t = (.ok (t.filesBelow place), t) := by
    simp only [Files.filesBelow, bind, StateT.bind, get, getThe, MonadStateOf.get, StateT.get, pure, h]
    rfl
  change (next ((Files.filesBelow path : StateM Tree _) t).1).run
    ((Files.filesBelow path : StateM Tree _) t).2 = _
  rw [hStep]

theorem run_removeFile (path : String) (t : Tree)
    (next : Except String Unit → ExceptT Error (StateM Tree) α) :
    ((liftM (Files.removeFile path : StateM Tree _) : ExceptT Error (StateM Tree) _) >>= next).run t =
      match t.nodeAt? path, t.locate path with
      | some (.file _), some place => (next (.ok ())).run (t.remove place)
      | _, _ => (next (.error "there is no file")).run t := by
  change (next ((Files.removeFile path : StateM Tree _) t).1).run
    ((Files.removeFile path : StateM Tree _) t).2 = _
  simp only [Files.removeFile, changing]
  rcases t.nodeAt? path with _ | _ | content <;> rcases t.locate path with _ | place <;> rfl

end RowFactory.Disk
