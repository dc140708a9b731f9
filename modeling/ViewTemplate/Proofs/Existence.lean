import ViewTemplate.Store.File
import ViewTemplate.Store.Memory

/-!
Whether a store contains a view, and whether it finds the view when it is asked for the fragment.
The two questions have one answer, unless the file system cannot follow the path of the view: then
the store does not contain the view, and the answer is an error of the file system
(`agreesOn_memory_and_file`).
-/

namespace ViewTemplate

/-- A view is not found when a store is asked for it exactly if the store does not contain it. Hence
the store contains all views that it hands out, and all for which there is another error. -/
def Store.AgreesOn {σ : Type} (store : Store σ) (name : String) (stored : σ) : Prop :=
  (∃ missing, (store.compiled name stored).1 = .error (.viewNotFound missing)) ↔
    store.contains name stored = false

/-! ## Paths -/

namespace FileSystem

/-- Whether a fault says that a path cannot be followed: there is a file in the middle of it, or it
is no path at all. -/
def Fault.isObstacle : Fault → Bool
  | .notDirectory | .nameTooLong | .nulInPath => true
  | .notFound | .alreadyExists | .isDirectory | .invalidText => false

variable {files : FileSystem} {fault : Fault}

theorem isObstacle_of_follow {location : Location} {names : List (List Char)}
    (failed : files.follow location names = .error fault) :
    fault = .notFound ∨ fault.isObstacle = true := by
  induction names generalizing location with
  | nil => cases failed
  | cons name names inductionHypothesis =>
      unfold follow at failed
      split at failed
      next nothing =>
        cases failed
        exact .inl rfl
      next file =>
        cases failed
        exact .inr rfl
      next directory =>
        split at failed
        · exact inductionHypothesis failed
        · split at failed
          · exact inductionHypothesis failed
          · split at failed
            · cases failed
              exact .inr rfl
            · exact inductionHypothesis failed

theorem isObstacle_of_pathFault? {path : List Char} (found : pathFault? path = some fault) :
    fault = .notFound ∨ fault.isObstacle = true := by
  unfold pathFault? at found
  split at found
  next nul =>
    cases found
    exact .inr rfl
  next =>
    split at found
    next empty =>
      cases found
      exact .inl rfl
    next =>
      split at found
      next long =>
        cases found
        exact .inr rfl
      next => cases found

/-- There is nothing at a path, or it cannot be followed. -/
theorem isObstacle_of_find {path : String} (failed : files.find path = .error fault) :
    fault = .notFound ∨ fault.isObstacle = true := by
  unfold find at failed
  split at failed
  next other located =>
    cases failed
    unfold locate at located
    split at located
    next early found =>
      cases located
      exact isObstacle_of_pathFault? found
    next => exact isObstacle_of_follow located
  next =>
    split at failed
    next => cases failed
    next nothing =>
      cases failed
      exact .inl rfl

end FileSystem

/-! ## Views in files -/

namespace FileStore

variable {store : FileStore} {name path : String} {files : FileSystem} {cause : Cause}

/-- The path of a view cannot be followed. -/
def IsBlocked (store : FileStore) (name : String) (files : FileSystem)
    (fault : FileSystem.Fault) : Prop :=
  fault.isObstacle = true ∧ ∃ path, store.resolve name = .ok path ∧ files.find path = .error fault

theorem cause_of_resolve (failed : store.resolve name = .error cause) :
    cause = .viewNotFound name := by
  unfold resolve at failed
  split at failed
  next => cases failed
  next =>
    split at failed
    next =>
      split at failed
      next => cases failed
      next unknown =>
        cases failed
        rfl
    next => cases failed

theorem compiled_of_sourceTime (resolved : store.resolve name = .ok path)
    (timed : sourceTime name path files = .error cause) :
    store.compiled name files = (.error cause, files) := by
  rw [compiled, resolved]
  simp only [timed]

theorem cause_of_compileInto {cache : String}
    (failed : (store.compileInto path cache files).1 = .error cause) :
    ∃ fault, cause = .files fault := by
  unfold compileInto at failed
  split at failed
  next unread =>
    cases failed
    exact ⟨_, rfl⟩
  next =>
    dsimp only at failed
    split at failed
    next unmade =>
      cases failed
      exact ⟨_, rfl⟩
    next =>
      split at failed
      next unwritten =>
        cases failed
        exact ⟨_, rfl⟩
      next => cases failed

/-- If there is no fragment of a view that is a file, that is because of other files. -/
theorem cause_of_compiled {content : ByteArray} {time : Int}
    (resolved : store.resolve name = .ok path) (found : files.find path = .ok (.file content time))
    (failed : (store.compiled name files).1 = .error cause) : ∃ fault, cause = .files fault := by
  have timed : sourceTime name path files = .ok time := by rw [sourceTime, found]
  rw [compiled, resolved] at failed
  simp only [timed] at failed
  split at failed
  next fresh =>
    split at failed
    next => cases failed
    next unread =>
      cases failed
      exact ⟨_, rfl⟩
  next => exact cause_of_compileInto failed

theorem contains_of_resolve (resolved : store.resolve name = .ok path) :
    store.contains name files = files.isFile path := by
  rw [contains, resolved]

/-- A view is a file, or it is missing, or it is blocked. -/
inductive Found (store : FileStore) (name : String) (files : FileSystem) : Prop where
  | file (contained : store.contains name files = true)
      (handed : ∀ {cause}, (store.compiled name files).1 = .error cause → ∃ fault,
        cause = .files fault)
      (free : ∀ fault, ¬store.IsBlocked name files fault)
  | missing (contained : store.contains name files = false)
      (handed : store.compiled name files = (.error (.viewNotFound name), files))
      (free : ∀ fault, ¬store.IsBlocked name files fault)
  | blocked {fault : FileSystem.Fault} (contained : store.contains name files = false)
      (handed : store.compiled name files = (.error (.files fault), files))
      (blocked : store.IsBlocked name files fault)

theorem free_of_find (resolved : store.resolve name = .ok path)
    (found : ∀ fault, files.find path = .error fault → fault = .notFound)
    (fault : FileSystem.Fault) : ¬store.IsBlocked name files fault := by
  rintro ⟨obstacle, other, same, failed⟩
  cases resolved.symm.trans same
  cases found fault failed
  cases obstacle

theorem found (store : FileStore) (name : String) (files : FileSystem) :
    store.Found name files := by
  cases resolved : store.resolve name with
  | error cause =>
      obtain rfl := cause_of_resolve resolved
      refine .missing (by rw [contains, resolved]) (by rw [compiled, resolved]) ?_
      rintro fault ⟨-, path, same, -⟩
      cases resolved.symm.trans same
  | ok path =>
      have contained : store.contains name files = files.isFile path :=
        contains_of_resolve resolved
      unfold FileSystem.isFile at contained
      cases looked : files.find path with
      | ok node =>
          rw [looked] at contained
          have free := free_of_find resolved fun fault failed => by cases looked.symm.trans failed
          cases node with
          | file content time => exact .file contained (cause_of_compiled resolved looked) free
          | directory =>
              have timed : sourceTime name path files = .error (.viewNotFound name) := by
                rw [sourceTime, looked]
              exact .missing contained (compiled_of_sourceTime resolved timed) free
      | error fault =>
          rw [looked] at contained
          rcases FileSystem.isObstacle_of_find looked with rfl | obstacle
          · have timed : sourceTime name path files = .error (.viewNotFound name) := by
              rw [sourceTime, looked]
            refine .missing contained (compiled_of_sourceTime resolved timed) ?_
            refine free_of_find resolved fun fault failed => ?_
            cases looked.symm.trans failed
            rfl
          · have timed : sourceTime name path files = .error (.files fault) := by
              rw [sourceTime, looked]
              cases fault with
              | notFound => cases obstacle
              | _ => rfl
            exact .blocked contained (compiled_of_sourceTime resolved timed)
              ⟨obstacle, path, resolved, looked⟩

theorem agreesOn_iff_free (store : FileStore) (name : String) (files : FileSystem) :
    (Store.file store).AgreesOn name files ↔ ∀ fault, ¬store.IsBlocked name files fault := by
  change ((∃ missing, (store.compiled name files).1 = .error (.viewNotFound missing)) ↔
    store.contains name files = false) ↔ _
  cases store.found name files with
  | file contained handed free =>
      refine iff_of_true (iff_of_false ?_ (by simp [contained])) free
      rintro ⟨missing, failed⟩
      obtain ⟨fault, same⟩ := handed failed
      cases same
  | missing contained handed free =>
      exact iff_of_true (iff_of_true ⟨name, by rw [handed]⟩ contained) free
  | blocked contained handed blocked =>
      refine iff_of_false (fun agrees => ?_) fun free => free _ blocked
      obtain ⟨missing, failed⟩ := agrees.2 contained
      rw [handed] at failed
      cases failed

end FileStore

/-- A store in memory finds exactly the views that it contains. So does a file store as long as the
path of a view can be followed; if not, it does not contain the view and the answer is the fault of
the file system. -/
theorem agreesOn_memory_and_file (name : String) (views : MemoryViews) (store : FileStore)
    (files : FileSystem) :
    Store.memory.AgreesOn name views ∧
      ((Store.file store).AgreesOn name files ↔ ∀ fault, ¬store.IsBlocked name files fault) ∧
        ∀ fault, store.IsBlocked name files fault →
          (Store.file store).contains name files = false ∧
            (Store.file store).compiled name files = (.error (.files fault), files) := by
  refine ⟨?_, store.agreesOn_iff_free name files, ?_⟩
  · change (∃ missing, views.compiled name = .error (.viewNotFound missing)) ↔
      (views.fragments.lookup name).isSome = false
    unfold MemoryViews.compiled
    cases views.fragments.lookup name with
    | none => simp
    | some fragment => simp
  · intro fault blocked
    cases store.found name files with
    | file contained handed free => exact absurd blocked (free fault)
    | missing contained handed free => exact absurd blocked (free fault)
    | blocked contained handed blocked' =>
        obtain ⟨-, path, resolved, failed⟩ := blocked
        obtain ⟨-, path', resolved', failed'⟩ := blocked'
        cases resolved.symm.trans resolved'
        cases failed.symm.trans failed'
        exact ⟨contained, handed⟩

/-- A view directory in which a file stands where a view name asks for a directory. -/
def fileInPath : FileSystem :=
  ⟨[(⟨false, ["views"]⟩, .directory), (⟨false, ["views", "file"]⟩, .file ByteArray.empty 1000)],
    2000⟩

/-- The view `file.sub` is not there, and it is not reported as missing. -/
theorem not_agreesOn_fileInPath :
    ¬(Store.file (.inDirectories "views" "cache")).AgreesOn "file.sub" fileInPath := by
  rw [FileStore.agreesOn_iff_free]
  intro free
  exact free .notDirectory ⟨rfl, "views/file/sub.sabre.html", by rfl, by rfl⟩

end ViewTemplate
