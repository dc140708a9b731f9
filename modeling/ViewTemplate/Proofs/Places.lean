import ViewTemplate.FileSystem

/-!
Places in the file system and the files there. A path leads to the same place at any time, if it
leads anywhere (`eq_place_of_locate`), and making directories leaves all files as they are
(`sameFiles_makeDirectories`).
-/

namespace ViewTemplate

/-! ## Places by names alone -/

namespace Location

/-- The place that names lead to from a place on, if all directories on the way exist. -/
def descend (location : Location) : List (List Char) → Location
  | [] => location
  | name :: names =>
      if name = [] ∨ name = ['.'] then location.descend names
      else if name = ['.', '.'] then location.parent.descend names
      else (location.child (String.ofList name)).descend names

theorem descend_append (location : Location) (first second : List (List Char)) :
    location.descend (first ++ second) = (location.descend first).descend second := by
  induction first generalizing location with
  | nil => rfl
  | cons name names inductionHypothesis =>
      simp only [List.cons_append, descend]
      split
      · exact inductionHypothesis location
      · split
        · exact inductionHypothesis location.parent
        · exact inductionHypothesis (location.child (String.ofList name))

theorem child_inj {location : Location} {first second : String}
    (same : location.child first = location.child second) : first = second := by
  have names : location.names ++ [first] = location.names ++ [second] :=
    congrArg Location.names same
  have last : [first] = [second] := List.append_cancel_left names
  exact List.head_eq_of_cons_eq last

end Location

/-- A name that leads to a place right inside a directory. -/
structure IsPlainName (name : String) : Prop where
  nonempty : name.toList ≠ []
  notPoint : name.toList ≠ ['.']
  notPoints : name.toList ≠ ['.', '.']
  noSlash : '/' ∉ name.toList

namespace FileSystem

/-- The place that a path leads to, if all directories on the way exist. -/
def place (path : String) : Location :=
  (origin path.toList).descend (splitPath path.toList)

theorem splitPath_ne_nil (path : List Char) : splitPath path ≠ [] := by
  cases path with
  | nil => simp [splitPath]
  | cons character path =>
      unfold splitPath
      split
      · simp
      · split <;> simp

theorem splitPath_append_slash (path rest : List Char) :
    splitPath (path ++ '/' :: rest) = splitPath path ++ splitPath rest := by
  induction path with
  | nil => rfl
  | cons character path inductionHypothesis =>
      simp only [List.cons_append, splitPath, inductionHypothesis]
      by_cases slash : character = '/'
      · rw [if_pos slash, if_pos slash, List.cons_append]
      · rw [if_neg slash, if_neg slash]
        cases names : splitPath path with
        | nil => exact absurd names (splitPath_ne_nil path)
        | cons name others => rfl

theorem splitPath_of_noSlash {path : List Char} (noSlash : '/' ∉ path) :
    splitPath path = [path] := by
  induction path with
  | nil => rfl
  | cons character path inductionHypothesis =>
      have other : character ≠ '/' := fun slash => noSlash (slash ▸ List.mem_cons_self)
      have later : '/' ∉ path := fun member => noSlash (List.mem_cons_of_mem _ member)
      rw [splitPath, if_neg other, inductionHypothesis later]

theorem descend_splitPath_of_plain (location : Location) {name : String}
    (plain : IsPlainName name) :
    location.descend (splitPath name.toList) = location.child name := by
  have named : ¬(name.toList = [] ∨ name.toList = ['.']) := by
    rintro (empty | point)
    · exact plain.nonempty empty
    · exact plain.notPoint point
  rw [splitPath_of_noSlash plain.noSlash, Location.descend, if_neg named,
    if_neg plain.notPoints, String.ofList_toList]
  rfl

theorem origin_append {path : List Char} (nonempty : path ≠ []) (rest : List Char) :
    origin (path ++ rest) = origin path := by
  obtain ⟨first, others, rfl⟩ := List.exists_cons_of_ne_nil nonempty
  rfl

/-- A relative path joined to a directory leads where it leads from the directory on. -/
theorem place_join_of_relative (directory : String) {inner : String}
    (relative : inner.toList.head? ≠ some '/') :
    place (join directory inner) = (place directory).descend (splitPath inner.toList) := by
  by_cases working : directory = ""
  · subst working
    have origins : origin inner.toList = ⟨false, []⟩ := by
      rw [origin, beq_eq_false_iff_ne.2 relative]
    rw [join, if_pos (Or.inr rfl), place, origins]
    rfl
  · have nonempty : directory.toList ≠ [] := by
      intro empty
      exact working (String.toList_eq_nil_iff.1 empty)
    have joins : ¬(inner.toList.head? = some '/' ∨ directory = "") := by
      rintro (slash | empty)
      · exact relative slash
      · exact working empty
    rw [join, if_neg joins]
    by_cases slashed : directory.toList.getLast? = some '/'
    · obtain ⟨front, ends⟩ := List.getLast?_eq_some_iff.1 slashed
      have text : (directory ++ inner).toList = front ++ '/' :: inner.toList := by
        rw [String.toList_append, ends, List.append_assoc]
        rfl
      have whole : splitPath directory.toList = splitPath front ++ [[]] := by
        rw [ends]
        exact splitPath_append_slash front []
      have origins : origin (directory ++ inner).toList = origin directory.toList := by
        rw [String.toList_append, origin_append nonempty]
      rw [if_pos slashed, place, place, origins, text, splitPath_append_slash, whole,
        Location.descend_append, Location.descend_append]
      rfl
    · have text : (directory ++ "/" ++ inner).toList =
          directory.toList ++ '/' :: inner.toList := by
        simp [String.toList_append]
      have origins : origin (directory ++ "/" ++ inner).toList = origin directory.toList := by
        rw [text, origin_append nonempty]
      rw [if_neg slashed, place, place, origins, text, splitPath_append_slash,
        Location.descend_append]

/-- A name joined to a directory leads to the place of that name in the directory. -/
theorem place_join (directory : String) {name : String} (plain : IsPlainName name) :
    place (join directory name) = (place directory).child name := by
  have relative : name.toList.head? ≠ some '/' := by
    intro slash
    obtain ⟨others, characters⟩ := List.head?_eq_some_iff.1 slash
    exact plain.noSlash (by rw [characters]; exact List.mem_cons_self)
  rw [place_join_of_relative directory relative, descend_splitPath_of_plain _ plain]

/-! ## Following paths -/

theorem eq_descend_of_follow {files : FileSystem} {names : List (List Char)}
    {location reached : Location} (follows : files.follow location names = .ok reached) :
    reached = location.descend names := by
  induction names generalizing location with
  | nil =>
      cases follows
      rfl
  | cons name names inductionHypothesis =>
      unfold follow at follows
      unfold Location.descend
      split at follows
      · cases follows
      · cases follows
      · by_cases stays : name = [] ∨ name = ['.']
        · rw [if_pos stays] at follows ⊢
          exact inductionHypothesis follows
        · rw [if_neg stays] at follows ⊢
          by_cases leaves : name = ['.', '.']
          · rw [if_pos leaves] at follows ⊢
            exact inductionHypothesis follows
          · rw [if_neg leaves] at follows ⊢
            split at follows
            · cases follows
            · exact inductionHypothesis follows

/-- Where a path leads does not depend on the files, only whether it leads anywhere. -/
theorem eq_place_of_locate {files : FileSystem} {path : String} {location : Location}
    (located : files.locate path = .ok location) : location = place path := by
  unfold locate at located
  split at located
  · cases located
  · exact eq_descend_of_follow located

theorem node?_place_of_find {files : FileSystem} {path : String} {node : Node}
    (found : files.find path = .ok node) : files.node? (place path) = some node := by
  unfold find at found
  split at found
  · cases found
  next location located =>
    rw [← eq_place_of_locate located]
    split at found
    next node found' =>
      cases found
      exact found'
    · cases found

/-! ## Changes -/

theorem lookup_filter_ne {α : Type} {location other : Location} (different : other ≠ location)
    (nodes : List (Location × α)) :
    (nodes.filter fun (place, _) => place ≠ location).lookup other = nodes.lookup other := by
  induction nodes with
  | nil => rfl
  | cons entry nodes inductionHypothesis =>
      obtain ⟨place, node⟩ := entry
      by_cases gone : place = location
      · have apart : (other == place) = false := by
          rw [gone]
          exact beq_eq_false_iff_ne.2 different
        rw [List.filter_cons_of_neg (by simp [gone]), inductionHypothesis, List.lookup_cons, apart]
      · rw [List.filter_cons_of_pos (by simp [gone]), List.lookup_cons, List.lookup_cons,
          inductionHypothesis]

theorem lookup_filter_self {α : Type} (location : Location) (nodes : List (Location × α)) :
    (nodes.filter fun (place, _) => place ≠ location).lookup location = none := by
  rw [List.lookup_eq_none_iff]
  intro entry member
  have different := (List.mem_filter.1 member).2
  exact bne_iff_ne.2 fun same => of_decide_eq_true different same.symm

variable {files : FileSystem} {location : Location}

theorem node?_put (named : location.names ≠ []) (node : Node) (other : Location) :
    (files.put location node).node? other =
      if other = location then some node else files.node? other := by
  unfold node? put
  by_cases same : other = location
  · subst same
    rw [if_neg named, if_pos rfl, List.lookup_cons_self]
  · have different : (other == location) = false := beq_eq_false_iff_ne.2 same
    rw [if_neg same, List.lookup_cons, different]
    split
    · rfl
    · exact lookup_filter_ne same files.nodes

theorem node?_erase (named : location.names ≠ []) (other : Location) :
    (files.erase location).node? other =
      if other = location then none else files.node? other := by
  unfold node? erase
  by_cases same : other = location
  · subst same
    rw [if_neg named, if_pos rfl]
    exact lookup_filter_self other files.nodes
  · rw [if_neg same]
    split
    · rfl
    · exact lookup_filter_ne same files.nodes

theorem names_ne_nil_of_file {content : ByteArray} {modified : Int}
    (found : files.node? location = some (.file content modified)) : location.names ≠ [] := by
  intro topmost
  rw [node?, if_pos topmost] at found
  cases found

/-! ### Directories -/

/-- The same files at the same time; there may be other directories. -/
structure SameFiles (before after : FileSystem) : Prop where
  clock : after.clock = before.clock
  file (location : Location) (content : ByteArray) (modified : Int) :
    after.node? location = some (.file content modified) ↔
      before.node? location = some (.file content modified)

namespace SameFiles

theorem refl (files : FileSystem) : SameFiles files files :=
  ⟨rfl, fun _ _ _ => Iff.rfl⟩

theorem trans {first second third : FileSystem} (left : SameFiles first second)
    (right : SameFiles second third) : SameFiles first third :=
  ⟨right.clock.trans left.clock, fun location content modified =>
    (right.file location content modified).trans (left.file location content modified)⟩

/-- A directory that is made where nothing was changes no file. -/
theorem put_directory (named : location.names ≠ []) (free : files.node? location = none) :
    SameFiles files (files.put location .directory) := by
  refine ⟨rfl, fun other content modified => ?_⟩
  rw [node?_put named]
  by_cases same : other = location
  · rw [if_pos same, same, free]
    constructor <;> intro found <;> cases found
  · rw [if_neg same]

end SameFiles

theorem sameFiles_makeFrom (names : List (List Char)) (files : FileSystem) (location : Location) :
    SameFiles files (files.makeFrom location names).2 := by
  induction names generalizing files location with
  | nil => exact SameFiles.refl files
  | cons name names inductionHypothesis =>
      unfold makeFrom
      split
      · exact inductionHypothesis files location
      split
      · exact inductionHypothesis files location.parent
      split
      · exact SameFiles.refl files
      dsimp only
      split
      · exact inductionHypothesis files _
      · exact SameFiles.refl files
      next free =>
        split
        · exact SameFiles.refl files
        · have named : (location.child (String.ofList name)).names ≠ [] := by
            simp [Location.child]
          exact (SameFiles.put_directory named free).trans (inductionHypothesis _ _)

theorem sameFiles_makeDirectories (files : FileSystem) (path : String) :
    SameFiles files (files.makeDirectories path).2 := by
  unfold makeDirectories
  split
  · exact SameFiles.refl files
  · exact SameFiles.refl files
  · exact sameFiles_makeFrom _ files _

end FileSystem

end ViewTemplate
