import ViewTemplate.Proofs.Occurrence
import ViewTemplate.Proofs.Places
import ViewTemplate.Store.File

/-!
Where view names lead. The path of a view goes down from the directory that the view is looked for
in, and never up again. A name that begins with a separator is not joined to that directory at all:
it is a path from the root of all directories (`leads_of_resolve`).
-/

namespace ViewTemplate

/-! ## Going down -/

/-- A directory itself, or a place somewhere inside it. -/
structure Location.IsWithin (location directory : Location) : Prop where
  outside : location.outside = directory.outside
  names : directory.names <+: location.names

theorem Location.isWithin_descend (location : Location) {names : List (List Char)}
    (noStepUp : ['.', '.'] ∉ names) : (location.descend names).IsWithin location := by
  induction names generalizing location with
  | nil => exact ⟨rfl, List.prefix_refl _⟩
  | cons name names inductionHypothesis =>
      obtain ⟨notUp, later⟩ := List.ne_and_not_mem_of_not_mem_cons noStepUp
      rw [Location.descend]
      split
      · exact inductionHypothesis location later
      · rw [if_neg notUp.symm]
        have deeper := inductionHypothesis (location.child (String.ofList name)) later
        exact ⟨deeper.outside, (List.prefix_append _ _).trans deeper.names⟩

namespace FileSystem

/-- A path that consists of a directory and a relative path without a step up. -/
def ExtendsTo (directory path : String) : Prop :=
  ∃ inner : String, path = join directory inner ∧ inner.toList.head? ≠ some '/' ∧
    ['.', '.'] ∉ splitPath inner.toList

theorem ExtendsTo.isWithin {directory path : String} (down : ExtendsTo directory path) :
    (place path).IsWithin (place directory) := by
  obtain ⟨inner, rfl, relative, noStepUp⟩ := down
  rw [place_join_of_relative directory relative]
  exact Location.isWithin_descend _ noStepUp

/-- What extends a relative directory is relative. -/
theorem ExtendsTo.relative {directory path : String} (down : ExtendsTo directory path)
    (relative : directory.toList.head? ≠ some '/') : path.toList.head? ≠ some '/' := by
  obtain ⟨inner, rfl, innerRelative, -⟩ := down
  unfold join
  split
  next => exact innerRelative
  next joins =>
    have visible : directory.toList ≠ [] :=
      fun empty => joins (.inr (String.toList_eq_nil_iff.1 empty))
    obtain ⟨first, others, characters⟩ := List.exists_cons_of_ne_nil visible
    rw [characters] at relative
    split
    · rw [String.toList_append, characters]
      exact relative
    · rw [String.toList_append, String.toList_append, characters]
      exact relative

/-- Only the last name of a path has the points of an ending that is put behind the path. -/
theorem of_mem_splitPath_append {path ending name : List Char} (noPoint : '.' ∉ path)
    (noSlash : '/' ∉ ending) (member : name ∈ splitPath (path ++ ending)) :
    '.' ∉ name ∨ ending <:+ name := by
  induction path generalizing name with
  | nil =>
      rw [List.nil_append, splitPath_of_noSlash noSlash, List.mem_singleton] at member
      exact .inr (member ▸ List.suffix_refl ending)
  | cons character path inductionHypothesis =>
      obtain ⟨notPoint, later⟩ := List.ne_and_not_mem_of_not_mem_cons noPoint
      have further : ∀ name ∈ splitPath (path ++ ending), '.' ∉ name ∨ ending <:+ name :=
        fun name inside => inductionHypothesis later inside
      rw [List.cons_append, splitPath] at member
      split at member
      next slash =>
        rcases List.mem_cons.1 member with rfl | inside
        · exact .inl List.not_mem_nil
        · exact further name inside
      next =>
        cases names : splitPath (path ++ ending) with
        | nil => exact absurd names (splitPath_ne_nil _)
        | cons first others =>
            rw [names] at further member
            rcases List.mem_cons.1 member with rfl | inside
            · rcases further first List.mem_cons_self with plain | ends
              · exact .inl (List.not_mem_cons_of_ne_of_not_mem notPoint plain)
              · exact .inr (ends.trans (List.suffix_cons character first))
            · exact further name (List.mem_cons_of_mem _ inside)

end FileSystem

/-! ## Views in directories -/

namespace FileStore

open FileSystem

variable {store : FileStore} {name path : String}

/-- The directory that a store looks for a view in, and the name that the view has there: what
stands behind the first mark of a namespace, or else the whole name. -/
inductive LooksIn (store : FileStore) (name : String) : String → List Char → Prop where
  | views (unmarked : Text.breakOn? namespaceMark.toList name.toList = none) :
      LooksIn store name store.viewsDirectory name.toList
  | space {spaceName view : List Char} {directory : String}
      (marked : Text.breakOn? namespaceMark.toList name.toList = some (spaceName, view))
      (known : store.namespaces.lookup (String.ofList spaceName) = some directory) :
      LooksIn store name directory view

theorem exists_looksIn_of_resolve (noPath : ¬pathMark.toList <+: name.toList)
    (resolved : store.resolve name = .ok path) :
    ∃ directory view, store.LooksIn name directory view ∧
      path = join directory (store.relativePath view) := by
  rw [resolve, Text.stripInitial?_eq_none_iff.2 noPath] at resolved
  dsimp only at resolved
  split at resolved
  next spaceName view marked =>
    split at resolved
    next directory known =>
      cases resolved
      exact ⟨directory, view, .space marked known, rfl⟩
    next => cases resolved
  next unmarked =>
    cases resolved
    exact ⟨store.viewsDirectory, name.toList, .views unmarked, rfl⟩

/-- A name begins with a separator: with a point, or with the slash that a point stands for. -/
def BeginsWithSeparator (view : List Char) : Prop :=
  ∃ character ∈ view.head?, character = '.' ∨ character = '/'

/-- Where the path leads of a view that is looked for in a directory by a name. -/
inductive Leads (store : FileStore) (directory : String) (view : List Char) (path : String) :
    Prop where
  /-- Down from the directory. -/
  | inside (joined : ¬BeginsWithSeparator view) (down : ExtendsTo directory path)
      (within : (place path).IsWithin (place directory))
  /-- Down from the root, where no relative directory is. -/
  | outside (separated : BeginsWithSeparator view) (same : path = store.relativePath view)
      (absolute : path.toList.head? = some '/') (noStepUp : ['.', '.'] ∉ splitPath path.toList)
      (elsewhere : directory.toList.head? ≠ some '/' → ¬ExtendsTo directory path)

section Standard

variable (standard : store.extension = defaultExtension)
include standard

theorem toList_relativePath (view : List Char) :
    (store.relativePath view).toList =
      view.map (fun character => if character = '.' then '/' else character) ++
        defaultExtension.toList := by
  rw [relativePath, standard, String.toList_append, String.toList_ofList]

theorem head?_relativePath (view : List Char) :
    (store.relativePath view).toList.head? = some '/' ↔ BeginsWithSeparator view := by
  rw [toList_relativePath standard]
  cases view with
  | nil => simp [BeginsWithSeparator, defaultExtension]
  | cons character view =>
      by_cases point : character = '.' <;> simp [BeginsWithSeparator, point]

/-- Points become slashes, and the last name has the extension behind it, so no name is two
points. -/
theorem noStepUp_relativePath (view : List Char) :
    ['.', '.'] ∉ splitPath (store.relativePath view).toList := by
  rw [toList_relativePath standard]
  intro member
  have noPoint : '.' ∉ view.map fun character => if character = '.' then '/' else character := by
    intro inside
    obtain ⟨character, -, same⟩ := List.mem_map.1 inside
    split at same
    next => cases same
    next notPoint => exact notPoint same
  rcases of_mem_splitPath_append noPoint (by decide) member with plain | ends
  · exact plain List.mem_cons_self
  · exact absurd ends.length_le (by decide)

theorem leads_join (directory : String) (view : List Char) :
    store.Leads directory view (join directory (store.relativePath view)) := by
  have slash := head?_relativePath standard view
  have noStepUp := noStepUp_relativePath standard view
  by_cases separated : BeginsWithSeparator view
  · have absolute := slash.2 separated
    rw [join, if_pos (Or.inl absolute)]
    exact .outside separated rfl absolute noStepUp fun relative down =>
      down.relative relative absolute
  · have down : ExtendsTo directory (join directory (store.relativePath view)) :=
      ⟨_, rfl, fun first => separated (slash.1 first), noStepUp⟩
    exact .inside separated down down.isWithin

end Standard

/-- A view that is not named by a path is inside the directory that it is looked for in: its path
consists of that directory and a relative path without a step up. But if its name there begins with
a separator, its path is that name from the root on, and is in no relative directory. -/
theorem leads_of_resolve (standard : store.extension = defaultExtension)
    (noPath : ¬pathMark.toList <+: name.toList) (resolved : store.resolve name = .ok path) :
    ∃ directory view, store.LooksIn name directory view ∧ store.Leads directory view path := by
  obtain ⟨directory, view, looks, rfl⟩ := exists_looksIn_of_resolve noPath resolved
  exact ⟨directory, view, looks, leads_join standard directory view⟩

theorem leads_of_resolve_namespace :
    let store := (inDirectories "views" "cache").withNamespace "admin" "admin/views"
    store.extension = defaultExtension ∧ ¬pathMark.toList <+: "admin::users.index".toList ∧
      store.resolve "admin::users.index" = .ok "admin/views/users/index.sabre.html" ∧
        ∃ directory view, store.LooksIn "admin::users.index" directory view ∧
          store.Leads directory view "admin/views/users/index.sabre.html" :=
  ⟨rfl, by decide, by rfl, leads_of_resolve rfl (by decide) (by rfl)⟩

/-- Not every view is inside the directory that it is looked for in: `/etc/motd` is not in
`views`. -/
theorem not_forall_extendsTo_of_resolve :
    ¬∀ (store : FileStore) (name path : String), store.extension = defaultExtension →
      ¬pathMark.toList <+: name.toList → store.resolve name = .ok path →
        ∃ directory view, store.LooksIn name directory view ∧ ExtendsTo directory path := by
  intro confined
  obtain ⟨directory, view, looks, down⟩ :=
    confined (inDirectories "views" "cache") "/etc/motd" "/etc/motd.sabre.html" rfl (by decide)
      (by rfl)
  cases looks with
  | views => exact down.relative (by decide) (by decide)
  | space marked => cases marked

end FileStore

end ViewTemplate
