/-!
Finite maps from names, kept as lists of entries in ascending order of their names. Looking up is
`List.lookup`. Main statements: what a lookup finds after `put` and `overlay` (`lookup_put`,
`lookup_overlay`), that both keep the order (`ascending_put`, `ascending_overlay`), and that maps in
order are what their lookups find (`eq_of_lookup`).
-/

namespace ViewTemplate

/-- The entries of a finite map. The operations here keep the names ascending and distinct. -/
abbrev Entries (α : Type) := List (String × α)

namespace Entries

variable {α : Type}

/-- Binds a name, in place of its former value if it has one. -/
def put (name : String) (value : α) : Entries α → Entries α
  | [] => [(name, value)]
  | (other, former) :: rest =>
      if name = other then (name, value) :: rest
      else if name < other then (name, value) :: (other, former) :: rest
      else (other, former) :: put name value rest

def remove (name : String) (entries : Entries α) : Entries α :=
  entries.filter fun (other, _) => other != name

/-- Binds all names of `above` over those of `below`. -/
def overlay (below above : Entries α) : Entries α :=
  above.foldl (fun entries (name, value) => put name value entries) below

/-- The map of a list of pairs, in which the last of several pairs with one name counts. -/
def ofPairs (pairs : List (String × α)) : Entries α :=
  overlay [] pairs

def has (name : String) (entries : Entries α) : Bool :=
  (entries.lookup name).isSome

def names (entries : Entries α) : List String :=
  entries.map Prod.fst

/-! ## Lookup -/

theorem lookup_cons_eq (name key : String) (value : α) (rest : Entries α) :
    List.lookup key ((name, value) :: rest) =
      if key = name then some value else rest.lookup key := by
  by_cases same : key = name
  · simp [same]
  · have different : (key == name) = false := by simpa using same
    simp [List.lookup_cons, different, same]

theorem lookup_put (name key : String) (value : α) (entries : Entries α) :
    (put name value entries).lookup key =
      if key = name then some value else entries.lookup key := by
  induction entries with
  | nil => simp [put, lookup_cons_eq]
  | cons entry rest inductionHypothesis =>
      obtain ⟨other, former⟩ := entry
      unfold put
      split
      next replaced =>
        subst replaced
        simp only [lookup_cons_eq]
        split <;> rfl
      next different =>
        split
        · simp only [lookup_cons_eq]
        · simp only [lookup_cons_eq, inductionHypothesis]
          split
          next atOther => simp [atOther, Ne.symm different]
          next => rfl

/-- Of several pairs with one name the last is found. -/
theorem lookup_overlay (below above : Entries α) (key : String) :
    (overlay below above).lookup key = (above.reverse.lookup key).or (below.lookup key) := by
  induction above generalizing below with
  | nil => rfl
  | cons entry rest inductionHypothesis =>
      obtain ⟨name, value⟩ := entry
      have first : (put name value below).lookup key =
          (List.lookup key [(name, value)]).or (below.lookup key) := by
        rw [lookup_put, lookup_cons_eq]
        split <;> rfl
      have later := inductionHypothesis (put name value below)
      rw [first, ← Option.or_assoc, ← List.lookup_append] at later
      rw [List.reverse_cons]
      exact later

theorem lookup_ofPairs (pairs : List (String × α)) (key : String) :
    (ofPairs pairs).lookup key = pairs.reverse.lookup key := by
  rw [ofPairs, lookup_overlay, List.lookup_nil, Option.or_none]

/-! ## Order -/

/-- Whether the names ascend, so that none is bound twice. -/
def Ascending (entries : Entries α) : Prop :=
  (names entries).Pairwise (· < ·)

theorem ascending_nil : Ascending ([] : Entries α) :=
  List.Pairwise.nil

theorem ascending_single (name : String) (value : α) : Ascending [(name, value)] :=
  List.pairwise_singleton _ _

theorem mem_names_put {name key : String} {value : α} {entries : Entries α} :
    key ∈ names (put name value entries) ↔ key = name ∨ key ∈ names entries := by
  induction entries with
  | nil => simp [put, names]
  | cons entry rest inductionHypothesis =>
      obtain ⟨other, former⟩ := entry
      simp only [names, List.map_cons, List.mem_cons] at inductionHypothesis ⊢
      unfold put
      split
      next replaced =>
        subst replaced
        simp
      next =>
        split
        · simp
        · simp only [List.map_cons, List.mem_cons, inductionHypothesis]
          constructor
          · rintro (atOther | atName | below)
            · exact Or.inr (Or.inl atOther)
            · exact Or.inl atName
            · exact Or.inr (Or.inr below)
          · rintro (atName | atOther | below)
            · exact Or.inr (Or.inl atName)
            · exact Or.inl atOther
            · exact Or.inr (Or.inr below)

theorem ascending_put (name : String) (value : α) {entries : Entries α}
    (ascending : entries.Ascending) : (put name value entries).Ascending := by
  induction entries with
  | nil => simp [put, Ascending, names]
  | cons entry rest inductionHypothesis =>
      obtain ⟨other, former⟩ := entry
      have parts : (∀ key ∈ names rest, other < key) ∧ Ascending rest :=
        List.pairwise_cons.1 ascending
      obtain ⟨least, restAscending⟩ := parts
      unfold put
      split
      next replaced =>
        subst replaced
        exact List.pairwise_cons.2 ⟨least, restAscending⟩
      next different =>
        split
        next below =>
          refine List.pairwise_cons.2 ⟨?_, ascending⟩
          intro key member
          rcases List.mem_cons.1 member with rfl | later
          · exact below
          · exact String.lt_trans below (least key later)
        next notBelow =>
          have above : other < name :=
            Std.lt_of_le_of_ne (String.not_lt.1 notBelow) (Ne.symm different)
          refine List.pairwise_cons.2 ⟨?_, inductionHypothesis restAscending⟩
          intro key member
          rcases mem_names_put.1 member with rfl | later
          · exact above
          · exact least key later

theorem ascending_overlay {below : Entries α} (above : Entries α)
    (ascending : below.Ascending) : (overlay below above).Ascending := by
  induction above generalizing below with
  | nil => exact ascending
  | cons entry rest inductionHypothesis =>
      obtain ⟨name, value⟩ := entry
      exact inductionHypothesis (ascending_put name value ascending)

/-- The map of any list of pairs is in order. -/
theorem ascending_ofPairs (pairs : List (String × α)) : (ofPairs pairs).Ascending :=
  ascending_overlay pairs ascending_nil

/-- A name behind all others goes to the end. -/
theorem put_of_greatest {name : String} {entries : Entries α}
    (greatest : ∀ key ∈ names entries, key < name) (value : α) :
    put name value entries = entries ++ [(name, value)] := by
  induction entries with
  | nil => rfl
  | cons entry rest inductionHypothesis =>
      obtain ⟨other, former⟩ := entry
      obtain ⟨below, later⟩ := List.forall_mem_cons.1 greatest
      have different : ¬ name = other := fun same => String.lt_irrefl other (same ▸ below)
      have notBelow : ¬ name < other := fun above =>
        String.lt_irrefl other (String.lt_trans below above)
      rw [put, if_neg different, if_neg notBelow, inductionHypothesis later]
      rfl

theorem overlay_of_ascending {below above : Entries α} (ascending : (below ++ above).Ascending) :
    overlay below above = below ++ above := by
  induction above generalizing below with
  | nil => exact (List.append_nil below).symm
  | cons entry rest inductionHypothesis =>
      obtain ⟨name, value⟩ := entry
      have greatest : ∀ key ∈ names below, key < name := by
        intro key member
        have ordered := ascending
        rw [Ascending, names, List.map_append, List.pairwise_append] at ordered
        exact ordered.2.2 key member name (.head _)
      have grown : (below ++ [(name, value)]) ++ rest = below ++ (name, value) :: rest := by simp
      have later := inductionHypothesis (grown ▸ ascending)
      rw [grown, ← put_of_greatest greatest value] at later
      exact later

/-- Pairs in order are their own map. -/
theorem ofPairs_of_ascending {pairs : Entries α} (ascending : pairs.Ascending) :
    ofPairs pairs = pairs :=
  overlay_of_ascending ascending

/-- A map put over another hides what the other binds. -/
theorem lookup_overlay_of_ascending (below : Entries α) {above : Entries α}
    (ascending : above.Ascending) (key : String) :
    (overlay below above).lookup key = (above.lookup key).or (below.lookup key) := by
  rw [lookup_overlay, ← lookup_ofPairs, ofPairs_of_ascending ascending]

/-! ## Extensionality -/

theorem lookup_of_least {key : String} {entries : Entries α}
    (least : ∀ name ∈ names entries, key < name) : entries.lookup key = none := by
  induction entries with
  | nil => rfl
  | cons entry rest inductionHypothesis =>
      obtain ⟨name, value⟩ := entry
      obtain ⟨below, later⟩ := List.forall_mem_cons.1 least
      have different : key ≠ name := fun same => String.lt_irrefl name (same ▸ below)
      rw [lookup_cons_eq, if_neg different]
      exact inductionHypothesis later

/-- The first of two maps in order does not begin behind the other. -/
theorem not_lt_of_lookup {name other : String} {value : α} {rest entries : Entries α}
    (ascending : Ascending ((other, value) :: rest))
    (same : ∀ key, entries.lookup key = List.lookup key ((other, value) :: rest))
    (bound : (entries.lookup name).isSome = true) : ¬ name < other := by
  intro below
  have least : ∀ key ∈ names ((other, value) :: rest), name < key :=
    List.forall_mem_cons.2 ⟨below, fun key member =>
      String.lt_trans below ((List.pairwise_cons.1 ascending).1 key member)⟩
  rw [same, lookup_of_least least] at bound
  cases bound

theorem eq_of_lookup {left right : Entries α} (leftAscending : left.Ascending)
    (rightAscending : right.Ascending) (same : ∀ key, left.lookup key = right.lookup key) :
    left = right := by
  induction left generalizing right with
  | nil =>
      cases right with
      | nil => rfl
      | cons entry rest =>
          have found := same entry.1
          rw [lookup_cons_eq, if_pos rfl] at found
          cases found
  | cons entry rest inductionHypothesis =>
      obtain ⟨name, value⟩ := entry
      cases right with
      | nil => simpa [lookup_cons_eq] using same name
      | cons otherEntry otherRest =>
          obtain ⟨other, otherValue⟩ := otherEntry
          have notBelow : ¬ name < other :=
            not_lt_of_lookup rightAscending same (by simp)
          have notAbove : ¬ other < name :=
            not_lt_of_lookup leftAscending (fun key => (same key).symm) (by simp)
          have sameName : name = other :=
            String.le_antisymm (String.not_lt.1 notAbove) (String.not_lt.1 notBelow)
          subst sameName
          have sameValue : value = otherValue := by
            simpa [lookup_cons_eq] using same name
          subst sameValue
          obtain ⟨least, restAscending⟩ := List.pairwise_cons.1 leftAscending
          obtain ⟨otherLeast, otherAscending⟩ := List.pairwise_cons.1 rightAscending
          have sameRest (key : String) : rest.lookup key = otherRest.lookup key := by
            by_cases first : key = name
            · subst first
              rw [lookup_of_least least, lookup_of_least otherLeast]
            · simpa [lookup_cons_eq, first] using same key
          rw [inductionHypothesis restAscending otherAscending sameRest]

end Entries

end ViewTemplate
