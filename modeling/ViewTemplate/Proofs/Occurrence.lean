import ViewTemplate.Text.Search

/-!
Occurrences of patterns. Breaking a text finds the first occurrence, and there is none to find
exactly if the pattern is nowhere in the text.
-/

namespace ViewTemplate.Text

theorem stripInitial?_eq_none_iff {pattern text : List Char} :
    stripInitial? pattern text = none ↔ ¬ pattern <+: text := by
  constructor
  · rintro none ⟨rest, rfl⟩
    rw [stripInitial?_append] at none
    cases none
  · intro absent
    cases stripped : stripInitial? pattern text with
    | none => rfl
    | some rest => exact absurd ⟨rest, (stripInitial?_eq_some_iff.1 stripped).symm⟩ absent

theorem breakOn?_cons_of_not_here {pattern text : List Char} {character : Char}
    (absent : ¬ pattern <+: character :: text) :
    breakOn? pattern (character :: text) =
      (breakOn? pattern text).map fun (before, after) => (character :: before, after) := by
  rw [breakOn?, stripInitial?_eq_none_iff.2 absent]

theorem breakOn?_self_append (pattern rest : List Char) :
    breakOn? pattern (pattern ++ rest) = some ([], rest) := by
  unfold breakOn?
  rw [stripInitial?_append]

theorem breakOn?_eq_none_of_not_infix {pattern text : List Char} (absent : ¬ pattern <:+: text) :
    breakOn? pattern text = none := by
  cases found : breakOn? pattern text with
  | none => rfl
  | some parts =>
      obtain ⟨before, after⟩ := parts
      exact absurd ⟨before, after, (breakOn?_append found).symm⟩ absent

theorem not_infix_of_breakOn?_eq_none {pattern text : List Char}
    (none : breakOn? pattern text = none) : ¬ pattern <:+: text := by
  induction text with
  | nil =>
      intro inside
      rw [List.infix_nil] at inside
      rw [inside] at none
      cases none
  | cons character text inductionHypothesis =>
      have absent : ¬ pattern <+: character :: text := by
        rintro ⟨rest, same⟩
        rw [← same, breakOn?_self_append] at none
        cases none
      rw [breakOn?_cons_of_not_here absent, Option.map_eq_none_iff] at none
      exact fun inside => (List.infix_cons_iff.1 inside).elim absent (inductionHypothesis none)

/-- The pattern is not found in front of its first occurrence. -/
theorem not_infix_of_breakOn? {first : Char} {pattern text before after : List Char}
    (found : breakOn? (first :: pattern) text = some (before, after)) :
    ¬ first :: pattern <:+: before := by
  induction text generalizing before with
  | nil => cases found
  | cons character text inductionHypothesis =>
      unfold breakOn? at found
      split at found
      next =>
        cases found
        exact fun inside => List.cons_ne_nil _ _ (List.infix_nil.1 inside)
      next notHere =>
        obtain ⟨⟨shorter, rest⟩, foundLater, same⟩ := Option.map_eq_some_iff.1 found
        obtain ⟨rfl, rfl⟩ := Prod.mk.inj same
        intro inside
        rcases List.infix_cons_iff.1 inside with here | later
        · have whole : character :: shorter <+: character :: text :=
            ⟨first :: pattern ++ rest, by simp [breakOn?_append foundLater]⟩
          exact stripInitial?_eq_none_iff.1 notHere (here.trans whole)
        · exact inductionHypothesis foundLater later

/-- A pattern of two different characters is first found behind a text without it. -/
theorem breakOn?_pair {first second : Char} (different : first ≠ second) {before : List Char}
    (absent : ¬ [first, second] <:+: before) (after : List Char) :
    breakOn? [first, second] (before ++ first :: second :: after) = some (before, after) := by
  induction before with
  | nil => exact breakOn?_self_append [first, second] after
  | cons character before inductionHypothesis =>
      have later := inductionHypothesis fun inside => absent (List.infix_cons inside)
      have notHere : ¬ [first, second] <+: character :: (before ++ first :: second :: after) := by
        intro here
        obtain ⟨same, next⟩ := List.cons_prefix_cons.1 here
        cases before with
        | nil => exact different (List.cons_prefix_cons.1 next).1.symm
        | cons other before =>
            obtain ⟨sameNext, _⟩ := List.cons_prefix_cons.1 next
            exact absurd ⟨[], before, by rw [same, sameNext]; rfl⟩ absent
      rw [List.cons_append, breakOn?_cons_of_not_here notHere, later]
      rfl

end ViewTemplate.Text
