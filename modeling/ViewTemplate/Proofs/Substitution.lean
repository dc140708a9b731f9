import ViewTemplate.Proofs.Occurrence

/-!
Substitution for a mark. In texts that contain the first character of a mark only as part of the
mark, replacing the mark is substitution, and substituting one after the other is substituting what
the later one makes of the earlier one (`replaceAll_replaceAll`).
-/

namespace ViewTemplate.Text

variable {first : Char} {pattern : List Char}

/-- A text in which the first character of a mark always begins the mark. -/
inductive Marked (first : Char) (pattern : List Char) : List Char → Prop
  | plain {text : List Char} (absent : first ∉ text) : Marked first pattern text
  | mark {before after : List Char} (absent : first ∉ before) (later : Marked first pattern after) :
      Marked first pattern (before ++ (first :: pattern ++ after))

theorem Marked.of_forall {text : List Char}
    (begins : ∀ before after, text = before ++ first :: after → pattern <+: after) :
    Marked first pattern text := by
  by_cases absent : first ∈ text
  · obtain ⟨before, after, rfl, absentBefore⟩ := List.eq_append_cons_of_mem absent
    obtain ⟨rest, rfl⟩ := begins before after rfl
    refine .mark absentBefore (.of_forall fun others later same => ?_)
    refine begins (before ++ first :: pattern ++ others) later ?_
    rw [same]
    simp
  · exact .plain absent
termination_by text.length

/-! ## Replacement -/

theorem breakOn?_append_of_not_mem {before : List Char} (absent : first ∉ before)
    (rest : List Char) :
    breakOn? (first :: pattern) (before ++ rest) =
      (breakOn? (first :: pattern) rest).map fun (skipped, after) =>
        (before ++ skipped, after) := by
  induction before with
  | nil =>
      rw [List.nil_append]
      cases breakOn? (first :: pattern) rest <;> rfl
  | cons character before inductionHypothesis =>
      obtain ⟨other, later⟩ := List.ne_and_not_mem_of_not_mem_cons absent
      have notHere : ¬ first :: pattern <+: character :: (before ++ rest) := fun here =>
        other (List.cons_prefix_cons.1 here).1
      rw [List.cons_append, breakOn?_cons_of_not_here notHere, inductionHypothesis later,
        Option.map_map]
      rfl

variable (replacement : List Char)

theorem replaceAll_eq (text : List Char) :
    replaceAll first pattern replacement text =
      (breakOn? (first :: pattern) text).elim text fun parts =>
        parts.1 ++ replacement ++ replaceAll first pattern replacement parts.2 := by
  rw [replaceAll]
  split
  next missing =>
    rw [missing]
    rfl
  next before after found =>
    rw [found]
    rfl

theorem replaceAll_append_of_not_mem {before : List Char} (absent : first ∉ before)
    (rest : List Char) :
    replaceAll first pattern replacement (before ++ rest) =
      before ++ replaceAll first pattern replacement rest := by
  rw [replaceAll_eq, replaceAll_eq replacement rest, breakOn?_append_of_not_mem absent]
  cases breakOn? (first :: pattern) rest with
  | none => rfl
  | some parts => simp

theorem replaceAll_of_not_mem {text : List Char} (absent : first ∉ text) :
    replaceAll first pattern replacement text = text := by
  have nothing : replaceAll first pattern replacement [] = [] := by
    rw [replaceAll_eq]
    rfl
  have same : replaceAll first pattern replacement (text ++ []) =
      text ++ replaceAll first pattern replacement [] :=
    replaceAll_append_of_not_mem replacement absent []
  rwa [nothing, List.append_nil] at same

theorem replaceAll_mark {before : List Char} (absent : first ∉ before) (after : List Char) :
    replaceAll first pattern replacement (before ++ (first :: pattern ++ after)) =
      before ++ (replacement ++ replaceAll first pattern replacement after) := by
  rw [replaceAll_append_of_not_mem replacement absent, replaceAll_eq, breakOn?_self_append]
  rfl

namespace Marked

variable {replacement} {text : List Char} (marked : Marked first pattern text)

include marked

theorem replaceAll_append (rest : List Char) :
    replaceAll first pattern replacement (text ++ rest) =
      replaceAll first pattern replacement text ++ replaceAll first pattern replacement rest := by
  induction marked with
  | plain absent =>
      rw [replaceAll_append_of_not_mem replacement absent, replaceAll_of_not_mem replacement absent]
  | mark absent later inductionHypothesis =>
      rw [List.append_assoc, List.append_assoc, replaceAll_mark replacement absent,
        replaceAll_mark replacement absent, inductionHypothesis, List.append_assoc,
        List.append_assoc]

theorem append {rest : List Char} (markedRest : Marked first pattern rest) :
    Marked first pattern (text ++ rest) := by
  induction marked with
  | plain absent =>
      cases markedRest with
      | plain absentRest =>
          exact .plain fun member => (List.mem_append.1 member).elim absent absentRest
      | mark absentBefore later =>
          rw [← List.append_assoc]
          exact .mark (fun member => (List.mem_append.1 member).elim absent absentBefore) later
  | mark absent later inductionHypothesis =>
      rw [List.append_assoc, List.append_assoc]
      exact .mark absent inductionHypothesis

/-- Substituting a text with marks of its own leaves a text with marks. -/
theorem replaceAll (markedReplacement : Marked first pattern replacement) :
    Marked first pattern (replaceAll first pattern replacement text) := by
  induction marked with
  | plain absent =>
      rw [replaceAll_of_not_mem replacement absent]
      exact .plain absent
  | mark absent later inductionHypothesis =>
      rw [replaceAll_mark replacement absent]
      exact (Marked.plain absent).append (markedReplacement.append inductionHypothesis)

/-- Substitution is associative. -/
theorem replaceAll_replaceAll (markedReplacement : Marked first pattern replacement)
    (last : List Char) :
    Text.replaceAll first pattern last (Text.replaceAll first pattern replacement text) =
      Text.replaceAll first pattern (Text.replaceAll first pattern last replacement) text := by
  induction marked with
  | plain absent =>
      rw [replaceAll_of_not_mem replacement absent, replaceAll_of_not_mem last absent,
        replaceAll_of_not_mem _ absent]
  | mark absent later inductionHypothesis =>
      rw [replaceAll_mark replacement absent, replaceAll_mark _ absent,
        replaceAll_append_of_not_mem last absent, markedReplacement.replaceAll_append,
        inductionHypothesis]

end Marked

end ViewTemplate.Text
