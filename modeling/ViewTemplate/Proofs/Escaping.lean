import ViewTemplate.Function.Builtin
import ViewTemplate.Text.Search

/-!
Text that is escaped for HTML. None of the characters that mean something in HTML is left in it,
apart from the ampersands that begin entities; and putting the characters back in the place of their
entities gives the text that was escaped, whatever that text contained (`escapesSafely_e`).
-/

namespace ViewTemplate.Builtin

open Text

/-! ## Entities -/

/-- The characters that mean something in HTML, each with the entity that stands for it. -/
def entities : List (Char × List Char) :=
  [('&', "&amp;".toList), ('<', "&lt;".toList), ('>', "&gt;".toList), ('"', "&quot;".toList),
    ('\'', "&#039;".toList)]

def IsSpecial (character : Char) : Prop :=
  character ∈ entities.map Prod.fst

instance (character : Char) : Decidable (IsSpecial character) :=
  inferInstanceAs (Decidable (character ∈ entities.map Prod.fst))

/-- The character of the entity that a text begins with, and the text behind the entity. -/
def entity? (text : List Char) : Option (Char × List Char) :=
  entities.findSome? fun (character, entity) =>
    (stripInitial? entity text).map fun rest => (character, rest)

theorem length_lt_of_entity? {character : Char} {text rest : List Char}
    (begins : entity? text = some (character, rest)) : rest.length < text.length := by
  obtain ⟨⟨other, entity⟩, member, stripped⟩ := List.exists_of_findSome?_eq_some begins
  obtain ⟨_, behind, same⟩ := Option.map_eq_some_iff.1 stripped
  obtain ⟨rfl, rfl⟩ := Prod.mk.inj same
  have nonempty : 0 < entity.length := by
    have all : ∀ pair ∈ entities, 0 < pair.2.length := by decide
    exact all _ member
  rw [stripInitial?_eq_some_iff.1 behind, List.length_append]
  omega

/-- The text with every entity replaced by its character, from left to right. What stands in the
place of an entity is not looked at again. -/
def decoded (text : List Char) : List Char :=
  match _begins : entity? text with
  | some (character, rest) => character :: decoded rest
  | none =>
      match text with
      | [] => []
      | character :: text => character :: decoded text
termination_by text.length
decreasing_by
  · exact length_lt_of_entity? _begins
  · exact Nat.lt_succ_self _

section Entities

variable {character : Char} {entity : List Char}

theorem exists_of_mem_entities (member : (character, entity) ∈ entities) :
    ∃ name, entity = '&' :: name ∧ ∀ other ∈ name, ¬ IsSpecial other := by
  have begins : ∀ pair ∈ entities, pair.2.head? = some '&' := by decide
  have plain : ∀ pair ∈ entities, ∀ other ∈ pair.2.tail, ¬ IsSpecial other := by
    simp [entities, IsSpecial]
  obtain ⟨name, rfl⟩ := List.head?_eq_some_iff.1 (begins _ member)
  exact ⟨name, rfl, plain _ member⟩

theorem entity?_append (member : (character, entity) ∈ entities) (rest : List Char) :
    entity? (entity ++ rest) = some (character, rest) := by
  simp only [entities, List.mem_cons, List.not_mem_nil, or_false, Prod.mk.injEq] at member
  rcases member with ⟨rfl, rfl⟩ | ⟨rfl, rfl⟩ | ⟨rfl, rfl⟩ | ⟨rfl, rfl⟩ | ⟨rfl, rfl⟩ <;> rfl

theorem entity?_cons_of_plain (plain : ¬ IsSpecial character) (rest : List Char) :
    entity? (character :: rest) = none := by
  apply List.findSome?_eq_none_iff.2
  rintro ⟨other, entity⟩ member
  obtain ⟨name, rfl, -⟩ := exists_of_mem_entities member
  have different : '&' ≠ character := by
    rintro rfl
    exact plain (by decide)
  simp only [stripInitial?, if_neg different, Option.map_none]

theorem decoded_entity_append (member : (character, entity) ∈ entities) (rest : List Char) :
    decoded (entity ++ rest) = character :: decoded rest := by
  have begins := entity?_append member rest
  rw [decoded]
  split
  next other behind found =>
    obtain ⟨rfl, rfl⟩ := Prod.mk.inj (Option.some.inj (begins.symm.trans found))
    rfl
  next nothing => cases begins.symm.trans nothing

theorem decoded_cons_of_plain (plain : ¬ IsSpecial character) (rest : List Char) :
    decoded (character :: rest) = character :: decoded rest := by
  have nothing := entity?_cons_of_plain plain rest
  rw [decoded]
  split
  next found => cases nothing.symm.trans found
  next => rfl

end Entities

/-! ## Escaping and decoding -/

theorem escapeCharacter_cases (character : Char) :
    (character, escapeCharacter character) ∈ entities ∨
      (¬ IsSpecial character ∧ escapeCharacter character = [character]) := by
  by_cases special : IsSpecial character
  · left
    have all : ∀ pair ∈ entities, (pair.1, escapeCharacter pair.1) ∈ entities := by decide
    obtain ⟨pair, member, rfl⟩ := List.mem_map.1 special
    exact all pair member
  · right
    refine ⟨special, ?_⟩
    unfold escapeCharacter
    split
    case h_6 => rfl
    all_goals exact absurd (by decide) special

theorem decoded_escapeCharacter_append (character : Char) (rest : List Char) :
    decoded (escapeCharacter character ++ rest) = character :: decoded rest := by
  rcases escapeCharacter_cases character with member | ⟨plain, same⟩
  · exact decoded_entity_append member rest
  · rw [same]
    exact decoded_cons_of_plain plain rest

theorem toList_escapeText (text : String) :
    (escapeText text).toList = text.toList.flatMap escapeCharacter := by
  rw [escapeText, String.toList_ofList]

/-- Decoding gives back what was escaped. -/
theorem decoded_escapeText (text : String) : decoded (escapeText text).toList = text.toList := by
  rw [toList_escapeText]
  induction text.toList with
  | nil =>
      rw [List.flatMap_nil, decoded]
      rfl
  | cons character rest inductionHypothesis =>
      rw [List.flatMap_cons, decoded_escapeCharacter_append, inductionHypothesis]

theorem escapeText_injective : Function.Injective escapeText := by
  intro first second same
  apply String.toList_inj.1
  rw [← decoded_escapeText first, same, decoded_escapeText second]

theorem escapeText_append (first second : String) :
    escapeText (first ++ second) = escapeText first ++ escapeText second := by
  apply String.toList_inj.1
  rw [String.toList_append]
  simp only [toList_escapeText, String.toList_append, List.flatMap_append]

/-! ## What is left in escaped text -/

/-- Nothing in a text has a meaning in HTML but the entities: every ampersand begins one. -/
structure IsEscaped (text : List Char) : Prop where
  plain : ∀ character ∈ ['<', '>', '"', '\''], character ∉ text
  ampersand : ∀ behind, '&' :: behind <:+ text →
    ∃ pair ∈ entities, pair.2 <+: '&' :: behind

section Escaped

variable {text : List Char}

theorem isEscaped_nil : IsEscaped [] where
  plain := by simp
  ampersand := by simp

theorem IsEscaped.cons {character : Char} (escaped : IsEscaped text)
    (plain : ¬ IsSpecial character) : IsEscaped (character :: text) where
  plain := by
    intro mark isMark member
    rcases List.mem_cons.1 member with rfl | later
    · exact plain (List.mem_cons_of_mem '&' isMark)
    · exact escaped.plain mark isMark later
  ampersand := by
    intro behind isSuffix
    rcases List.suffix_cons_iff.1 isSuffix with whole | later
    · obtain ⟨rfl, -⟩ := List.cons.inj whole
      exact absurd (by decide) plain
    · exact escaped.ampersand behind later

theorem IsEscaped.append_plain {name : List Char} (escaped : IsEscaped text)
    (plain : ∀ character ∈ name, ¬ IsSpecial character) : IsEscaped (name ++ text) := by
  induction name with
  | nil => exact escaped
  | cons character name inductionHypothesis =>
      obtain ⟨first, others⟩ := List.forall_mem_cons.1 plain
      exact (inductionHypothesis others).cons first

theorem IsEscaped.append_entity {character : Char} {entity : List Char}
    (escaped : IsEscaped text) (member : (character, entity) ∈ entities) :
    IsEscaped (entity ++ text) := by
  obtain ⟨name, rfl, plainName⟩ := exists_of_mem_entities member
  have later := escaped.append_plain plainName
  refine ⟨fun mark isMark inside => ?_, fun behind isSuffix => ?_⟩
  · rcases List.mem_cons.1 inside with rfl | inside
    · exact absurd isMark (by decide)
    · exact later.plain mark isMark inside
  · rcases List.suffix_cons_iff.1 isSuffix with whole | shorter
    · exact ⟨_, member, whole ▸ List.prefix_append _ _⟩
    · exact later.ampersand behind shorter

theorem isEscaped_escapeText (text : String) : IsEscaped (escapeText text).toList := by
  rw [toList_escapeText]
  induction text.toList with
  | nil => exact isEscaped_nil
  | cons character rest inductionHypothesis =>
      rw [List.flatMap_cons]
      rcases escapeCharacter_cases character with member | ⟨plain, same⟩
      · exact inductionHypothesis.append_entity member
      · rw [same]
        exact inductionHypothesis.cons plain

end Escaped

/-! ## The function -/

/-- What a function has to do to make texts safe to stand in HTML without losing anything. -/
structure EscapesSafely (function : HostFunction) : Prop where
  /-- The text of a value is escaped, and decoding gives the text again. -/
  escaped : ∀ value text, value.render = .ok text →
    ∃ result, function [value] = .ok (.string result) ∧
      IsEscaped result.toList ∧ decoded result.toList = text.toList
  injective : ∀ first second, function [.string first] = function [.string second] →
    first = second
  append : ∀ first second, ∃ escapedFirst escapedSecond,
    function [.string first] = .ok (.string escapedFirst) ∧
      function [.string second] = .ok (.string escapedSecond) ∧
      function [.string (first ++ second)] = .ok (.string (escapedFirst ++ escapedSecond))
  /-- Exactly the values without a text are refused. -/
  refused : ∀ value, (∃ fault, function [value] = .error fault) ↔
    value.kind = .list ∨ value.kind = .map

theorem escape_of_render {value : Value} {text : String} (rendered : value.render = .ok text) :
    escape [value] = .ok (.string (escapeText text)) := by
  change (value.render >>= fun text => Except.ok (Value.string (escapeText text))) = _
  rw [rendered]
  rfl

theorem escape_string (text : String) :
    escape [.string text] = .ok (.string (escapeText text)) :=
  escape_of_render rfl

theorem escape_eq_error_iff (value : Value) :
    (∃ fault, escape [value] = .error fault) ↔ value.kind = .list ∨ value.kind = .map := by
  cases value with
  | list items => exact ⟨fun _ => Or.inl rfl, fun _ => ⟨_, rfl⟩⟩
  | map entries => exact ⟨fun _ => Or.inr rfl, fun _ => ⟨_, rfl⟩⟩
  | none | bool | integer | float | string =>
      constructor
      · rintro ⟨fault, failed⟩
        cases failed
      · rintro (isList | isMap)
        · cases isList
        · cases isMap

/-- The builtin function `e` makes every text safe to stand in HTML and loses nothing of it. -/
theorem escapesSafely_e (now : Int64) :
    ∃ function, (all now).lookup "e" = some function ∧ EscapesSafely function := by
  refine ⟨escape, rfl, ?_⟩
  constructor
  case escaped =>
    intro value text rendered
    exact ⟨escapeText text, escape_of_render rendered, isEscaped_escapeText text,
      decoded_escapeText text⟩
  case injective =>
    intro first second same
    rw [escape_string, escape_string] at same
    exact escapeText_injective (Value.string.inj (Except.ok.inj same))
  case append =>
    intro first second
    refine ⟨_, _, escape_string first, escape_string second, ?_⟩
    rw [escape_string, escapeText_append]
  case refused => exact escape_eq_error_iff

end ViewTemplate.Builtin
