/-!
Search and replacement in text, read as a list of characters. Main statements: `stripInitial?` and
`breakOn?` lose nothing (`stripInitial?_eq_some_iff`, `breakOn?_append`), and what is left behind a
non-empty pattern is shorter than the text, so a scan that goes on behind the pattern ends.
-/

namespace ViewTemplate.Text

/-! ## Initial segments -/

/-- What follows `pattern` when `text` begins with it. -/
def stripInitial? : (pattern text : List Char) → Option (List Char)
  | [], text => some text
  | _ :: _, [] => none
  | expected :: pattern, character :: text =>
      if expected = character then stripInitial? pattern text else none

theorem stripInitial?_append (pattern rest : List Char) :
    stripInitial? pattern (pattern ++ rest) = some rest := by
  induction pattern with
  | nil => rfl
  | cons expected pattern inductionHypothesis =>
      simp [stripInitial?, inductionHypothesis]

theorem stripInitial?_eq_some_iff {pattern text rest : List Char} :
    stripInitial? pattern text = some rest ↔ text = pattern ++ rest := by
  constructor
  · intro stripped
    induction pattern generalizing text with
    | nil => simpa [stripInitial?] using stripped
    | cons expected pattern inductionHypothesis =>
        cases text with
        | nil => simp [stripInitial?] at stripped
        | cons character text =>
            by_cases same : expected = character
            · simp only [stripInitial?, same, if_true] at stripped
              simp [same, inductionHypothesis stripped]
            · simp [stripInitial?, same] at stripped
  · rintro rfl
    exact stripInitial?_append pattern rest

/-! ## First occurrence -/

/-- The text before and the text after the first occurrence of `pattern`. -/
def breakOn? (pattern text : List Char) : Option (List Char × List Char) :=
  match stripInitial? pattern text with
  | some rest => some ([], rest)
  | none =>
      match text with
      | [] => none
      | character :: text =>
          (breakOn? pattern text).map fun (before, after) => (character :: before, after)

theorem breakOn?_append {pattern text before after : List Char}
    (found : breakOn? pattern text = some (before, after)) :
    text = before ++ pattern ++ after := by
  induction text generalizing before with
  | nil =>
      unfold breakOn? at found
      split at found
      next rest stripped =>
        simp only [Option.some.injEq, Prod.mk.injEq] at found
        obtain ⟨rfl, rfl⟩ := found
        simpa using stripInitial?_eq_some_iff.1 stripped
      next => simp at found
  | cons character text inductionHypothesis =>
      unfold breakOn? at found
      split at found
      next rest stripped =>
        simp only [Option.some.injEq, Prod.mk.injEq] at found
        obtain ⟨rfl, rfl⟩ := found
        simpa using stripInitial?_eq_some_iff.1 stripped
      next =>
        simp only [Option.map_eq_some_iff, Prod.mk.injEq] at found
        obtain ⟨⟨shorterBefore, shorterAfter⟩, foundLater, rfl, rfl⟩ := found
        simp [inductionHypothesis foundLater]

/-- What follows a non-empty pattern is shorter than the whole. -/
theorem length_lt_of_breakOn? {first : Char} {pattern text before after : List Char}
    (found : breakOn? (first :: pattern) text = some (before, after)) :
    after.length < text.length := by
  rw [breakOn?_append found]
  simp only [List.length_append, List.length_cons]
  omega

/-! ## Replacement -/

/-- Replaces the occurrences of the pattern `first :: pattern` from left to right; a replaced
occurrence is not looked at again. -/
def replaceAll (first : Char) (pattern replacement text : List Char) : List Char :=
  match _found : breakOn? (first :: pattern) text with
  | none => text
  | some (before, after) =>
      before ++ replacement ++ replaceAll first pattern replacement after
termination_by text.length
decreasing_by exact length_lt_of_breakOn? _found

/-- Replaces the occurrences of a pattern in a string. The empty pattern occurs nowhere. -/
def replace (pattern replacement text : String) : String :=
  match pattern.toList with
  | [] => text
  | first :: pattern =>
      String.ofList (replaceAll first pattern replacement.toList text.toList)

/-! ## Runs of characters -/

/-- Removes the characters satisfying `drop` from both ends. -/
def trimBy (drop : Char → Bool) (text : List Char) : List Char :=
  ((text.dropWhile drop).reverse.dropWhile drop).reverse

/-! ## Byte offsets -/

/-- The number of bytes of the UTF-8 form. -/
def byteLength : List Char → Nat
  | [] => 0
  | character :: text => character.utf8Size + byteLength text

theorem byteLength_append (left right : List Char) :
    byteLength (left ++ right) = byteLength left + byteLength right := by
  induction left with
  | nil => simp [byteLength]
  | cons character left inductionHypothesis =>
      simp only [List.cons_append, byteLength, inductionHypothesis]
      omega

/-- Splits the text at a byte offset; an offset inside a character counts as one behind it. -/
def splitAtByte : Nat → List Char → List Char × List Char
  | _, [] => ([], [])
  | offset, character :: text =>
      if offset = 0 then ([], character :: text)
      else
        let (before, after) := splitAtByte (offset - character.utf8Size) text
        (character :: before, after)

def byteSlice (start stop : Nat) (text : List Char) : List Char :=
  (splitAtByte (stop - start) (splitAtByte start text).2).1

/-! ## Lines -/

/-- The lines of a text, each closed by a line feed or by the end. A line feed at the very end
opens no further line, and the empty text has no line. -/
def lines : List Char → List (List Char)
  | [] => []
  | '\n' :: text => [] :: lines text
  | character :: text =>
      match lines text with
      | [] => [[character]]
      | line :: rest =>
          (character :: line) :: rest

end ViewTemplate.Text
