import Mathlib.Data.List.Induction
import ViewTemplate.Error
import ViewTemplate.Proofs.Traced

/-!
Histories of sections. What sections hold is told by the operations that were done to them, without
looking at the sections: which captures are open, the texts in them, and what each section was given
(`agreesWithHistory_after`).
-/

namespace ViewTemplate

/-- What can be done to sections. -/
inductive SectionOperation where
  | start (name : String)
  /-- Adds text to the innermost capture, if one is open. -/
  | write (text : String)
  | close (closing : Closing)
  | extend (name content : String)
  | startWith (name content : String)
  | inject (name content : String)
  deriving DecidableEq

namespace Sections

/-- What an operation answers, and the sections that it leaves. Only a closing answers anything. -/
def perform (sections : Sections) :
    SectionOperation → Except Cause (Option String) × Sections
  | .start name => (.ok none, sections.start name)
  | .write text => (.ok none, (sections.write? text).getD sections)
  | .close closing =>
      match sections.close? closing with
      | some (answer, closed) => (.ok (some answer), closed)
      | none => (.error .sectionUnderflow, sections)
  | .extend name content | .startWith name content | .inject name content =>
      (.ok none, sections.extend name content)

/-- The sections after a history that begins with empty ones. -/
def after (history : List SectionOperation) : Sections :=
  history.foldl (fun sections operation => (sections.perform operation).2) empty

/-- The content of a section, if it has any, after one more content is given to it. -/
def merge (existing : Option String) (content : String) : Option String :=
  some ((existing.map (Text.replace parentMark content)).getD content)

end Sections

namespace SectionOperation

/-! ## What a history tells -/

/-- How many of the captures that are open in front of them operations close. A start takes the
next closing behind it for itself. -/
def closedBefore : List SectionOperation → Nat
  | [] => 0
  | .start _ :: later => closedBefore later - 1
  | .close _ :: later => closedBefore later + 1
  | .write _ :: later | .extend _ _ :: later | .startWith _ _ :: later | .inject _ _ :: later =>
      closedBefore later

/-- The starts whose captures nothing closed since, in the order of opening, each with the
operations behind it. -/
def unmatched : List SectionOperation → List (String × List SectionOperation)
  | [] => []
  | .start name :: later =>
      if closedBefore later = 0 then (name, later) :: unmatched later else unmatched later
  | .close _ :: later | .write _ :: later | .extend _ _ :: later | .startWith _ _ :: later
  | .inject _ _ :: later => unmatched later

/-- The texts that are written while no capture is open that was started on the way. `nested` is the
number of such captures that are open to begin with. -/
def ownText : (nested : Nat) → List SectionOperation → String
  | _, [] => ""
  | nested, .start _ :: later => ownText (nested + 1) later
  | nested, .close _ :: later => ownText (nested - 1) later
  | nested, .write text :: later =>
      (if nested = 0 then text else "") ++ ownText nested later
  | nested, .extend _ _ :: later | nested, .startWith _ _ :: later
  | nested, .inject _ _ :: later => ownText nested later

/-- The capture of a start that nothing closed since. -/
def captureOf (opened : String × List SectionOperation) : Capture :=
  ⟨opened.1, ownText 0 opened.2⟩

/-- The section to which an operation gives content, and that content, when others went before. -/
def finalizedBy (past : List SectionOperation) : SectionOperation → Option (String × String)
  | .extend name content | .startWith name content | .inject name content => some (name, content)
  | .close _ => (unmatched past).getLast?.map fun opened => (opened.1, ownText 0 opened.2)
  | .start _ | .write _ => none

/-- The contents that operations give, in order, when others went before. -/
def finalizedAfter (past : List SectionOperation) :
    List SectionOperation → List (String × String)
  | [] => []
  | operation :: later =>
      (finalizedBy past operation).toList ++ finalizedAfter (past ++ [operation]) later

/-- The contents that a history gives to one section, in order. -/
def contentsOf (name : String) (history : List SectionOperation) : List String :=
  (finalizedAfter [] history).filterMap fun (other, content) =>
    if other = name then some content else none

/-! ## One operation more -/

section Concat

variable (history : List SectionOperation) (closing : Closing)

theorem closedBefore_append_close :
    closedBefore (history ++ [.close closing]) =
      if unmatched history = [] then closedBefore history + 1 else closedBefore history := by
  induction history with
  | nil => rfl
  | cons operation later inductionHypothesis =>
      cases operation with
      | start name =>
          rw [List.cons_append, closedBefore, inductionHypothesis, closedBefore, unmatched]
          by_cases stays : closedBefore later = 0
          · rw [if_pos stays, if_neg (List.cons_ne_nil _ _), stays]
            split <;> rfl
          · rw [if_neg stays]
            split <;> omega
      | close other =>
          rw [List.cons_append, closedBefore, inductionHypothesis, closedBefore, unmatched]
          split <;> rfl
      | _ => exact inductionHypothesis

/-- A closing belongs to the last start that is not matched. -/
theorem unmatched_append_close :
    unmatched (history ++ [.close closing]) =
      (unmatched history).dropLast.map fun opened => (opened.1, opened.2 ++ [.close closing]) := by
  induction history with
  | nil => rfl
  | cons operation later inductionHypothesis =>
      cases operation with
      | start name =>
          rw [List.cons_append, unmatched, unmatched, closedBefore_append_close,
            inductionHypothesis]
          by_cases stays : closedBefore later = 0
          · rw [if_pos stays]
            by_cases innermost : unmatched later = []
            · rw [if_pos innermost, if_neg (Nat.succ_ne_zero _), innermost]
              rfl
            · rw [if_neg innermost, if_pos stays, List.dropLast_cons_of_ne_nil innermost,
                List.map_cons]
          · rw [if_neg stays]
            have goes : ¬ (if unmatched later = [] then closedBefore later + 1
                else closedBefore later) = 0 := by
              split <;> omega
            rw [if_neg goes]
      | _ => exact inductionHypothesis

variable {operation : SectionOperation} (stays : ∀ closing, operation ≠ .close closing)

include stays

theorem closedBefore_append : closedBefore (history ++ [operation]) = closedBefore history := by
  induction history with
  | nil =>
      cases operation with
      | close closing => exact absurd rfl (stays closing)
      | _ => rfl
  | cons first later inductionHypothesis =>
      cases first <;> simp only [List.cons_append, closedBefore, inductionHypothesis]

/-- An operation that closes nothing stands behind every start that is not matched. -/
theorem unmatched_append :
    unmatched (history ++ [operation]) =
      ((unmatched history).map fun opened => (opened.1, opened.2 ++ [operation])) ++
        unmatched [operation] := by
  induction history with
  | nil => rfl
  | cons first later inductionHypothesis =>
      cases first with
      | start name =>
          rw [List.cons_append, unmatched, unmatched, closedBefore_append later stays,
            inductionHypothesis]
          split <;> rfl
      | _ => exact inductionHypothesis

end Concat

/-- Text is written to a capture itself unless another one was started in it and is open. -/
theorem ownText_append {nested : Nat} {later : List SectionOperation}
    (inside : closedBefore later ≤ nested) (operation : SectionOperation) :
    ownText nested (later ++ [operation]) =
      ownText nested later ++
        if nested - closedBefore later = 0 ∧ unmatched later = [] then ownText 0 [operation]
        else "" := by
  induction later generalizing nested with
  | nil =>
      cases operation with
      | write text => simp [ownText, closedBefore, unmatched]
      | _ => simp [ownText]
  | cons first later inductionHypothesis =>
      cases first with
      | start name =>
          simp only [closedBefore] at inside
          rw [List.cons_append, ownText, ownText, inductionHypothesis (by omega), closedBefore,
            unmatched]
          congr 1
          by_cases stays : closedBefore later = 0
          · rw [if_pos stays, stays]
            simp
          · rw [if_neg stays]
            have level : nested + 1 - closedBefore later = nested - (closedBefore later - 1) := by
              omega
            rw [level]
      | close closing =>
          simp only [closedBefore] at inside
          have level : nested - 1 - closedBefore later = nested - (closedBefore later + 1) := by
            omega
          rw [List.cons_append, ownText, ownText, inductionHypothesis (Nat.le_sub_of_add_le inside),
            closedBefore, unmatched, level]
      | write text =>
          rw [List.cons_append, ownText, ownText, inductionHypothesis inside, closedBefore,
            unmatched, String.append_assoc]
      | _ => exact inductionHypothesis inside

/-- Behind an unmatched start the unmatched ones are those listed after it, and nothing closes what
was open in front of it. -/
theorem of_unmatched_eq {history : List SectionOperation}
    {earlier rest : List (String × List SectionOperation)} {opened : String × List SectionOperation}
    (parts : unmatched history = earlier ++ opened :: rest) :
    closedBefore opened.2 = 0 ∧ unmatched opened.2 = rest := by
  induction history generalizing earlier with
  | nil => simp [unmatched] at parts
  | cons first later inductionHypothesis =>
      cases first with
      | start name =>
          rw [unmatched] at parts
          split at parts
          next stays =>
            cases earlier with
            | nil =>
                obtain ⟨rfl, rfl⟩ := List.cons.inj parts
                exact ⟨stays, rfl⟩
            | cons _ earlier => exact inductionHypothesis (List.cons.inj parts).2
          next => exact inductionHypothesis parts
      | _ => exact inductionHypothesis parts

/-- What stands behind an unmatched start is written to its capture if that is the last such start,
and else to none of its. -/
theorem captureOf_append {history : List SectionOperation}
    {earlier rest : List (String × List SectionOperation)} {opened : String × List SectionOperation}
    (parts : unmatched history = earlier ++ opened :: rest) (operation : SectionOperation) :
    captureOf (opened.1, opened.2 ++ [operation]) =
      ⟨opened.1, ownText 0 opened.2 ++ if rest = [] then ownText 0 [operation] else ""⟩ := by
  obtain ⟨closes, nested⟩ := of_unmatched_eq parts
  rw [captureOf, ownText_append (Nat.le_of_eq closes), nested, closes]
  simp only [Nat.sub_zero, true_and]

theorem captureOf_append_of_quiet {history : List SectionOperation}
    {opened : String × List SectionOperation} (member : opened ∈ unmatched history)
    {operation : SectionOperation} (quiet : ownText 0 [operation] = "") :
    captureOf (opened.1, opened.2 ++ [operation]) = captureOf opened := by
  obtain ⟨earlier, rest, parts⟩ := List.append_of_mem member
  rw [captureOf_append parts, quiet, ite_self, String.append_empty, captureOf]

/-- An operation that neither opens a capture nor writes to one. -/
theorem map_captureOf_append {history : List SectionOperation} {operation : SectionOperation}
    (stays : ∀ closing, operation ≠ .close closing) (quiet : ownText 0 [operation] = "") :
    (unmatched (history ++ [operation])).map captureOf =
      (unmatched history).map captureOf ++ (unmatched [operation]).map captureOf := by
  rw [unmatched_append history stays, List.map_append, List.map_map]
  congr 1
  exact List.map_congr_left fun opened member => captureOf_append_of_quiet member quiet

theorem map_captureOf_append_close (history : List SectionOperation) (closing : Closing) :
    (unmatched (history ++ [.close closing])).map captureOf =
      (unmatched history).dropLast.map captureOf := by
  rw [unmatched_append_close, List.map_map]
  exact List.map_congr_left fun opened member =>
    captureOf_append_of_quiet (List.dropLast_subset _ member) rfl

/-- A text is written to the last capture that is open. -/
theorem map_captureOf_append_write {history : List SectionOperation}
    {earlier : List (String × List SectionOperation)} {last : String × List SectionOperation}
    (parts : unmatched history = earlier ++ [last]) (text : String) :
    (unmatched (history ++ [.write text])).map captureOf =
      earlier.map captureOf ++ [⟨last.1, ownText 0 last.2 ++ text⟩] := by
  have others : earlier.map (captureOf ∘ fun opened => (opened.1, opened.2 ++ [.write text])) =
      earlier.map captureOf := by
    refine List.map_congr_left fun opened member => ?_
    obtain ⟨before, between, split⟩ := List.append_of_mem member
    have inside : unmatched history = before ++ opened :: (between ++ [last]) := by
      rw [parts, split, List.append_assoc, List.cons_append]
    rw [Function.comp_apply, captureOf_append inside, if_neg (by simp), String.append_empty,
      captureOf]
  have innermost := captureOf_append parts (.write text)
  rw [unmatched_append history (by simp), parts, List.map_append, List.map_map, List.map_append,
    others, List.map_singleton, Function.comp_apply, innermost]
  simp [unmatched, ownText]

end SectionOperation

open SectionOperation

namespace Sections

/-! ## Closings -/

/-- What a closing tells of a section, when it has closed a capture for that. -/
def answerTo (closing : Closing) (name : String) (closed : Sections) : String :=
  match closing with
  | .stop => name
  | .yield => closed.content name

theorem perform_close {sections : Sections} {capture : Capture} {outer : List Capture}
    (opened : sections.captures = capture :: outer) (closing : Closing) :
    sections.perform (.close closing) =
      let closed := { sections with captures := outer }.extend capture.name capture.text
      (.ok (some (answerTo closing capture.name closed)), closed) := by
  cases closing with
  | stop => simp only [perform, close?, stop?, opened, answerTo]
  | yield => simp only [perform, close?, yieldSection?, stop?, opened, Option.map_some, answerTo]

theorem perform_close_of_nil {sections : Sections} (none : sections.captures = [])
    (closing : Closing) :
    sections.perform (.close closing) = (.error .sectionUnderflow, sections) := by
  cases closing with
  | stop => simp only [perform, close?, stop?, none]
  | yield => simp only [perform, close?, yieldSection?, stop?, none, Option.map_none]

/-! ## Captures -/

theorem after_append (history : List SectionOperation) (operation : SectionOperation) :
    after (history ++ [operation]) = ((after history).perform operation).2 := by
  rw [after, List.foldl_append]
  rfl

theorem captures_after (history : List SectionOperation) :
    (after history).captures = ((unmatched history).map captureOf).reverse := by
  induction history using List.reverseRecOn with
  | nil => rfl
  | append_singleton history operation inductionHypothesis =>
      rw [after_append]
      cases operation with
      | start name =>
          rw [map_captureOf_append (by simp) rfl, List.reverse_append, ← inductionHypothesis]
          rfl
      | write text =>
          rw [perform, write?, inductionHypothesis]
          rcases List.eq_nil_or_concat (unmatched history) with none | ⟨earlier, last, parts⟩
          · rw [unmatched_append history (by simp), none]
            simpa [unmatched, none] using inductionHypothesis
          · rw [List.concat_eq_append] at parts
            rw [map_captureOf_append_write parts, parts]
            simp [captureOf]
      | close closing =>
          rw [map_captureOf_append_close, List.map_dropLast, ← List.tail_reverse,
            ← inductionHypothesis]
          cases opened : (after history).captures with
          | nil => rw [perform_close_of_nil opened, opened, List.tail_nil]
          | cons capture outer =>
              rw [perform_close opened]
              rfl
      | _ =>
          rw [map_captureOf_append (by simp) rfl, List.reverse_append, ← inductionHypothesis]
          rfl

/-! ## Contents -/

/-- A closing finalizes the text of the innermost capture. -/
theorem finalizedBy_close (history : List SectionOperation) (closing : Closing) :
    finalizedBy history (.close closing) =
      (after history).captures.head?.map fun capture => (capture.name, capture.text) := by
  rw [captures_after, List.head?_reverse, List.getLast?_map, Option.map_map]
  rfl

theorem finalizedAfter_append (past history : List SectionOperation)
    (operation : SectionOperation) :
    finalizedAfter past (history ++ [operation]) =
      finalizedAfter past history ++ (finalizedBy (past ++ history) operation).toList := by
  induction history generalizing past with
  | nil => simp [finalizedAfter]
  | cons first history inductionHypothesis =>
      rw [List.cons_append, finalizedAfter, inductionHypothesis, finalizedAfter, List.append_assoc,
        List.append_assoc, List.singleton_append]

/-- What a section gets from one operation more. -/
theorem contentsOf_append (name : String) (history : List SectionOperation)
    (operation : SectionOperation) :
    contentsOf name (history ++ [operation]) =
      contentsOf name history ++
        (finalizedBy history operation).toList.filterMap fun (other, content) =>
          if other = name then some content else none := by
  rw [contentsOf, finalizedAfter_append, List.filterMap_append, List.nil_append, contentsOf]

theorem content?_extend_eq_foldl (name other content : String) (sections : Sections) :
    (sections.extend other content).content? name =
      ([(other, content)].filterMap fun (other, content) =>
        if other = name then some content else none).foldl merge (sections.content? name) := by
  by_cases same : other = name
  · subst same
    rw [content?_extend]
    simp [merge]
  · rw [content?_extend_of_ne same]
    simp [same]

/-- The table changes only by the contents that operations give, each to its own section. -/
theorem content?_after (name : String) (history : List SectionOperation) :
    (after history).content? name = (contentsOf name history).foldl merge none := by
  induction history using List.reverseRecOn with
  | nil => rfl
  | append_singleton history operation inductionHypothesis =>
      rw [after_append, contentsOf_append, List.foldl_append, ← inductionHypothesis]
      cases operation with
      | start other => rfl
      | write text =>
          rw [perform, write?]
          split <;> rfl
      | close closing =>
          rw [finalizedBy_close]
          cases opened : (after history).captures with
          | nil =>
              rw [perform_close_of_nil opened]
              rfl
          | cons capture outer =>
              rw [perform_close opened]
              exact content?_extend_eq_foldl name capture.name capture.text _
      | extend other content => exact content?_extend_eq_foldl name other content _
      | startWith other content => exact content?_extend_eq_foldl name other content _
      | inject other content => exact content?_extend_eq_foldl name other content _

/-! ## Whole histories -/

/-- Sections hold what a history tells, and answer accordingly. -/
structure AgreesWithHistory (history : List SectionOperation) (sections : Sections) : Prop where
  captures : sections.captures.reverse = (unmatched history).map captureOf
  /-- A closing closes the capture that was opened last and leaves the others. -/
  closes (closing : Closing) (earlier : List (String × List SectionOperation)) (name : String)
    (later : List SectionOperation) (parts : unmatched history = earlier ++ [(name, later)]) :
    sections.perform (.close closing) =
      let closed := { sections with captures := (earlier.map captureOf).reverse }.extend name
        (ownText 0 later)
      (.ok (some (answerTo closing name closed)), closed)
  underflows (closing : Closing) :
    (sections.perform (.close closing)).1 = .error .sectionUnderflow ↔ unmatched history = []
  /-- An operation that fails changes nothing. -/
  unchanged (operation : SectionOperation) (cause : Cause)
    (failed : (sections.perform operation).1 = .error cause) :
    (sections.perform operation).2 = sections
  content (name : String) :
    sections.content name = ((contentsOf name history).foldl merge none).getD ""

theorem agreesWithHistory_after (history : List SectionOperation) :
    AgreesWithHistory history (after history) := by
  have captures := captures_after history
  refine ⟨?captures, ?closes, ?underflows, ?unchanged, ?content⟩
  case captures => rw [captures, List.reverse_reverse]
  case closes =>
    intro closing earlier name later parts
    have opened : (after history).captures =
        captureOf (name, later) :: (earlier.map captureOf).reverse := by
      rw [captures, parts, List.map_append, List.reverse_append]
      rfl
    exact perform_close opened closing
  case underflows =>
    intro closing
    rcases List.eq_nil_or_concat (unmatched history) with none | ⟨earlier, last, parts⟩
    · have noCapture : (after history).captures = [] := by
        rw [captures, none]
        rfl
      rw [perform_close_of_nil noCapture]
      exact iff_of_true rfl none
    · have opened :
          (after history).captures = captureOf last :: (earlier.map captureOf).reverse := by
        rw [captures, parts]
        simp
      rw [perform_close opened]
      refine iff_of_false (fun failed => by cases failed) ?_
      rw [parts]
      simp
  case unchanged =>
    intro operation cause failed
    cases operation with
    | close closing =>
        cases opened : (after history).captures with
        | nil => rw [perform_close_of_nil opened]
        | cons capture outer =>
            rw [perform_close opened] at failed
            cases failed
    | _ => cases failed
  case content =>
    intro name
    rw [content, content?_after]

end Sections

end ViewTemplate
