import ViewTemplate.Text.Search
import ViewTemplate.Value.Entries

/-!
Sections: named content that views leave for each other, and the captures by which they gather it.
A child view is rendered before its parent, so content that comes later belongs to the parent and
goes where the child's content says `@parent`.
-/

namespace ViewTemplate

/-- An open capture: the section it is for and the text gathered so far. -/
structure Capture where
  name : String
  text : String
  deriving DecidableEq

/-- The open captures, innermost first, and the content of the sections. -/
structure Sections where
  captures : List Capture
  table : Entries String
  deriving DecidableEq

/-- What closing a capture tells: the name of its section, or the content of that. -/
inductive Closing where
  | stop
  | yield
  deriving DecidableEq

namespace Sections

/-- The mark in a section that the parent's content replaces. -/
def parentMark : String := "@parent"

def empty : Sections := ⟨[], []⟩

/-! ## Content -/

def content? (name : String) (sections : Sections) : Option String :=
  sections.table.lookup name

/-- The content of a section; one without content counts as empty. -/
def content (name : String) (sections : Sections) : String :=
  (sections.content? name).getD ""

def has (name : String) (sections : Sections) : Bool :=
  (sections.content? name).isSome

/-- Gives content to a section. If it has some already, the new content replaces every mark of the
parent in it. -/
def extend (name content : String) (sections : Sections) : Sections :=
  let merged :=
    match sections.content? name with
    | some existing => Text.replace parentMark content existing
    | none => content
  { sections with table := Entries.put name merged sections.table }

/-! ## Captures -/

def depth (sections : Sections) : Nat :=
  sections.captures.length

def start (name : String) (sections : Sections) : Sections :=
  { sections with captures := ⟨name, ""⟩ :: sections.captures }

/-- Adds text to the innermost capture, if one is open. -/
def write? (text : String) (sections : Sections) : Option Sections :=
  match sections.captures with
  | [] => none
  | capture :: outer =>
      some { sections with captures := ⟨capture.name, capture.text ++ text⟩ :: outer }

/-- Closes the innermost capture, gives its text to its section and tells which one that is. -/
def stop? (sections : Sections) : Option (String × Sections) :=
  match sections.captures with
  | [] => none
  | capture :: outer =>
      some (capture.name, { sections with captures := outer }.extend capture.name capture.text)

/-- Closes the innermost capture and tells the content of its section. -/
def yieldSection? (sections : Sections) : Option (String × Sections) :=
  sections.stop?.map fun (name, stopped) => (stopped.content name, stopped)

/-- Closes the innermost capture and tells what the kind of closing asks for. -/
def close? : Closing → Sections → Option (String × Sections)
  | .stop => stop?
  | .yield => yieldSection?

/-- Drops captures until at most `depth` are left. -/
def truncate (depth : Nat) (sections : Sections) : Sections :=
  { sections with captures := sections.captures.drop (sections.depth - depth) }

/-- The capture that was opened when `depth` were open. -/
def captureAt? (depth : Nat) (sections : Sections) : Option Capture :=
  sections.captures.reverse[depth]?

end Sections

end ViewTemplate
