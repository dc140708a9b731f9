import ViewTemplate.FileSystem
import ViewTemplate.Fragment.SyntaxFault
import ViewTemplate.Text.Width
import ViewTemplate.Value.HostData
import ViewTemplate.Fault

/-!
Errors: what went wrong, in which view, and at which bytes of which fragment. An error has a plain
text of one line and, when it is located, a pretty text that shows the line.
-/

namespace ViewTemplate

open ViewTemplate.Text

inductive Cause where
  /-- The store has no such view. -/
  | viewNotFound (name : String)
  /-- A capture was to be stopped and none was open. -/
  | sectionUnderflow
  /-- A view ended and left a capture open. -/
  | unclosedSection (name : String)
  /-- A fragment that is not well-formed. -/
  | malformed (fault : Fragment.SyntaxFault)
  /-- Code that failed when it was evaluated. -/
  | evaluation (fault : Fault)
  /-- More views inside each other than allowed. -/
  | includeDepth (limit : Nat)
  /-- Files that could not be read or written. -/
  | files (fault : FileSystem.Fault)
  /-- Host data that has no value. -/
  | conversion (fault : HostData.Fault)
  deriving DecidableEq

def Cause.message : Cause → String
  | .viewNotFound name => "view `" ++ name ++ "` not found"
  | .sectionUnderflow => "cannot stop a section without first starting one"
  | .unclosedSection name => "section `" ++ name ++ "` was started but never stopped"
  | .malformed fault => fault.message
  | .evaluation fault => fault.message
  | .includeDepth limit => s!"reached maximum include depth ({limit})"
  | .files fault => fault.message
  | .conversion fault => fault.message

/-- Bytes of a fragment. -/
structure SourceLocation where
  source : String
  span : Fragment.Span
  deriving DecidableEq

structure Error where
  cause : Cause
  view : Option String
  location : Option SourceLocation
  deriving DecidableEq

namespace Error

/-- An error of which nothing but its cause is known. -/
def ofCause (cause : Cause) : Error :=
  ⟨cause, none, none⟩

def located (cause : Cause) (source : String) (span : Fragment.Span) : Error :=
  ⟨cause, none, some ⟨source, span⟩⟩

/-- Names the view of an error, unless it has one. -/
def inView (name : String) (error : Error) : Error :=
  { error with view := error.view.or (some name) }

/-! ## Lines -/

/-- The line with the byte at `offset`, counted from `number` on, its text, and the width of what
stands in front of the byte in it. -/
def findLine? (number offset : Nat) :
    List (List Char) → Option (Nat × List Char × Nat)
  | [] => none
  | line :: lines =>
      let length := byteLength line + 1
      if offset < length then some (number, line, displayWidth (byteSlice 0 offset line))
      else findLine? (number + 1) (offset - length) lines

/-- The line of an offset, as in `findLine?`; beyond the last line, a line further than all, with
the text and the width of the last. -/
def lineOf (source : List Char) (offset : Nat) : Nat × List Char × Nat :=
  let all := lines source
  match findLine? 1 offset all with
  | some found => found
  | none =>
      let last := all.getLast?.getD []
      (all.length + 1, last, displayWidth last)

/-- The number of columns that are underlined: at least one. -/
def underlineWidth (location : SourceLocation) : Nat :=
  max 1 (displayWidth (byteSlice location.span.start location.span.stop location.source.toList))

/-! ## Texts -/

/-- The end of a message that names the view. -/
def viewPhrase (error : Error) : String :=
  match error.view with
  | some name => " in view `" ++ name ++ "`"
  | none => ""

def plain (error : Error) : String :=
  match error.location with
  | some location =>
      error.cause.message ++
        s!" between bytes {location.span.start} and {location.span.stop}" ++ error.viewPhrase
  | none => error.cause.message ++ error.viewPhrase

/-- What the first line of a pretty text says. -/
def headline (error : Error) : String :=
  match error.cause with
  | .malformed _ => "invalid fragment syntax"
  | _ => "render error"

/-- The source line of an error, with its number, and a line that underlines the bytes. -/
def excerpt (location : SourceLocation) (message : String) : String :=
  let (number, line, column) := lineOf location.source.toList location.span.start
  let digits := toString number
  let margin := String.ofList (List.replicate digits.length ' ')
  let indent := String.ofList (List.replicate column ' ')
  let underline := String.ofList (List.replicate (underlineWidth location) '^')
  "\n " ++ margin ++ " |\n " ++ digits ++ " | " ++ String.ofList line ++
    "\n " ++ margin ++ " | " ++ indent ++ underline ++ " " ++ message ++ "\n"

/-- The text of an error with the line it points at. Without a location it is the plain text. -/
def pretty (error : Error) : String :=
  match error.location with
  | some location =>
      error.headline ++ error.viewPhrase ++ excerpt location error.cause.message
  | none => error.plain

end Error

end ViewTemplate
