import Mathlib
import ViewTemplate.Proofs.ErrorOrigin
import ViewTemplate.Proofs.ProgramCache
import ViewTemplate.Proofs.Tiling

/-!
The lines that errors show. The bytes that a returned error points at are some characters of its
fragment. Its pretty text shows the line in which they begin, with the number of the line, and
underlines them there; for this no text is cut inside a character, and no line is looked for behind
the last one (`Error.showsPlace_of_isReturned`).
-/

namespace ViewTemplate

open Text Fragment

/-! ## Slices -/

namespace Text

/-- Splits the text at a byte offset, if a character begins there or the text ends there. -/
def splitAtBoundary? (offset : Nat) : List Char → Option (List Char × List Char)
  | [] => if offset = 0 then some ([], []) else none
  | character :: text =>
      if offset = 0 then some ([], character :: text)
      else if offset < character.utf8Size then none
      else
        (splitAtBoundary? (offset - character.utf8Size) text).map fun (before, after) =>
          (character :: before, after)

/-- The bytes from `start` to `stop`. There are none if one of the two is out of range or inside a
character, or if they are out of order. -/
def slice? (start stop : Nat) (text : List Char) : Option (List Char) :=
  if stop < start then none
  else
    (splitAtBoundary? start text).bind fun parts =>
      (splitAtBoundary? (stop - start) parts.2).map Prod.fst

theorem splitAtBoundary?_append (before after : List Char) :
    splitAtBoundary? (byteLength before) (before ++ after) = some (before, after) := by
  induction before with
  | nil => cases after <;> rfl
  | cons character before inductionHypothesis =>
      have positive : 0 < character.utf8Size := character.utf8Size_pos
      rw [List.cons_append, splitAtBoundary?, byteLength, if_neg (by omega), if_neg (by omega),
        Nat.add_sub_cancel_left, inductionHypothesis]
      rfl

theorem parts_of_splitAtBoundary? {offset : Nat} {text before after : List Char}
    (cut : splitAtBoundary? offset text = some (before, after)) :
    text = before ++ after ∧ byteLength before = offset := by
  induction text generalizing offset before with
  | nil =>
      rw [splitAtBoundary?] at cut
      by_cases atStart : offset = 0
      · rw [if_pos atStart] at cut
        cases cut
        exact ⟨rfl, atStart.symm⟩
      · rw [if_neg atStart] at cut
        cases cut
  | cons character text inductionHypothesis =>
      rw [splitAtBoundary?] at cut
      by_cases atStart : offset = 0
      · rw [if_pos atStart] at cut
        cases cut
        exact ⟨rfl, atStart.symm⟩
      · rw [if_neg atStart] at cut
        by_cases inCharacter : offset < character.utf8Size
        · rw [if_pos inCharacter] at cut
          cases cut
        · rw [if_neg inCharacter] at cut
          obtain ⟨⟨front, behind⟩, later, same⟩ := Option.map_eq_some_iff.1 cut
          cases same
          obtain ⟨rfl, length⟩ := inductionHypothesis later
          refine ⟨rfl, ?_⟩
          rw [byteLength, length]
          omega

theorem splitAtBoundary?_eq_some_iff {offset : Nat} {text before after : List Char} :
    splitAtBoundary? offset text = some (before, after) ↔
      text = before ++ after ∧ byteLength before = offset := by
  constructor
  · exact parts_of_splitAtBoundary?
  · rintro ⟨rfl, rfl⟩
    exact splitAtBoundary?_append before after

theorem slice?_eq_some_iff {start stop : Nat} {text inside : List Char} :
    slice? start stop text = some inside ↔
      ∃ before after, text = before ++ (inside ++ after) ∧ start = byteLength before ∧
        stop = byteLength before + byteLength inside := by
  unfold slice?
  constructor
  · intro cut
    by_cases disordered : stop < start
    · rw [if_pos disordered] at cut
      cases cut
    · rw [if_neg disordered] at cut
      obtain ⟨⟨before, behind⟩, first, cut⟩ := Option.bind_eq_some_iff.1 cut
      obtain ⟨⟨middle, after⟩, second, same⟩ := Option.map_eq_some_iff.1 cut
      obtain rfl : middle = inside := same
      obtain ⟨rfl, rfl⟩ := splitAtBoundary?_eq_some_iff.1 first
      obtain ⟨rfl, length⟩ := splitAtBoundary?_eq_some_iff.1 second
      exact ⟨before, after, rfl, rfl, by omega⟩
  · rintro ⟨before, after, rfl, rfl, rfl⟩
    rw [if_neg (by omega), splitAtBoundary?_append, Option.bind_some, Nat.add_sub_cancel_left,
      splitAtBoundary?_append]
    rfl

theorem byteSlice_of_slice? {start stop : Nat} {text inside : List Char}
    (cut : slice? start stop text = some inside) : byteSlice start stop text = inside := by
  obtain ⟨before, after, rfl, rfl, rfl⟩ := slice?_eq_some_iff.1 cut
  rw [byteSlice, splitAtByte_byteLength, Nat.add_sub_cancel_left, splitAtByte_byteLength]

/-! ## Lines -/

/-- What stands in front of the first line feed. -/
def firstLine (text : List Char) : List Char :=
  text.takeWhile (· ≠ '\n')

/-- What stands behind the last line feed. -/
def lastLine (text : List Char) : List Char :=
  text.rtakeWhile (· ≠ '\n')

section Lines

variable {line : List Char}

theorem lines_append_lineFeed (single : '\n' ∉ line) (text : List Char) :
    lines (line ++ '\n' :: text) = line :: lines text := by
  induction line with
  | nil => rfl
  | cons character line inductionHypothesis =>
      have different : character ≠ '\n' := (List.ne_of_not_mem_cons single).symm
      rw [List.cons_append, lines, inductionHypothesis (List.not_mem_of_not_mem_cons single)]
      exact different

theorem lines_of_single (single : '\n' ∉ line) (nonempty : line ≠ []) :
    lines line = [line] := by
  induction line with
  | nil => exact absurd rfl nonempty
  | cons character line inductionHypothesis =>
      have different : character ≠ '\n' := (List.ne_of_not_mem_cons single).symm
      have later := inductionHypothesis (List.not_mem_of_not_mem_cons single)
      rw [lines]
      · cases line with
        | nil => rfl
        | cons next line => rw [later (List.cons_ne_nil _ _)]
      · exact different

theorem ne_lineFeed_of_single (single : '\n' ∉ line) :
    ∀ character ∈ line, decide (character ≠ '\n') = true := by
  intro character member
  exact decide_eq_true (ne_of_mem_of_not_mem member single)

theorem firstLine_of_single (single : '\n' ∉ line) : firstLine line = line :=
  List.takeWhile_eq_self_iff.2 (ne_lineFeed_of_single single)

theorem lastLine_of_single (single : '\n' ∉ line) : lastLine line = line :=
  List.rtakeWhile_eq_self_iff.2 (ne_lineFeed_of_single single)

theorem firstLine_append_lineFeed (single : '\n' ∉ line) (text : List Char) :
    firstLine (line ++ '\n' :: text) = line := by
  rw [firstLine, takeWhile_append_cons (by decide)]
  exact firstLine_of_single single

theorem lastLine_append_lineFeed (line text : List Char) :
    lastLine (line ++ '\n' :: text) = lastLine text := by
  rw [lastLine, lastLine, List.rtakeWhile, List.reverse_append, List.reverse_cons,
    List.append_assoc, List.singleton_append, takeWhile_append_cons (by decide), List.rtakeWhile]

theorem exists_lines_append {front text : List Char} (single : '\n' ∉ front)
    (nonempty : text ≠ []) :
    ∃ others, lines (front ++ text) = (front ++ firstLine text) :: others := by
  by_cases several : '\n' ∈ text
  · obtain ⟨line, behind, rfl, singleLine⟩ := List.eq_append_cons_of_mem several
    have together : '\n' ∉ front ++ line := List.not_mem_append single singleLine
    refine ⟨lines behind, ?_⟩
    rw [firstLine_append_lineFeed singleLine, ← List.append_assoc, lines_append_lineFeed together]
  · have together : '\n' ∉ front ++ text := List.not_mem_append single several
    refine ⟨[], ?_⟩
    rw [firstLine_of_single several]
    exact lines_of_single together (List.append_ne_nil_of_right_ne_nil _ nonempty)

end Lines

end Text

/-! ## Strict formatting -/

namespace Error

/-- The line with the byte at `offset`, as in `findLine?`, with a slice that has to exist. -/
def findLineStrictly? (number offset : Nat) : List (List Char) → Option (Nat × List Char × Nat)
  | [] => none
  | line :: lines =>
      let length := byteLength line + 1
      if offset < length then
        (slice? 0 offset line).map fun front => (number, line, displayWidth front)
      else findLineStrictly? (number + 1) (offset - length) lines

def repeated (character : Char) (count : Nat) : String :=
  String.ofList (List.replicate count character)

/-- The text of an error that shows a line with its number and underlines `width` columns in it,
behind `column` others. -/
def layout (error : Error) (number : Nat) (line : List Char) (column width : Nat) : String :=
  let margin := repeated ' ' (toString number).length
  "\n".intercalate
    [error.headline ++ error.viewPhrase,
      " " ++ margin ++ " |",
      " " ++ toString number ++ " | " ++ String.ofList line,
      " " ++ margin ++ " | " ++ repeated ' ' column ++ repeated '^' width ++ " " ++
        error.cause.message,
      ""]

/-- The pretty text of a located error. There is none if a slice that it takes does not exist, or
if the bytes begin beyond the last line. -/
def prettyStrictly? (error : Error) : Option String := do
  let location ← error.location
  let source := location.source.toList
  let (number, line, column) ← findLineStrictly? 1 location.span.start (lines source)
  let underlined ← slice? location.span.start location.span.stop source
  return error.layout number line column (max 1 (displayWidth underlined))

theorem findLine?_of_strictly {number offset : Nat} {lines : List (List Char)}
    {found : Nat × List Char × Nat} (strict : findLineStrictly? number offset lines = some found) :
    findLine? number offset lines = some found := by
  induction lines generalizing number offset with
  | nil => cases strict
  | cons line lines inductionHypothesis =>
      rw [findLineStrictly?] at strict
      rw [findLine?]
      by_cases here : offset < byteLength line + 1
      · rw [if_pos here] at strict ⊢
        obtain ⟨front, cut, rfl⟩ := Option.map_eq_some_iff.1 strict
        rw [byteSlice_of_slice? cut]
      · rw [if_neg here] at strict ⊢
        exact inductionHypothesis strict

/-- The line that is found is the one in which `behind` begins. -/
theorem findLineStrictly?_append (before : List Char) {behind : List Char} (nonempty : behind ≠ [])
    (number : Nat) :
    findLineStrictly? number (byteLength before) (lines (before ++ behind)) =
      some (number + before.count '\n', lastLine before ++ firstLine behind,
        displayWidth (lastLine before)) := by
  by_cases several : '\n' ∈ before
  · obtain ⟨line, text, parts, single⟩ := List.eq_append_cons_of_mem several
    have shorter : text.length < before.length := by
      rw [parts, List.length_append, List.length_cons]
      omega
    have later := findLineStrictly?_append text nonempty (number + 1)
    have length : byteLength (line ++ '\n' :: text) = byteLength line + 1 + byteLength text := by
      rw [byteLength_append, byteLength, show ('\n' : Char).utf8Size = 1 from rfl, Nat.add_assoc]
    rw [parts, List.append_assoc, List.cons_append, lines_append_lineFeed single, findLineStrictly?,
      length, if_neg (by omega), Nat.add_sub_cancel_left, later, lastLine_append_lineFeed,
      List.count_append, List.count_cons_self, List.count_eq_zero.2 single]
    congr 2
    omega
  · obtain ⟨others, cut⟩ := exists_lines_append several nonempty
    have front : slice? 0 (byteLength before) (before ++ firstLine behind) = some before :=
      slice?_eq_some_iff.2 ⟨[], firstLine behind, rfl, rfl, by rw [byteLength, Nat.zero_add]⟩
    have here : byteLength before < byteLength (before ++ firstLine behind) + 1 := by
      rw [byteLength_append]
      omega
    rw [cut, findLineStrictly?, if_pos here, front, lastLine_of_single several,
      List.count_eq_zero.2 several]
    rfl
termination_by before.length

theorem pretty_eq_layout {error : Error} {location : SourceLocation}
    (located : error.location = some location) {number : Nat} {line : List Char} {column : Nat}
    (found : lineOf location.source.toList location.span.start = (number, line, column)) :
    error.pretty = error.layout number line column (underlineWidth location) := by
  unfold pretty excerpt
  simp only [located, found]
  apply String.toList_inj.1
  simp [layout, repeated, String.intercalate_cons_cons]

/-- Where the strict text exists, it is the pretty text. -/
theorem pretty_of_prettyStrictly? {error : Error} {text : String}
    (strict : error.prettyStrictly? = some text) : error.pretty = text := by
  obtain ⟨location, located, strict⟩ := Option.bind_eq_some_iff.1 strict
  obtain ⟨⟨number, line, column⟩, found, strict⟩ := Option.bind_eq_some_iff.1 strict
  obtain ⟨underlined, cut, same⟩ := Option.bind_eq_some_iff.1 strict
  have isLine : lineOf location.source.toList location.span.start = (number, line, column) := by
    rw [lineOf, findLine?_of_strictly found]
  have width : underlineWidth location = max 1 (displayWidth underlined) := by
    rw [underlineWidth, byteSlice_of_slice? cut]
  rw [pretty_eq_layout located isLine, width]
  exact Option.some.inj same

end Error

/-! ## Errors that point at characters -/

theorem Fragment.Span.IsIn.exists_parts {source : List Char} {span : Span}
    (isIn : span.IsIn source) :
    ∃ before inside after, source = before ++ (inside ++ after) ∧ inside ≠ [] ∧
      span = ⟨byteLength before, byteLength before + byteLength inside⟩ := by
  obtain ⟨start, stop⟩ := span
  obtain ⟨⟨before, behind, parts, atStart⟩, ⟨front, after, otherParts, atStop⟩, nonempty⟩ := isIn
  dsimp only at atStart atStop nonempty
  rcases List.append_eq_append_iff.1 (parts.symm.trans otherParts) with
    ⟨inside, rfl, rfl⟩ | ⟨inside, rfl, rfl⟩
  · rw [byteLength_append] at atStop
    refine ⟨before, inside, after, parts, ?_, by rw [atStart, ← atStop, atStart]⟩
    rintro rfl
    rw [byteLength] at atStop
    omega
  · -- The end would stand in front of the beginning.
    rw [byteLength_append] at atStart
    omega

/-- What the pretty text of an error shows of the bytes that it points at. -/
structure Error.ShowsPlace (error : Error) (location : SourceLocation) : Prop where
  /-- All slices that are taken exist, and the bytes do not begin behind the last line. -/
  strict : error.prettyStrictly? = some error.pretty
  /-- The bytes are some characters. The line in which they begin is shown with its number, and
  underlined behind the columns that the front of the line fills. -/
  line : ∃ before inside after, location.source.toList = before ++ (inside ++ after) ∧
    inside ≠ [] ∧ location.span = ⟨byteLength before, byteLength before + byteLength inside⟩ ∧
    error.pretty = error.layout (1 + before.count '\n')
      (lastLine before ++ firstLine (inside ++ after)) (displayWidth (lastLine before))
      (max 1 (displayWidth inside))
  /-- The line is found, not taken in the place of one behind the last. -/
  found : ∃ line, findLine? 1 location.span.start (lines location.source.toList) = some line
  /-- The error is not one that a reader has at the end of a fragment. -/
  notAtEnd : ∀ fault length expected, error.cause = .malformed fault →
    (⟨fault, location.span⟩ : SyntaxError) ≠ (Ending.complete length).missing expected

theorem Error.showsPlace_of_isIn {error : Error} {location : SourceLocation}
    (located : error.location = some location)
    (isIn : location.span.IsIn location.source.toList) : error.ShowsPlace location := by
  obtain ⟨before, inside, after, parts, nonempty, span⟩ := isIn.exists_parts
  have found := findLineStrictly?_append before (List.append_ne_nil_of_left_ne_nil nonempty after) 1
  have cut : slice? location.span.start location.span.stop location.source.toList = some inside :=
    slice?_eq_some_iff.2 ⟨before, after, parts, by rw [span], by rw [span]⟩
  rw [← parts, show byteLength before = location.span.start by rw [span]] at found
  have strict : error.prettyStrictly? = some (error.layout (1 + before.count '\n')
      (lastLine before ++ firstLine (inside ++ after)) (displayWidth (lastLine before))
      (max 1 (displayWidth inside))) := by
    simp only [prettyStrictly?, located, found, cut, Option.bind_eq_bind, Option.bind_some]
    rfl
  constructor
  case strict => rw [pretty_of_prettyStrictly? strict, strict]
  case line =>
    exact ⟨before, inside, after, parts, nonempty, span, pretty_of_prettyStrictly? strict⟩
  case found => exact ⟨_, findLine?_of_strictly found⟩
  case notAtEnd =>
    intro fault length expected _ atEnd
    have empty : location.span = ⟨length, length⟩ := congrArg SyntaxError.span atEnd
    have ordered := isIn.nonempty
    rw [empty] at ordered
    exact absurd ordered (Nat.lt_irrefl length)

/-! ## Errors that are returned -/

namespace Watched

variable {σ : Type} {answers : Answers} {views : List String}
  {enter : String → Entries Value → Watched σ String}

theorem accounts_enterEach
    (enters : ∀ view parameters, Accounts answers views (enter view parameters))
    (view iterator : String) (elements : List (Value × Value)) :
    Accounts answers views (RenderContext.enterEach enter view iterator elements) := by
  induction elements with
  | nil => exact accounts_pure ""
  | cons element others inductionHypothesis =>
      refine (enters view _).bind fun output => ?_
      exact inductionHypothesis.bind fun rest => accounts_pure (output ++ rest)

theorem accounts_showEach
    (enters : ∀ view parameters, Accounts answers views (enter view parameters))
    (view : String) (collection : Value) (iterator empty : String) :
    Accounts answers views (RenderContext.showEach enter view collection iterator empty) := by
  unfold RenderContext.showEach
  match RenderContext.elements? collection with
  | none => exact accounts_fail (Error.isRaisedIn_of_unlocated rfl)
  | some (first :: others) => exact accounts_enterEach enters view iterator (first :: others)
  | some [] =>
      match stripInitial? RenderContext.verbatimMark.toList empty.toList with
      | some text => exact accounts_pure _
      | none => exact enters empty []

end Watched

/-- The views that are asked for are made in the usual way. -/
def Request.IsBuilt : Request → Prop
  | .get view _ => view.IsBuilt
  | .showEach .. => True
  | .nested .. => True

theorem Watched.accounts_request {σ : Type} (environment : Environment σ) {request : Request}
    (built : request.IsBuilt) :
    Accounts [] [] (request.rendering environment : Watched σ String) := by
  cases request with
  | get view fuel => exact accounts_render built environment fuel
  | showEach view collection iterator empty fuel =>
      exact accounts_showEach (accounts_renderAt environment fuel _ []) view collection iterator _
  | nested levels view parameters fuel =>
      exact accounts_renderAt environment fuel levels [] view parameters

/-- An error that is returned when a fragment is compiled or a view is rendered, whatever has been
changed and rendered before. -/
inductive Error.IsReturned : Error → Prop where
  | compile {source : String} {error : SyntaxError}
      (failed : Program.compile source = .error error) :
      IsReturned (.located (.malformed error.fault) source error.span)
  | render {σ : Type} (environment : Environment σ) (stored : σ)
      (client : List (Option Observation) → WorldEvent σ) (count : Nat) {world : World σ}
      (history : ((World.initial environment stored).history Request.cached client count).2 = world)
      {request : Request} (built : request.IsBuilt) {sections : Sections} {error : Error}
      {reached : RenderState σ}
      (failed : request.cached world.environment (world.state sections) =
        .error (.failed error) reached) : IsReturned error

theorem Error.isIn_of_request {σ : Type} {environment : Environment σ} {request : Request}
    (built : request.IsBuilt) {state reached : RenderState σ} (coherent : state.Coherent)
    {error : Error} (failed : request.cached environment state = .error (.failed error) reached)
    {location : SourceLocation} (located : error.location = some location) :
    location.span.IsIn location.source.toList := by
  have plain : request.cached environment state = _ :=
    (Watched.erasure σ).request Nat.zero environment request [] ⟨state, []⟩
  have ends := Watched.accounts_request environment built ⟨state, []⟩ coherent (List.nil_subset _)
  rw [failed] at plain
  generalize (request.rendering environment : Watched σ String) [] ⟨state, []⟩ = outcome
    at plain ends
  cases ends with
  | ok => cases plain
  | exhausted => cases plain
  | @failed raised reached come =>
      cases plain
      -- On its way out the error has got a name at most; it points where it did at first.
      obtain ⟨inner, -, same⟩ := come.named
      rw [same] at located
      obtain ⟨-, view, outer, -, -, inside⟩ := come.origin location located
      exact inside

theorem Error.isIn_of_isReturned {error : Error} (returned : error.IsReturned)
    {location : SourceLocation} (located : error.location = some location) :
    location.span.IsIn location.source.toList := by
  cases returned with
  | compile failed =>
      cases located
      exact isIn_of_compile failed
  | @render σ environment stored client count world history request built sections _ _ failed =>
      have worlds := ((World.Matches.initial environment stored).history client count).2
      rw [history] at worlds
      exact isIn_of_request built (worlds.states sections).coherent failed located

/-- Errors show the right place: every error that is returned and points at bytes of a fragment
shows the line in which they begin. -/
theorem Error.showsPlace_of_isReturned {error : Error} (returned : error.IsReturned)
    {location : SourceLocation} (located : error.location = some location) :
    error.ShowsPlace location :=
  showsPlace_of_isIn located (isIn_of_isReturned returned located)

/-- A view inside another one fails in its second line, behind a wide character. -/
theorem Error.showsPlace_of_isReturned_nested :
    let location : SourceLocation := ⟨"a\n漢<% echo x; %>\nb", ⟨13, 14⟩⟩
    let error : Error := ⟨.evaluation .unbound, some "inner", some location⟩
    error.IsReturned ∧ error.location = some location ∧ error.ShowsPlace location := by
  intro location error
  let views : MemoryViews :=
    ⟨[("inner", "a\n漢<% echo x; %>\nb"), ("outer", "<% __env.make('inner'); %>")]⟩
  have ended : ∃ reached, ((View.ofName "outer").render (Environment.ofStore .memory 0) 4 :
      Render MemoryViews String) ⟨views, [], .empty⟩ = .error (.failed error) reached := by
    have told : Outcome.error? (((View.ofName "outer").render (Environment.ofStore .memory 0) 4 :
        Render MemoryViews String) ⟨views, [], .empty⟩) = some error := by cbv
    exact Outcome.exists_of_error? told
  obtain ⟨reached, failed⟩ := ended
  have returned : error.IsReturned :=
    @Error.IsReturned.render _ (Environment.ofStore .memory 0) views (fun _ => .change id) 0 _ rfl
      (.get (.ofName "outer") 4) (.ofName "outer") .empty error reached failed
  exact ⟨returned, rfl, Error.showsPlace_of_isReturned returned rfl⟩

example :
    Error.pretty ⟨.evaluation .unbound, some "inner", some ⟨"a\n漢<% echo x; %>\nb", ⟨13, 14⟩⟩⟩ =
      "render error in view `inner`\n   |\n 2 | 漢<% echo x; %>\n" ++
        "   |           ^ not found in this scope\n" := by
  decide +kernel

end ViewTemplate
