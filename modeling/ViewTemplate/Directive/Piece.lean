import ViewTemplate.Text.Blank

/-!
The pieces of a view: literal text, comments, echos and directives. A view is cut into pieces from
left to right, and what is no well-formed piece stays text. Main statement: every recognized piece
is what the text began with (`Piece.append_of_recognize?`).
-/

namespace ViewTemplate.Directive

open ViewTemplate.Text

/-! ## Directives -/

inductive Kind where
  | extends
  | if
  | elseif
  | foreach
  | for
  | while
  | endif
  | endforeach
  | endfor
  | endwhile
  | else
  | unless
  | endunless
  | include
  | each
  | yield
  | show
  | section
  | stop
  deriving DecidableEq, Repr

namespace Kind

def all : List Kind :=
  [.extends, .if, .elseif, .foreach, .for, .while, .endif, .endforeach, .endfor, .endwhile,
    .else, .unless, .endunless, .include, .each, .yield, .show, .section, .stop]

def name : Kind → String
  | .extends => "extends"
  | .if => "if"
  | .elseif => "elseif"
  | .foreach => "foreach"
  | .for => "for"
  | .while => "while"
  | .endif => "endif"
  | .endforeach => "endforeach"
  | .endfor => "endfor"
  | .endwhile => "endwhile"
  | .else => "else"
  | .unless => "unless"
  | .endunless => "endunless"
  | .include => "include"
  | .each => "each"
  | .yield => "yield"
  | .show => "show"
  | .section => "section"
  | .stop => "stop"

/-- Whether the directive is written with arguments in parentheses. -/
def takesArguments : Kind → Bool
  | .extends | .if | .elseif | .foreach | .for | .while | .unless | .include | .each | .yield
  | .section => true
  | _ => false

def ofName? (name : List Char) : Option Kind :=
  all.find? fun kind => kind.name.toList = name

end Kind

/-! ## Pieces -/

/-- A unit of view source. Comments, echos and directives keep the text they were written as. -/
inductive Piece where
  /-- Literal text. -/
  | text (content : List Char)
  /-- Fragment code that a piece was lowered to. -/
  | code (content : List Char)
  /-- A comment, closed by its own mark or open to the end of its line. -/
  | comment (content : List Char) (closed : Bool) (raw : List Char)
  /-- An expression between double braces. -/
  | echo (expression raw : List Char)
  /-- A directive with its arguments, if its kind takes any. -/
  | directive (kind : Kind) (arguments : Option (List Char)) (raw : List Char)
  deriving DecidableEq

/-- The text that stands for a piece in the output. -/
def Piece.raw : Piece → List Char
  | .text content => content
  | .code content => content
  | .comment _ _ raw => raw
  | .echo _ raw => raw
  | .directive _ _ raw => raw

def commentOpen : List Char := ['\x7b', '\x7b', '-', '-']

def commentClose : List Char := ['-', '-', '\x7d', '\x7d']

def echoOpen : List Char := ['\x7b', '\x7b']

def echoClose : List Char := ['\x7d', '\x7d']

/-! ## Comments and echos -/

/-- A line without the carriage return at its end. -/
def withoutReturn (line : List Char) : List Char :=
  if line.getLast? = some '\r' then line.dropLast else line

/-- Reads a comment behind its opening mark, up to the first closing mark. If there is none at
all, the comment goes to the end of its line, and the line break is not part of it. -/
def readComment? (text : List Char) : Option (Piece × List Char) :=
  match breakOn? commentClose text with
  | some (content, rest) =>
      some (.comment content true (commentOpen ++ content ++ commentClose), rest)
  | none =>
      (breakOn? ['\n'] text).map fun (line, _) =>
        let content := withoutReturn line
        (.comment content false (commentOpen ++ content), text.drop content.length)

/-- Reads an echo behind its opening mark, up to the first closing mark. A blank expression makes
no echo. -/
def readEcho? (text : List Char) : Option (Piece × List Char) :=
  match breakOn? echoClose text with
  | some (content, rest) =>
      if trim content = [] then none
      else some (.echo (trim content) (echoOpen ++ content ++ echoClose), rest)
  | none => none

/-- Reads a comment or an echo. What opens like a comment is never an echo. -/
def readBraces? (text : List Char) : Option (Piece × List Char) :=
  match stripInitial? commentOpen text with
  | some behind => readComment? behind
  | none =>
      match stripInitial? echoOpen text with
      | some behind => readEcho? behind
      | none => none

/-! ## Directives with arguments -/

/-- Where a scan of arguments stands with respect to string literals. -/
inductive Quoting where
  | outside
  | inside (mark : Char)
  | escaped (mark : Char)
  deriving DecidableEq

/-- What a character does to the quoting: quotes open and close strings, and in a string a
backslash protects the character behind it. -/
def Quoting.next (character : Char) : Quoting → Quoting
  | .outside =>
      if character = '\'' ∨ character = '"' then .inside character else .outside
  | .inside mark =>
      if character = '\\' then .escaped mark
      else if character = mark then .outside
      else .inside mark
  | .escaped mark => .inside mark

/-- The text up to the parenthesis that closes an open one, and the text behind it. Parentheses in
strings do not count; `depth` is the number of further ones that are open. -/
def readArguments? (quoting : Quoting) (depth : Nat) :
    List Char → Option (List Char × List Char)
  | [] => none
  | character :: text =>
      let advance (quoting : Quoting) (depth : Nat) :=
        (readArguments? quoting depth text).map fun (arguments, rest) =>
          (character :: arguments, rest)
      match quoting with
      | .outside =>
          if character = '(' then advance .outside (depth + 1)
          else if character = ')' then
            match depth with
            | 0 => some ([], text)
            | depth + 1 => advance .outside depth
          else advance (quoting.next character) depth
      | .inside _ => advance (quoting.next character) depth
      | .escaped _ => advance (quoting.next character) depth

theorem append_of_readArguments? {quoting : Quoting} {depth : Nat}
    {text arguments rest : List Char}
    (found : readArguments? quoting depth text = some (arguments, rest)) :
    text = arguments ++ ')' :: rest := by
  induction text generalizing quoting depth arguments with
  | nil => simp [readArguments?] at found
  | cons character text inductionHypothesis =>
      have advanced : ∀ {quoting : Quoting} {depth : Nat},
          (readArguments? quoting depth text).map
              (fun (arguments, rest) => (character :: arguments, rest)) =
            some (arguments, rest) →
          character :: text = arguments ++ ')' :: rest := by
        intro quoting depth mapped
        obtain ⟨⟨shorter, _⟩, foundLater, same⟩ := Option.map_eq_some_iff.1 mapped
        obtain ⟨rfl, rfl⟩ := Prod.mk.inj same
        simp [inductionHypothesis foundLater]
      unfold readArguments? at found
      split at found
      · split at found
        · exact advanced found
        · split at found
          next closing =>
            split at found
            · obtain ⟨rfl, rfl⟩ := Prod.mk.inj (Option.some.inj found)
              simp [closing]
            · exact advanced found
          next => exact advanced found
      · exact advanced found
      · exact advanced found

def isNameCharacter (character : Char) : Bool :=
  character.isAlphanum || character == '_'

/-- Whether the character may stand between a name and its arguments. -/
def isGap (character : Char) : Bool :=
  character == ' ' || character == '\t'

/-- Reads a directive behind the at sign. The name is as long as possible, and a kind that takes
arguments needs them. -/
def readDirective? (text : List Char) : Option (Piece × List Char) :=
  let name := text.takeWhile isNameCharacter
  let behind := text.dropWhile isNameCharacter
  match Kind.ofName? name with
  | none => none
  | some kind =>
      if kind.takesArguments then
        match behind.dropWhile isGap with
        | '(' :: inner =>
            (readArguments? .outside 0 inner).map fun (arguments, rest) =>
              (.directive kind (some arguments)
                ('@' :: name ++ behind.takeWhile isGap ++ '(' :: arguments ++ [')']), rest)
        | _ => none
      else some (.directive kind none ('@' :: name), behind)

/-! ## Cutting -/

/-- The comment, echo or directive that the text begins with, and the text behind it. -/
def recognize? : List Char → Option (Piece × List Char)
  | '\x7b' :: text => readBraces? ('\x7b' :: text)
  | '@' :: text => readDirective? text
  | _ => none

theorem withoutReturn_append (line : List Char) :
    ∃ ending, line = withoutReturn line ++ ending := by
  unfold withoutReturn
  split
  · exact ⟨line.drop (line.length - 1), by
      rw [List.dropLast_eq_take, List.take_append_drop]⟩
  · exact ⟨[], by simp⟩

theorem append_of_readComment? {text rest : List Char} {piece : Piece}
    (found : readComment? text = some (piece, rest)) :
    commentOpen ++ text = piece.raw ++ rest := by
  unfold readComment? at found
  split at found
  next content behind closed =>
    obtain ⟨rfl, rfl⟩ := Prod.mk.inj (Option.some.inj found)
    simp [Piece.raw, breakOn?_append closed]
  next =>
    obtain ⟨⟨line, behind⟩, opened, same⟩ := Option.map_eq_some_iff.1 found
    obtain ⟨rfl, rfl⟩ := Prod.mk.inj same
    obtain ⟨ending, parts⟩ := withoutReturn_append line
    have start : text = withoutReturn line ++ (ending ++ '\n' :: behind) := by
      have whole := breakOn?_append opened
      rw [parts] at whole
      simpa using whole
    have dropped : text.drop (withoutReturn line).length = ending ++ '\n' :: behind := by
      rw [start, List.drop_left]
    simp only [Piece.raw, dropped, List.append_assoc]
    rw [start]

theorem append_of_readEcho? {text rest : List Char} {piece : Piece}
    (found : readEcho? text = some (piece, rest)) :
    echoOpen ++ text = piece.raw ++ rest := by
  unfold readEcho? at found
  split at found
  next content behind closed =>
    split at found
    · simp at found
    · obtain ⟨rfl, rfl⟩ := Prod.mk.inj (Option.some.inj found)
      simp [Piece.raw, breakOn?_append closed]
  next => simp at found

theorem append_of_readDirective? {text rest : List Char} {piece : Piece}
    (found : readDirective? text = some (piece, rest)) :
    '@' :: text = piece.raw ++ rest := by
  simp only [readDirective?] at found
  split at found
  · simp at found
  · split at found
    · split at found
      next inner opened =>
        obtain ⟨⟨arguments, behind⟩, closed, same⟩ := Option.map_eq_some_iff.1 found
        obtain ⟨rfl, rfl⟩ := Prod.mk.inj same
        have gap := List.takeWhile_append_dropWhile (p := isGap)
          (l := text.dropWhile isNameCharacter)
        rw [opened, append_of_readArguments? closed] at gap
        have name := List.takeWhile_append_dropWhile (p := isNameCharacter) (l := text)
        rw [← gap] at name
        simpa [Piece.raw] using name.symm
      next => simp at found
    · obtain ⟨rfl, rfl⟩ := Prod.mk.inj (Option.some.inj found)
      simp [Piece.raw]

/-- A recognized piece is what the text begins with. -/
theorem Piece.append_of_recognize? {text rest : List Char} {piece : Piece}
    (found : recognize? text = some (piece, rest)) :
    text = piece.raw ++ rest := by
  unfold recognize? at found
  split at found
  next behind =>
    unfold readBraces? at found
    split at found
    next after opened =>
      rw [stripInitial?_eq_some_iff.1 opened]
      exact append_of_readComment? found
    next =>
      split at found
      next after opened =>
        rw [stripInitial?_eq_some_iff.1 opened]
        exact append_of_readEcho? found
      next => simp at found
  next => exact append_of_readDirective? found
  next => simp at found

theorem Piece.raw_ne_nil_of_recognize? {text rest : List Char} {piece : Piece}
    (found : recognize? text = some (piece, rest)) :
    piece.raw ≠ [] := by
  unfold recognize? at found
  split at found
  · unfold readBraces? at found
    split at found
    · unfold readComment? at found
      split at found
      · obtain ⟨rfl, rfl⟩ := Prod.mk.inj (Option.some.inj found)
        simp [Piece.raw, commentOpen]
      · obtain ⟨_, _, same⟩ := Option.map_eq_some_iff.1 found
        obtain ⟨rfl, rfl⟩ := Prod.mk.inj same
        simp [Piece.raw, commentOpen]
    · split at found
      · unfold readEcho? at found
        split at found
        · split at found
          · simp at found
          · obtain ⟨rfl, rfl⟩ := Prod.mk.inj (Option.some.inj found)
            simp [Piece.raw, echoOpen]
        · simp at found
      · simp at found
  · simp only [readDirective?] at found
    split at found
    · simp at found
    · split at found
      · split at found
        · obtain ⟨_, _, same⟩ := Option.map_eq_some_iff.1 found
          obtain ⟨rfl, rfl⟩ := Prod.mk.inj same
          simp [Piece.raw]
        · simp at found
      · obtain ⟨rfl, rfl⟩ := Prod.mk.inj (Option.some.inj found)
        simp [Piece.raw]
  · simp at found

theorem length_lt_of_recognize? {text rest : List Char} {piece : Piece}
    (found : recognize? text = some (piece, rest)) :
    rest.length < text.length := by
  have positive := List.length_pos_iff.2 (Piece.raw_ne_nil_of_recognize? found)
  rw [Piece.append_of_recognize? found, List.length_append]
  omega

/-- Puts a character in front of pieces, into the text that they begin with. -/
def consText (character : Char) : List Piece → List Piece
  | .text content :: pieces => .text (character :: content) :: pieces
  | pieces => .text [character] :: pieces

def pieces (text : List Char) : List Piece :=
  match text with
  | [] => []
  | character :: behind =>
      match _found : recognize? (character :: behind) with
      | some (piece, rest) => piece :: pieces rest
      | none => consText character (pieces behind)
termination_by text.length
decreasing_by
  · exact length_lt_of_recognize? _found
  · simp

end ViewTemplate.Directive
