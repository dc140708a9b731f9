import ViewTemplate.Directive.Piece

/-!
Passes lower pieces to fragment code, each the pieces of its own kind. The inheritance pass moves a
leading `extends` directive to the end instead, so that a child's sections are captured before its
parent is rendered. What no pass lowers goes out as it was written.
-/

namespace ViewTemplate.Directive

open ViewTemplate.Text

inductive Pass where
  | inheritance
  | comments
  | echos
  | openings
  | closings
  | else
  | unless
  | includes
  | each
  | yields
  | shows
  | sectionStart
  | sectionStop
  deriving DecidableEq, Repr

/-- Every pass, in the order in which passes run. -/
def Pass.all : List Pass :=
  [.inheritance, .comments, .echos, .openings, .closings, .else, .unless, .includes, .each,
    .yields, .shows, .sectionStart, .sectionStop]

/-! ## Code -/

def tag (code : List Char) : List Char :=
  ['<', '%', ' '] ++ code ++ [' ', '%', '>']

/-- A code tag with arguments between two parts of code. -/
def tagAround (before : String) (arguments : List Char) (after : String) : List Char :=
  tag (before.toList ++ arguments ++ after.toList)

/-- The text of a comment with a space put into every end of a code tag. -/
def withoutTagEnd (content : List Char) : List Char :=
  replaceAll '%' ['>'] ['%', ' ', '>'] content

/-- The code of a comment. A closed comment may not end early either. -/
def commentCode (content : List Char) (closed : Bool) : List Char :=
  if closed then
    tag (['/', '*'] ++ replaceAll '*' ['/'] ['*', ' ', '/'] (withoutTagEnd content) ++ ['*', '/'])
  else tag (['/', '/'] ++ withoutTagEnd content)

/-- The code of a directive that takes no arguments, if the pass lowers it. -/
def Pass.lowerPlain? : Pass → Kind → Option (List Char)
  | .closings, .endif => some (tag "endif;".toList)
  | .closings, .endforeach => some (tag "endforeach;".toList)
  | .closings, .endfor => some (tag "endfor;".toList)
  | .closings, .endwhile => some (tag "endwhile;".toList)
  | .else, .else => some (tag "else:".toList)
  | .unless, .endunless => some (tag "endif;".toList)
  | .shows, .show => some (tag "echo __env.yield_section();".toList)
  | .sectionStop, .stop => some (tag "__env.stop_section();".toList)
  | _, _ => none

/-- The code of a directive with arguments, if the pass lowers it. -/
def Pass.lowerApplied? (arguments : List Char) : Pass → Kind → Option (List Char)
  | .openings, .if => some (tagAround "if (" arguments "):")
  | .openings, .elseif => some (tagAround "elseif (" arguments "):")
  | .openings, .foreach => some (tagAround "foreach (" arguments "):")
  | .openings, .for => some (tagAround "for (" arguments "):")
  | .openings, .while => some (tagAround "while (" arguments "):")
  | .unless, .unless => some (tagAround "if (!(" arguments ")):")
  | .includes, .include => some (tagAround "echo __env.make(" arguments ", defined_vars());")
  | .each, .each => some (tagAround "echo __env.show_each(" arguments ");")
  | .yields, .yield => some (tagAround "echo __env.yield(" arguments ");")
  | .sectionStart, .section => some (tagAround "__env.start_section(" arguments ");")
  | _, _ => none

/-- The code of a piece, if the pass lowers it. Arguments do not matter to a directive that takes
none; a directive that takes some is not lowered without them. -/
def Pass.lower? (pass : Pass) : Piece → Option (List Char)
  | .text _ => none
  | .code _ => none
  | .comment content closed _ =>
      if pass = .comments then some (commentCode content closed) else none
  | .echo expression _ =>
      if pass = .echos then some (tagAround "echo " expression ";") else none
  | .directive kind arguments _ =>
      match pass.lowerPlain? kind with
      | some code => some code
      | none => arguments.bind fun arguments => pass.lowerApplied? arguments kind

def Pass.lowerPiece (pass : Pass) (piece : Piece) : Piece :=
  match pass.lower? piece with
  | some code => .code code
  | none => piece

/-! ## Inheritance -/

/-- The first line of a text, its line break and what follows. A text without a line break is one
line. -/
def splitLine (text : List Char) : List Char × List Char × List Char :=
  match breakOn? ['\n'] text with
  | some (line, rest) =>
      if line.getLast? = some '\r' then (line.dropLast, ['\r', '\n'], rest)
      else (line, ['\n'], rest)
  | none => (text, [], [])

/-- A text piece, unless the text is empty. -/
def textPieces (content : List Char) : List Piece :=
  if content = [] then [] else [.text content]

/-- The rest of the line of a leading directive, its line break, and the pieces that follow. -/
def splitFirstLine : List Piece → List Char × List Char × List Piece
  | .text content :: pieces =>
      let (line, lineBreak, rest) := splitLine content
      (line, lineBreak, textPieces rest ++ pieces)
  | pieces => ([], [], pieces)

/-- Whether the last piece is text that ends in a line feed. -/
def endsInLineFeed (pieces : List Piece) : Bool :=
  match pieces.getLast? with
  | some (.text content) => content.getLast? == some '\n'
  | _ => false

/-- Moves an `extends` directive at the very beginning to the end, as an `include`. The rest of its
line goes behind it; its line break goes in front of it when the body does not end in one. -/
def inherit : List Piece → List Piece
  | .directive .extends (some arguments) _ :: pieces =>
      let (trailing, lineBreak, body) := splitFirstLine pieces
      let separator :=
        if body = [] ∨ endsInLineFeed body then [] else textPieces lineBreak
      body ++ separator ++
        .directive .include (some arguments) ("@include(".toList ++ arguments ++ [')']) ::
        textPieces trailing
  | pieces => pieces

/-! ## Running passes -/

def Pass.apply (pass : Pass) (pieces : List Piece) : List Piece :=
  match pass with
  | .inheritance => inherit pieces
  | pass => pieces.map pass.lowerPiece

/-- The passes to run for a selection: in the order of `Pass.all`, each at most once. -/
def Pass.selected (selection : List Pass) : List Pass :=
  Pass.all.filter fun pass => pass ∈ selection

/-- Lowers a view by the passes of a selection. -/
def lower (selection : List Pass) (source : List Char) : List Char :=
  ((Pass.selected selection).foldl (fun pieces pass => pass.apply pieces) (pieces source)).flatMap
    Piece.raw

/-- Compiles a view to a fragment with the passes of a selection. -/
def compileWith (selection : List Pass) (source : String) : String :=
  String.ofList (lower selection source.toList)

/-- Compiles a view to a fragment. -/
def compile (source : String) : String :=
  compileWith Pass.all source

end ViewTemplate.Directive
