import ViewTemplate.Proofs.Tags
import ViewTemplate.Render.Machine

/-!
The code tags that directives are lowered to, and what they do: starting, stopping and yielding a
section, and rendering another view.
-/

namespace ViewTemplate

open Fragment

namespace Fragment

/-! ## Lexemes -/

def punctuation (symbol : Symbol) (character : Char) : Lexeme := ⟨.symbol symbol, [character]⟩

/-- A call on the environment, up to the end of its tag. -/
def callLexemes (method : String) (arguments : List Lexeme) : List Lexeme :=
  [nameLexeme environmentName, punctuation .dot '.', nameLexeme method,
    punctuation .leftParenthesis '('] ++ arguments ++
      [punctuation .rightParenthesis ')', punctuation .semicolon ';', space]

def startLexemes (name : List Char) : List Lexeme :=
  space :: callLexemes "start_section" [⟨.string, literalText name⟩]

def stopLexemes : List Lexeme :=
  space :: callLexemes "stop_section" []

def yieldLexemes : List Lexeme :=
  echoLexemes ++ callLexemes "yield_section" []

def makeLexemes (view : List Char) : List Lexeme :=
  echoLexemes ++ callLexemes "make"
    [⟨.string, literalText view⟩, punctuation .comma ',', space, nameLexeme scopeFunctionName,
      punctuation .leftParenthesis '(', punctuation .rightParenthesis ')']

section Cutting

variable (rest : List Char)

theorem lexes_startLexemes (name : List Char) : Lexes (endTag ++ rest) (startLexemes name) :=
  ⟨⟨_, _, rfl, rfl, rfl⟩, ⟨_, _, rfl, rfl, rfl⟩, ⟨_, _, rfl, rfl, rfl⟩, ⟨_, _, rfl, rfl, rfl⟩,
    ⟨_, _, rfl, rfl, rfl⟩, ⟨_, _, rfl, rfl, codeToken_literalText name _⟩, ⟨_, _, rfl, rfl, rfl⟩,
    ⟨_, _, rfl, rfl, rfl⟩, ⟨_, _, rfl, rfl, rfl⟩, trivial⟩

theorem lexes_stopLexemes : Lexes (endTag ++ rest) stopLexemes :=
  ⟨⟨_, _, rfl, rfl, rfl⟩, ⟨_, _, rfl, rfl, rfl⟩, ⟨_, _, rfl, rfl, rfl⟩, ⟨_, _, rfl, rfl, rfl⟩,
    ⟨_, _, rfl, rfl, rfl⟩, ⟨_, _, rfl, rfl, rfl⟩, ⟨_, _, rfl, rfl, rfl⟩, ⟨_, _, rfl, rfl, rfl⟩,
    trivial⟩

theorem lexes_yieldLexemes : Lexes (endTag ++ rest) yieldLexemes :=
  ⟨⟨_, _, rfl, rfl, rfl⟩, ⟨_, _, rfl, rfl, rfl⟩, ⟨_, _, rfl, rfl, rfl⟩, ⟨_, _, rfl, rfl, rfl⟩,
    ⟨_, _, rfl, rfl, rfl⟩, ⟨_, _, rfl, rfl, rfl⟩, ⟨_, _, rfl, rfl, rfl⟩, ⟨_, _, rfl, rfl, rfl⟩,
    ⟨_, _, rfl, rfl, rfl⟩, ⟨_, _, rfl, rfl, rfl⟩, trivial⟩

theorem lexes_makeLexemes (view : List Char) : Lexes (endTag ++ rest) (makeLexemes view) :=
  ⟨⟨_, _, rfl, rfl, rfl⟩, ⟨_, _, rfl, rfl, rfl⟩, ⟨_, _, rfl, rfl, rfl⟩, ⟨_, _, rfl, rfl, rfl⟩,
    ⟨_, _, rfl, rfl, rfl⟩, ⟨_, _, rfl, rfl, rfl⟩, ⟨_, _, rfl, rfl, rfl⟩,
    ⟨_, _, rfl, rfl, codeToken_literalText view _⟩, ⟨_, _, rfl, rfl, rfl⟩, ⟨_, _, rfl, rfl, rfl⟩,
    ⟨_, _, rfl, rfl, rfl⟩, ⟨_, _, rfl, rfl, rfl⟩, ⟨_, _, rfl, rfl, rfl⟩, ⟨_, _, rfl, rfl, rfl⟩,
    ⟨_, _, rfl, rfl, rfl⟩, ⟨_, _, rfl, rfl, rfl⟩, trivial⟩

end Cutting

/-! ## Clauses -/

/-- A call of a method of the environment. -/
def IsCall (method : String) (arguments : List Expression → Prop) : Expression → Prop
  | .method name values _ => name.name = method ∧ arguments values
  | _ => False

/-- Lexemes between the parentheses of a call are read as its arguments, wherever they stand. -/
def ReadsAsArguments (lexemes : List Lexeme) (arguments : List Expression → Prop) : Prop :=
  ∀ offset, ∃ values, arguments values ∧
    ∀ ending levels close token tokens,
      close.kind = .symbol .rightParenthesis → EndsExpression token.kind →
        Leaves
          (readArguments ending (readBinary ending (operandAt ending levels))
            (significantOf (place offset lexemes) ++ close :: token :: tokens))
          (values, close) (token :: tokens)

/-- The lexemes of a tag are read as an action, wherever the tag stands. -/
def ReadsAs (lexemes : List Lexeme) (action : Action → Prop) : Prop :=
  ∀ offset, ∃ performed span, action performed ∧
    ∀ ending mark tokens, mark.kind = .endTag →
      readClauses ending true (significantOf (place offset lexemes) ++ mark :: tokens) =
        (readClauses ending false tokens).cons ⟨.action performed, span⟩

section Calls

variable (method : String) {lexemes : List Lexeme} {arguments : List Expression → Prop}

/-- The tokens of a call stand around those of its arguments. -/
theorem significantOf_callLexemes (lexemes : List Lexeme) (offset : Nat) :
    ∃ first dot name opening close semicolon inside,
      significantOf (place offset (callLexemes method lexemes)) =
          first :: dot :: name :: opening ::
            (significantOf (place inside lexemes) ++ [close, semicolon]) ∧
        first.kind = .identifier ∧ String.ofList first.text = environmentName ∧
          dot.kind = .symbol .dot ∧ name.kind = .identifier ∧
            name.text = method.toList ∧ opening.kind = .symbol .leftParenthesis ∧
              close.kind = .symbol .rightParenthesis ∧ semicolon.kind = .symbol .semicolon := by
  rw [callLexemes, place_append, place_append, significantOf_append, significantOf_append]
  exact ⟨_, _, _, _, _, _, _, rfl, rfl, rfl, rfl, rfl, rfl, rfl, rfl, rfl⟩

theorem readsAs_callLexemes (reads : ReadsAsArguments lexemes arguments) :
    ReadsAs (space :: callLexemes method lexemes) fun action =>
      ∃ call, action = .evaluate call ∧ IsCall method arguments call := by
  intro offset
  obtain ⟨first, dot, name, opening, close, semicolon, inside, tokens_eq, target, environment,
    selects, isName, text, opens, closes, ends⟩ :=
    significantOf_callLexemes method lexemes (offset + Text.byteLength space.text)
  obtain ⟨values, given, read⟩ := reads inside
  refine ⟨_, first.span, ⟨.method name.identifier values (first.span.cover close.span), rfl,
    by rw [Token.identifier, text, String.ofList_toList], given⟩,
    fun ending mark tokens closed => ?_⟩
  have stop : EndsExpression semicolon.kind := ends ▸ endsExpression_semicolon
  have clauses := readClauses_method target environment selects isName opens
    (read ending _ close semicolon (mark :: tokens) closes stop) stop
  rw [readClauses_semicolon ends, readClauses_endTag closed] at clauses
  rw [← clauses]
  change readClauses ending true
    (significantOf (place (offset + Text.byteLength space.text) (callLexemes method lexemes)) ++
      mark :: tokens) = _
  rw [tokens_eq]
  simp

theorem readsAs_echo_callLexemes (reads : ReadsAsArguments lexemes arguments) :
    ReadsAs (echoLexemes ++ callLexemes method lexemes) fun action =>
      ∃ call, action = .echo call ∧ IsCall method arguments call := by
  intro offset
  obtain ⟨first, dot, name, opening, close, semicolon, inside, tokens_eq, target, environment,
    selects, isName, text, opens, closes, ends⟩ :=
    significantOf_callLexemes method lexemes (offset + Text.byteLength (codeOf echoLexemes))
  obtain ⟨echo, keyword, parts⟩ : ∃ echo, echo.kind = .keyword .echo ∧
      significantOf (place offset (echoLexemes ++ callLexemes method lexemes)) =
        echo :: significantOf (place (offset + Text.byteLength (codeOf echoLexemes))
          (callLexemes method lexemes)) := by
    rw [place_append, significantOf_append]
    exact ⟨_, rfl, rfl⟩
  obtain ⟨values, given, read⟩ := reads inside
  refine ⟨_, echo.span, ⟨.method name.identifier values (first.span.cover close.span), rfl,
    by rw [Token.identifier, text, String.ofList_toList], given⟩,
    fun ending mark tokens closed => ?_⟩
  have stop : EndsExpression semicolon.kind := ends ▸ endsExpression_semicolon
  have clauses := readClauses_echo_method target environment selects isName opens
    (read ending _ close semicolon (mark :: tokens) closes stop) stop keyword
  rw [readClauses_semicolon ends, readClauses_endTag closed] at clauses
  rw [← clauses, parts, tokens_eq]
  simp

end Calls

/-! ### Arguments -/

theorem readsAsArguments_nil : ReadsAsArguments [] fun values => values = [] := by
  intro offset
  exact ⟨[], rfl, fun ending levels close token tokens closes _ => leaves_readArguments_nil closes⟩

theorem readsAsArguments_string (text : List Char) :
    ReadsAsArguments [⟨.string, literalText text⟩] fun values =>
      ∃ span, values = [.literal (.string (String.ofList text)) span] := by
  intro offset
  obtain ⟨literal, parts, string, written⟩ : ∃ literal,
      significantOf (place offset [⟨.string, literalText text⟩]) = [literal] ∧
        literal.kind = .string ∧ literal.text = literalText text :=
    ⟨_, rfl, rfl, rfl⟩
  refine ⟨_, ⟨literal.span, rfl⟩, fun ending levels close token tokens closes _ => ?_⟩
  rw [parts]
  have opens : literal.kind ≠ .symbol .rightParenthesis := by simp [string]
  exact leaves_readArguments_last opens
    (leaves_argument_string levels string (readString_literalText written)
      (closes ▸ endsExpression_rightParenthesis)) closes

theorem readsAsArguments_make (text : List Char) :
    ReadsAsArguments
      [⟨.string, literalText text⟩, punctuation .comma ',', space, nameLexeme scopeFunctionName,
        punctuation .leftParenthesis '(', punctuation .rightParenthesis ')']
      fun values => ∃ span name call, name.name = scopeFunctionName ∧
        values = [.literal (.string (String.ofList text)) span, .call name [] call] := by
  intro offset
  obtain ⟨literal, comma, name, opening, inner, parts, string, written, separates, isName, spelled,
      opens, closesInner⟩ : ∃ literal comma name opening inner,
      significantOf (place offset [⟨.string, literalText text⟩, punctuation .comma ',', space,
        nameLexeme scopeFunctionName, punctuation .leftParenthesis '(',
        punctuation .rightParenthesis ')']) = [literal, comma, name, opening, inner] ∧
        literal.kind = .string ∧ literal.text = literalText text ∧ comma.kind = .symbol .comma ∧
          name.kind = .identifier ∧ name.text = scopeFunctionName.toList ∧
            opening.kind = .symbol .leftParenthesis ∧ inner.kind = .symbol .rightParenthesis :=
    ⟨_, _, _, _, _, rfl, rfl, rfl, rfl, rfl, rfl, rfl, rfl⟩
  refine ⟨_, ⟨literal.span, name.identifier, name.span.cover inner.span,
    by rw [Token.identifier, spelled, String.ofList_toList], rfl⟩,
    fun ending levels close token tokens closes _ => ?_⟩
  rw [parts]
  have notClosing : literal.kind ≠ .symbol .rightParenthesis := by simp [string]
  have nameNotClosing : name.kind ≠ .symbol .rightParenthesis := by simp [isName]
  have scope : Leaves
      (readArguments ending (readBinary ending (operandAt ending levels))
        (name :: opening :: inner :: close :: token :: tokens))
      ([.call name.identifier [] (name.span.cover inner.span)], close) (token :: tokens) :=
    leaves_readArguments_last nameNotClosing
      (leaves_argument_call levels isName opens closesInner
        (closes ▸ endsExpression_rightParenthesis)) closes
  exact leaves_readArguments_cons notClosing
    (leaves_argument_string levels string (readString_literalText written)
      (separates ▸ endsExpression_comma)) separates scope

/-- A tag that a text begins with is an action in front of the clauses of what follows. -/
theorem clausesFrom_of_readsAs {lexemes : List Lexeme} {action : Action → Prop} {rest : List Char}
    (lexes : Lexes (endTag ++ rest) lexemes) (reads : ReadsAs lexemes action) (offset : Nat) :
    ∃ performed span, action performed ∧
      clausesFrom offset (tagOf lexemes ++ rest) =
        (clausesFrom (offset + Text.byteLength (tagOf lexemes)) rest).cons
          ⟨.action performed, span⟩ := by
  obtain ⟨performed, span, is, read⟩ := reads (offset + 2)
  exact ⟨performed, span, is, clausesFrom_tagOf (Clauses.cons _) lexes read⟩

end Fragment

/-! ## Effects -/

namespace RenderContext

variable {σ : Type} (context : RenderContext σ (Render σ)) (page : Page)

theorem perform_startSection {name : String} {call : Expression}
    (isCall : IsCall "start_section"
      (fun values => ∃ span, values = [.literal (.string name) span]) call) :
    context.perform page (.evaluate call) = (do Rendering.start name; return page) := by
  cases call with
  | method identifier values span =>
      obtain ⟨named, literal, rfl⟩ := isCall
      obtain ⟨_, _⟩ := identifier
      cases named
      rfl
  | _ => cases isCall

theorem perform_stopSection {call : Expression}
    (isCall : IsCall "stop_section" (fun values => values = []) call) :
    ∃ span, context.perform page (.evaluate call) =
      (do
        let _ ← Rendering.close .stop context.base (context.errorAt span .sectionUnderflow)
        return page) := by
  cases call with
  | method identifier values span =>
      obtain ⟨named, rfl⟩ := isCall
      obtain ⟨_, _⟩ := identifier
      cases named
      refine ⟨span, ?_⟩
      change ((Rendering.close .stop context.base _ >>= fun text => pure (Value.string text)) >>=
        fun _ => pure page) = _
      rw [bind_assoc]
      rfl
  | _ => cases isCall

theorem perform_yieldSection {call : Expression}
    (isCall : IsCall "yield_section" (fun values => values = []) call) :
    ∃ span, context.perform page (.echo call) =
      (do
        let text ← Rendering.close .yield context.base (context.errorAt span .sectionUnderflow)
        context.emit text page) := by
  cases call with
  | method identifier values span =>
      obtain ⟨named, rfl⟩ := isCall
      obtain ⟨_, _⟩ := identifier
      cases named
      refine ⟨span, ?_⟩
      change ((Rendering.close .yield context.base _ >>= fun text => pure (Value.string text)) >>=
        fun value => context.check _ value.render >>= fun text => context.emit text page) = _
      rw [bind_assoc]
      rfl
  | _ => cases isCall

theorem perform_make {view : String} {call : Expression}
    (isCall : IsCall "make"
      (fun values => ∃ span name inner, name.name = scopeFunctionName ∧
        values = [.literal (.string view) span, .call name [] inner]) call) :
    context.perform page (.echo call) =
      (do
        let output ← context.enter view (Entries.overlay [] page.scope)
        context.emit output page) := by
  cases call with
  | method identifier values span =>
      obtain ⟨named, literal, scope, inner, scopeNamed, rfl⟩ := isCall
      obtain ⟨_, _⟩ := identifier
      obtain ⟨_, _⟩ := scope
      cases named
      cases scopeNamed
      change ((context.enter view _ >>= fun output => pure (Value.string output)) >>=
        fun value => context.check _ value.render >>= fun text => context.emit text page) = _
      rw [bind_assoc]
      rfl
  | _ => cases isCall

end RenderContext

end ViewTemplate
