import ViewTemplate.Proofs.TagActions
import ViewTemplate.Proofs.TakenTokens

/-!
The code tags that inclusions of views are lowered to. Whatever the arguments of an inclusion are,
its tag is refused, or it echoes a view that is made with these arguments and, behind them, with the
variables in scope (`clausesFrom_include`).
-/

namespace ViewTemplate

open Directive Fragment Text

namespace Fragment

/-! ## Calls that are refused -/

section Refused

variable {α β : Type} {fits later : List Token → Prop}

theorem Leaves.bind_eq_error {reading : Except SyntaxError (α × { rest : List Token // fits rest })}
    {value : α} {rest : List Token} {error : SyntaxError}
    {next : α × { rest : List Token // fits rest } →
      Except SyntaxError (β × { rest : List Token // later rest })}
    (first : Leaves reading value rest)
    (second : ∀ proof, next (value, ⟨rest, proof⟩) = .error error) :
    reading >>= next = .error error := by
  obtain ⟨proof, rfl⟩ := first
  exact second proof

theorem bind_eq_error {reading : Except SyntaxError α} {error : SyntaxError}
    (refused : reading = .error error) (next : α → Except SyntaxError β) :
    reading >>= next = .error error := by
  rw [refused]
  rfl

variable {ending : Ending} {expression operand : Reader Expression} {first dot name opening : Token}
  {inner : List Token} {error : SyntaxError}
  (target : first.kind = .identifier) (environment : String.ofList first.text = environmentName)
  (selects : dot.kind = .symbol .dot) (method : name.kind = .identifier)
  (opens : opening.kind = .symbol .leftParenthesis)

include target environment selects method opens

theorem readOperand_method_eq_error
    (refused : readArguments ending expression inner = .error error) :
    readOperand ending operand expression (first :: dot :: name :: opening :: inner) =
      .error error := by
  have noOperator : unaryOperator? first.kind = none := by rw [target]; rfl
  have notCall : dot.kind ≠ .symbol .leftParenthesis := by simp [selects]
  have member : readMember ending expression (.variable first.identifier)
      (name :: opening :: inner) = .error error := by
    rw [readMember, method]
    simp only [peek, bind, Except.bind, Shorter.tail, opens]
    rw [if_pos (by rw [isEnvironment]; exact beq_iff_eq.2 environment)]
    exact (leaves_readKind opens).bind_eq_error fun proof => bind_eq_error refused _
  have selected : readSelectors ending expression (.variable first.identifier)
      (dot :: name :: opening :: inner) = .error error := by
    rw [readSelectors]
    simp only [peek, bind, Except.bind, selects]
    exact (leaves_readKind selects).bind_eq_error fun proof => bind_eq_error member _
  rw [readOperand, noOperator]
  exact (leaves_readPrimary_variable target notCall).bind_eq_error fun proof =>
    bind_eq_error selected _

theorem readClauses_echo_method_eq_error {echo : Token} (keyword : echo.kind = .keyword .echo)
    (refused : readArguments ending (readBinary ending (operandAt ending (maxDepth - 2))) inner =
      .error error) :
    readClauses ending true (echo :: first :: dot :: name :: opening :: inner) =
      ⟨[], .failed error⟩ := by
  have called : readExpression ending (first :: dot :: name :: opening :: inner) = .error error :=
    bind_eq_error (readOperand_method_eq_error target environment selects method opens refused) _
  have clause : readClause ending (echo :: first :: dot :: name :: opening :: inner) =
      .error error := by
    rw [readClause, keyword]
    exact bind_eq_error (bind_eq_error called _) _
  rw [readClauses, keyword, clause]

end Refused

/-! ## Arguments that break off -/

/-- No expression goes on at such a text: a tag ends there, or a comment begins, or no token
does. -/
def EndsCode (text : List Char) : Prop :=
  endTag <+: text ∨ ∃ character behind, text = character :: behind ∧
    ∀ kind more, codeToken character behind = .ok (kind, more) → kind = .comment

/-- The tokens of code at such a text. -/
theorem head_significant_of_endsCode {text : List Char} (ends : EndsCode text) (opening : Span)
    (offset : Nat) :
    ∀ token ∈ (scanFrom (.code opening) offset text).significant.head?,
      token.kind = .endTag ∨ token.kind = .comment := by
  by_cases closed : endTag <+: text
  · obtain ⟨rest, rfl⟩ := closed
    rw [scanFrom_code_endTag, significant_cons (by simp)]
    rintro token ⟨⟩
    exact .inl rfl
  · obtain ⟨character, behind, rfl, comments⟩ := ends.resolve_left closed
    have noEnd := stripInitial?_eq_none_iff.2 closed
    cases begun : codeToken character behind with
    | error fault =>
        rw [scanFrom]
        split
        next closed => cases noEnd.symm.trans closed
        next =>
          rw [begun]
          rintro token ⟨⟩
    | ok token =>
        obtain ⟨kind, more⟩ := token
        obtain rfl := comments kind more begun
        rw [scanFrom_code noEnd begun, significant_cons (by simp)]
        rintro token ⟨⟩
        exact .inr rfl

theorem kind_of_codeToken_slash {behind : List Char} {kind : TokenKind} {more : Nat}
    (comment : behind.head? = some '/' ∨ behind.head? = some '*')
    (begun : codeToken '/' behind = .ok (kind, more)) : kind = .comment := by
  cases behind with
  | nil => simp at comment
  | cons next behind =>
      rcases comment with ⟨⟨⟩⟩ | ⟨⟨⟩⟩
      · cases begun
        rfl
      · rw [codeToken] at begun
        split at begun <;> cases begun
        rfl

/-- Closed arguments are cut into lexemes in front of what stands behind them, or the code stops in
them. -/
theorem cases_of_closed {depth : Nat} {text : List Char}
    (closed : trackAll (.outside, depth) text = some (.outside, 0)) {stop : Char}
    (stops : EndsArguments stop) (rest : List Char) :
    (∃ lexemes, IsCutInto depth text (stop :: rest) lexemes) ∨
      ∃ lexemes character others,
        IsCutUpTo EndsCode depth text (stop :: rest) lexemes character others := by
  have step : ∀ depth character behind,
      trackAll (.outside, depth) (character :: behind) = some (.outside, 0) →
        EndsCode (character :: (behind ++ stop :: rest)) ∨
          stripInitial? endTag (character :: (behind ++ stop :: rest)) = none ∧
            IsToken depth character behind (stop :: rest) := by
    intro depth character behind closed
    by_cases ended : endTag <+: character :: (behind ++ stop :: rest)
    · exact .inl (.inl ended)
    by_cases commented : character = '/' ∧
        ((behind ++ stop :: rest).head? = some '/' ∨ (behind ++ stop :: rest).head? = some '*')
    · obtain ⟨rfl, comment⟩ := commented
      exact .inl (.inr ⟨_, _, rfl, fun kind more => kind_of_codeToken_slash comment⟩)
    have noComment : character = '/' → (behind ++ stop :: rest).head? ≠ some '/' ∧
        (behind ++ stop :: rest).head? ≠ some '*' := by
      intro slash
      exact not_or.1 fun comment => commented ⟨slash, comment⟩
    rcases codeToken_of_closed closed stops rest noComment with refused | token
    · refine .inl (.inr ⟨_, _, rfl, fun kind more begun => ?_⟩)
      cases refused.symm.trans begun
    · exact .inr ⟨stripInitial?_eq_none_iff.2 ended, token⟩
  have later : ∀ depth depth' first second,
      trackAll (.outside, depth) (first ++ second) = some (.outside, 0) →
        trackAll (.outside, depth) first = some (.outside, depth') →
          trackAll (.outside, depth') second = some (.outside, 0) := by
    intro depth depth' first second closed tracked
    rwa [trackAll_append tracked] at closed
  have outside : ∀ depth, trackAll (.outside, depth) [] = some (.outside, 0) → depth = 0 :=
    fun depth closed => (Prod.mk.inj (Option.some.inj closed)).2
  exact cases_of_steps (fun depth text => trackAll (.outside, depth) text = some (.outside, 0))
    outside step later closed

/-- The parentheses of lexemes are those of their tokens, since white space has none. -/
theorem openBehindTokens?_place (depth offset : Nat) (lexemes : List Lexeme) :
    openBehindTokens? depth (significantOf (place offset lexemes)) =
      openBehindAll? depth lexemes := by
  induction lexemes generalizing depth offset with
  | nil => rfl
  | cons lexeme lexemes inductionHypothesis =>
      obtain ⟨kind, text⟩ := lexeme
      by_cases white : kind = .whitespace
      · subst white
        exact inductionHypothesis depth _
      · have significant : significantOf (place offset (⟨kind, text⟩ :: lexemes)) =
            ⟨kind, text, offset⟩ :: significantOf (place (offset + byteLength text) lexemes) := by
          simp [place, significantOf, white]
        rw [significant, openBehindTokens?, List.foldlM_cons, openBehindAll?, List.foldlM_cons]
        exact bind_congr fun next => inductionHypothesis next _

end Fragment

/-! ## Inclusions -/

namespace Directive

theorem isName_make : isName "make" = true := rfl

/-- What stands around the arguments of an inclusion: the call that makes the view, with the
variables in scope behind them. -/
abbrev Surroundings.including : Surroundings :=
  .ofMethod "make" isName_make true true

section Including

/-- The tokens of an inclusion up to the parenthesis in front of its arguments. -/
theorem significantOf_including (lexemes : List Lexeme) (offset : Nat) :
    ∃ echo first dot name opening inside,
      significantOf (place offset
          (Surroundings.including.before ++ Symbol.leftParenthesis.lexeme :: lexemes)) =
        echo :: first :: dot :: name :: opening :: significantOf (place inside lexemes) ∧
      echo.kind = .keyword .echo ∧ first.kind = .identifier ∧
        String.ofList first.text = environmentName ∧ dot.kind = .symbol .dot ∧
          name.kind = .identifier ∧ name.text = "make".toList ∧
            opening.kind = .symbol .leftParenthesis := by
  rw [place_append, significantOf_append]
  exact ⟨_, _, _, _, _, _, rfl, rfl, rfl, rfl, rfl, rfl, rfl, rfl⟩

/-- The tokens of an inclusion behind its arguments. -/
theorem significantOf_scope (lexemes : List Lexeme) (offset : Nat) :
    ∃ comma name opening inner close semicolon,
      significantOf (place offset (lexemes ++ Surroundings.including.added ++
          Symbol.rightParenthesis.lexeme :: Surroundings.including.behind)) =
        significantOf (place offset lexemes) ++
          [comma, name, opening, inner, close, semicolon] ∧
      comma.kind = .symbol .comma ∧ name.kind = .identifier ∧
        name.text = scopeFunctionName.toList ∧ opening.kind = .symbol .leftParenthesis ∧
          inner.kind = .symbol .rightParenthesis ∧ close.kind = .symbol .rightParenthesis ∧
            semicolon.kind = .symbol .semicolon := by
  rw [List.append_assoc, place_append, significantOf_append]
  exact ⟨_, _, _, _, _, _, rfl, rfl, rfl, rfl, rfl, rfl, rfl, rfl⟩

/-- A call that makes a view with these arguments and, behind them, with the variables in scope. -/
def IsInclusion (given : List Expression) (call : Expression) : Prop :=
  ∃ name scope inner span, name.name = "make" ∧ scope.name = scopeFunctionName ∧
    call = .method name (given ++ [.call scope [] inner]) span

variable (offset : Nat) {lexemes : List Lexeme}

/-- The tag of an inclusion whose arguments are cut into lexemes is refused, or it echoes the view
that is made. -/
theorem clausesFrom_including_of_lexes {rest : List Char}
    (lexes : Lexes (codeOf Surroundings.including.added ++
      ')' :: (codeOf Surroundings.including.behind ++ (endTag ++ rest))) lexemes)
    (balanced : IsBalanced lexemes) :
    (∃ error, clausesFrom offset (Surroundings.including.code (codeOf lexemes) ++ rest) =
        ⟨[], .failed error⟩) ∨
      ∃ given call span, IsInclusion given call ∧
        clausesFrom offset (Surroundings.including.code (codeOf lexemes) ++ rest) =
          (clausesFrom (offset + byteLength (Surroundings.including.code (codeOf lexemes)))
            rest).cons ⟨.action (.echo call), span⟩ := by
  let inner := lexemes ++ Surroundings.including.added
  have code : Surroundings.including.code (codeOf lexemes) =
      tagOf (Surroundings.including.lexemes inner) :=
    Surroundings.including.code_eq_tagOf List.flatMap_append
  have whole : Lexes (endTag ++ rest) (Surroundings.including.lexemes inner) :=
    Surroundings.including.lexes_lexemes
      (lexes_append.2 ⟨lexes, Surroundings.including.lexesAdded _⟩)
  obtain ⟨ending, mark, tokens, closed, tag, behind⟩ := exists_clausesFrom_tagOf offset whole
  obtain ⟨echo, first, dot, name, opening, inside, parts, keyword, target, environment, selects,
    method, called, opens⟩ := significantOf_including
      (inner ++ Symbol.rightParenthesis.lexeme :: Surroundings.including.behind) (offset + 2)
  obtain ⟨comma, scope, opening', inner', close, semicolon, parts', separates, isName, isScope,
    opens', closes', closes, ends⟩ := significantOf_scope lexemes inside
  have front : openBehindTokens? 0 (significantOf (place inside lexemes)) = some 0 := by
    rw [openBehindTokens?_place]
    exact balanced
  rw [code, tag, behind, Surroundings.lexemes, parts, parts']
  simp only [List.cons_append, List.append_assoc, List.nil_append]
  have stop : EndsExpression semicolon.kind := ends ▸ endsExpression_semicolon
  cases read : readArguments ending (readBinary ending (operandAt ending (maxDepth - 2)))
      (significantOf (place inside lexemes) ++ comma :: scope :: opening' :: inner' :: close ::
        semicolon :: mark :: tokens) with
  | error error =>
      exact .inl ⟨error,
        readClauses_echo_method_eq_error target environment selects method opens keyword read⟩
  | ok result =>
      obtain ⟨⟨values, last⟩, left, shorter⟩ := result
      obtain ⟨isClose, rfl, given, isGiven⟩ :=
        (gives_readArguments_call separates isName opens' closes' closes _ front).ofReading read
      obtain rfl : last = close := isClose
      have makes : name.identifier.name = "make" := by
        rw [Token.identifier, called, String.ofList_toList]
      have lists : scope.identifier.name = scopeFunctionName := by
        rw [Token.identifier, isScope, String.ofList_toList]
      refine .inr ⟨given, .method name.identifier values (first.span.cover last.span), echo.span,
        ?_, ?_⟩
      · exact ⟨_, _, _, _, makes, lists, congrArg (Expression.method _ · _) isGiven⟩
      · have clauses := readClauses_echo_method target environment selects method opens
          ⟨shorter, read⟩ stop keyword
        rw [readClauses_semicolon ends, readClauses_endTag closed] at clauses
        exact clauses

/-- The tag of an inclusion is refused if the code stops in the arguments. -/
theorem clausesFrom_including_of_stops {left : List Char} (lexes : Lexes left lexemes)
    {depth : Nat} (opened : openBehindAll? 0 lexemes = some depth) (ends : EndsCode left) :
    ∃ error, clausesFrom offset
        (beginTag ++ (codeOf (Surroundings.including.before ++
          Symbol.leftParenthesis.lexeme :: lexemes) ++ left)) = ⟨[], .failed error⟩ := by
  obtain ⟨echo, first, dot, name, opening, inside, parts, keyword, target, environment, selects,
    method, -, opens⟩ := significantOf_including lexemes (offset + 2)
  rw [clausesFrom, scanFrom_text_beginTag,
    scanFrom_codeOf (Surroundings.including.lexes_opened lexes)]
  simp only [significant_cons, significant_prepend, ne_eq, reduceCtorEq, not_false_eq_true]
  rw [readClauses_beginTag rfl, parts]
  have front : openBehindTokens? 0 (significantOf (place inside lexemes)) = some depth := by
    rw [openBehindTokens?_place, opened]
  let opening' : Span := ⟨offset, offset + 2⟩
  let scanned := scanFrom (.code opening') (offset + 2 + byteLength (codeOf
    (Surroundings.including.before ++ Symbol.leftParenthesis.lexeme :: lexemes))) left
  have unclosed : Gives (fun _ _ => False)
      (readArguments scanned.ending
        (readBinary scanned.ending (operandAt scanned.ending (maxDepth - 2)))
        (significantOf (place inside lexemes) ++ scanned.significant)) :=
    gives_readArguments_unclosed (takesClosed_expressionAt (maxDepth - 1)) front
      (head_significant_of_endsCode ends opening' _)
  cases read : readArguments scanned.ending
      (readBinary scanned.ending (operandAt scanned.ending (maxDepth - 2)))
      (significantOf (place inside lexemes) ++ scanned.significant) with
  | error error =>
      exact ⟨error,
        readClauses_echo_method_eq_error target environment selects method opens keyword read⟩
  | ok result => exact (unclosed.ofReading read).elim

/-- The tag of an inclusion with closed arguments is refused, or it echoes the view that is made. -/
theorem clausesFrom_including {text : List Char}
    (closed : trackAll (.outside, 0) text = some (.outside, 0)) (rest : List Char) :
    (∃ error, clausesFrom offset (Surroundings.including.code text ++ rest) =
        ⟨[], .failed error⟩) ∨
      ∃ given call span, IsInclusion given call ∧
        clausesFrom offset (Surroundings.including.code text ++ rest) =
          (clausesFrom (offset + byteLength (Surroundings.including.code text)) rest).cons
            ⟨.action (.echo call), span⟩ := by
  obtain ⟨others, following⟩ : ∃ others, ∀ last,
      codeOf Surroundings.including.added ++ ')' :: last = ',' :: (others ++ last) :=
    ⟨(codeOf Surroundings.including.added).drop 1 ++ [')'], fun last => rfl⟩
  let last := codeOf Surroundings.including.behind ++ (endTag ++ rest)
  rcases cases_of_closed closed (.inr rfl) (others ++ last) with
    ⟨lexemes, cut⟩ | ⟨lexemes, character, behind, cut⟩
  · have lexes := cut.lexes
    rw [← following] at lexes
    have cases := clausesFrom_including_of_lexes offset lexes cut.closed
    rwa [cut.code] at cases
  · obtain ⟨depth, opened⟩ := cut.opened
    have parts : Surroundings.including.code text ++ rest =
        beginTag ++ (codeOf (Surroundings.including.before ++
          Symbol.leftParenthesis.lexeme :: lexemes) ++
            character :: (behind ++ ',' :: (others ++ last))) := by
      rw [← following, Surroundings.code, cut.parts]
      simp [last, codeOf, Symbol.lexeme, Symbol.text]
    rw [parts]
    exact .inl (clausesFrom_including_of_stops offset cut.lexes opened cut.stops)

end Including

theorem trackAll_of_recognize? {kind : Kind} {text arguments raw behind : List Char}
    (recognized : recognize? text = some (.directive kind (some arguments) raw, behind)) :
    trackAll (.outside, 0) arguments = some (.outside, 0) := by
  rcases cases_of_recognize? recognized with
    ⟨_, _, _, same, _⟩ | ⟨_, _, same⟩ | ⟨_, _, _, same, applied⟩
  · cases same
  · cases same
  · cases same
    obtain ⟨-, _, read⟩ := applied arguments rfl
    exact trackAll_of_readArguments? read

/-- The code that an inclusion is lowered to. -/
def includeCode (arguments : List Char) : List Char :=
  tagAround "echo __env.make(" arguments ", defined_vars());"

theorem lowered_include (arguments raw : List Char) :
    (Piece.directive .include (some arguments) raw).lowered = .code (includeCode arguments) :=
  rfl

/-- Wherever a view is included, the code of the inclusion is refused, or it echoes the view that is
made with the arguments of the inclusion and with the variables in scope. -/
theorem clausesFrom_include {text arguments raw behind : List Char}
    (recognized : recognize? text = some (.directive .include (some arguments) raw, behind))
    (offset : Nat) (rest : List Char) :
    (∃ error, clausesFrom offset (includeCode arguments ++ rest) = ⟨[], .failed error⟩) ∨
      ∃ given call span, IsInclusion given call ∧
        clausesFrom offset (includeCode arguments ++ rest) =
          (clausesFrom (offset + byteLength (includeCode arguments)) rest).cons
            ⟨.action (.echo call), span⟩ := by
  have isOfKind : Surroundings.ofKind? .include = some Surroundings.including := rfl
  have same : includeCode arguments = Surroundings.including.code arguments :=
    Piece.code.inj (Surroundings.lowered_of_ofKind? isOfKind arguments raw)
  rw [same]
  exact clausesFrom_including offset (trackAll_of_recognize? recognized) rest

end Directive

end ViewTemplate
