import ViewTemplate.Proofs.ArgumentTokens
import ViewTemplate.Proofs.Paths

/-!
The code tags that directives with arguments are lowered to. The scan of such a tag fails inside the
arguments or goes through exactly the tag, and in it the parenthesis that opens the arguments is
closed by the one that the lowering puts behind them (`scanFrom_lowered`).
-/

namespace ViewTemplate

open Directive Fragment Text

namespace Fragment

/-! ## Parentheses of lexemes -/

theorem openBehindAll?_append {depth depth' : Nat} {first : List Lexeme}
    (opened : openBehindAll? depth first = some depth') (second : List Lexeme) :
    openBehindAll? depth (first ++ second) = openBehindAll? depth' second := by
  rw [openBehindAll?, List.foldlM_append, ← openBehindAll?, opened]
  rfl

theorem openBehind?_add {depth depth' : Nat} {kind : TokenKind}
    (opened : openBehind? depth kind = some depth') (further : Nat) :
    openBehind? (depth + further) kind = some (depth' + further) := by
  unfold openBehind? at opened
  split at opened
  next =>
    cases opened
    exact congrArg some (Nat.add_right_comm ..)
  next =>
    split at opened <;> cases opened
    rw [Nat.succ_add]
    rfl
  next notOpening notClosing =>
    cases opened
    unfold openBehind?
    split
    next => exact absurd rfl notOpening
    next => exact absurd rfl notClosing
    next => rfl

/-- Parentheses inside others are balanced as they are outside. -/
theorem openBehindAll?_add {depth depth' : Nat} {lexemes : List Lexeme}
    (opened : openBehindAll? depth lexemes = some depth') (further : Nat) :
    openBehindAll? (depth + further) lexemes = some (depth' + further) := by
  induction lexemes generalizing depth with
  | nil =>
      cases opened
      rfl
  | cons lexeme lexemes inductionHypothesis =>
      obtain ⟨next, first, others⟩ := Option.bind_eq_some_iff.1 opened
      rw [openBehindAll?, List.foldlM_cons, openBehind?_add first further]
      exact inductionHypothesis others

/-! ## Tags -/

/-- A code tag as lexemes, with its marks. -/
def tagLexemes (lexemes : List Lexeme) : List Lexeme :=
  ⟨.beginTag, beginTag⟩ :: (lexemes ++ [⟨.endTag, endTag⟩])

theorem codeOf_tagLexemes (lexemes : List Lexeme) :
    codeOf (tagLexemes lexemes) = tagOf lexemes := by
  simp [tagLexemes, tagOf, codeOf]

/-- The scan of a code tag goes on behind it. -/
theorem scanFrom_tagOf {lexemes : List Lexeme} {rest : List Char}
    (lexes : Lexes (endTag ++ rest) lexemes) (offset : Nat) :
    scanFrom .text offset (tagOf lexemes ++ rest) =
      (scanFrom .text (offset + byteLength (tagOf lexemes)) rest).prepend
        (place offset (tagLexemes lexemes)) := by
  have tokens : place offset (tagLexemes lexemes) =
      ⟨.beginTag, beginTag, offset⟩ :: (place (offset + 2) lexemes ++
        [⟨.endTag, endTag, offset + 2 + byteLength (codeOf lexemes)⟩]) := by
    rw [tagLexemes, place, place_append]
    rfl
  rw [tagOf_append, scanFrom_text_beginTag, scanFrom_codeOf lexes, scanFrom_code_endTag,
    byteLength_tagOf, tokens]
  simp [Scanned.cons, Scanned.prepend, Nat.add_assoc]

/-- The scan of a code tag fails at a character that begins no token. -/
theorem ending_scanFrom_of_refused {lexemes : List Lexeme} {character : Char}
    {behind : List Char} (lexes : Lexes (character :: behind) lexemes)
    (noEnd : stripInitial? endTag (character :: behind) = none)
    (refused : codeToken character behind = .error .unexpectedCharacter) (offset : Nat) :
    (scanFrom .text offset (beginTag ++ (codeOf lexemes ++ character :: behind))).ending =
      .failed ⟨.unexpectedCharacter, ⟨offset + byteLength (beginTag ++ codeOf lexemes),
        offset + byteLength (beginTag ++ codeOf lexemes) + character.utf8Size⟩⟩ := by
  have length : byteLength (beginTag ++ codeOf lexemes) = 2 + byteLength (codeOf lexemes) :=
    byteLength_append ..
  rw [scanFrom_text_beginTag, scanFrom_codeOf lexes, scanFrom]
  split
  next closed => cases noEnd.symm.trans closed
  next =>
    rw [refused, length, ← Nat.add_assoc]
    rfl

end Fragment

namespace Directive

/-! ## Code around arguments -/

/-- What the code of a directive has around its arguments: lexemes in front of the parenthesis that
opens them, between them and the parenthesis that closes them, and behind that. -/
structure Surroundings where
  before : List Lexeme
  added : List Lexeme
  behind : List Lexeme
  /-- The number of parentheses that are open around those of the arguments. -/
  depth : Nat
  lexesBefore : ∀ rest, Lexes ('(' :: rest) before
  lexesAdded : ∀ rest, Lexes (')' :: rest) added
  lexesBehind : ∀ rest, Lexes (endTag ++ rest) behind
  opened : openBehindAll? 0 before = some depth
  balanced : IsBalanced added
  closed : openBehindAll? depth behind = some 0
  stops : ∃ stop others, codeOf added ++ [')'] = stop :: others ∧ EndsArguments stop
  isCode : ∀ lexeme ∈ before ++ added ++ behind, lexeme.kind.IsCode

namespace Surroundings

def argumentsStart (surroundings : Surroundings) : Nat :=
  byteLength (beginTag ++ codeOf surroundings.before ++ ['('])

/-- The code tag with arguments in it. -/
def code (surroundings : Surroundings) (arguments : List Char) : List Char :=
  beginTag ++ codeOf surroundings.before ++ '(' ::
    (arguments ++ codeOf surroundings.added ++ ')' :: (codeOf surroundings.behind ++ endTag))

/-- The lexemes of the code tag when those between the parentheses are known. -/
def lexemes (surroundings : Surroundings) (inner : List Lexeme) : List Lexeme :=
  surroundings.before ++ Symbol.leftParenthesis.lexeme ::
    (inner ++ Symbol.rightParenthesis.lexeme :: surroundings.behind)

/-- Arguments of a statement with a body. -/
def ofKeyword (word : Keyword) : Surroundings where
  before := [space, word.lexeme, space]
  added := []
  behind := [Symbol.colon.lexeme, space]
  depth := 0
  lexesBefore rest := by
    cases word <;>
      exact ⟨⟨_, _, rfl, rfl, rfl⟩, ⟨_, _, rfl, rfl, rfl⟩, ⟨_, _, rfl, rfl, rfl⟩, trivial⟩
  lexesAdded _ := trivial
  lexesBehind rest := ⟨⟨_, _, rfl, rfl, rfl⟩, ⟨_, _, rfl, rfl, rfl⟩, trivial⟩
  opened := rfl
  balanced := rfl
  closed := rfl
  stops := ⟨')', [], rfl, .inl rfl⟩
  isCode := by simp [TokenKind.IsCode, space, Keyword.lexeme, Symbol.lexeme]

/-- A condition that is negated. -/
def negated : Surroundings where
  before := [space, Keyword.if.lexeme, space, Symbol.leftParenthesis.lexeme, Symbol.bang.lexeme]
  added := []
  behind := [Symbol.rightParenthesis.lexeme, Symbol.colon.lexeme, space]
  depth := 1
  lexesBefore rest := ⟨⟨_, _, rfl, rfl, rfl⟩, ⟨_, _, rfl, rfl, rfl⟩, ⟨_, _, rfl, rfl, rfl⟩,
    ⟨_, _, rfl, rfl, rfl⟩, ⟨_, _, rfl, rfl, rfl⟩, trivial⟩
  lexesAdded _ := trivial
  lexesBehind rest :=
    ⟨⟨_, _, rfl, rfl, rfl⟩, ⟨_, _, rfl, rfl, rfl⟩, ⟨_, _, rfl, rfl, rfl⟩, trivial⟩
  opened := rfl
  balanced := rfl
  closed := rfl
  stops := ⟨')', [], rfl, .inl rfl⟩
  isCode := by simp [TokenKind.IsCode, space, Keyword.lexeme, Symbol.lexeme]

/-- What a method of the environment is given besides the arguments of the directive. -/
def scopeLexemes : List Lexeme :=
  [Symbol.comma.lexeme, space, nameLexeme scopeFunctionName, Symbol.leftParenthesis.lexeme,
    Symbol.rightParenthesis.lexeme]

/-- Arguments of a method of the environment. -/
def ofMethod (method : String) (named : isName method = true) (echoed withScope : Bool) :
    Surroundings where
  before := (if echoed then echoLexemes else [space]) ++
    [nameLexeme environmentName, Symbol.dot.lexeme, nameLexeme method]
  added := if withScope then scopeLexemes else []
  behind := [Symbol.semicolon.lexeme, space]
  depth := 0
  lexesBefore rest := by
    refine lexes_append.2 ⟨?_, ⟨_, _, rfl, rfl, rfl⟩, isCutFrom_dot _,
      isCutFrom_name named rfl rest, trivial⟩
    cases echoed with
    | true => exact ⟨⟨_, _, rfl, rfl, rfl⟩, ⟨_, _, rfl, rfl, rfl⟩, ⟨_, _, rfl, rfl, rfl⟩, trivial⟩
    | false => exact ⟨⟨_, _, rfl, rfl, rfl⟩, trivial⟩
  lexesAdded rest := by
    cases withScope with
    | true => exact ⟨⟨_, _, rfl, rfl, rfl⟩, ⟨_, _, rfl, rfl, rfl⟩, ⟨_, _, rfl, rfl, rfl⟩,
        ⟨_, _, rfl, rfl, rfl⟩, ⟨_, _, rfl, rfl, rfl⟩, trivial⟩
    | false => trivial
  lexesBehind rest := ⟨⟨_, _, rfl, rfl, rfl⟩, ⟨_, _, rfl, rfl, rfl⟩, trivial⟩
  opened := by cases echoed <;> rfl
  balanced := by cases withScope <;> rfl
  closed := rfl
  stops := by
    cases withScope with
    | true => exact ⟨',', _, rfl, .inr rfl⟩
    | false => exact ⟨')', [], rfl, .inl rfl⟩
  isCode := by
    cases echoed <;> cases withScope <;>
      simp [TokenKind.IsCode, space, echoLexemes, scopeLexemes, nameLexeme, Symbol.lexeme]

/-- What stands around the arguments of a directive, for the kinds that are lowered with theirs. -/
def ofKind? : Kind → Option Surroundings
  | .if => some (ofKeyword .if)
  | .elseif => some (ofKeyword .elseif)
  | .foreach => some (ofKeyword .foreach)
  | .for => some (ofKeyword .for)
  | .while => some (ofKeyword .while)
  | .unless => some negated
  | .include => some (ofMethod "make" rfl true true)
  | .each => some (ofMethod "show_each" rfl true false)
  | .yield => some (ofMethod "yield" rfl true false)
  | .section => some (ofMethod "start_section" rfl false false)
  | _ => none

theorem exists_ofKind? {kind : Kind} (takes : kind.takesArguments = true)
    (notExtends : kind ≠ .extends) : ∃ surroundings, ofKind? kind = some surroundings := by
  cases kind with
  | «extends» => exact absurd rfl notExtends
  | «if» | «elseif» | «foreach» | «for» | «while» | «unless» | «include» | each | yield
  | «section» => exact ⟨_, rfl⟩
  | _ => cases takes

theorem lowered_of_ofKind? {kind : Kind} {surroundings : Surroundings}
    (found : ofKind? kind = some surroundings) (arguments raw : List Char) :
    (Piece.directive kind (some arguments) raw).lowered = .code (surroundings.code arguments) := by
  cases kind <;> cases found
  all_goals
    change Piece.code (tagAround _ arguments _) = _
    simp only [tagAround, tag, code, List.append_assoc]
    rfl

/-! ## Scanning -/

/-- The scan fails at a character of the arguments. -/
def Refuses (surroundings : Surroundings) (arguments : List Char) (offset : Nat)
    (scanned : Scanned) : Prop :=
  ∃ front character others, arguments = front ++ character :: others ∧
    let start := offset + surroundings.argumentsStart + byteLength front
    scanned.ending = .failed ⟨.unexpectedCharacter, ⟨start, start + character.utf8Size⟩⟩

/-- The lexemes from the parenthesis that opens the arguments to the one that closes them, as part
of a code tag. -/
structure Encloses (surroundings : Surroundings) (arguments : List Char)
    (inner : List Lexeme) : Prop where
  code : codeOf inner = arguments ++ codeOf surroundings.added
  balanced : IsBalanced inner
  balancedWhole : IsBalanced (surroundings.lexemes inner)
  isCode : ∀ lexeme ∈ surroundings.lexemes inner, lexeme.kind.IsCode
  covers : codeOf (tagLexemes (surroundings.lexemes inner)) = surroundings.code arguments

section Scanning

variable (surroundings : Surroundings) {text rest : List Char} {inner : List Lexeme}

theorem code_eq_tagOf (same : codeOf inner = text ++ codeOf surroundings.added) :
    surroundings.code text = tagOf (surroundings.lexemes inner) := by
  rw [code, ← same]
  simp [tagOf, lexemes, codeOf, Symbol.lexeme, Symbol.text]

theorem lexes_opened (lexes : Lexes rest inner) :
    Lexes rest (surroundings.before ++ Symbol.leftParenthesis.lexeme :: inner) :=
  lexes_append.2 ⟨surroundings.lexesBefore _, ⟨_, _, rfl, rfl, rfl⟩, lexes⟩

theorem lexes_lexemes
    (lexes : Lexes (')' :: (codeOf surroundings.behind ++ (endTag ++ rest))) inner) :
    Lexes (endTag ++ rest) (surroundings.lexemes inner) :=
  surroundings.lexes_opened
    (lexes_append.2 ⟨lexes, ⟨_, _, rfl, rfl, rfl⟩, surroundings.lexesBehind rest⟩)

theorem balanced_lexemes (balanced : IsBalanced inner) :
    IsBalanced (surroundings.lexemes inner) := by
  have within := openBehindAll?_add balanced (surroundings.depth + 1)
  rw [Nat.zero_add] at within
  rw [IsBalanced, lexemes, openBehindAll?_append surroundings.opened]
  change openBehindAll? (surroundings.depth + 1) _ = _
  rw [openBehindAll?_append within]
  exact surroundings.closed

theorem isCode_lexemes (isCode : ∀ lexeme ∈ inner, lexeme.kind.IsCode) :
    ∀ lexeme ∈ surroundings.lexemes inner, lexeme.kind.IsCode := by
  have around := surroundings.isCode
  simp only [List.forall_mem_append] at around
  simp only [lexemes, List.forall_mem_append, List.forall_mem_cons]
  exact ⟨around.1.1, by simp [Symbol.lexeme, TokenKind.IsCode], isCode,
    by simp [Symbol.lexeme, TokenKind.IsCode], around.2⟩

/-- In code around arguments the scan fails at a character of the arguments, or it goes through the
code tag and nothing else. -/
theorem scanFrom_code (arguments : IsArguments 0 text) (offset : Nat) :
    surroundings.Refuses text offset (scanFrom .text offset (surroundings.code text ++ rest)) ∨
      ∃ inner, surroundings.Encloses text inner ∧
        scanFrom .text offset (surroundings.code text ++ rest) =
          (scanFrom .text (offset + byteLength (surroundings.code text)) rest).prepend
            (place offset (tagLexemes (surroundings.lexemes inner))) := by
  obtain ⟨stop, others, added, stops⟩ := surroundings.stops
  have following (last : List Char) :
      codeOf surroundings.added ++ ')' :: last = stop :: (others ++ last) := by
    rw [← List.singleton_append, ← List.append_assoc, added]
    rfl
  have last := surroundings.lexesAdded (codeOf surroundings.behind ++ (endTag ++ rest))
  rcases cases_of_arguments arguments stops
      (others ++ (codeOf surroundings.behind ++ (endTag ++ rest))) with
    ⟨lexemes, cut⟩ | ⟨lexemes, character, behind, refused⟩
  · have lexes := cut.lexes
    rw [← following] at lexes
    have same : codeOf (lexemes ++ surroundings.added) = text ++ codeOf surroundings.added := by
      rw [← cut.code]
      exact List.flatMap_append
    have balanced : IsBalanced (lexemes ++ surroundings.added) := by
      rw [IsBalanced, openBehindAll?_append cut.closed]
      exact surroundings.balanced
    have isCode : ∀ lexeme ∈ lexemes ++ surroundings.added, lexeme.kind.IsCode :=
      List.forall_mem_append.2 ⟨cut.isCode, fun lexeme member =>
        surroundings.isCode lexeme (by simp [member])⟩
    have covers := surroundings.code_eq_tagOf same
    refine .inr ⟨_, ⟨same, balanced, surroundings.balanced_lexemes balanced,
      surroundings.isCode_lexemes isCode, ?_⟩, ?_⟩
    · rw [codeOf_tagLexemes, covers]
    rw [covers]
    exact scanFrom_tagOf (surroundings.lexes_lexemes (lexes_append.2 ⟨lexes, last⟩)) offset
  · refine .inl ⟨codeOf lexemes, character, behind, refused.parts, ?_⟩
    simp only
    have parts : surroundings.code text ++ rest =
        beginTag ++ (codeOf (surroundings.before ++ Symbol.leftParenthesis.lexeme :: lexemes) ++
          character :: (behind ++ stop :: (others ++
            (codeOf surroundings.behind ++ (endTag ++ rest))))) := by
      rw [← following, code, refused.parts]
      simp [codeOf, Symbol.lexeme, Symbol.text]
    have start : offset + surroundings.argumentsStart + byteLength (codeOf lexemes) = offset +
        byteLength (beginTag ++
          codeOf (surroundings.before ++ Symbol.leftParenthesis.lexeme :: lexemes)) := by
      rw [argumentsStart, Nat.add_assoc, ← byteLength_append]
      simp [codeOf, Symbol.lexeme, Symbol.text]
    have lexes := surroundings.lexes_opened refused.lexes
    rw [parts, start]
    exact ending_scanFrom_of_refused lexes refused.noEnd refused.refused offset

end Scanning

end Surroundings

theorem isArguments_of_recognize? {kind : Kind} {text arguments raw behind : List Char}
    (recognized : recognize? text = some (.directive kind (some arguments) raw, behind))
    (unmarked : Unmarked arguments) :
    kind.takesArguments = true ∧ IsArguments 0 arguments := by
  rcases cases_of_recognize? recognized with
    ⟨_, _, _, same, _⟩ | ⟨_, _, same⟩ | ⟨_, _, _, same, applied⟩
  · cases same
  · cases same
  · cases same
    obtain ⟨takes, _, read⟩ := applied arguments rfl
    exact ⟨takes, trackAll_of_readArguments? read, unmarked⟩

/-- In the code that a directive with arguments is lowered to, the scan fails at a character of the
arguments that begins no token, or its tokens make up exactly that code: a code tag in which the
parenthesis that opens the arguments is closed by the one that was put behind them. -/
theorem scanFrom_lowered {kind : Kind} {text arguments raw behind : List Char}
    (recognized : recognize? text = some (.directive kind (some arguments) raw, behind))
    (notExtends : kind ≠ .extends) (unmarked : Unmarked arguments) (offset : Nat)
    (rest : List Char) :
    ∃ surroundings, Surroundings.ofKind? kind = some surroundings ∧
      (Piece.directive kind (some arguments) raw).lowered =
        .code (surroundings.code arguments) ∧
      (surroundings.Refuses arguments offset
          (scanFrom .text offset (surroundings.code arguments ++ rest)) ∨
        ∃ inner, surroundings.Encloses arguments inner ∧
          scanFrom .text offset (surroundings.code arguments ++ rest) =
            (scanFrom .text (offset + byteLength (surroundings.code arguments)) rest).prepend
              (place offset (tagLexemes (surroundings.lexemes inner)))) := by
  obtain ⟨takes, within⟩ := isArguments_of_recognize? recognized unmarked
  obtain ⟨surroundings, found⟩ := Surroundings.exists_ofKind? takes notExtends
  exact ⟨surroundings, found, Surroundings.lowered_of_ofKind? found arguments raw,
    surroundings.scanFrom_code within offset⟩

/-- Arguments with marks, quotes and parentheses in strings. -/
def quotedMarks : List Char :=
  "f(\"%>)'\\\"\", '//(/*\\'')".toList

theorem scanFrom_lowered_quotedMarks :
    recognize? (appliedText .unless quotedMarks) =
        some (.directive .unless (some quotedMarks) (appliedText .unless quotedMarks), []) ∧
      Unmarked quotedMarks ∧
        ∃ surroundings, Surroundings.ofKind? .unless = some surroundings ∧
          (surroundings.Refuses quotedMarks 0
              (scanFrom .text 0 (surroundings.code quotedMarks ++ ['x'])) ∨
            ∃ inner, surroundings.Encloses quotedMarks inner ∧
              scanFrom .text 0 (surroundings.code quotedMarks ++ ['x']) =
                (scanFrom .text (byteLength (surroundings.code quotedMarks)) ['x']).prepend
                  (place 0 (tagLexemes (surroundings.lexemes inner)))) := by
  have recognized : recognize? (appliedText .unless quotedMarks) =
      some (.directive .unless (some quotedMarks) (appliedText .unless quotedMarks), []) := by
    decide
  have unmarked : Unmarked quotedMarks := by decide
  obtain ⟨surroundings, found, -, scanned⟩ :=
    scanFrom_lowered recognized (by decide) unmarked 0 ['x']
  exact ⟨recognized, unmarked, surroundings, found, by simpa using scanned⟩

end Directive
end ViewTemplate
