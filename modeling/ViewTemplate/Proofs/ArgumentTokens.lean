import ViewTemplate.Proofs.Displacement
import ViewTemplate.Proofs.Pieces
import ViewTemplate.Proofs.Printing

/-!
The arguments of a directive as code. Where directives are recognized and where code is cut into
tokens, the same characters are in strings and the same parentheses are open, as long as no mark
outside strings ends the code or begins a comment (`cases_of_arguments`).
-/

namespace ViewTemplate

open Directive Fragment Text

/-! ## Open parentheses -/

namespace Directive

/-- The number of open parentheses behind a character. Those in strings do not count, and where none
is open none can be closed. -/
def openBehindCharacter? (quoting : Quoting) (depth : Nat) (character : Char) : Option Nat :=
  if quoting = .outside ∧ character = '(' then some (depth + 1)
  else if quoting = .outside ∧ character = ')' then
    match depth with
    | 0 => none
    | depth + 1 => some depth
  else some depth

/-- What a character does to the quoting and to the number of open parentheses. -/
def track (state : Quoting × Nat) (character : Char) : Option (Quoting × Nat) :=
  (openBehindCharacter? state.1 state.2 character).map (state.1.next character, ·)

def trackAll (state : Quoting × Nat) (text : List Char) : Option (Quoting × Nat) :=
  text.foldlM track state

/-- Where a text stands behind other text, with respect to strings. -/
def Quoting.behind (quoting : Quoting) (text : List Char) : Quoting :=
  text.foldl (fun quoting character => quoting.next character) quoting

theorem trackAll_cons {state next : Quoting × Nat} {character : Char}
    (tracked : track state character = some next) (text : List Char) :
    trackAll state (character :: text) = trackAll next text := by
  rw [trackAll, List.foldlM_cons, tracked]
  rfl

theorem trackAll_append {state next : Quoting × Nat} {first : List Char}
    (tracked : trackAll state first = some next) (second : List Char) :
    trackAll state (first ++ second) = trackAll next second := by
  rw [trackAll, List.foldlM_append, ← trackAll, tracked]
  rfl

theorem next_of_track {quoting quoting' : Quoting} {depth depth' : Nat} {character : Char}
    (tracked : track (quoting, depth) character = some (quoting', depth')) :
    quoting.next character = quoting' := by
  obtain ⟨_, _, same⟩ := Option.map_eq_some_iff.1 tracked
  exact (Prod.mk.inj same).1

theorem behind_of_trackAll {quoting quoting' : Quoting} {depth depth' : Nat} {text : List Char}
    (tracked : trackAll (quoting, depth) text = some (quoting', depth')) :
    quoting.behind text = quoting' := by
  induction text generalizing quoting depth with
  | nil =>
      cases tracked
      rfl
  | cons character text inductionHypothesis =>
      obtain ⟨⟨next, within⟩, first, others⟩ := Option.bind_eq_some_iff.1 tracked
      rw [Quoting.behind, List.foldl_cons, next_of_track first]
      exact inductionHypothesis others

/-- Behind the arguments that were read every string and every parenthesis in them is closed. -/
theorem trackAll_of_readArguments? {quoting : Quoting} {depth : Nat}
    {text arguments rest : List Char}
    (found : readArguments? quoting depth text = some (arguments, rest)) :
    trackAll (quoting, depth) arguments = some (.outside, 0) := by
  induction text generalizing quoting depth arguments with
  | nil => cases found
  | cons character text inductionHypothesis =>
      have advanced : ∀ {next : Quoting × Nat},
          track (quoting, depth) character = some next →
          (readArguments? next.1 next.2 text).map
              (fun found => (character :: found.1, found.2)) =
            some (arguments, rest) →
          trackAll (quoting, depth) arguments = some (.outside, 0) := by
        intro next tracked mapped
        obtain ⟨⟨shorter, _⟩, foundLater, same⟩ := Option.map_eq_some_iff.1 mapped
        obtain ⟨rfl, rfl⟩ := Prod.mk.inj same
        rw [trackAll_cons tracked]
        exact inductionHypothesis foundLater
      unfold readArguments? at found
      split at found
      next =>
        split at found
        next opens =>
          subst opens
          exact advanced rfl found
        next notOpening =>
          split at found
          next closes =>
            subst closes
            split at found
            next =>
              cases found
              rfl
            next => exact advanced rfl found
          next notClosing =>
            have stays : openBehindCharacter? .outside depth character = some depth := by
              simp [openBehindCharacter?, notOpening, notClosing]
            exact advanced (by rw [track, stays]; rfl) found
      next => exact advanced rfl found
      next => exact advanced rfl found

/-- The text has no mark outside strings that ends a tag or begins a comment. -/
def Unmarked (text : List Char) : Prop :=
  ∀ before mark after, mark ∈ [endTag, ['/', '/'], ['/', '*']] →
    text = before ++ (mark ++ after) → Quoting.outside.behind before ≠ .outside

theorem unmarked_iff (text : List Char) :
    Unmarked text ↔ ∀ count ∈ List.range text.length,
      ∀ mark ∈ [endTag, ['/', '/'], ['/', '*']], mark <+: text.drop count →
        Quoting.outside.behind (text.take count) ≠ .outside := by
  constructor
  · rintro unmarked count - mark isMark ⟨after, rest⟩
    refine unmarked _ mark after isMark ?_
    rw [rest, List.take_append_drop]
  · rintro bounded before mark after isMark rfl
    have within : before.length ∈ List.range (before ++ (mark ++ after)).length := by
      have nonempty : mark ≠ [] := by
        rintro rfl
        revert isMark
        decide
      have positive := List.length_pos_iff.2 nonempty
      simp only [List.mem_range, List.length_append]
      omega
    have here := bounded before.length within mark isMark
    rw [List.drop_left, List.take_left] at here
    exact here (List.prefix_append mark after)

instance : DecidablePred Unmarked := fun text =>
  decidable_of_iff _ (unmarked_iff text).symm

theorem Unmarked.of_append {first second : List Char} (unmarked : Unmarked (first ++ second))
    (outside : Quoting.outside.behind first = .outside) : Unmarked second := by
  rintro before mark after isMark rfl
  have whole := unmarked (first ++ before) mark after isMark (List.append_assoc ..).symm
  rw [Quoting.behind, List.foldl_append] at whole
  change (Quoting.outside.behind first).behind before ≠ .outside at whole
  rwa [outside] at whole

theorem Unmarked.not_prefix {text : List Char} (unmarked : Unmarked text) :
    ∀ mark ∈ [endTag, ['/', '/'], ['/', '*']], ¬ mark <+: text := by
  rintro mark isMark ⟨after, rfl⟩
  exact unmarked [] mark after isMark rfl rfl

/-- No string begins and no parenthesis opens or closes with the character. -/
def IsPlain (character : Char) : Prop :=
  character ∉ ['(', ')', '"', '\'']

theorem trackAll_of_plain {text : List Char} (plain : ∀ character ∈ text, IsPlain character)
    (depth : Nat) : trackAll (.outside, depth) text = some (.outside, depth) := by
  induction text with
  | nil => rfl
  | cons character text inductionHypothesis =>
      obtain ⟨first, others⟩ := List.forall_mem_cons.1 plain
      have tracked : track (.outside, depth) character = some (.outside, depth) := by
        simp only [IsPlain, List.mem_cons, List.not_mem_nil, or_false, not_or] at first
        obtain ⟨notOpening, notClosing, noDouble, noSingle⟩ := first
        simp [track, openBehindCharacter?, Quoting.next, notOpening, notClosing, noDouble, noSingle]
      rw [trackAll_cons tracked, inductionHypothesis others]

end Directive

namespace Fragment

/-- The number of open parentheses behind a token. Where none is open none can be closed. -/
def openBehind? (depth : Nat) : TokenKind → Option Nat
  | .symbol .leftParenthesis => some (depth + 1)
  | .symbol .rightParenthesis =>
      match depth with
      | 0 => none
      | depth + 1 => some depth
  | _ => some depth

def openBehindAll? (depth : Nat) (lexemes : List Lexeme) : Option Nat :=
  lexemes.foldlM (fun depth lexeme => openBehind? depth lexeme.kind) depth

/-- Every parenthesis that opens is closed, and none closes that was not opened. -/
def IsBalanced (lexemes : List Lexeme) : Prop :=
  openBehindAll? 0 lexemes = some 0

/-- A token that stands between the marks of a tag. -/
def TokenKind.IsCode (kind : TokenKind) : Prop :=
  kind ≠ .raw ∧ kind ≠ .beginTag ∧ kind ≠ .endTag

/-! ## Single tokens -/

theorem codeToken_of_noComment {character : Char} {behind : List Char}
    (noComment : character = '/' → behind.head? ≠ some '/' ∧ behind.head? ≠ some '*') :
    codeToken character behind =
      match symbolOf? character behind.head? with
      | some (symbol, more) => .ok (.symbol symbol, more)
      | none =>
          if character = '"' ∨ character = '\'' then
            match stringLength? character false behind with
            | some more => .ok (.string, more)
            | none => .error .undelimitedString
          else if character.isDigit then .ok (.number, numberLength behind)
          else if isSpace character then
            .ok (.whitespace, (behind.takeWhile isSpace).length)
          else if isIdentifierStart character then
            .ok (wordKind (character :: behind.takeWhile isIdentifierContinue),
              (behind.takeWhile isIdentifierContinue).length)
          else .error .unexpectedCharacter := by
  unfold codeToken
  split
  · exact absurd rfl (noComment rfl).1
  · exact absurd rfl (noComment rfl).2
  · rfl

/-- The characters of a symbol are the one that begins it and perhaps the one behind. -/
theorem text_of_symbolOf? {character : Char} {next : Option Char} {symbol : Symbol} {more : Nat}
    (found : symbolOf? character next = some (symbol, more)) :
    (more = 0 ∧ symbol.text = [character]) ∨
      more = 1 ∧ ∃ other, next = some other ∧ symbol.text = [character, other] := by
  unfold symbolOf? at found
  split at found
  all_goals cases found
  all_goals first | exact .inl ⟨rfl, rfl⟩ | exact .inr ⟨rfl, _, rfl, rfl⟩

theorem trackAll_symbol (symbol : Symbol) (depth : Nat) :
    trackAll (.outside, depth) symbol.text =
      (openBehind? depth (.symbol symbol)).map (Quoting.outside, ·) := by
  cases symbol
  case rightParenthesis => cases depth <;> rfl
  all_goals rfl

theorem track_of_ne_outside {quoting : Quoting} (inString : quoting ≠ .outside) (depth : Nat)
    (character : Char) :
    track (quoting, depth) character = some (quoting.next character, depth) := by
  simp [track, openBehindCharacter?, inString]

/-- Where a scan of arguments stands inside a string. -/
def insideString (mark : Char) (escaped : Bool) : Quoting :=
  if escaped then .escaped mark else .inside mark

theorem next_insideString {mark character : Char} {escaped : Bool}
    (stays : ¬ (character = mark ∧ escaped = false)) :
    (insideString mark escaped).next character =
      insideString mark (character == '\\' && !escaped) := by
  cases escaped with
  | true => simp [insideString, Quoting.next]
  | false =>
      have different : character ≠ mark := fun same => stays ⟨same, rfl⟩
      by_cases backslash : character = '\\' <;>
        simp [insideString, Quoting.next, backslash, different]

/-- A string that is closed in the arguments is cut off where it is closed there. -/
theorem stringLength?_of_trackAll {mark : Char} (notBackslash : mark ≠ '\\') {escaped : Bool}
    {depth depth' : Nat} {text : List Char}
    (closed : trackAll (insideString mark escaped, depth) text = some (.outside, depth')) :
    ∃ more, more ≤ text.length ∧
      (∀ following, stringLength? mark escaped (text ++ following) = some more) ∧
        trackAll (insideString mark escaped, depth) (text.take more) = some (.outside, depth) := by
  have inString : ∀ escaped, insideString mark escaped ≠ .outside := by
    intro escaped
    cases escaped <;> simp [insideString]
  induction text generalizing escaped with
  | nil =>
      obtain ⟨outside, -⟩ := Prod.mk.inj (Option.some.inj closed)
      exact absurd outside (inString escaped)
  | cons character text inductionHypothesis =>
      have tracked := track_of_ne_outside (inString escaped) depth character
      by_cases closes : character = mark ∧ escaped = false
      · obtain ⟨rfl, rfl⟩ := closes
        refine ⟨1, Nat.le_add_left 1 _, fun following => by simp [stringLength?], ?_⟩
        have outside : (insideString character false).next character = .outside := by
          simp [insideString, Quoting.next, notBackslash]
        rw [outside] at tracked
        rw [List.take_succ_cons, List.take_zero, trackAll_cons tracked]
        rfl
      · rw [next_insideString closes] at tracked
        rw [trackAll_cons tracked] at closed
        obtain ⟨more, within, length, later⟩ := inductionHypothesis closed
        refine ⟨more + 1, Nat.succ_le_succ within, fun following => ?_, ?_⟩
        · rw [List.cons_append, stringLength?, if_neg closes, length]
          rfl
        · rw [List.take_succ_cons, trackAll_cons tracked, later]

theorem isPlain_of_property {property : Char → Bool} {character : Char}
    (holds : property character = true)
    (fails : (['(', ')', '"', '\''].all fun other => !property other) = true) : IsPlain character :=
  not_mem_of_property holds fails

/-- Whether the character is one that numbers are made up of. -/
def isNumeral (character : Char) : Bool :=
  isNumberCharacter character || character == '.'

theorem exists_part_of_number (text : List Char) :
    ∃ part others, text = part ++ others ∧ part.length = numberLength text ∧
      ∀ character ∈ part, isNumeral character = true := by
  have digits : ∀ text : List Char, ∀ character ∈ text.takeWhile isNumberCharacter,
      isNumeral character = true := fun text character member =>
    Bool.or_eq_true_iff.2 (.inl (List.all_eq_true.1 List.all_takeWhile character member))
  have whole := List.takeWhile_append_dropWhile (p := isNumberCharacter) (l := text)
  unfold numberLength
  split
  next digit rest shape =>
    split
    next isDigit =>
      have fraction := List.takeWhile_append_dropWhile (p := isNumberCharacter) (l := digit :: rest)
      refine ⟨text.takeWhile isNumberCharacter ++
        '.' :: (digit :: rest).takeWhile isNumberCharacter,
        (digit :: rest).dropWhile isNumberCharacter, ?_, ?_, ?_⟩
      · rw [List.append_assoc, List.cons_append, fraction, ← shape, whole]
      · rw [List.length_append, List.length_cons, Nat.add_assoc, Nat.add_comm 1]
      · rw [List.forall_mem_append, List.forall_mem_cons]
        exact ⟨digits text, rfl, digits _⟩
    next => exact ⟨_, _, whole.symm, rfl, digits text⟩
  next => exact ⟨_, _, whole.symm, rfl, digits text⟩

/-! ## Arguments -/

/-- Arguments up to the parenthesis that closes them, from a place outside strings on, and without
marks that end the code or begin a comment. -/
structure IsArguments (depth : Nat) (text : List Char) : Prop where
  closed : trackAll (.outside, depth) text = some (.outside, 0)
  unmarked : Unmarked text

/-- What stands behind arguments in the code of a directive. -/
def EndsArguments (character : Char) : Prop :=
  character = ')' ∨ character = ','

/-- A token that the arguments hold whole, with the parentheses that are open behind it. -/
def IsToken (depth : Nat) (character : Char) (behind following : List Char) : Prop :=
  ∃ kind part others depth', behind = part ++ others ∧
    codeToken character (behind ++ following) = .ok (kind, part.length) ∧ kind.IsCode ∧
      trackAll (.outside, depth) (character :: part) = some (.outside, depth') ∧
        openBehind? depth kind = some depth'

theorem isToken_of_plain {depth : Nat} {character : Char} {part others following : List Char}
    {kind : TokenKind}
    (token : codeToken character (part ++ others ++ following) = .ok (kind, part.length))
    (isCode : kind.IsCode) (noParenthesis : openBehind? depth kind = some depth)
    (first : IsPlain character) (further : ∀ character ∈ part, IsPlain character) :
    IsToken depth character (part ++ others) following :=
  ⟨kind, part, others, depth, rfl, token, isCode,
    trackAll_of_plain (List.forall_mem_cons.2 ⟨first, further⟩) depth, noParenthesis⟩

/-- The characters of one kind that arguments go on with are plain where no quote and no parenthesis
is of that kind. -/
theorem exists_run_argument {property : Char → Bool} {stop : Char} (ends : property stop = false)
    (fails : (['(', ')', '"', '\''].all fun other => !property other) = true)
    (behind rest : List Char) :
    ∃ part others, behind = part ++ others ∧
      (behind ++ stop :: rest).takeWhile property = part ∧
        ∀ character ∈ part, IsPlain character := by
  refine ⟨behind.takeWhile property, behind.dropWhile property,
    List.takeWhile_append_dropWhile.symm, takeWhile_append_cons ends _ _,
    fun character member => ?_⟩
  exact isPlain_of_property (List.all_eq_true.1 List.all_takeWhile character member) fails

section Closed

variable {depth : Nat} {character stop : Char} {behind : List Char}
  (closed : trackAll (.outside, depth) (character :: behind) = some (.outside, 0))
  (stops : EndsArguments stop) (rest : List Char)

include closed stops

theorem isToken_of_symbol {symbol : Symbol} {more : Nat}
    (found : symbolOf? character (behind ++ stop :: rest).head? = some (symbol, more))
    (token : codeToken character (behind ++ stop :: rest) = .ok (.symbol symbol, more)) :
    IsToken depth character behind (stop :: rest) := by
  have parts : ∃ part others, behind = part ++ others ∧ part.length = more ∧
      symbol.text = character :: part := by
    rcases text_of_symbolOf? found with ⟨rfl, text⟩ | ⟨rfl, other, next, text⟩
    · exact ⟨[], behind, rfl, rfl, text⟩
    · cases behind with
      | nil =>
          -- No symbol goes on with a comma or a closing parenthesis.
          cases next
          rcases stops with rfl | rfl <;> cases symbol <;> cases text
      | cons second others =>
          cases next
          exact ⟨[other], others, rfl, rfl, text⟩
  obtain ⟨part, others, rfl, rfl, text⟩ := parts
  have tracked := trackAll_symbol symbol depth
  rw [text] at tracked
  cases opened : openBehind? depth (.symbol symbol) with
  | none =>
      rw [opened] at tracked
      rw [← List.cons_append, trackAll, List.foldlM_append, ← trackAll, tracked] at closed
      cases closed
  | some depth' =>
      rw [opened] at tracked
      exact ⟨.symbol symbol, part, others, depth', rfl, token, by simp [TokenKind.IsCode], tracked,
        opened⟩

omit stops in
theorem isToken_of_quote (quote : character = '"' ∨ character = '\'')
    (token : codeToken character (behind ++ stop :: rest) =
      match stringLength? character false (behind ++ stop :: rest) with
      | some more => .ok (.string, more)
      | none => .error .undelimitedString) :
    IsToken depth character behind (stop :: rest) := by
  have notBackslash : character ≠ '\\' := by rcases quote with rfl | rfl <;> decide
  have opens : track (.outside, depth) character = some (insideString character false, depth) := by
    rcases quote with rfl | rfl <;> rfl
  rw [trackAll_cons opens] at closed
  obtain ⟨more, within, length, tracked⟩ := stringLength?_of_trackAll notBackslash closed
  rw [length] at token
  refine ⟨.string, behind.take more, behind.drop more, depth,
    (List.take_append_drop more behind).symm, ?_, by simp [TokenKind.IsCode], ?_, rfl⟩
  · rw [token, List.length_take_of_le within]
  · rw [trackAll_cons opens, tracked]

/-- What a character of closed arguments begins in the code, unless it is a comment, is a token that
the arguments hold whole, or it is a character that begins no token. -/
theorem codeToken_of_closed
    (noComment : character = '/' →
      (behind ++ stop :: rest).head? ≠ some '/' ∧ (behind ++ stop :: rest).head? ≠ some '*') :
    codeToken character (behind ++ stop :: rest) = .error .unexpectedCharacter ∨
      IsToken depth character behind (stop :: rest) := by
  have token := codeToken_of_noComment noComment
  cases found : symbolOf? character (behind ++ stop :: rest).head? with
  | some parts =>
      obtain ⟨symbol, more⟩ := parts
      rw [found] at token
      exact .inr (isToken_of_symbol closed stops rest found token)
  | none =>
      simp only [found] at token
      by_cases quote : character = '"' ∨ character = '\''
      · rw [if_pos quote] at token
        exact .inr (isToken_of_quote closed rest quote token)
      rw [if_neg quote] at token
      by_cases digit : character.isDigit = true
      · have ends : EndsNumber stop := by rcases stops with rfl | rfl <;> exact ⟨rfl, by decide⟩
        obtain ⟨part, others, rfl, length, digits⟩ := exists_part_of_number behind
        have plain : ∀ character ∈ part, IsPlain character := fun character member =>
          isPlain_of_property (digits character member) (by decide)
        rw [if_pos digit, numberLength_append ends, ← length] at token
        exact .inr (isToken_of_plain token (by simp [TokenKind.IsCode]) rfl
          (isPlain_of_property digit (by decide)) plain)
      rw [if_neg digit] at token
      by_cases white : isSpace character = true
      · have ends : isSpace stop = false := by rcases stops with rfl | rfl <;> rfl
        obtain ⟨part, others, rfl, same, plain⟩ := exists_run_argument ends (by decide) behind rest
        rw [if_pos white, same] at token
        exact .inr (isToken_of_plain token (by simp [TokenKind.IsCode]) rfl
          (isPlain_of_property white (by decide)) plain)
      rw [if_neg white] at token
      by_cases start : isIdentifierStart character = true
      · have ends : isIdentifierContinue stop = false := by
          rcases stops with rfl | rfl <;> decide
        obtain ⟨part, others, rfl, same, plain⟩ := exists_run_argument ends (by decide) behind rest
        rw [if_pos start, same] at token
        have noParenthesis : (wordKind (character :: part)).IsCode ∧
            openBehind? depth (wordKind (character :: part)) = some depth := by
          rcases wordKind_eq (character :: part) with word | ⟨keyword, word⟩ <;>
            rw [word] <;> exact ⟨by simp [TokenKind.IsCode], rfl⟩
        exact .inr (isToken_of_plain token noParenthesis.1 noParenthesis.2
          (isPlain_of_property start (by decide)) plain)
      rw [if_neg start] at token
      exact .inl token

end Closed

section Token

variable {depth : Nat} {character stop : Char} {behind : List Char}
  (arguments : IsArguments depth (character :: behind)) (stops : EndsArguments stop)
  (rest : List Char)

include arguments stops

theorem stripInitial?_endTag_argument :
    stripInitial? endTag (character :: (behind ++ stop :: rest)) = none := by
  refine stripInitial?_eq_none_iff.2 fun ends => ?_
  obtain ⟨percent, greater⟩ := List.cons_prefix_cons.1 ends
  cases behind with
  | nil =>
      obtain ⟨same, -⟩ := List.cons_prefix_cons.1 greater
      rcases stops with rfl | rfl <;> cases same
  | cons next others =>
      obtain ⟨same, -⟩ := List.cons_prefix_cons.1 greater
      subst percent same
      exact arguments.unmarked.not_prefix endTag (.head _) ⟨others, rfl⟩

theorem noComment_argument (slash : character = '/') :
    (behind ++ stop :: rest).head? ≠ some '/' ∧ (behind ++ stop :: rest).head? ≠ some '*' := by
  subst slash
  cases behind with
  | nil => rcases stops with rfl | rfl <;> simp
  | cons next others =>
      have absent := arguments.unmarked.not_prefix
      constructor
      · rintro ⟨⟩
        exact absent ['/', '/'] (by decide) ⟨others, rfl⟩
      · rintro ⟨⟩
        exact absent ['/', '*'] (by decide) ⟨others, rfl⟩

/-- What a character of arguments begins in the code is a token that the arguments hold whole, or it
is a character that begins no token. -/
theorem codeToken_argument :
    codeToken character (behind ++ stop :: rest) = .error .unexpectedCharacter ∨
      IsToken depth character behind (stop :: rest) :=
  codeToken_of_closed arguments.closed stops rest (noComment_argument arguments stops rest)

end Token

/-- Text that is cut into lexemes in front of other text, where its parentheses close all that are
open. -/
structure IsCutInto (depth : Nat) (text following : List Char) (lexemes : List Lexeme) : Prop where
  code : codeOf lexemes = text
  lexes : Lexes following lexemes
  closed : openBehindAll? depth lexemes = some 0
  isCode : ∀ lexeme ∈ lexemes, lexeme.kind.IsCode

/-- Text that is cut into lexemes up to a character at which the code stops. -/
structure IsCutUpTo (Stops : List Char → Prop) (depth : Nat) (text following : List Char)
    (lexemes : List Lexeme) (character : Char) (others : List Char) : Prop where
  parts : text = codeOf lexemes ++ character :: others
  lexes : Lexes (character :: (others ++ following)) lexemes
  opened : ∃ depth', openBehindAll? depth lexemes = some depth'
  stops : Stops (character :: (others ++ following))

/-- Text is cut into lexemes, or up to a character at which the code stops, if every character of it
either stops the code or begins a token that the text holds whole. -/
theorem cases_of_steps (Holds : Nat → List Char → Prop) {Stops : List Char → Prop}
    {following : List Char} (closed : ∀ depth, Holds depth [] → depth = 0)
    (step : ∀ depth character behind, Holds depth (character :: behind) →
      Stops (character :: (behind ++ following)) ∨
        stripInitial? endTag (character :: (behind ++ following)) = none ∧
          IsToken depth character behind following)
    (later : ∀ depth depth' first second, Holds depth (first ++ second) →
      trackAll (.outside, depth) first = some (.outside, depth') → Holds depth' second)
    {depth : Nat} {text : List Char} (holds : Holds depth text) :
    (∃ lexemes, IsCutInto depth text following lexemes) ∨
      ∃ lexemes character others,
        IsCutUpTo Stops depth text following lexemes character others := by
  induction length : text.length using Nat.strongRecOn generalizing text depth with
  | _ count inductionHypothesis =>
      cases text with
      | nil =>
          exact .inl ⟨[], rfl, trivial, congrArg some (closed depth holds),
            fun _ member => by cases member⟩
      | cons character behind =>
          rcases step depth character behind holds with
            stops | ⟨noEnd, kind, part, others, depth', rfl, token, isCode, tracked, opened⟩
          · exact .inr ⟨[], character, behind, rfl, trivial, ⟨depth, rfl⟩, stops⟩
          · have holdsLater := later depth depth' (character :: part) others holds tracked
            have shorter : others.length < count := by
              rw [← length]
              simp only [List.length_cons, List.length_append]
              omega
            rw [List.append_assoc] at noEnd token
            rcases inductionHypothesis others.length shorter holdsLater rfl with
              ⟨lexemes, cut⟩ | ⟨lexemes, next, last, cut⟩
            · refine .inl ⟨⟨kind, character :: part⟩ :: lexemes, ?_, ?_, ?_, ?_⟩
              · rw [codeOf, List.flatMap_cons, ← codeOf, cut.code]
                rfl
              · rw [← cut.code] at noEnd token
                exact ⟨⟨character, part, rfl, noEnd, token⟩, cut.lexes⟩
              · rw [openBehindAll?, List.foldlM_cons, opened]
                exact cut.closed
              · exact List.forall_mem_cons.2 ⟨isCode, cut.isCode⟩
            · refine .inr ⟨⟨kind, character :: part⟩ :: lexemes, next, last, ?_, ?_, ?_, cut.stops⟩
              · rw [codeOf, List.flatMap_cons, ← codeOf, List.append_assoc, ← cut.parts]
                rfl
              · have behindOthers : others ++ following =
                    codeOf lexemes ++ next :: (last ++ following) := by
                  rw [cut.parts, List.append_assoc, List.cons_append]
                rw [behindOthers] at noEnd token
                exact ⟨⟨character, part, rfl, noEnd, token⟩, cut.lexes⟩
              · rw [openBehindAll?, List.foldlM_cons, opened]
                exact cut.opened

/-- Text that is cut into lexemes up to a character that begins no token. -/
structure IsRefusedAt (text following : List Char) (lexemes : List Lexeme) (character : Char)
    (others : List Char) : Prop where
  parts : text = codeOf lexemes ++ character :: others
  lexes : Lexes (character :: (others ++ following)) lexemes
  noEnd : stripInitial? endTag (character :: (others ++ following)) = none
  refused : codeToken character (others ++ following) = .error .unexpectedCharacter

/-- No token begins with a text, and no mark that ends a tag. -/
def BeginsNothing (text : List Char) : Prop :=
  stripInitial? endTag text = none ∧ ∀ character behind, text = character :: behind →
    codeToken character behind = .error .unexpectedCharacter

/-- Arguments are cut into lexemes in front of what stands behind them, or some character of them
begins no token. -/
theorem cases_of_arguments {depth : Nat} {text : List Char} (arguments : IsArguments depth text)
    {stop : Char} (stops : EndsArguments stop) (rest : List Char) :
    (∃ lexemes, IsCutInto depth text (stop :: rest) lexemes) ∨
      ∃ lexemes character others, IsRefusedAt text (stop :: rest) lexemes character others := by
  have step : ∀ depth character behind, IsArguments depth (character :: behind) →
      BeginsNothing (character :: (behind ++ stop :: rest)) ∨
        stripInitial? endTag (character :: (behind ++ stop :: rest)) = none ∧
          IsToken depth character behind (stop :: rest) := by
    intro depth character behind arguments
    have noEnd := stripInitial?_endTag_argument arguments stops rest
    rcases codeToken_argument arguments stops rest with refused | token
    · refine .inl ⟨noEnd, ?_⟩
      rintro _ _ ⟨⟩
      exact refused
    · exact .inr ⟨noEnd, token⟩
  have later : ∀ depth depth' first second, IsArguments depth (first ++ second) →
      trackAll (.outside, depth) first = some (.outside, depth') → IsArguments depth' second := by
    intro depth depth' first second arguments tracked
    refine ⟨?_, arguments.unmarked.of_append (behind_of_trackAll tracked)⟩
    rw [← trackAll_append tracked]
    exact arguments.closed
  have closed : ∀ depth, IsArguments depth [] → depth = 0 := fun depth arguments =>
    (Prod.mk.inj (Option.some.inj arguments.closed)).2
  rcases cases_of_steps IsArguments closed step later arguments with
    cut | ⟨lexemes, character, others, cut⟩
  · exact .inl cut
  · obtain ⟨noEnd, refused⟩ := cut.stops
    exact .inr ⟨lexemes, character, others, cut.parts, cut.lexes, noEnd, refused _ _ rfl⟩

end Fragment
end ViewTemplate
