import ViewTemplate.Proofs.Displacement
import ViewTemplate.Proofs.Spans

/-!
Reading inside longer fragments. What a reader makes of tokens in front of a mark it makes of the
same tokens further back too, in front of any other mark: the same with every span displaced
(`carries_readExpression`).
-/

namespace ViewTemplate.Fragment

variable {α β γ δ : Type}

/-! ## Where reading stops -/

/-- Tokens of this kind are part of no clause. -/
def TokenKind.isMark : TokenKind → Bool
  | .beginTag | .endTag | .comment => true
  | _ => false

/-- Tokens with which nothing that is being read goes on. -/
inductive Halts (ending : Ending) : List Token → Prop where
  | finished {length : Nat} (complete : ending = .complete length) : Halts ending []
  | mark {token : Token} {rest : List Token} (mark : token.kind.isMark = true) :
      Halts ending (token :: rest)

/-- Reading stops at `old` in the one fragment and at `new` in the other. -/
structure HaltsBoth (ending ending' : Ending) (old new : List Token) : Prop where
  old : Halts ending old
  new : Halts ending' new

/-- Tokens in front of `old`, and the same tokens further back in front of `new`. -/
inductive Matches (distance : Nat) (old new : List Token) : List Token → List Token → Prop where
  | stop : Matches distance old new old new
  | cons (token : Token) {tokens tokens' : List Token}
      (others : Matches distance old new tokens tokens') :
      Matches distance old new (token :: tokens) (token.later distance :: tokens')

variable {distance : Nat} {ending ending' : Ending} {old new tokens tokens' : List Token}

theorem matches_append (distance : Nat) (old new tokens : List Token) :
    Matches distance old new (tokens ++ old) (tokens.map (Token.later distance) ++ new) := by
  induction tokens with
  | nil => exact .stop
  | cons token tokens inductionHypothesis => exact .cons token inductionHypothesis

/-! ## Readings -/

/-- If the one reading succeeds, so does the other, with the displaced result and the same tokens
left. -/
def Carries (distance : Nat) (old new : List Token) (displace : α → β)
    {fits fits' : List Token → Prop}
    (reading : Except SyntaxError (α × { rest : List Token // fits rest }))
    (later : Except SyntaxError (β × { rest : List Token // fits' rest })) : Prop :=
  ∀ value rest, reading = .ok (value, rest) →
    ∃ rest', Matches distance old new rest.1 rest' ∧ Leaves later (displace value) rest'

variable {displace : α → β} {displace' : γ → δ} {fits fits' fits₂ fits₂' : List Token → Prop}

theorem carries_of_leaves {reading : Except SyntaxError (α × { rest : List Token // fits rest })}
    {later : Except SyntaxError (β × { rest : List Token // fits' rest })} {value : α}
    (first : Leaves reading value tokens) (matched : Matches distance old new tokens tokens')
    (second : Leaves later (displace value) tokens') :
    Carries distance old new displace reading later := by
  obtain ⟨proof, rfl⟩ := first
  intro value rest read
  cases read
  exact ⟨tokens', matched, second⟩

theorem carries_error {error : SyntaxError}
    {later : Except SyntaxError (β × { rest : List Token // fits' rest })} :
    Carries distance old new displace
      (.error error : Except SyntaxError (α × { rest : List Token // fits rest })) later :=
  fun _ _ impossible => by cases impossible

theorem carries_pure {value : α} {result : β} {rest : { rest : List Token // fits rest }}
    {rest' : { rest : List Token // fits' rest }} (same : result = displace value)
    (left : Matches distance old new rest.1 rest'.1) :
    Carries distance old new displace (pure (value, rest)) (pure (result, rest')) := by
  intro value rest read
  cases read
  rw [← same]
  exact ⟨rest'.1, left, leaves_pure result rest'⟩

theorem Carries.bind {reading : Except SyntaxError (α × { rest : List Token // fits rest })}
    {later : Except SyntaxError (β × { rest : List Token // fits' rest })}
    {next : α × { rest : List Token // fits rest } →
      Except SyntaxError (γ × { rest : List Token // fits₂ rest })}
    {next' : β × { rest : List Token // fits' rest } →
      Except SyntaxError (δ × { rest : List Token // fits₂' rest })}
    (first : Carries distance old new displace reading later)
    (second : ∀ value rest rest' proof proof', Matches distance old new rest rest' →
      Carries distance old new displace' (next (value, ⟨rest, proof⟩))
        (next' (displace value, ⟨rest', proof'⟩))) :
    Carries distance old new displace' (reading >>= next) (later >>= next') := by
  intro result last read
  cases reading with
  | error error => cases read
  | ok parts =>
      obtain ⟨value, rest, proof⟩ := parts
      obtain ⟨rest', left, proof', rfl⟩ := first value ⟨rest, proof⟩ rfl
      exact second value rest rest' proof proof' left result last read

theorem carries_check {result result' : Except SyntaxError γ}
    {next : γ → Except SyntaxError (α × { rest : List Token // fits rest })}
    {next' : γ → Except SyntaxError (β × { rest : List Token // fits' rest })}
    (same : ∀ value, result = .ok value → result' = .ok value)
    (carries : ∀ value, Carries distance old new displace (next value) (next' value)) :
    Carries distance old new displace (result >>= next) (result' >>= next') := by
  cases result with
  | error error => exact carries_error
  | ok value =>
      rw [same value rfl]
      exact carries value

/-! ## Single tokens -/

/-- Whatever the tokens are, the reader carries over to where they are displaced. -/
def CarriesReader (distance : Nat) (old new : List Token) (displace : α → β) (reader : Reader α)
    (later : Reader β) : Prop :=
  ∀ {tokens tokens'}, Matches distance old new tokens tokens' →
    Carries distance old new displace (reader tokens) (later tokens')

/-- A reader that takes nothing where reading stops carries over if it does in front of a token. -/
theorem carriesReader_of_cons (halts : Halts ending old) {reader : Reader α} {later : Reader β}
    (atEnd : ∃ error, reader [] = .error error)
    (atMark : ∀ token rest, token.kind.isMark = true →
      ∃ error, reader (token :: rest) = .error error)
    (carries : ∀ token {tokens tokens'}, Matches distance old new tokens tokens' →
      Carries distance old new displace (reader (token :: tokens))
        (later (token.later distance :: tokens'))) :
    CarriesReader distance old new displace reader later := by
  intro tokens tokens' matched
  cases matched with
  | stop =>
      cases halts with
      | finished =>
          obtain ⟨error, fails⟩ := atEnd
          rw [fails]
          exact carries_error
      | mark mark =>
          obtain ⟨error, fails⟩ := atMark _ _ mark
          rw [fails]
          exact carries_error
  | cons token others => exact carries token others

/-- What two looks ahead have in common: they see the same symbol, or neither sees one. -/
def SeesAlike (seen seen' : Option TokenKind) : Prop :=
  ∀ symbol, seen = some (.symbol symbol) ↔ seen' = some (.symbol symbol)

theorem Halts.exists_peek (halts : Halts ending tokens) :
    ∃ seen, peek ending tokens = .ok seen ∧ ∀ symbol, seen ≠ some (.symbol symbol) := by
  cases halts with
  | finished complete => exact ⟨none, by rw [complete]; rfl, fun symbol => by simp⟩
  | @mark token rest mark =>
      refine ⟨some token.kind, rfl, fun symbol same => ?_⟩
      rw [Option.some.inj same] at mark
      cases mark

/-- Looking at the next token tells the same, wherever the tokens are. -/
theorem carries_peek (halts : HaltsBoth ending ending' old new)
    (matched : Matches distance old new tokens tokens')
    {next : Option TokenKind → Except SyntaxError (α × { rest : List Token // fits rest })}
    {next' : Option TokenKind → Except SyntaxError (β × { rest : List Token // fits' rest })}
    (carries : ∀ seen seen', SeesAlike seen seen' →
      Carries distance old new displace (next seen) (next' seen')) :
    Carries distance old new displace (peek ending tokens >>= next)
      (peek ending' tokens' >>= next') := by
  cases matched with
  | stop =>
      obtain ⟨seen, looked, noSymbol⟩ := halts.old.exists_peek
      obtain ⟨seen', looked', noSymbol'⟩ := halts.new.exists_peek
      rw [looked, looked']
      exact carries seen seen' fun symbol =>
        ⟨fun same => absurd same (noSymbol symbol), fun same => absurd same (noSymbol' symbol)⟩
  | cons token others => exact carries _ _ fun symbol => Iff.rfl

theorem carries_readKind (halts : HaltsBoth ending ending' old new) {kind : TokenKind}
    (part : kind.isMark = false) :
    CarriesReader distance old new (Token.later distance) (readKind ending kind)
      (readKind ending' kind) := by
  refine carriesReader_of_cons halts.old ⟨_, rfl⟩ (fun token rest mark => ?_)
    fun token tokens tokens' others => ?_
  · have different : token.kind ≠ kind := by
      rintro rfl
      cases part.symm.trans mark
    exact ⟨_, by rw [readKind, if_neg different]⟩
  · rw [readKind]
    split
    next same =>
      intro value rest found
      cases found
      exact ⟨_, others, leaves_readKind same⟩
    next => exact carries_error

theorem carries_readAny (token : Token) (others : Matches distance old new tokens tokens') :
    Carries distance old new (Token.later distance) (readAny ending (token :: tokens))
      (readAny ending' (token.later distance :: tokens')) :=
  carries_pure rfl others

/-! ## Lists of expressions -/

section Lists

variable (halts : HaltsBoth ending ending' old new) {expression expression' : Reader Expression}
  (carries : CarriesReader distance old new (Expression.mapSpans (Span.later distance)) expression
    expression')

include halts carries

theorem carries_readArguments {tokens tokens' : List Token}
    (matched : Matches distance old new tokens tokens') :
    Carries distance old new (Prod.map (mapSpansAll (Span.later distance)) (Token.later distance))
      (readArguments ending expression tokens) (readArguments ending' expression' tokens') := by
  rw [readArguments, readArguments]
  refine carries_peek halts matched fun seen seen' alike => ?_
  split
  next =>
    obtain rfl := (alike _).1 rfl
    exact (carries_readKind halts rfl matched).bind fun close rest rest' _ _ left =>
      carries_pure rfl left
  next notClosing =>
    split
    next => exact absurd ((alike _).2 rfl) notClosing
    next =>
      refine (carries matched).bind fun first middle middle' shorter _ matched => ?_
      refine carries_peek halts matched fun seen seen' alike => ?_
      split
      next =>
        obtain rfl := (alike _).1 rfl
        refine (carries_readKind halts rfl matched).bind
          fun comma inner inner' shorterStill _ matched => ?_
        have others := carries_readArguments matched
        refine others.bind fun values rest rest' _ _ left => ?_
        exact carries_pure rfl left
      next notComma =>
        split
        next => exact absurd ((alike _).2 rfl) notComma
        next =>
          exact (carries_readKind halts rfl matched).bind fun close rest rest' _ _ left =>
            carries_pure rfl left
termination_by tokens.length
decreasing_by exact Nat.lt_trans shorterStill shorter

theorem carries_readItems {tokens tokens' : List Token}
    (matched : Matches distance old new tokens tokens') :
    Carries distance old new (mapSpansAll (Span.later distance))
      (readItems ending expression tokens) (readItems ending' expression' tokens') := by
  rw [readItems, readItems]
  refine carries_peek halts matched fun seen seen' alike => ?_
  split
  next =>
    obtain rfl := (alike _).1 rfl
    refine (carries_readKind halts rfl matched).bind
      fun comma middle middle' shorter _ matched => ?_
    refine carries_peek halts matched fun seen seen' alike => ?_
    split
    next =>
      obtain rfl := (alike _).1 rfl
      exact carries_pure rfl matched
    next notClosing =>
      split
      next => exact absurd ((alike _).2 rfl) notClosing
      next =>
        refine (carries matched).bind fun item inner inner' shorterStill _ matched => ?_
        have others := carries_readItems matched
        exact others.bind fun items rest rest' _ _ left => carries_pure rfl left
  next notComma =>
    split
    next => exact absurd ((alike _).2 rfl) notComma
    next => exact carries_pure rfl matched
termination_by tokens.length
decreasing_by exact Nat.lt_trans shorterStill shorter

theorem carries_readEntries {tokens tokens' : List Token}
    (matched : Matches distance old new tokens tokens') :
    Carries distance old new (mapSpansEntries (Span.later distance))
      (readEntries ending expression tokens) (readEntries ending' expression' tokens') := by
  rw [readEntries, readEntries]
  refine carries_peek halts matched fun seen seen' alike => ?_
  split
  next =>
    obtain rfl := (alike _).1 rfl
    refine (carries_readKind halts rfl matched).bind
      fun comma middle middle' shorter _ matched => ?_
    refine carries_peek halts matched fun seen seen' alike => ?_
    split
    next =>
      obtain rfl := (alike _).1 rfl
      exact carries_pure rfl matched
    next notClosing =>
      split
      next => exact absurd ((alike _).2 rfl) notClosing
      next =>
        refine (carries matched).bind fun key afterKey afterKey' shorterKey _ matched => ?_
        refine (carries_readKind halts rfl matched).bind
          fun arrow afterArrow afterArrow' shorterArrow _ matched => ?_
        refine (carries matched).bind fun value inner inner' shorterStill _ matched => ?_
        have others := carries_readEntries matched
        exact others.bind fun entries rest rest' _ _ left => carries_pure rfl left
  next notComma =>
    split
    next => exact absurd ((alike _).2 rfl) notComma
    next => exact carries_pure rfl matched
termination_by tokens.length
decreasing_by
  exact Nat.lt_trans shorterStill
    (Nat.lt_trans shorterArrow (Nat.lt_trans shorterKey shorter))

theorem carries_readBracketed (opening : Token) :
    CarriesReader distance old new (Expression.mapSpans (Span.later distance))
      (readBracketed ending expression opening)
      (readBracketed ending' expression' (opening.later distance)) := by
  intro tokens tokens' matched
  refine carries_peek halts matched fun seen seen' alike => ?_
  split
  next =>
    obtain rfl := (alike _).1 rfl
    refine (carries_readKind halts rfl matched).bind fun close rest rest' _ _ left =>
      carries_pure ?_ left
    simp [Expression.mapSpans, mapSpansAll]
  next notClosing =>
    split
    next => exact absurd ((alike _).2 rfl) notClosing
    next =>
      refine (carries matched).bind fun first middle middle' _ _ matched => ?_
      refine carries_peek halts matched fun seen seen' alike => ?_
      split
      next =>
        obtain rfl := (alike _).1 rfl
        refine (carries_readKind halts rfl matched).bind
          fun arrow afterArrow afterArrow' _ _ matched => ?_
        refine (carries matched).bind fun value inner inner' _ _ matched => ?_
        refine (carries_readEntries halts carries matched).bind
          fun entries last last' _ _ matched => ?_
        refine (carries_readKind halts rfl matched).bind fun close rest rest' _ _ left =>
          carries_pure ?_ left
        simp [Expression.mapSpans, mapSpansEntries]
      next notArrow =>
        split
        next => exact absurd ((alike _).2 rfl) notArrow
        next =>
          refine (carries_readItems halts carries matched).bind
            fun items last last' _ _ matched => ?_
          refine (carries_readKind halts rfl matched).bind fun close rest rest' _ _ left =>
            carries_pure ?_ left
          simp [Expression.mapSpans, mapSpansAll]

end Lists

/-! ## Literals -/

theorem identifier_later (distance : Nat) (token : Token) :
    (token.later distance).identifier = token.identifier.mapSpan (Span.later distance) := by
  simp [Token.identifier, Identifier.mapSpan, Token.later, Token.span, Span.later,
    Nat.add_right_comm]

theorem unescape_of_eq_ok {offset : Nat} {text content : List Char}
    (read : unescape offset text = .ok content) (other : Nat) :
    unescape other text = .ok content := by
  induction offset, text using unescape.induct generalizing other content
  case case1 => exact read
  case case2 => exact read
  case case3 offset letter text stop meant isMeant inductionHypothesis =>
      rw [unescape, if_pos rfl] at read ⊢
      simp only [isMeant] at read ⊢
      obtain ⟨others, rest, made⟩ := bind_eq_ok.1 read
      exact bind_eq_ok.2 ⟨others, inductionHypothesis rest _, made⟩
  case case4 offset letter text unknown =>
      rw [unescape, if_pos rfl] at read
      simp only [unknown] at read
      cases read
  case case5 offset character text plain inductionHypothesis =>
      unfold unescape at read ⊢
      rw [if_neg plain] at read ⊢
      obtain ⟨others, rest, made⟩ := bind_eq_ok.1 read
      exact bind_eq_ok.2 ⟨others, inductionHypothesis rest _, made⟩

section Literals

variable {token : Token}

theorem readString_later {literal : Literal} (read : readString token = .ok literal)
    (distance : Nat) : readString (token.later distance) = .ok literal := by
  unfold readString at read ⊢
  obtain ⟨content, unescaped, made⟩ := bind_eq_ok.1 read
  exact bind_eq_ok.2 ⟨content, unescape_of_eq_ok unescaped _, made⟩

theorem readNumber_later {literal : Literal} (read : readNumber token = .ok literal)
    (distance : Nat) : readNumber (token.later distance) = .ok literal := by
  unfold readNumber at read ⊢
  dsimp only [Token.later] at read ⊢
  split at read
  next => exact read
  next =>
    split at read
    next fits =>
      rw [if_pos fits]
      exact read
    next => cases read

theorem readIndex_later {index : Nat} (read : readIndex token = .ok index) (distance : Nat) :
    readIndex (token.later distance) = .ok index := by
  unfold readIndex at read ⊢
  dsimp only [Token.later] at read ⊢
  split at read
  next fits =>
    rw [if_pos fits]
    exact read
  next => cases read

end Literals

/-! ## Operands -/

theorem isEnvironment_mapSpans (move : Span → Span) (expression : Expression) :
    isEnvironment (expression.mapSpans move) = isEnvironment expression := by
  cases expression <;> rfl

section Operands

variable (halts : HaltsBoth ending ending' old new)
  {operand operand' expression expression' : Reader Expression}
  (carries : CarriesReader distance old new (Expression.mapSpans (Span.later distance)) expression
    expression')

include halts carries

theorem carries_readPrimary :
    CarriesReader distance old new (Expression.mapSpans (Span.later distance))
      (readPrimary ending expression) (readPrimary ending' expression') := by
  refine carriesReader_of_cons halts.old ⟨_, rfl⟩ (fun token rest mark => ?_)
    fun token tokens tokens' matched => ?_
  · obtain ⟨kind, text, start⟩ := token
    match kind, mark with
    | .beginTag, _ | .endTag, _ | .comment, _ => exact ⟨_, rfl⟩
  · obtain ⟨kind, text, start⟩ := token
    cases kind with
    | keyword keyword =>
        dsimp only [readPrimary, Token.later]
        split
        next =>
          refine carries_pure ?_ matched
          rw [Expression.mapSpans, ← Token.span_later]
          rfl
        next => exact carries_error
    | number =>
        refine carries_check (fun literal read => readNumber_later read distance)
          fun literal => carries_pure ?_ matched
        rw [Token.span_later, Expression.mapSpans]
    | string =>
        refine carries_check (fun literal read => readString_later read distance)
          fun literal => carries_pure ?_ matched
        rw [Token.span_later, Expression.mapSpans]
    | identifier =>
        refine carries_peek halts matched fun seen seen' alike => ?_
        split
        next =>
          obtain rfl := (alike _).1 rfl
          refine (carries_readKind halts rfl matched).bind
            fun opening inner inner' _ _ matched => ?_
          refine (carries_readArguments halts carries matched).bind
            fun given rest rest' _ _ left => ?_
          refine carries_pure ?_ left
          rw [identifier_later, Expression.mapSpans, Span.later_cover, Token.span_later]
          simp
        next notOpening =>
          split
          next => exact absurd ((alike _).2 rfl) notOpening
          next =>
            refine carries_pure ?_ matched
            rw [identifier_later, Expression.mapSpans]
    | symbol symbol =>
        cases symbol with
        | leftParenthesis =>
            refine (carries matched).bind fun inner last last' _ _ matched => ?_
            exact (carries_readKind halts rfl matched).bind fun close rest rest' _ _ left =>
              carries_pure rfl left
        | leftBracket =>
            exact (carries_readBracketed halts carries _ matched).bind
              fun bracketed rest rest' _ _ left => carries_pure rfl left
        | _ => exact carries_error
    | _ => exact carries_error

theorem carries_readMember (target : Expression) :
    CarriesReader distance old new (Expression.mapSpans (Span.later distance))
      (readMember ending expression target)
      (readMember ending' expression' (target.mapSpans (Span.later distance))) := by
  refine carriesReader_of_cons halts.old ⟨_, rfl⟩ (fun token rest mark => ?_)
    fun token tokens tokens' matched => ?_
  · obtain ⟨kind, text, start⟩ := token
    match kind, mark with
    | .beginTag, _ | .endTag, _ | .comment, _ => exact ⟨_, rfl⟩
  · obtain ⟨kind, text, start⟩ := token
    cases kind with
    | identifier =>
        refine carries_peek halts matched fun seen seen' alike => ?_
        split
        next =>
          obtain rfl := (alike _).1 rfl
          dsimp only
          rw [isEnvironment_mapSpans]
          split
          next =>
            refine (carries_readKind halts rfl matched).bind
              fun opening inner inner' _ _ matched => ?_
            refine (carries_readArguments halts carries matched).bind
              fun given rest rest' _ _ left => ?_
            refine carries_pure ?_ left
            rw [identifier_later, Expression.mapSpans, Span.later_cover,
              Expression.span_mapSpans]
            simp
          next => exact carries_error
        next notOpening =>
          split
          next => exact absurd ((alike _).2 rfl) notOpening
          next =>
            refine carries_pure ?_ matched
            rw [identifier_later, Expression.mapSpans, Span.later_cover,
              Expression.span_mapSpans, Token.span_later, MemberKey.mapSpan]
    | number =>
        refine carries_check (fun index read => readIndex_later read distance)
          fun index => carries_pure ?_ matched
        rw [Token.span_later, Expression.mapSpans, Span.later_cover, Expression.span_mapSpans,
          MemberKey.mapSpan]
    | _ => exact carries_error

theorem carries_readSelectors (target : Expression) {tokens tokens' : List Token}
    (matched : Matches distance old new tokens tokens') :
    Carries distance old new (Expression.mapSpans (Span.later distance))
      (readSelectors ending expression target tokens)
      (readSelectors ending' expression' (target.mapSpans (Span.later distance)) tokens') := by
  rw [readSelectors, readSelectors]
  refine carries_peek halts matched fun seen seen' alike => ?_
  split
  next =>
    obtain rfl := (alike _).1 rfl
    refine (carries_readKind halts rfl matched).bind fun dot middle middle' shorter _ matched => ?_
    refine (carries_readMember halts carries target matched).bind
      fun selected next next' shorterStill _ matched => ?_
    have others := carries_readSelectors selected matched
    exact others.bind fun whole rest rest' _ _ left => carries_pure rfl left
  next =>
    obtain rfl := (alike _).1 rfl
    refine (carries_readKind halts rfl matched).bind
      fun opening inner inner' shorter _ matched => ?_
    refine (carries matched).bind fun selector last last' shorterInner _ matched => ?_
    refine (carries_readKind halts rfl matched).bind
      fun close next next' shorterStill _ matched => ?_
    have others := carries_readSelectors
      (.index target selector (target.span.cover close.span)) matched
    rw [Expression.mapSpans, Span.later_cover,
      ← Expression.span_mapSpans (Span.later distance) target, ← Token.span_later] at others
    exact others.bind fun whole rest rest' _ _ left => carries_pure rfl left
  next notDot notOpening =>
    split
    next => exact absurd ((alike _).2 rfl) notDot
    next => exact absurd ((alike _).2 rfl) notOpening
    next => exact carries_pure rfl matched
termination_by tokens.length
decreasing_by
  · exact Nat.lt_trans shorterStill shorter
  · exact Nat.lt_trans shorterStill (Nat.lt_trans shorterInner shorter)

theorem carries_readOperand
    (carriesOperand : CarriesReader distance old new (Expression.mapSpans (Span.later distance))
      operand operand') :
    CarriesReader distance old new (Expression.mapSpans (Span.later distance))
      (readOperand ending operand expression) (readOperand ending' operand' expression') := by
  refine carriesReader_of_cons halts.old ⟨_, rfl⟩ (fun token rest mark => ?_)
    fun token tokens tokens' matched => ?_
  · obtain ⟨kind, text, start⟩ := token
    match kind, mark with
    | .beginTag, _ | .endTag, _ | .comment, _ => exact ⟨_, rfl⟩
  · have sameKind : (token.later distance).kind = token.kind := rfl
    rw [readOperand, readOperand, sameKind]
    split
    next operator _ =>
      refine (carriesOperand matched).bind fun inner rest rest' _ _ left => carries_pure ?_ left
      rw [Expression.mapSpans, Span.later_cover, Expression.span_mapSpans, Token.span_later]
    next =>
      refine (carries_readPrimary halts carries (.cons token matched)).bind
        fun first next next' _ _ matched => ?_
      exact (carries_readSelectors halts carries first matched).bind
        fun whole rest rest' _ _ left => carries_pure rfl left

end Operands

/-! ## Binary operators -/

theorem leaves_climb_of_halts (halts : Halts ending tokens) {operand : Reader Expression}
    {least : Nat} (left : Expression) :
    Leaves (climb ending operand least left tokens) left tokens := by
  obtain ⟨seen, looked, noSymbol⟩ := halts.exists_peek
  have noOperator : seen.bind binaryOperator? = none := by
    cases seen with
    | none => rfl
    | some kind =>
        cases kind with
        | symbol symbol => exact absurd rfl (noSymbol symbol)
        | _ => rfl
  rw [climb, looked]
  dsimp only [bind, Except.bind]
  rw [noOperator]
  exact leaves_pure left (NotLonger.untouched tokens)

section Binary

variable (halts : HaltsBoth ending ending' old new) {operand operand' : Reader Expression}
  (carries : CarriesReader distance old new (Expression.mapSpans (Span.later distance)) operand
    operand')

include halts carries

theorem carries_climb (least : Nat) (left : Expression) {tokens tokens' : List Token}
    (matched : Matches distance old new tokens tokens') :
    Carries distance old new (Expression.mapSpans (Span.later distance))
      (climb ending operand least left tokens)
      (climb ending' operand' least (left.mapSpans (Span.later distance)) tokens') := by
  cases matched with
  | stop =>
      exact carries_of_leaves (leaves_climb_of_halts halts.old left) .stop
        (leaves_climb_of_halts halts.new _)
  | @cons token tokens tokens' matched =>
      rw [climb, climb]
      refine carries_check (fun seen looked => looked) fun seen => ?_
      split
      next operator _ =>
        split
        next => exact carries_pure rfl (.cons token matched)
        next =>
          refine (carries_readAny token matched).bind
            fun symbol inner inner' shorter _ matched => ?_
          refine (carries matched).bind fun first next next' shorterFirst _ matched => ?_
          have tighter := carries_climb (precedence operator) first matched
          refine tighter.bind fun right last last' notLonger _ matched => ?_
          have others := carries_climb least
            (.binary operator left right (left.span.cover right.span)) matched
          rw [Expression.mapSpans, Span.later_cover,
            ← Expression.span_mapSpans (Span.later distance) left,
            ← Expression.span_mapSpans (Span.later distance) right] at others
          exact others.bind fun whole rest rest' _ _ left => carries_pure rfl left
      next => exact carries_pure rfl (.cons token matched)
termination_by tokens.length
decreasing_by
  · exact Nat.lt_trans shorterFirst shorter
  · exact Nat.lt_of_le_of_lt notLonger (Nat.lt_trans shorterFirst shorter)

theorem carries_readBinary :
    CarriesReader distance old new (Expression.mapSpans (Span.later distance))
      (readBinary ending operand) (readBinary ending' operand') := by
  intro tokens tokens' matched
  refine (carries matched).bind fun first next next' _ _ matched => ?_
  exact (carries_climb halts carries 0 first matched).bind fun whole rest rest' _ _ left =>
    carries_pure rfl left

end Binary

/-! ## Levels -/

theorem carries_readTooDeep {reader : Reader β} :
    CarriesReader distance old new displace (readTooDeep ending) reader := by
  intro tokens tokens' matched
  cases tokens with
  | nil => cases ending <;> exact carries_error
  | cons token tokens => exact carries_error

theorem carries_operandAt (halts : HaltsBoth ending ending' old new) (levels : Nat) :
    CarriesReader distance old new (Expression.mapSpans (Span.later distance))
      (operandAt ending levels) (operandAt ending' levels) := by
  induction levels with
  | zero => exact carries_readOperand halts carries_readTooDeep carries_readTooDeep
  | succ levels inductionHypothesis =>
      exact carries_readOperand halts (carries_readBinary halts inductionHypothesis)
        inductionHypothesis

/-- Expressions are read alike wherever the fragment stands that they are in. -/
theorem carries_readExpression (halts : HaltsBoth ending ending' old new) :
    CarriesReader distance old new (Expression.mapSpans (Span.later distance))
      (readExpression ending) (readExpression ending') :=
  carries_readBinary halts (carries_operandAt halts 127)

end ViewTemplate.Fragment
