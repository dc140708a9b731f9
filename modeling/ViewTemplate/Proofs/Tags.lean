import ViewTemplate.Proofs.Occurrence
import ViewTemplate.Proofs.Reading

/-!
Code tags that a fragment begins with. The lexemes of a tag are cut off one by one whatever follows
the tag, so its clause stands in front of the clauses of what follows.
-/

namespace ViewTemplate.Fragment

open ViewTemplate.Text

/-! ## String literals -/

/-- A character as it is written in a string literal between single quotes. -/
def escapeCharacter (character : Char) : List Char :=
  if character = '\\' ∨ character = '\'' then ['\\', character] else [character]

/-- A text as a string literal between single quotes. -/
def literalText (text : List Char) : List Char :=
  '\'' :: text.flatMap escapeCharacter ++ ['\'']

theorem stringLength?_literalText (text rest : List Char) :
    stringLength? '\'' false (text.flatMap escapeCharacter ++ '\'' :: rest) =
      some (text.flatMap escapeCharacter ++ ['\'']).length := by
  induction text with
  | nil => rfl
  | cons character text inductionHypothesis =>
      rw [List.flatMap_cons, List.append_assoc, List.append_assoc]
      by_cases special : character = '\\' ∨ character = '\''
      · rw [escapeCharacter, if_pos special]
        simp [stringLength?, inductionHypothesis]
      · obtain ⟨noBackslash, noQuote⟩ := not_or.1 special
        have unescaped : (character == '\\') = false := beq_eq_false_iff_ne.2 noBackslash
        rw [escapeCharacter, if_neg special]
        simp [stringLength?, noQuote, unescaped, inductionHypothesis]

theorem unescape_literalText (offset : Nat) (text : List Char) :
    unescape offset (text.flatMap escapeCharacter) = .ok text := by
  induction text generalizing offset with
  | nil => rfl
  | cons character text inductionHypothesis =>
      rw [List.flatMap_cons]
      by_cases special : character = '\\' ∨ character = '\''
      · rcases special with rfl | rfl
        · simp [escapeCharacter, unescape, escaped?, inductionHypothesis, Except.map]
        · simp [escapeCharacter, unescape, escaped?, inductionHypothesis, Except.map]
      · have noBackslash : ¬ character = '\\' := fun same => special (Or.inl same)
        rw [escapeCharacter, if_neg special, List.singleton_append]
        unfold unescape
        rw [if_neg noBackslash, inductionHypothesis]
        rfl

theorem readString_literalText {token : Token} {text : List Char}
    (written : token.text = literalText text) :
    readString token = .ok (.string (String.ofList text)) := by
  rw [readString, written, literalText, List.cons_append, List.drop_one, List.tail_cons,
    List.dropLast_concat, unescape_literalText]
  rfl

theorem codeToken_literalText (text rest : List Char) :
    codeToken '\'' (text.flatMap escapeCharacter ++ ['\''] ++ rest) =
      .ok (.string, (text.flatMap escapeCharacter ++ ['\'']).length) := by
  have length := stringLength?_literalText text rest
  have noSymbol : ∀ next : Option Char, symbolOf? '\'' next = none := by
    intro next
    cases next <;> rfl
  have parts : text.flatMap escapeCharacter ++ ['\''] ++ rest =
      text.flatMap escapeCharacter ++ '\'' :: rest := by simp
  rw [parts]
  simp [codeToken, noSymbol, length]

/-! ## Tokens of code -/

theorem wordKind_eq (word : List Char) :
    wordKind word = .identifier ∨ ∃ keyword, wordKind word = .keyword keyword := by
  unfold wordKind
  cases Keyword.ofWord? word with
  | none => exact .inl rfl
  | some keyword => exact .inr ⟨keyword, rfl⟩

/-- Which tokens a character may begin. -/
inductive BeginsToken (character : Char) (behind : List Char) : TokenKind → Nat → Prop where
  | comment {more : Nat} (slash : character = '/') : BeginsToken character behind .comment more
  | symbol {symbol : Symbol} {more : Nat}
      (found : symbolOf? character behind.head? = some (symbol, more)) :
      BeginsToken character behind (.symbol symbol) more
  | string {more : Nat} (quote : character = '"' ∨ character = '\'')
      (found : stringLength? character false behind = some more) :
      BeginsToken character behind .string more
  | number (digit : character.isDigit = true) :
      BeginsToken character behind .number (numberLength behind)
  | whitespace (space : isSpace character = true) :
      BeginsToken character behind .whitespace (behind.takeWhile isSpace).length
  | word {kind : TokenKind} (start : isIdentifierStart character = true)
      (isWord : wordKind (character :: behind.takeWhile isIdentifierContinue) = kind) :
      BeginsToken character behind kind (behind.takeWhile isIdentifierContinue).length

theorem beginsToken_of_codeToken {character : Char} {behind : List Char} {kind : TokenKind}
    {more : Nat} (token : codeToken character behind = .ok (kind, more)) :
    BeginsToken character behind kind more := by
  unfold codeToken at token
  split at token
  next =>
    cases token
    exact .comment rfl
  next =>
    split at token <;> cases token
    exact .comment rfl
  next =>
    split at token
    next symbol length found =>
      cases token
      exact .symbol found
    next =>
      split at token
      next quote =>
        split at token <;> cases token
        exact .string quote ‹_›
      next =>
        split at token
        next digit =>
          cases token
          exact .number digit
        next =>
          split at token
          next space =>
            cases token
            exact .whitespace space
          next =>
            split at token
            next start =>
              cases token
              exact .word start rfl
            next => cases token

/-! ## Lexemes -/

/-- A piece of code with the kind of token that it makes. -/
structure Lexeme where
  kind : TokenKind
  text : List Char

def space : Lexeme := ⟨.whitespace, [' ']⟩

def nameLexeme (name : String) : Lexeme := ⟨.identifier, name.toList⟩

/-- What a tag begins with that echoes an expression. -/
def echoLexemes : List Lexeme := [space, ⟨.keyword .echo, Keyword.echo.word.toList⟩, space]

/-- The code that lexemes make up. -/
def codeOf (lexemes : List Lexeme) : List Char :=
  lexemes.flatMap Lexeme.text

/-- The tokens that lexemes make from a byte offset on. -/
def place : (offset : Nat) → List Lexeme → List Token
  | _, [] => []
  | offset, ⟨kind, text⟩ :: lexemes =>
      ⟨kind, text, offset⟩ :: place (offset + byteLength text) lexemes

theorem place_append (offset : Nat) (first second : List Lexeme) :
    place offset (first ++ second) =
      place offset first ++ place (offset + byteLength (codeOf first)) second := by
  induction first generalizing offset with
  | nil => rfl
  | cons lexeme first inductionHypothesis =>
      have whole : byteLength (codeOf (lexeme :: first)) =
          byteLength lexeme.text + byteLength (codeOf first) :=
        byteLength_append lexeme.text (codeOf first)
      rw [List.cons_append, place, place, inductionHypothesis, whole, Nat.add_assoc]
      rfl

/-- Lexemes are what is cut off, one by one, in front of the code that follows. -/
def Lexes (rest : List Char) : List Lexeme → Prop
  | [] => True
  | ⟨kind, text⟩ :: lexemes =>
      (∃ character behind, text = character :: behind ∧
        stripInitial? endTag (character :: (behind ++ (codeOf lexemes ++ rest))) = none ∧
          codeToken character (behind ++ (codeOf lexemes ++ rest)) = .ok (kind, behind.length)) ∧
        Lexes rest lexemes

def Scanned.prepend (tokens : List Token) (scanned : Scanned) : Scanned :=
  ⟨tokens ++ scanned.tokens, scanned.ending⟩

theorem scanFrom_code {opening : Span} {offset more : Nat} {character : Char}
    {behind : List Char} {kind : TokenKind}
    (noEnd : stripInitial? endTag (character :: behind) = none)
    (token : codeToken character behind = .ok (kind, more)) :
    scanFrom (.code opening) offset (character :: behind) =
      (scanFrom (.code opening) (offset + byteLength (character :: behind.take more))
        (behind.drop more)).cons ⟨kind, character :: behind.take more, offset⟩ := by
  rw [scanFrom]
  split
  next rest closed =>
    rw [noEnd] at closed
    cases closed
  next =>
    rw [token]
    rfl

theorem scanFrom_codeOf {opening : Span} {rest : List Char} {lexemes : List Lexeme}
    (lexes : Lexes rest lexemes) (offset : Nat) :
    scanFrom (.code opening) offset (codeOf lexemes ++ rest) =
      (scanFrom (.code opening) (offset + byteLength (codeOf lexemes)) rest).prepend
        (place offset lexemes) := by
  induction lexemes generalizing offset with
  | nil => rfl
  | cons lexeme lexemes inductionHypothesis =>
      obtain ⟨kind, text⟩ := lexeme
      obtain ⟨⟨character, behind, rfl, noEnd, token⟩, others⟩ := lexes
      have later := inductionHypothesis others (offset + byteLength (character :: behind))
      have parts : codeOf (⟨kind, character :: behind⟩ :: lexemes) ++ rest =
          character :: (behind ++ (codeOf lexemes ++ rest)) := by
        simp [codeOf]
      have whole : byteLength (codeOf (⟨kind, character :: behind⟩ :: lexemes)) =
          byteLength (character :: behind) + byteLength (codeOf lexemes) :=
        byteLength_append (character :: behind) (codeOf lexemes)
      rw [parts, scanFrom_code noEnd token, List.take_left, List.drop_left, later, whole,
        Nat.add_assoc]
      rfl

/-- A code tag around lexemes. -/
def tagOf (lexemes : List Lexeme) : List Char :=
  beginTag ++ codeOf lexemes ++ endTag

theorem byteLength_tagOf (lexemes : List Lexeme) :
    byteLength (tagOf lexemes) = 2 + byteLength (codeOf lexemes) + 2 := by
  rw [tagOf, byteLength_append, byteLength_append]
  rfl

theorem tagOf_append (lexemes : List Lexeme) (rest : List Char) :
    tagOf lexemes ++ rest = beginTag ++ (codeOf lexemes ++ (endTag ++ rest)) := by
  simp [tagOf]

theorem scanFrom_code_endTag (opening : Span) (offset : Nat) (rest : List Char) :
    scanFrom (.code opening) offset (endTag ++ rest) =
      (scanFrom .text (offset + 2) rest).cons ⟨.endTag, endTag, offset⟩ := by
  change scanFrom (.code opening) offset ('%' :: '>' :: rest) = _
  rw [scanFrom]
  split
  next rest' closed =>
    obtain rfl : rest = rest' := List.append_cancel_left (stripInitial?_eq_some_iff.1 closed)
    rfl
  next notClosed => cases (stripInitial?_append endTag rest).symm.trans notClosed

/-- Text up to the first opening mark is one token, unless it is empty. -/
theorem scanFrom_text {text before rest : List Char}
    (broken : breakOn? beginTag text = some (before, rest)) (offset : Nat) :
    scanFrom .text offset text =
      ((scanFrom (.code ⟨offset + byteLength before, offset + byteLength before + 2⟩)
          (offset + byteLength before + 2) rest).cons
        ⟨.beginTag, beginTag, offset + byteLength before⟩).consNonempty ⟨.raw, before, offset⟩ := by
  cases text with
  | nil => cases broken
  | cons character behind =>
      rw [scanFrom]
      split
      next unbroken => cases broken.symm.trans unbroken
      next before' rest' found =>
        cases broken.symm.trans found
        rfl

/-- Text without an opening mark is one token in front of the next code tag. -/
theorem scanFrom_text_tag (offset : Nat) {raw : List Char} (plain : ¬ beginTag <:+: raw)
    (rest : List Char) :
    scanFrom .text offset (raw ++ beginTag ++ rest) =
      ((scanFrom (.code ⟨offset + byteLength raw, offset + byteLength raw + 2⟩)
          (offset + byteLength raw + 2) rest).cons
        ⟨.beginTag, beginTag, offset + byteLength raw⟩).consNonempty ⟨.raw, raw, offset⟩ := by
  have different : ('<' : Char) ≠ '%' := by decide
  refine scanFrom_text ?_ offset
  simpa [beginTag] using breakOn?_pair different plain rest

theorem scanFrom_text_beginTag (offset : Nat) (rest : List Char) :
    scanFrom .text offset (beginTag ++ rest) =
      (scanFrom (.code ⟨offset, offset + 2⟩) (offset + 2) rest).cons
        ⟨.beginTag, beginTag, offset⟩ := by
  have plain : ¬ beginTag <:+: [] := fun inside => by cases List.eq_nil_of_infix_nil inside
  exact scanFrom_text_tag offset plain rest

/-! ## Clauses -/

/-- The tokens that readers look at. -/
def significantOf (tokens : List Token) : List Token :=
  tokens.filter fun token => token.kind ≠ .whitespace

theorem significantOf_append (first second : List Token) :
    significantOf (first ++ second) = significantOf first ++ significantOf second :=
  List.filter_append first second

theorem significant_cons {token : Token} (kind : token.kind ≠ .whitespace) (scanned : Scanned) :
    (scanned.cons token).significant = token :: scanned.significant := by
  simp [Scanned.significant, Scanned.cons, kind]

theorem significant_prepend (tokens : List Token) (scanned : Scanned) :
    (scanned.prepend tokens).significant = significantOf tokens ++ scanned.significant := by
  simp [Scanned.significant, Scanned.prepend, significantOf]

/-- The clauses of a text that stands outside code tags, at a byte offset. -/
def clausesFrom (offset : Nat) (text : List Char) : Clauses :=
  let scanned := scanFrom .text offset text
  readClauses scanned.ending false scanned.significant

theorem clausesFrom_nil (offset : Nat) : clausesFrom offset [] = ⟨[], .complete offset⟩ := by
  simp [clausesFrom, scanFrom, Scanned.significant, readClauses]

/-- Text in front of a code tag is a clause unless it is empty. -/
theorem clausesFrom_text_tag (offset : Nat) {raw : List Char} (plain : ¬ beginTag <:+: raw)
    (rest : List Char) :
    clausesFrom offset (raw ++ beginTag ++ rest) =
      if raw = [] then clausesFrom offset (beginTag ++ rest)
      else (clausesFrom (offset + byteLength raw) (beginTag ++ rest)).cons
        ⟨.action (.raw (String.ofList raw)), ⟨offset, offset + byteLength raw⟩⟩ := by
  by_cases empty : raw = []
  · rw [if_pos empty, empty, List.nil_append]
  · rw [if_neg empty, clausesFrom, clausesFrom, scanFrom_text_tag offset plain,
      scanFrom_text_beginTag, Scanned.consNonempty, if_neg empty]
    simp only [significant_cons, ne_eq, reduceCtorEq, not_false_eq_true]
    exact readClauses_raw rfl

/-- The clauses of a text that begins with a tag are those of the tag and of the text behind it. -/
theorem exists_clausesFrom_tagOf (offset : Nat) {lexemes : List Lexeme} {rest : List Char}
    (lexes : Lexes (endTag ++ rest) lexemes) :
    ∃ ending mark tokens, mark.kind = .endTag ∧
      clausesFrom offset (tagOf lexemes ++ rest) =
        readClauses ending true (significantOf (place (offset + 2) lexemes) ++ mark :: tokens) ∧
      clausesFrom (offset + byteLength (tagOf lexemes)) rest =
        readClauses ending false tokens := by
  refine ⟨_, ⟨.endTag, endTag, offset + 2 + byteLength (codeOf lexemes)⟩, _, rfl, ?_, rfl⟩
  rw [clausesFrom, tagOf_append, scanFrom_text_beginTag, scanFrom_codeOf lexes,
    scanFrom_code_endTag, byteLength_tagOf]
  simp only [significant_cons, significant_prepend, ne_eq, reduceCtorEq, not_false_eq_true]
  rw [readClauses_beginTag rfl]
  simp only [Scanned.cons, Scanned.prepend, ← Nat.add_assoc]

/-- What the lexemes of a tag do to the clauses that follow, the tag does to them. -/
theorem clausesFrom_tagOf {offset : Nat} {lexemes : List Lexeme} {rest : List Char}
    (change : Clauses → Clauses) (lexes : Lexes (endTag ++ rest) lexemes)
    (reads : ∀ ending mark tokens, mark.kind = .endTag →
      readClauses ending true (significantOf (place (offset + 2) lexemes) ++ mark :: tokens) =
        change (readClauses ending false tokens)) :
    clausesFrom offset (tagOf lexemes ++ rest) =
      change (clausesFrom (offset + byteLength (tagOf lexemes)) rest) := by
  obtain ⟨ending, mark, tokens, closed, tag, behind⟩ := exists_clausesFrom_tagOf offset lexes
  rw [tag, behind, reads ending mark tokens closed]

end ViewTemplate.Fragment
