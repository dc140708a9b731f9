import ViewTemplate.Fragment.SyntaxFault
import ViewTemplate.Text.Identifier

/-!
Cutting a fragment into tokens. Outside code tags all text up to the next tag is one token; inside,
the longest token that a character begins is taken. White space and comments are tokens too, so
that the tokens tile the fragment up to the point where the scan ended.
-/

namespace ViewTemplate.Fragment

open ViewTemplate.Text

/-! ## Single tokens of code -/

/-- The symbol that a character begins, and whether the character behind belongs to it. -/
def symbolOf? (character : Char) (next : Option Char) : Option (Symbol × Nat) :=
  match character, next with
  | '=', some '>' => some (.arrow, 1)
  | '=', some '=' => some (.equal, 1)
  | '!', some '=' => some (.notEqual, 1)
  | '<', some '=' => some (.lessEqual, 1)
  | '>', some '=' => some (.greaterEqual, 1)
  | '+', some '=' => some (.plusAssign, 1)
  | '-', some '=' => some (.minusAssign, 1)
  | '+', some '+' => some (.increment, 1)
  | '-', some '-' => some (.decrement, 1)
  | '&', some '&' => some (.and, 1)
  | '|', some '|' => some (.or, 1)
  | '(', _ => some (.leftParenthesis, 0)
  | ')', _ => some (.rightParenthesis, 0)
  | '[', _ => some (.leftBracket, 0)
  | ']', _ => some (.rightBracket, 0)
  | ',', _ => some (.comma, 0)
  | ':', _ => some (.colon, 0)
  | ';', _ => some (.semicolon, 0)
  | '.', _ => some (.dot, 0)
  | '=', _ => some (.assign, 0)
  | '+', _ => some (.plus, 0)
  | '-', _ => some (.minus, 0)
  | '*', _ => some (.star, 0)
  | '/', _ => some (.slash, 0)
  | '%', _ => some (.percent, 0)
  | '!', _ => some (.bang, 0)
  | '<', _ => some (.less, 0)
  | '>', _ => some (.greater, 0)
  | _, _ => none

/-- The length of the rest of a line comment: up to a line feed or the end of the tag. -/
def lineCommentLength : List Char → Nat
  | [] => 0
  | '\n' :: _ => 0
  | '%' :: '>' :: _ => 0
  | _ :: text => lineCommentLength text + 1

/-- The length of the rest of a string with its closing quote. -/
def stringLength? (quote : Char) (escaped : Bool) : List Char → Option Nat
  | [] => none
  | character :: text =>
      if character = quote ∧ escaped = false then some 1
      else
        (stringLength? quote (character == '\\' && !escaped) text).map (· + 1)

/-- Whether the character may stand in a number behind its first digit. -/
def isNumberCharacter (character : Char) : Bool :=
  character.isDigit || character == '_'

/-- The length of the rest of a number. Behind a point there must be a digit, else the point is
not part of the number. -/
def numberLength (text : List Char) : Nat :=
  let whole := (text.takeWhile isNumberCharacter).length
  match text.dropWhile isNumberCharacter with
  | '.' :: digit :: rest =>
      if digit.isDigit then whole + 1 + ((digit :: rest).takeWhile isNumberCharacter).length
      else whole
  | _ => whole

/-- Whether the character separates tokens without being one. -/
def isSpace (character : Char) : Bool :=
  character == ' ' || character == '\t' || character == '\r' || character == '\n'

def wordKind (word : List Char) : TokenKind :=
  match Keyword.ofWord? word with
  | some keyword => .keyword keyword
  | none => .identifier

/-- The kind of the token of code that a character begins, and how many of the characters behind
belong to it. -/
def codeToken (character : Char) (behind : List Char) : Except SyntaxFault (TokenKind × Nat) :=
  match character, behind with
  | '/', '/' :: _ => .ok (.comment, lineCommentLength behind)
  | '/', '*' :: inner =>
      match breakOn? ['*', '/'] inner with
      | some (content, _) => .ok (.comment, content.length + 3)
      | none => .error .unclosedComment
  | _, _ =>
      match symbolOf? character behind.head? with
      | some (symbol, more) => .ok (.symbol symbol, more)
      | none =>
          if character = '"' ∨ character = '\'' then
            match stringLength? character false behind with
            | some more => .ok (.string, more)
            | none => .error .undelimitedString
          else if character.isDigit then .ok (.number, numberLength behind)
          else if isSpace character then
            .ok (.whitespace, (behind.takeWhile isSpace).length)
          else if isIdentifierStart character then
            let more := behind.takeWhile isIdentifierContinue
            .ok (wordKind (character :: more), more.length)
          else .error .unexpectedCharacter

/-- The bytes that a fault of the token at `offset` concerns: the character alone if it begins no
token, else all that is left. -/
def faultSpan (fault : SyntaxFault) (offset : Nat) (character : Char) (behind : List Char) :
    Span :=
  if fault = .unexpectedCharacter then ⟨offset, offset + character.utf8Size⟩
  else ⟨offset, offset + byteLength (character :: behind)⟩

/-! ## Whole fragments -/

/-- Where a scan stands: in raw text, or in the code tag that opened at a span. -/
inductive ScanMode where
  | text
  | code (opening : Span)

/-- The tokens of a fragment up to its end or to the point where the scan failed. -/
structure Scanned where
  tokens : List Token
  ending : Ending

def Scanned.cons (token : Token) (scanned : Scanned) : Scanned :=
  ⟨token :: scanned.tokens, scanned.ending⟩

/-- Puts a token in front unless it is empty. -/
def Scanned.consNonempty (token : Token) (scanned : Scanned) : Scanned :=
  if token.text = [] then scanned else scanned.cons token

def beginTag : List Char := ['<', '%']

def endTag : List Char := ['%', '>']

/-- Scans the text from a byte offset on. -/
def scanFrom (mode : ScanMode) (offset : Nat) (text : List Char) : Scanned :=
  match mode, text with
  | .text, [] => ⟨[], .complete offset⟩
  | .text, character :: behind =>
      match _opened : breakOn? beginTag (character :: behind) with
      | none =>
          let token : Token := ⟨.raw, character :: behind, offset⟩
          ⟨[token], .complete token.span.stop⟩
      | some (before, rest) =>
          let opening : Token := ⟨.beginTag, beginTag, offset + byteLength before⟩
          (scanFrom (.code opening.span) opening.span.stop rest).cons opening
            |>.consNonempty ⟨.raw, before, offset⟩
  | .code opening, [] => ⟨[], .failed ⟨.unclosedTag, opening⟩⟩
  | .code opening, character :: behind =>
      match _closed : stripInitial? endTag (character :: behind) with
      | some rest =>
          let token : Token := ⟨.endTag, endTag, offset⟩
          (scanFrom .text token.span.stop rest).cons token
      | none =>
          match codeToken character behind with
          | .error fault => ⟨[], .failed ⟨fault, faultSpan fault offset character behind⟩⟩
          | .ok (kind, more) =>
              let token : Token := ⟨kind, character :: behind.take more, offset⟩
              (scanFrom (.code opening) token.span.stop (behind.drop more)).cons token
termination_by text.length
decreasing_by
  · exact length_lt_of_breakOn? _opened
  · rw [stripInitial?_eq_some_iff.1 _closed]
    simp only [endTag, List.length_append, List.length_cons, List.length_nil]
    omega
  · simp only [List.length_cons, List.length_drop]
    omega

def scan (source : List Char) : Scanned :=
  scanFrom .text 0 source

/-- The tokens that readers look at: all but white space. -/
def Scanned.significant (scanned : Scanned) : List Token :=
  scanned.tokens.filter fun token => token.kind ≠ .whitespace

end ViewTemplate.Fragment
