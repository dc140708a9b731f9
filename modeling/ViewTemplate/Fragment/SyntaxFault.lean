import ViewTemplate.Fragment.Token

/-!
What can be wrong with the syntax of a fragment, with the wording of each fault.
-/

namespace ViewTemplate.Fragment

/-- What a reader was looking for. -/
inductive Expected where
  | token (kind : TokenKind)
  | anyToken
  | expression
  | identifierOrIndex
  | assignment
  deriving DecidableEq

def Expected.name : Expected → String
  | .token kind => kind.name
  | .anyToken => "token"
  | .expression => "expression"
  | .identifierOrIndex => "identifier or index"
  | .assignment => "assignment"

inductive SyntaxFault where
  | unclosedTag
  | unclosedComment
  | undelimitedString
  /-- A character that begins no token. -/
  | unexpectedCharacter
  /-- A token that cannot stand outside code tags. -/
  | unexpectedToken (found : TokenKind)
  /-- Something else was found, or the end of the fragment. -/
  | expected (what : Expected) (found : Option TokenKind)
  /-- Another keyword was found. -/
  | expectedKeyword (wanted found : Keyword)
  /-- A keyword that cannot stand here. -/
  | unexpectedKeyword (found : Keyword)
  /-- A clause that continues or closes a block that is not open. -/
  | strayClause (found : Keyword)
  /-- A block that is still open at the end. -/
  | unclosedBlock (opened : Keyword)
  /-- A call on something other than the environment. -/
  | methodReceiver
  | nestedTooDeeply
  /-- An integer beyond 64 signed bits. -/
  | integerRange
  /-- An index that is no integer of 64 unsigned bits. -/
  | indexRange
  /-- A backslash before a character that it does not escape. -/
  | unknownEscape
  deriving DecidableEq

def SyntaxFault.message : SyntaxFault → String
  | .unclosedTag => "unclosed code tag"
  | .unclosedComment => "unclosed comment"
  | .undelimitedString => "undelimited string"
  | .unexpectedCharacter => "unexpected character"
  | .unexpectedToken found => "unexpected " ++ found.name
  | .expected what none => "expected " ++ what.name ++ ", found EOF"
  | .expected what (some found) => "expected " ++ what.name ++ ", found " ++ found.name
  | .expectedKeyword wanted found =>
      "expected keyword `" ++ wanted.word ++ "`, found keyword `" ++ found.word ++ "`"
  | .unexpectedKeyword found => "unexpected keyword `" ++ found.word ++ "`"
  | .strayClause found => "unexpected `" ++ found.word ++ "`"
  | .unclosedBlock opened => "unclosed `" ++ opened.word ++ "` block"
  | .methodReceiver => "methods can only be called on `__env`"
  | .nestedTooDeeply => "expression nested too deeply"
  | .integerRange => "base 10 literal out of range for 64-bit integer"
  | .indexRange => "base 10 literal out of range for unsigned 64-bit integer"
  | .unknownEscape => "unknown escape character"

/-- A fault and the bytes that it concerns. -/
structure SyntaxError where
  fault : SyntaxFault
  span : Span
  deriving DecidableEq

/-- How a stage that works from left to right ended: at the end of the fragment, or at an error
that is only reported once the next stage gets there. -/
inductive Ending where
  | complete (length : Nat)
  | failed (error : SyntaxError)
  deriving DecidableEq

/-- The error of a reader that has come to the end and expects more. -/
def Ending.missing (expected : Expected) : Ending → SyntaxError
  | .complete length => ⟨.expected expected none, ⟨length, length⟩⟩
  | .failed error => error

end ViewTemplate.Fragment
