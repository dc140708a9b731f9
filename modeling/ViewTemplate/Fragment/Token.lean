import ViewTemplate.Text.Search

/-!
The tokens of a fragment and where they stand. A fragment is raw text with code tags; between the
marks of a tag stand symbols, keywords, names, numbers, strings, comments and white space.
-/

namespace ViewTemplate.Fragment

/-! ## Spans -/

/-- The bytes of a fragment from `start` up to before `stop`. -/
structure Span where
  start : Nat
  stop : Nat
  deriving DecidableEq, Repr

/-- The smallest span that covers both. -/
def Span.cover (left right : Span) : Span :=
  ⟨min left.start right.start, max left.stop right.stop⟩

/-! ## Kinds of tokens -/

/-- A mark of punctuation or an operator. -/
inductive Symbol where
  | leftParenthesis
  | rightParenthesis
  | leftBracket
  | rightBracket
  | comma
  | colon
  | semicolon
  | dot
  | arrow
  | assign
  | plusAssign
  | minusAssign
  | increment
  | decrement
  | plus
  | minus
  | star
  | slash
  | percent
  | bang
  | equal
  | notEqual
  | less
  | lessEqual
  | greater
  | greaterEqual
  | and
  | or
  deriving DecidableEq, Repr

def Symbol.name : Symbol → String
  | .leftParenthesis => "open parenthesis"
  | .rightParenthesis => "close parenthesis"
  | .leftBracket => "open bracket"
  | .rightBracket => "close bracket"
  | .comma => "comma"
  | .colon => "colon"
  | .semicolon => "semicolon"
  | .dot => "member access operator"
  | .arrow => "arrow"
  | .assign => "assignment"
  | .plusAssign => "add assignment"
  | .minusAssign => "subtract assignment"
  | .increment => "increment"
  | .decrement => "decrement"
  | .plus => "plus"
  | .minus => "minus"
  | .star => "star"
  | .slash => "slash"
  | .percent => "percent"
  | .bang => "not"
  | .equal => "equals"
  | .notEqual => "not equals"
  | .less => "less than"
  | .lessEqual => "less than or equal"
  | .greater => "greater than"
  | .greaterEqual => "greater than or equal"
  | .and => "and"
  | .or => "or"

/-- A word with a meaning of its own. -/
inductive Keyword where
  | if
  | elseif
  | else
  | endif
  | foreach
  | as
  | endforeach
  | for
  | endfor
  | while
  | endwhile
  | echo
  | true
  | false
  | null
  | none
  deriving DecidableEq, Repr

namespace Keyword

def all : List Keyword :=
  [.if, .elseif, .else, .endif, .foreach, .as, .endforeach, .for, .endfor, .while, .endwhile,
    .echo, .true, .false, .null, .none]

def word : Keyword → String
  | .if => "if"
  | .elseif => "elseif"
  | .else => "else"
  | .endif => "endif"
  | .foreach => "foreach"
  | .as => "as"
  | .endforeach => "endforeach"
  | .for => "for"
  | .endfor => "endfor"
  | .while => "while"
  | .endwhile => "endwhile"
  | .echo => "echo"
  | .true => "true"
  | .false => "false"
  | .null => "null"
  | .none => "none"

def ofWord? (word : List Char) : Option Keyword :=
  all.find? fun keyword => keyword.word.toList = word

end Keyword

inductive TokenKind where
  /-- Text outside code tags. -/
  | raw
  | beginTag
  | endTag
  | comment
  | whitespace
  | symbol (mark : Symbol)
  | keyword (word : Keyword)
  | identifier
  | number
  | string
  deriving DecidableEq, Repr

def TokenKind.name : TokenKind → String
  | .raw => "raw text"
  | .beginTag => "begin tag"
  | .endTag => "end tag"
  | .comment => "comment"
  | .whitespace => "whitespace"
  | .symbol mark => mark.name
  | .keyword _ => "keyword"
  | .identifier => "identifier"
  | .number => "number"
  | .string => "string"

/-! ## Tokens -/

/-- A token: its kind, the characters it consists of, and the byte offset of the first. -/
structure Token where
  kind : TokenKind
  text : List Char
  start : Nat
  deriving DecidableEq, Repr

def Token.span (token : Token) : Span :=
  ⟨token.start, token.start + Text.byteLength token.text⟩

end ViewTemplate.Fragment
