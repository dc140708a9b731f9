import ViewTemplate.Fragment.Scan

/-!
Readers take something off the front of a list of tokens. What a reader leaves is shorter by its
type, so that readers which call each other come to an end.
-/

namespace ViewTemplate.Fragment

/-- Tokens that are left when at least one of `tokens` was taken. -/
abbrev Shorter (tokens : List Token) : Type :=
  { rest : List Token // rest.length < tokens.length }

/-- Tokens that are left when any number of `tokens` was taken. -/
abbrev NotLonger (tokens : List Token) : Type :=
  { rest : List Token // rest.length ≤ tokens.length }

namespace Shorter

variable {tokens : List Token}

/-- What is left when the first token was taken. -/
def tail (token : Token) (rest : List Token) : Shorter (token :: rest) :=
  ⟨rest, Nat.lt_succ_self _⟩

/-- What is left when more was taken of what was left. -/
def andThen (behind : Shorter tokens) (rest : Shorter behind.1) : Shorter tokens :=
  ⟨rest.1, Nat.lt_trans rest.2 behind.2⟩

/-- What is left when any number more was taken of what was left. -/
def upTo (behind : Shorter tokens) (rest : NotLonger behind.1) : Shorter tokens :=
  ⟨rest.1, Nat.lt_of_le_of_lt rest.2 behind.2⟩

/-- Forgets that a token was taken. -/
def weaken (rest : Shorter tokens) : NotLonger tokens :=
  ⟨rest.1, Nat.le_of_lt rest.2⟩

end Shorter

namespace NotLonger

variable {tokens : List Token}

/-- What is left when nothing was taken. -/
def untouched (tokens : List Token) : NotLonger tokens :=
  ⟨tokens, Nat.le_refl _⟩

/-- What is left when at least one token more was taken of what was left. -/
def andThen (behind : NotLonger tokens) (rest : Shorter behind.1) : Shorter tokens :=
  ⟨rest.1, Nat.lt_of_lt_of_le rest.2 behind.2⟩

/-- What is left when any number more was taken of what was left. -/
def upTo (behind : NotLonger tokens) (rest : NotLonger behind.1) : NotLonger tokens :=
  ⟨rest.1, Nat.le_trans rest.2 behind.2⟩

end NotLonger

/-- A reader of something that takes at least one token. -/
abbrev Reader (α : Type) : Type :=
  (tokens : List Token) → Except SyntaxError (α × Shorter tokens)

variable (ending : Ending)

/-- The kind of the next token, none at the end of the fragment. Looking past the last token brings
up the error at which the scan ended. -/
def peek : List Token → Except SyntaxError (Option TokenKind)
  | [] =>
      match ending with
      | .complete _ => .ok none
      | .failed error => .error error
  | token :: _ => .ok (some token.kind)

def readAny : Reader Token
  | [] => .error (ending.missing .anyToken)
  | token :: rest => .ok (token, .tail token rest)

def readKind (kind : TokenKind) : Reader Token
  | [] => .error (ending.missing (.token kind))
  | token :: rest =>
      if token.kind = kind then .ok (token, .tail token rest)
      else .error ⟨.expected (.token kind) (some token.kind), token.span⟩

def readKeyword (wanted : Keyword) : Reader Token
  | [] => .error (ending.missing (.token (.keyword wanted)))
  | token :: rest =>
      match token.kind with
      | .keyword found =>
          if found = wanted then .ok (token, .tail token rest)
          else .error ⟨.expectedKeyword wanted found, token.span⟩
      | other => .error ⟨.expected (.token (.keyword wanted)) (some other), token.span⟩

/-- Gives up because expressions stand too deeply inside each other. -/
def readTooDeep {α : Type} : Reader α
  | [] =>
      match ending with
      | .complete length => .error ⟨.nestedTooDeeply, ⟨length, length⟩⟩
      | .failed error => .error error
  | token :: _ => .error ⟨.nestedTooDeeply, token.span⟩

end ViewTemplate.Fragment
