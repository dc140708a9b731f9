import ViewTemplate.Value.Operators

/-!
Host functions, which fragment code calls by name. A function checks the number of its arguments
first, then their kinds from the first to the last.
-/

namespace ViewTemplate

abbrev HostFunction := List Value → Except Fault Value

/-- What an argument of a host function must be, and how it is read. -/
structure Parameter (α : Type) where
  expected : Value.Kind
  read? : Value → Option α

namespace Parameter

def bool : Parameter Bool where
  expected := .bool
  read? | .bool truth => some truth | _ => none

def integer : Parameter Int64 where
  expected := .integer
  read? | .integer number => some number | _ => none

/-- A number, an integer being taken as a float. -/
def float : Parameter Float where
  expected := .float
  read? := Value.float?

def string : Parameter String where
  expected := .string
  read? := Value.string?

def list : Parameter (List Value) where
  expected := .list
  read? | .list items => some items | _ => none

def map : Parameter (Entries Value) where
  expected := .map
  read? | .map entries => some entries | _ => none

def any : Parameter Value where
  expected := .none
  read? := some

/-- Reads the argument at a position, counted from one. -/
def read {α : Type} (parameter : Parameter α) (position : Nat) (value : Value) :
    Except Fault α :=
  match parameter.read? value with
  | some argument => .ok argument
  | none => .error (.functionArgument parameter.expected position value.kind)

end Parameter

namespace HostFunction

variable {α β γ δ : Type}

def nullary (result : Except Fault Value) : HostFunction
  | [] => result
  | arguments => .error (.functionArity 0 arguments.length)

def unary (first : Parameter α) (apply : α → Except Fault Value) : HostFunction
  | [a] => do apply (← first.read 1 a)
  | arguments => .error (.functionArity 1 arguments.length)

def binary (first : Parameter α) (second : Parameter β) (apply : α → β → Except Fault Value) :
    HostFunction
  | [a, b] => do
      let a ← first.read 1 a
      let b ← second.read 2 b
      apply a b
  | arguments => .error (.functionArity 2 arguments.length)

def ternary (first : Parameter α) (second : Parameter β) (third : Parameter γ)
    (apply : α → β → γ → Except Fault Value) : HostFunction
  | [a, b, c] => do
      let a ← first.read 1 a
      let b ← second.read 2 b
      let c ← third.read 3 c
      apply a b c
  | arguments => .error (.functionArity 3 arguments.length)

def quaternary (first : Parameter α) (second : Parameter β) (third : Parameter γ)
    (fourth : Parameter δ) (apply : α → β → γ → δ → Except Fault Value) : HostFunction
  | [a, b, c, d] => do
      let a ← first.read 1 a
      let b ← second.read 2 b
      let c ← third.read 3 c
      let d ← fourth.read 4 d
      apply a b c d
  | arguments => .error (.functionArity 4 arguments.length)

end HostFunction

end ViewTemplate
