import ViewTemplate.Function.Host
import ViewTemplate.Text.Blank
import ViewTemplate.Text.CaseMap

/-!
The host functions that every environment begins with.
-/

namespace ViewTemplate.Builtin

/-! ## Texts -/

/-- The number of characters of a string, or of elements of a list or a map. -/
def length : HostFunction := HostFunction.unary .any fun
  | .string text => .ok (Value.ofCount text.length)
  | .list items => .ok (Value.ofCount items.length)
  | .map entries => .ok (Value.ofCount entries.length)
  | value => .error (.noLength value.kind)

def lower : HostFunction :=
  HostFunction.unary .string fun text => .ok (.string (Text.lower text))

def upper : HostFunction :=
  HostFunction.unary .string fun text => .ok (.string (Text.upper text))

def trim : HostFunction :=
  HostFunction.unary .string fun text => .ok (.string (String.ofList (Text.trim text.toList)))

/-- The texts of the items of a list, with a separator between them. -/
def join : HostFunction := HostFunction.binary .list .string fun items separator => do
  let texts ← items.mapM Value.render
  .ok (.string (separator.intercalate texts))

/-- The entity that stands for a character in HTML, or the character itself. -/
def escapeCharacter (character : Char) : List Char :=
  match character with
  | '&' => "&amp;".toList
  | '<' => "&lt;".toList
  | '>' => "&gt;".toList
  | '"' => "&quot;".toList
  | '\'' => "&#039;".toList
  | character => [character]

/-- A text with the special characters of HTML escaped. -/
def escapeText (text : String) : String :=
  String.ofList (text.toList.flatMap escapeCharacter)

/-- The text of a value with the special characters of HTML escaped. -/
def escape : HostFunction := HostFunction.unary .any fun value => do
  let text ← value.render
  .ok (.string (escapeText text))

/-! ## Lists and maps -/

def keys : HostFunction := HostFunction.unary .map fun entries =>
  .ok (.list ((Entries.names entries).map .string))

def values : HostFunction := HostFunction.unary .map fun entries =>
  .ok (.list (entries.map Prod.snd))

/-- The integers between two, both included, in the direction from the first to the second. -/
def integersBetween (first last : Int) : List Int :=
  if first ≤ last then
    (List.range (last - first + 1).toNat).map fun (step : Nat) => first + (step : Int)
  else (List.range (first - last + 1).toNat).map fun (step : Nat) => first - (step : Int)

def range : HostFunction := HostFunction.binary .integer .integer fun first last =>
  .ok (.list ((integersBetween first.toInt last.toInt).map fun number =>
    .integer (Int64.ofInt number)))

/-! ## Others -/

/-- The first value unless it is none, else the second. -/
def default : HostFunction := HostFunction.binary .any .any fun
  | .none, fallback => .ok fallback
  | value, _ => .ok value

/-- The number of seconds since 1970. -/
def time (now : Int64) : HostFunction :=
  HostFunction.nullary (.ok (.integer now))

/-- The builtin functions by their names, at a time. -/
def all (now : Int64) : Entries HostFunction :=
  Entries.ofPairs
    [("len", length), ("count", length), ("lower", lower), ("upper", upper), ("trim", trim),
      ("join", join), ("keys", keys), ("values", values), ("e", escape), ("range", range),
      ("default", default), ("time", time now)]

end ViewTemplate.Builtin
