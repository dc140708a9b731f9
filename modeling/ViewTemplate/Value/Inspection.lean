import ViewTemplate.Text.Quoted
import ViewTemplate.Value.Basic

/-!
The text that shows a value to a person who inspects a program: the kind of the value and what it
holds, so that values that render alike can be told apart.
-/

namespace ViewTemplate.Value

def separated (parts : List String) : String :=
  ", ".intercalate parts

def bracketed (content : String) : String :=
  "[" ++ content ++ "]"

def braced (content : String) : String :=
  "\x7b" ++ content ++ "\x7d"

mutual

def inspect : Value → String
  | .none => "None"
  | .bool truth => "Bool(" ++ (if truth then "true" else "false") ++ ")"
  | .integer number => "Integer(" ++ integerText number ++ ")"
  | .float number => "Float(" ++ Decimal.write .diagnostic number ++ ")"
  | .string text => "String(" ++ Text.quoted text ++ ")"
  | .list items => "List(" ++ bracketed (separated (inspectItems items)) ++ ")"
  | .map entries => "Map(" ++ braced (separated (inspectEntries entries)) ++ ")"

def inspectItems : List Value → List String
  | [] => []
  | item :: items => inspect item :: inspectItems items

def inspectEntries : List (String × Value) → List String
  | [] => []
  | (key, value) :: entries =>
      (Text.quoted key ++ ": " ++ inspect value) :: inspectEntries entries

end

def inspectVariables (scope : Entries Value) : String :=
  braced (separated (inspectEntries scope))

end ViewTemplate.Value
