import ViewTemplate.Value.Basic

/-!
Host data and its conversion to values. Sequences become lists, records and maps become
maps, variants with content become maps of one entry; what a value cannot hold is refused.
-/

namespace ViewTemplate

mutual

/-- A tree of host data. -/
inductive HostData where
  /-- Nothing: an absent optional, a unit, or a record without fields. -/
  | unit
  | bool (truth : Bool)
  | signed (number : Int64)
  | unsigned (number : UInt64)
  /-- An integer of 128 bits, which no value holds. -/
  | wide (isSigned : Bool)
  | single (number : Float32)
  | double (number : Float)
  | character (letter : Char)
  | text (content : String)
  | bytes (content : List UInt8)
  | present (content : HostData)
  /-- A record around one unnamed field. -/
  | wrapped (content : HostData)
  | variant (name : String)
  | tagged (name : String) (content : HostData)
  | sequence (items : List HostData)
  | record (fields : List (String × HostData))
  | map (entries : List HostEntry)

/-- An entry of a map of host data, or a part of one that comes on its own. -/
inductive HostEntry where
  | keyed (key value : HostData)
  /-- A key, whose value may come next. -/
  | bare (key : HostData)
  /-- A value, whose key should have come before. -/
  | unkeyed (value : HostData)

end

instance : Inhabited HostData := ⟨.unit⟩

namespace HostData

/-- Why host data has no value. -/
inductive Fault where
  /-- An unsigned integer beyond the greatest signed one. -/
  | integerRange
  /-- An integer of 128 bits. -/
  | unsupportedWidth (isSigned : Bool)
  /-- A value of a map that came without its key. -/
  | valueBeforeKey
  /-- A key that is neither a string nor an integer. -/
  | unusableKey
  /-- Data for a view that is neither a map nor none. -/
  | unusableViewData (found : Value.Kind)
  deriving DecidableEq

def Fault.message : Fault → String
  | .integerRange => "integer does not fit in 64 signed bits"
  | .unsupportedWidth isSigned => (if isSigned then "i128" else "u128") ++ " is not supported"
  | .valueBeforeKey => "map value serialized before its key"
  | .unusableKey => "map key must be a string or an integer"
  | .unusableViewData found => "expected map of view data, found " ++ found.name

/-- The text of a map key: strings, characters, integers, names of variants without content, and
records around one of these. -/
def keyText : HostData → Except Fault String
  | .signed number => .ok (toString number.toInt)
  | .unsigned number => .ok (toString number.toNat)
  | .character letter => .ok (String.singleton letter)
  | .text content => .ok content
  | .variant name => .ok name
  | .wrapped content => keyText content
  | .wide isSigned => .error (.unsupportedWidth isSigned)
  | _ => .error .unusableKey

mutual

def toValue : HostData → Except Fault Value
  | .unit => .ok .none
  | .bool truth => .ok (.bool truth)
  | .signed number => .ok (.integer number)
  | .unsigned number =>
      if Value.fits number.toNat then .ok (.integer (Int64.ofInt number.toNat))
      else .error .integerRange
  | .wide isSigned => .error (.unsupportedWidth isSigned)
  | .single number => .ok (.float number.toFloat)
  | .double number => .ok (.float number)
  | .character letter => .ok (.string (String.singleton letter))
  | .text content => .ok (.string content)
  | .bytes content => .ok (.list (content.map fun byte => .integer (Int64.ofInt byte.toNat)))
  | .present content => toValue content
  | .wrapped content => toValue content
  | .variant name => .ok (.string name)
  | .tagged name content => do
      let value ← toValue content
      .ok (.map [(name, value)])
  | .sequence items => do
      let values ← itemsToValues items
      .ok (.list values)
  | .record fields => do
      let pairs ← fieldsToPairs fields
      .ok (Value.ofPairs pairs)
  | .map entries => do
      let pairs ← entriesToPairs none entries
      .ok (Value.ofPairs pairs)

def itemsToValues : List HostData → Except Fault (List Value)
  | [] => .ok []
  | item :: items => do
      let value ← toValue item
      let values ← itemsToValues items
      .ok (value :: values)

def fieldsToPairs : List (String × HostData) → Except Fault (List (String × Value))
  | [] => .ok []
  | (name, field) :: fields => do
      let value ← toValue field
      let pairs ← fieldsToPairs fields
      .ok ((name, value) :: pairs)

/-- Pairs the values of a map with their keys. A key that came on its own is `pending`, until a value
takes it or another key takes its place. -/
def entriesToPairs (pending : Option String) :
    List HostEntry → Except Fault (List (String × Value))
  | [] => .ok []
  | .keyed key value :: entries => do
      let name ← keyText key
      let value ← toValue value
      let pairs ← entriesToPairs none entries
      .ok ((name, value) :: pairs)
  | .bare key :: entries => do
      let name ← keyText key
      entriesToPairs (some name) entries
  | .unkeyed value :: entries =>
      match pending with
      | none => .error .valueBeforeKey
      | some name => do
          let value ← toValue value
          let pairs ← entriesToPairs none entries
          .ok ((name, value) :: pairs)

end

/-- Reads the value of host data as the variables of a view: a map, or none for no variables. -/
def toViewData (data : HostData) : Except Fault (Entries Value) := do
  match ← data.toValue with
  | .map entries => .ok entries
  | .none => .ok []
  | value => .error (.unusableViewData value.kind)

end HostData

namespace Value

mutual

def toHostData : Value → HostData
  | .none => .unit
  | .bool truth => .bool truth
  | .integer number => .signed number
  | .float number => .double number
  | .string text => .text text
  | .list items => .sequence (itemsToHostData items)
  | .map entries => .map (entriesToHostData entries)

def itemsToHostData : List Value → List HostData
  | [] => []
  | item :: items => toHostData item :: itemsToHostData items

def entriesToHostData : List (String × Value) → List HostEntry
  | [] => []
  | (key, value) :: entries =>
      .keyed (.text key) (toHostData value) :: entriesToHostData entries

end

end Value

end ViewTemplate
