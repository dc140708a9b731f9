import Mathlib
import ViewTemplate.Proofs.Actions
import ViewTemplate.Proofs.Paths

/-!
Values written out as literals. What is written for a value is read as an expression that evaluates
to the value again, so that assigning it binds exactly that value (`run_assigned_literal`).
-/

namespace ViewTemplate

open Fragment Text

/-! ## Literals of values -/

namespace Value

/-- Induction over a value and the values inside it. -/
theorem inductionOn {motive : Value → Prop} (none : motive .none)
    (bool : ∀ truth, motive (.bool truth)) (integer : ∀ number, motive (.integer number))
    (float : ∀ number, motive (.float number)) (string : ∀ text, motive (.string text))
    (list : ∀ items, (∀ item ∈ items, motive item) → motive (.list items))
    (map : ∀ entries : Entries Value, (∀ entry ∈ entries, motive entry.2) →
      motive (.map entries)) (value : Value) : motive value :=
  @Value.rec motive (fun items => ∀ item ∈ items, motive item)
    (fun entries => ∀ entry ∈ entries, motive entry.2) (fun entry => motive entry.2)
    none bool integer float string list map
    (fun _ member => nomatch member)
    (fun _ _ first others => List.forall_mem_cons.2 ⟨first, others⟩)
    (fun _ member => nomatch member)
    (fun _ _ first others => List.forall_mem_cons.2 ⟨first, others⟩)
    (fun _ _ second => second) value

mutual

/-- How deep lists and maps stand inside each other. -/
def height : Value → Nat
  | .none | .bool _ | .integer _ | .float _ | .string _ => 0
  | .list items => heightOfAll items + 1
  | .map entries => heightOfEntries entries + 1

def heightOfAll : List Value → Nat
  | [] => 0
  | item :: items => max item.height (heightOfAll items)

def heightOfEntries : List (String × Value) → Nat
  | [] => 0
  | (_, value) :: entries => max value.height (heightOfEntries entries)

end

mutual

/-- Whether a value can be written out: there is no float in it, no map without entries and not
the least integer, whose digits are no integer without the sign in front. -/
def isWritable : Value → Bool
  | .none | .bool _ | .string _ => true
  | .integer number => number != Int64.minValue
  | .float _ => false
  | .list items => areAllWritable items
  | .map entries => !entries.isEmpty && areEntriesWritable entries

def areAllWritable : List Value → Bool
  | [] => true
  | item :: items => item.isWritable && areAllWritable items

def areEntriesWritable : List (String × Value) → Bool
  | [] => true
  | (_, value) :: entries => value.isWritable && areEntriesWritable entries

end

mutual

/-- Whether the keys of all maps in a value ascend. -/
def IsOrdered : Value → Prop
  | .none | .bool _ | .integer _ | .float _ | .string _ => True
  | .list items => AreAllOrdered items
  | .map entries => Entries.Ascending entries ∧ AreEntriesOrdered entries

def AreAllOrdered : List Value → Prop
  | [] => True
  | item :: items => item.IsOrdered ∧ AreAllOrdered items

def AreEntriesOrdered : List (String × Value) → Prop
  | [] => True
  | (_, value) :: entries => value.IsOrdered ∧ AreEntriesOrdered entries

end

/-- An entry of a map as it stands in the literal of the map. -/
def entryLiteral (key value : String) : String :=
  String.ofList (literalText key.toList) ++ " => " ++ value

mutual

/-- A value as a literal. -/
def literal : Value → String
  | .none => "null"
  | .bool truth => if truth then "true" else "false"
  | .integer number => integerText number
  | .float number => Decimal.write .diagnostic number
  | .string text => String.ofList (literalText text.toList)
  | .list items => "[" ++ ", ".intercalate (literals items) ++ "]"
  | .map entries => "[" ++ ", ".intercalate (entryLiterals entries) ++ "]"

def literals : List Value → List String
  | [] => []
  | item :: items => item.literal :: literals items

def entryLiterals : List (String × Value) → List String
  | [] => []
  | (key, value) :: entries =>
      entryLiteral key value.literal :: entryLiterals entries

end

example :
    (Value.list [.integer (-7), .map [("it's", .none), ("k\\", .list [])], .string "%>"]).literal =
      "[-7, ['it\\'s' => null, 'k\\\\' => []], '%>']" := by
  decide

mutual

/-- The expression that the literal of a value is read as, but for the bytes. -/
def literalExpression : Value → Expression
  | .none => .literal .null ⟨0, 0⟩
  | .bool truth => .literal (.bool truth) ⟨0, 0⟩
  | .integer number =>
      if number < 0 then .unary .negate (.literal (.integer (-number)) ⟨0, 0⟩) ⟨0, 0⟩
      else .literal (.integer number) ⟨0, 0⟩
  | .float number => .literal (.float number) ⟨0, 0⟩
  | .string text => .literal (.string text) ⟨0, 0⟩
  | .list items => .list (literalExpressions items) ⟨0, 0⟩
  | .map entries => .map (literalEntries entries) ⟨0, 0⟩

def literalExpressions : List Value → List Expression
  | [] => []
  | item :: items => item.literalExpression :: literalExpressions items

def literalEntries : List (String × Value) → List (Expression × Expression)
  | [] => []
  | (key, value) :: entries =>
      (.literal (.string key) ⟨0, 0⟩, value.literalExpression) :: literalEntries entries

end

/-! ### Parts of lists and maps -/

theorem areAllWritable_iff {items : List Value} :
    areAllWritable items = true ↔ ∀ item ∈ items, item.isWritable = true := by
  induction items with
  | nil => simp [areAllWritable]
  | cons item items inductionHypothesis => simp [areAllWritable, inductionHypothesis]

theorem areEntriesWritable_iff {entries : List (String × Value)} :
    areEntriesWritable entries = true ↔ ∀ entry ∈ entries, entry.2.isWritable = true := by
  induction entries with
  | nil => simp [areEntriesWritable]
  | cons entry entries inductionHypothesis => simp [areEntriesWritable, inductionHypothesis]

theorem areAllOrdered_iff {items : List Value} :
    AreAllOrdered items ↔ ∀ item ∈ items, item.IsOrdered := by
  induction items with
  | nil => simp [AreAllOrdered]
  | cons item items inductionHypothesis => simp [AreAllOrdered, inductionHypothesis]

theorem areEntriesOrdered_iff {entries : List (String × Value)} :
    AreEntriesOrdered entries ↔ ∀ entry ∈ entries, entry.2.IsOrdered := by
  induction entries with
  | nil => simp [AreEntriesOrdered]
  | cons entry entries inductionHypothesis => simp [AreEntriesOrdered, inductionHypothesis]

/-! ### Integers -/

/-- The sign of an integer other than the least one can be taken off. -/
theorem toInt_neg_of_writable {number : Int64} (writable : (integer number).isWritable = true) :
    (-number).toInt = -number.toInt := by
  have least := number.le_toInt
  have greatest := number.toInt_lt
  have notLeast : number.toInt ≠ Int64.minValue.toInt := by
    intro same
    rw [isWritable, Int64.toInt_inj.1 same] at writable
    exact absurd writable (by decide)
  rw [Int64.toInt_minValue] at notLeast
  rw [Int64.toInt_neg]
  exact Int.bmod_eq_of_le (by omega) (by omega)

theorem toList_integerText (number : Int64) :
    (integerText number).toList =
      if number.toInt < 0 then '-' :: Nat.toDigits 10 (-number.toInt).toNat
      else Nat.toDigits 10 number.toInt.toNat := by
  rw [integerText]
  cases number.toInt with
  | ofNat count =>
      have notNegative : ¬ Int.ofNat count < 0 := Int.not_lt.2 (Int.natCast_nonneg count)
      rw [if_neg notNegative]
      exact toList_toString count
  | negSucc count =>
      rw [if_pos (Int.negSucc_lt_zero count)]
      change ("-" ++ toString (count + 1)).toList = _
      rw [String.toList_append, toList_toString]
      rfl

end Value

/-! ## Code -/

namespace Fragment

/-- A lexeme with the spaces that literals have around it. -/
def Lexeme.laid (lexeme : Lexeme) : List Lexeme :=
  match lexeme.kind with
  | .symbol .comma => [lexeme, space]
  | .symbol .arrow => [space, lexeme, space]
  | _ => [lexeme]

/-- Lexemes with the spaces that literals have between them. -/
def laidOut (lexemes : List Lexeme) : List Lexeme :=
  lexemes.flatMap Lexeme.laid

theorem laidOut_append (first second : List Lexeme) :
    laidOut (first ++ second) = laidOut first ++ laidOut second :=
  List.flatMap_append

theorem codeOf_append (first second : List Lexeme) :
    codeOf (first ++ second) = codeOf first ++ codeOf second :=
  List.flatMap_append

theorem filter_laidOut {lexemes : List Lexeme}
    (visible : ∀ lexeme ∈ lexemes, lexeme.kind ≠ .whitespace) :
    ((laidOut lexemes).filter fun lexeme => lexeme.kind ≠ .whitespace) = lexemes := by
  induction lexemes with
  | nil => rfl
  | cons lexeme lexemes inductionHypothesis =>
      obtain ⟨shown, visible⟩ := List.forall_mem_cons.1 visible
      have single : (lexeme.laid.filter fun lexeme => lexeme.kind ≠ .whitespace) = [lexeme] := by
        unfold Lexeme.laid
        split <;> simp [shown, space]
      rw [laidOut, List.flatMap_cons, List.filter_append, single, ← laidOut,
        inductionHypothesis visible]
      rfl

/-- A character that stands behind literals inside other literals and in statements. -/
def IsDelimiter (character : Char) : Prop :=
  character = ',' ∨ character = ']' ∨ character = ';'

theorem isCutFrom_comma (following : List Char) : Symbol.comma.lexeme.IsCutFrom following :=
  ⟨',', [], rfl, stripInitial?_endTag_of_ne (by decide), rfl⟩

theorem isCutFrom_arrow (following : List Char) : Symbol.arrow.lexeme.IsCutFrom following :=
  ⟨'=', ['>'], rfl, stripInitial?_endTag_of_ne (by decide), rfl⟩

theorem isCutFrom_minus {digit : Char} (isDigit : digit.isDigit = true) (following : List Char) :
    Symbol.minus.lexeme.IsCutFrom (digit :: following) := by
  have apart : digitCharacters.all (fun digit =>
      decide (symbolOf? '-' (some digit) = some (.minus, 0))) = true := by decide
  have symbol := of_decide_eq_true (List.all_eq_true.1 apart digit (mem_digitCharacters isDigit))
  refine ⟨'-', [], rfl, stripInitial?_endTag_of_ne (by decide), ?_⟩
  rw [List.nil_append, codeToken, List.head?_cons, symbol]
  · rfl
  · exact fun _ slash => absurd slash (by decide)
  · exact fun _ slash => absurd slash (by decide)

theorem isCutFrom_keyword (word : Keyword) {stop : Char} (delimits : IsDelimiter stop)
    (rest : List Char) : word.lexeme.IsCutFrom (stop :: rest) := by
  have stops : isIdentifierContinue stop = false := by
    rcases delimits with rfl | rfl | rfl <;> decide
  have cut {first : Char} {others : List Char} (start : isIdentifierStart first = true)
      (further : others.all isIdentifierContinue = true)
      (isWord : wordKind (first :: others) = .keyword word) :
      (⟨.keyword word, first :: others⟩ : Lexeme).IsCutFrom (stop :: rest) := by
    have noPercent : first ≠ '%' := ne_of_property start (by decide)
    exact ⟨first, others, rfl, stripInitial?_endTag_of_ne noPercent,
      isWord ▸ codeToken_word start further stops rest⟩
  cases word
  all_goals exact cut (by decide) (by decide) (by decide)

theorem isCutFrom_literalLexeme {literal : Literal} (printable : literal.isPrintable = true)
    {stop : Char} (delimits : IsDelimiter stop) (rest : List Char) :
    literal.lexeme.IsCutFrom (stop :: rest) := by
  cases literal with
  | null => exact isCutFrom_keyword .null delimits rest
  | bool truth =>
      cases truth with
      | false => exact isCutFrom_keyword .false delimits rest
      | true => exact isCutFrom_keyword .true delimits rest
  | integer number =>
      have stops : isNumberCharacter stop = false ∧ stop ≠ '.' := by
        rcases delimits with rfl | rfl | rfl <;> decide
      exact isCutFrom_number _ stops.1 fun point => absurd point stops.2
  | float number => cases printable
  | string content => exact isCutFrom_string content _

/-! ### Parts of lists and maps -/

/-- What an entry of a map is cut into. -/
def entryLexemes (key : String) (value : List Lexeme) : List Lexeme :=
  [stringLexeme key] ++ ([space] ++ ([Symbol.arrow.lexeme] ++ ([space] ++ value)))

/-- What a further part of a list or a map is cut into. -/
def furtherLexemes (part others : List Lexeme) : List Lexeme :=
  [Symbol.comma.lexeme] ++ ([space] ++ (part ++ others))

theorem laidOut_entry (key : String) (value : Expression) (others : List Lexeme) :
    laidOut ((Expression.literal (.string key) ⟨0, 0⟩).lexemes ++
        Symbol.arrow.lexeme :: (value.lexemes ++ others)) =
      entryLexemes key (laidOut value.lexemes) ++ laidOut others := by
  simp [laidOut, Expression.lexemes, Literal.lexeme, Lexeme.laid, stringLexeme, Symbol.lexeme,
    entryLexemes]

theorem laidOut_others (item : Expression) (items : List Expression) :
    laidOut (lexemesOfOthers (item :: items)) =
      furtherLexemes (laidOut item.lexemes) (laidOut (lexemesOfOthers items)) := by
  rw [lexemesOfOthers, furtherLexemes, ← laidOut_append]
  rfl

theorem laidOut_otherEntries (key : String) (value : Expression)
    (entries : List (Expression × Expression)) :
    laidOut (lexemesOfOtherEntries ((.literal (.string key) ⟨0, 0⟩, value) :: entries)) =
      furtherLexemes (entryLexemes key (laidOut value.lexemes))
        (laidOut (lexemesOfOtherEntries entries)) := by
  rw [lexemesOfOtherEntries, furtherLexemes, ← laidOut_entry]
  rfl

theorem laidOut_bracketed (inside : List Lexeme) :
    laidOut (Symbol.leftBracket.lexeme :: (inside ++ [Symbol.rightBracket.lexeme])) =
      [Symbol.leftBracket.lexeme] ++ (laidOut inside ++ [Symbol.rightBracket.lexeme]) := by
  have single : laidOut [Symbol.rightBracket.lexeme] = [Symbol.rightBracket.lexeme] := rfl
  rw [← single, ← laidOut_append]
  rfl

/-! ### Text -/

theorem codeOf_further (part others : List Lexeme) :
    codeOf (furtherLexemes part others) = ", ".toList ++ codeOf part ++ codeOf others := by
  simp [furtherLexemes, codeOf, Symbol.lexeme, Symbol.text, space]

theorem codeOf_entry {key text : String} {value : List Lexeme} (code : codeOf value = text.toList) :
    codeOf (entryLexemes key value) = (Value.entryLiteral key text).toList := by
  rw [Value.entryLiteral, String.toList_append, String.toList_append, String.toList_ofList, ← code]
  simp [entryLexemes, codeOf, Symbol.lexeme, Symbol.text, space, stringLexeme]

theorem codeOf_bracketed (inside : List Lexeme) :
    codeOf ([Symbol.leftBracket.lexeme] ++ (inside ++ [Symbol.rightBracket.lexeme])) =
      "[".toList ++ codeOf inside ++ "]".toList := by
  simp [codeOf, Symbol.lexeme, Symbol.text]

theorem toList_intercalate_cons (first : String) (others : List String) :
    (", ".intercalate (first :: others)).toList =
      first.toList ++ others.flatMap fun other => ", ".toList ++ other.toList := by
  induction others generalizing first with
  | nil => simp
  | cons second others inductionHypothesis =>
      rw [String.intercalate_cons_cons, String.toList_append, inductionHypothesis,
        List.flatMap_cons, String.toList_append, List.append_assoc, List.append_assoc]

section Code

variable {items : List Value} {entries : List (String × Value)}

theorem codeOf_others_literals
    (code : ∀ item ∈ items,
      codeOf (laidOut item.literalExpression.lexemes) = item.literal.toList) :
    codeOf (laidOut (lexemesOfOthers (Value.literalExpressions items))) =
      (Value.literals items).flatMap fun other => ", ".toList ++ other.toList := by
  induction items with
  | nil => rfl
  | cons item items inductionHypothesis =>
      obtain ⟨first, others⟩ := List.forall_mem_cons.1 code
      rw [Value.literalExpressions, laidOut_others, codeOf_further, first,
        inductionHypothesis others, Value.literals, List.flatMap_cons]

theorem codeOf_all_literals
    (code : ∀ item ∈ items,
      codeOf (laidOut item.literalExpression.lexemes) = item.literal.toList) :
    codeOf (laidOut (lexemesOfAll (Value.literalExpressions items))) =
      (", ".intercalate (Value.literals items)).toList := by
  cases items with
  | nil => rfl
  | cons item items =>
      obtain ⟨first, others⟩ := List.forall_mem_cons.1 code
      rw [Value.literalExpressions, lexemesOfAll, laidOut_append, codeOf_append, first,
        codeOf_others_literals others, Value.literals, toList_intercalate_cons]

theorem codeOf_otherEntries_literals
    (code : ∀ entry ∈ entries,
      codeOf (laidOut entry.2.literalExpression.lexemes) = entry.2.literal.toList) :
    codeOf (laidOut (lexemesOfOtherEntries (Value.literalEntries entries))) =
      (Value.entryLiterals entries).flatMap fun other => ", ".toList ++ other.toList := by
  induction entries with
  | nil => rfl
  | cons entry entries inductionHypothesis =>
      obtain ⟨first, others⟩ := List.forall_mem_cons.1 code
      rw [Value.literalEntries, laidOut_otherEntries, codeOf_further, codeOf_entry first,
        inductionHypothesis others, Value.entryLiterals, List.flatMap_cons]

theorem codeOf_entries_literals
    (code : ∀ entry ∈ entries,
      codeOf (laidOut entry.2.literalExpression.lexemes) = entry.2.literal.toList) :
    codeOf (laidOut (lexemesOfEntries (Value.literalEntries entries))) =
      (", ".intercalate (Value.entryLiterals entries)).toList := by
  cases entries with
  | nil => rfl
  | cons entry entries =>
      obtain ⟨first, others⟩ := List.forall_mem_cons.1 code
      rw [Value.literalEntries, lexemesOfEntries, laidOut_entry, codeOf_append, codeOf_entry first,
        codeOf_otherEntries_literals others, Value.entryLiterals, toList_intercalate_cons]

end Code

/-- The lexemes of a literal, laid out, are its text. -/
theorem codeOf_laidOut_literal (value : Value) (writable : value.isWritable = true) :
    codeOf (laidOut value.literalExpression.lexemes) = value.literal.toList := by
  induction value using Value.inductionOn with
  | none => rfl
  | bool truth => cases truth <;> rfl
  | float number => cases writable
  | string text =>
      rw [Value.literal, String.toList_ofList]
      exact List.append_nil _
  | integer number =>
      rw [Value.literal, Value.toList_integerText, Value.literalExpression]
      by_cases negative : number < 0
      · have below : number.toInt < 0 := Int64.lt_iff_toInt_lt.1 negative
        rw [if_pos negative, if_pos below]
        have digits := Value.toInt_neg_of_writable writable
        simp [Expression.lexemes, enclosed, Expression.strength, laidOut, Lexeme.laid,
          Symbol.lexeme, Symbol.text, unaryMark, Literal.lexeme, numberLexeme, codeOf, digits]
      · have notBelow : ¬ number.toInt < 0 := fun below => negative (Int64.lt_iff_toInt_lt.2 below)
        rw [if_neg negative, if_neg notBelow]
        exact List.append_nil _
  | list items inductionHypothesis =>
      have writable := Value.areAllWritable_iff.1 writable
      rw [Value.literalExpression, Expression.lexemes, laidOut_bracketed, codeOf_bracketed,
        codeOf_all_literals fun item member =>
          inductionHypothesis item member (writable item member),
        Value.literal, String.toList_append, String.toList_append]
  | map entries inductionHypothesis =>
      have writable := Value.areEntriesWritable_iff.1 (Bool.and_eq_true_iff.1 writable).2
      rw [Value.literalExpression, Expression.lexemes, laidOut_bracketed, codeOf_bracketed,
        codeOf_entries_literals fun entry member =>
          inductionHypothesis entry member (writable entry member),
        Value.literal, String.toList_append, String.toList_append]

/-- A literal begins with no white space. -/
theorem exists_toList_literal (value : Value) (writable : value.isWritable = true) :
    ∃ first more, value.literal.toList = first :: more ∧ isSpace first = false := by
  cases value with
  | none => exact ⟨'n', _, rfl, by decide⟩
  | bool truth =>
      cases truth with
      | false => exact ⟨'f', _, rfl, by decide⟩
      | true => exact ⟨'t', _, rfl, by decide⟩
  | integer number =>
      rw [Value.literal, Value.toList_integerText]
      split
      next => exact ⟨'-', _, rfl, by decide⟩
      next =>
        obtain ⟨first, others, text, visible, -⟩ := exists_codeToken_toDigits number.toInt.toNat
        exact ⟨first, others, text, visible⟩
  | float number => cases writable
  | string text =>
      rw [Value.literal, String.toList_ofList]
      exact ⟨'\'', _, rfl, by decide⟩
  | list items =>
      rw [Value.literal, String.toList_append, String.toList_append]
      exact ⟨'[', _, rfl, by decide⟩
  | map entries =>
      rw [Value.literal, String.toList_append, String.toList_append]
      exact ⟨'[', _, rfl, by decide⟩

/-! ### Cutting -/

/-- Behind a part of a list or a map there is a comma or the closing bracket. -/
theorem exists_delimiter_of_further {others : List Lexeme} (rest : List Char)
    (further : others = [] ∨ ∃ part more, others = furtherLexemes part more) :
    ∃ stop more, codeOf others ++ ']' :: rest = stop :: more ∧ IsDelimiter stop := by
  rcases further with rfl | ⟨part, more, rfl⟩
  · exact ⟨']', rest, rfl, .inr (.inl rfl)⟩
  · exact ⟨',', _, rfl, .inl rfl⟩

theorem lexes_further {part others : List Lexeme} {rest : List Char} {first : Char}
    {more : List Char} (starts : codeOf part = first :: more) (visible : isSpace first = false)
    (lexesPart : Lexes (codeOf others ++ rest) part) (lexesOthers : Lexes rest others) :
    Lexes rest (furtherLexemes part others) := by
  rw [furtherLexemes, lexes_append, lexes_append, lexes_append]
  refine ⟨⟨isCutFrom_comma _, trivial⟩, ?_, lexesPart, lexesOthers⟩
  rw [codeOf_append, starts]
  exact lexes_space visible _

theorem lexes_entry (key : String) {value : List Lexeme} {rest : List Char} {first : Char}
    {more : List Char} (starts : codeOf value = first :: more) (visible : isSpace first = false)
    (lexes : Lexes rest value) : Lexes rest (entryLexemes key value) := by
  rw [entryLexemes, lexes_append, lexes_append, lexes_append, lexes_append]
  refine ⟨⟨isCutFrom_string key _, trivial⟩, lexes_space (by decide) _,
    ⟨isCutFrom_arrow _, trivial⟩, ?_, lexes⟩
  rw [starts]
  exact lexes_space visible _

theorem lexes_bracketed {inside : List Lexeme} {rest : List Char}
    (lexes : Lexes (']' :: rest) inside) :
    Lexes rest ([Symbol.leftBracket.lexeme] ++ (inside ++ [Symbol.rightBracket.lexeme])) := by
  rw [lexes_append, lexes_append]
  exact ⟨⟨isCutFrom_leftBracket _, trivial⟩, lexes, isCutFrom_rightBracket _, trivial⟩

/-- The lexemes of a literal are cut off one by one in front of what may stand behind a literal. -/
def IsCutOff (value : Value) : Prop :=
  ∀ stop rest, IsDelimiter stop → Lexes (stop :: rest) (laidOut value.literalExpression.lexemes)

theorem exists_codeOf_literal {value : Value} (writable : value.isWritable = true) :
    ∃ first more, codeOf (laidOut value.literalExpression.lexemes) = first :: more ∧
      isSpace first = false := by
  rw [codeOf_laidOut_literal value writable]
  exact exists_toList_literal value writable

section Cutting

variable {items : List Value} {entries : List (String × Value)} (rest : List Char)

theorem exists_delimiter_of_others (items : List Value) :
    ∃ stop more, codeOf (laidOut (lexemesOfOthers (Value.literalExpressions items))) ++
      ']' :: rest = stop :: more ∧ IsDelimiter stop := by
  refine exists_delimiter_of_further rest ?_
  cases items with
  | nil => exact .inl rfl
  | cons item items => exact .inr ⟨_, _, laidOut_others _ _⟩

theorem exists_delimiter_of_otherEntries (entries : List (String × Value)) :
    ∃ stop more, codeOf (laidOut (lexemesOfOtherEntries (Value.literalEntries entries))) ++
      ']' :: rest = stop :: more ∧ IsDelimiter stop := by
  refine exists_delimiter_of_further rest ?_
  cases entries with
  | nil => exact .inl rfl
  | cons entry entries => exact .inr ⟨_, _, laidOut_otherEntries _ _ _⟩

theorem lexes_others (writable : ∀ item ∈ items, item.isWritable = true)
    (cut : ∀ item ∈ items, IsCutOff item) :
    Lexes (']' :: rest) (laidOut (lexemesOfOthers (Value.literalExpressions items))) := by
  induction items with
  | nil => trivial
  | cons item items inductionHypothesis =>
      obtain ⟨firstWritable, othersWritable⟩ := List.forall_mem_cons.1 writable
      obtain ⟨firstCut, othersCut⟩ := List.forall_mem_cons.1 cut
      obtain ⟨first, more, starts, visible⟩ := exists_codeOf_literal firstWritable
      obtain ⟨stop, behind, same, delimits⟩ := exists_delimiter_of_others rest items
      rw [Value.literalExpressions, laidOut_others]
      refine lexes_further starts visible ?_ (inductionHypothesis othersWritable othersCut)
      rw [same]
      exact firstCut stop behind delimits

theorem lexes_all (writable : ∀ item ∈ items, item.isWritable = true)
    (cut : ∀ item ∈ items, IsCutOff item) :
    Lexes (']' :: rest) (laidOut (lexemesOfAll (Value.literalExpressions items))) := by
  cases items with
  | nil => trivial
  | cons item items =>
      obtain ⟨-, othersWritable⟩ := List.forall_mem_cons.1 writable
      obtain ⟨firstCut, othersCut⟩ := List.forall_mem_cons.1 cut
      obtain ⟨stop, behind, same, delimits⟩ := exists_delimiter_of_others rest items
      rw [Value.literalExpressions, lexemesOfAll, laidOut_append, lexes_append, same]
      exact ⟨firstCut stop behind delimits, lexes_others rest othersWritable othersCut⟩

theorem lexes_otherEntries (writable : ∀ entry ∈ entries, entry.2.isWritable = true)
    (cut : ∀ entry ∈ entries, IsCutOff entry.2) :
    Lexes (']' :: rest) (laidOut (lexemesOfOtherEntries (Value.literalEntries entries))) := by
  induction entries with
  | nil => trivial
  | cons entry entries inductionHypothesis =>
      obtain ⟨firstWritable, othersWritable⟩ := List.forall_mem_cons.1 writable
      obtain ⟨firstCut, othersCut⟩ := List.forall_mem_cons.1 cut
      obtain ⟨first, more, starts, visible⟩ := exists_codeOf_literal firstWritable
      obtain ⟨stop, behind, same, delimits⟩ := exists_delimiter_of_otherEntries rest entries
      rw [Value.literalEntries, laidOut_otherEntries]
      refine lexes_further rfl (by decide) (lexes_entry entry.1 starts visible ?_)
        (inductionHypothesis othersWritable othersCut)
      rw [same]
      exact firstCut stop behind delimits

theorem lexes_entries (writable : ∀ entry ∈ entries, entry.2.isWritable = true)
    (cut : ∀ entry ∈ entries, IsCutOff entry.2) :
    Lexes (']' :: rest) (laidOut (lexemesOfEntries (Value.literalEntries entries))) := by
  cases entries with
  | nil => trivial
  | cons entry entries =>
      obtain ⟨firstWritable, othersWritable⟩ := List.forall_mem_cons.1 writable
      obtain ⟨firstCut, othersCut⟩ := List.forall_mem_cons.1 cut
      obtain ⟨first, more, starts, visible⟩ := exists_codeOf_literal firstWritable
      obtain ⟨stop, behind, same, delimits⟩ := exists_delimiter_of_otherEntries rest entries
      rw [Value.literalEntries, lexemesOfEntries, laidOut_entry, lexes_append, same]
      exact ⟨lexes_entry entry.1 starts visible (firstCut stop behind delimits),
        lexes_otherEntries rest othersWritable othersCut⟩

end Cutting

/-- The expression of an integer is its literal, or the literal without the sign behind a minus. -/
theorem isPrintable_integer {number : Int64} (writable : (Value.integer number).isWritable = true) :
    (number < 0 → (Literal.integer (-number)).isPrintable = true) ∧
      (¬ number < 0 → (Literal.integer number).isPrintable = true) := by
  have opposite := Value.toInt_neg_of_writable writable
  have zero : (0 : Int64).toInt = 0 := rfl
  constructor
  · intro negative
    have below := Int64.lt_iff_toInt_lt.1 negative
    refine decide_eq_true (Int64.le_iff_toInt_le.2 ?_)
    omega
  · intro notNegative
    refine decide_eq_true (Int64.le_iff_toInt_le.2 ?_)
    have notBelow := mt Int64.lt_iff_toInt_lt.2 notNegative
    omega

theorem isCutOff (value : Value) (writable : value.isWritable = true) : IsCutOff value := by
  induction value using Value.inductionOn with
  | none => exact fun stop rest delimits => ⟨isCutFrom_keyword .null delimits rest, trivial⟩
  | bool truth =>
      cases truth with
      | false => exact fun stop rest delimits => ⟨isCutFrom_keyword .false delimits rest, trivial⟩
      | true => exact fun stop rest delimits => ⟨isCutFrom_keyword .true delimits rest, trivial⟩
  | float number => cases writable
  | string text => exact fun stop rest _ => ⟨isCutFrom_string text _, trivial⟩
  | integer number =>
      intro stop rest delimits
      have printable := isPrintable_integer writable
      rw [Value.literalExpression]
      split
      next negative =>
        have digits := isCutFrom_literalLexeme (printable.1 negative) delimits rest
        obtain ⟨first, others, text, -⟩ := exists_codeToken_toDigits (-number).toInt.toNat
        have isDigit : first.isDigit = true :=
          Nat.isDigit_of_mem_toDigits (by decide) (by decide) (text ▸ List.mem_cons_self)
        refine ⟨?_, digits, trivial⟩
        have code : codeOf [(Literal.integer (-number)).lexeme] = first :: others :=
          (List.append_nil _).trans text
        change Lexeme.IsCutFrom Symbol.minus.lexeme (codeOf [_] ++ stop :: rest)
        rw [code]
        exact isCutFrom_minus isDigit _
      next notNegative =>
        exact ⟨isCutFrom_literalLexeme (printable.2 notNegative) delimits rest, trivial⟩
  | list items inductionHypothesis =>
      have writable := Value.areAllWritable_iff.1 writable
      intro stop rest _
      rw [Value.literalExpression, Expression.lexemes, laidOut_bracketed]
      exact lexes_bracketed (lexes_all _ writable fun item member =>
        inductionHypothesis item member (writable item member))
  | map entries inductionHypothesis =>
      have writable := Value.areEntriesWritable_iff.1 (Bool.and_eq_true_iff.1 writable).2
      intro stop rest _
      rw [Value.literalExpression, Expression.lexemes, laidOut_bracketed]
      exact lexes_bracketed (lexes_entries _ writable fun entry member =>
        inductionHypothesis entry member (writable entry member))

/-! ### Reading -/

theorem areAllPrintable_literalExpressions {items : List Value}
    (printable : ∀ item ∈ items, item.literalExpression.isPrintable = true) :
    areAllPrintable (Value.literalExpressions items) = true := by
  induction items with
  | nil => rfl
  | cons item items inductionHypothesis =>
      obtain ⟨first, others⟩ := List.forall_mem_cons.1 printable
      exact Bool.and_eq_true_iff.2 ⟨first, inductionHypothesis others⟩

theorem areEntriesPrintable_literalEntries {entries : List (String × Value)}
    (printable : ∀ entry ∈ entries, entry.2.literalExpression.isPrintable = true) :
    areEntriesPrintable (Value.literalEntries entries) = true := by
  induction entries with
  | nil => rfl
  | cons entry entries inductionHypothesis =>
      obtain ⟨first, others⟩ := List.forall_mem_cons.1 printable
      exact Bool.and_eq_true_iff.2 ⟨first, inductionHypothesis others⟩

theorem isPrintable_literalExpression (value : Value) (writable : value.isWritable = true) :
    value.literalExpression.isPrintable = true := by
  induction value using Value.inductionOn with
  | none => rfl
  | bool truth => rfl
  | float number => cases writable
  | string text => rfl
  | integer number =>
      rw [Value.literalExpression]
      split
      next negative => exact (isPrintable_integer writable).1 negative
      next notNegative => exact (isPrintable_integer writable).2 notNegative
  | list items inductionHypothesis =>
      have writable := Value.areAllWritable_iff.1 writable
      exact areAllPrintable_literalExpressions fun item member =>
        inductionHypothesis item member (writable item member)
  | map entries inductionHypothesis =>
      obtain ⟨nonempty, writable⟩ := Bool.and_eq_true_iff.1 writable
      have writable := Value.areEntriesWritable_iff.1 writable
      have some : (Value.literalEntries entries).isEmpty = entries.isEmpty := by
        cases entries <;> rfl
      refine Bool.and_eq_true_iff.2 ⟨some.symm ▸ nonempty, ?_⟩
      exact areEntriesPrintable_literalEntries fun entry member =>
        inductionHypothesis entry member (writable entry member)

theorem nestingOfAll_le {items : List Value}
    (nested : ∀ item ∈ items, item.literalExpression.nesting ≤ item.height + 1) :
    nestingOfAll (Value.literalExpressions items) ≤ Value.heightOfAll items + 1 := by
  induction items with
  | nil => exact Nat.zero_le _
  | cons item items inductionHypothesis =>
      obtain ⟨first, others⟩ := List.forall_mem_cons.1 nested
      have later := inductionHypothesis others
      simp only [Value.literalExpressions, nestingOfAll, Value.heightOfAll]
      omega

theorem nestingOfEntries_le {entries : List (String × Value)}
    (nested : ∀ entry ∈ entries, entry.2.literalExpression.nesting ≤ entry.2.height + 1) :
    nestingOfEntries (Value.literalEntries entries) ≤ Value.heightOfEntries entries + 1 := by
  induction entries with
  | nil => exact Nat.zero_le _
  | cons entry entries inductionHypothesis =>
      obtain ⟨first, others⟩ := List.forall_mem_cons.1 nested
      have later := inductionHypothesis others
      have key : (Expression.literal (.string entry.1) ⟨0, 0⟩).nesting = 0 := rfl
      simp only [Value.literalEntries, nestingOfEntries, Value.heightOfEntries, key]
      omega

/-- The sign of an integer is the only level that the expression has and the value does not. -/
theorem nesting_literalExpression_le (value : Value) :
    value.literalExpression.nesting ≤ value.height + 1 := by
  induction value using Value.inductionOn with
  | none => exact Nat.zero_le 1
  | bool truth => exact Nat.zero_le 1
  | float number => exact Nat.zero_le 1
  | string text => exact Nat.zero_le 1
  | integer number =>
      rw [Value.literalExpression]
      split
      next => exact Nat.le_refl 1
      next => exact Nat.zero_le 1
  | list items inductionHypothesis => exact Nat.succ_le_succ (nestingOfAll_le inductionHypothesis)
  | map entries inductionHypothesis =>
      exact Nat.succ_le_succ (nestingOfEntries_le inductionHypothesis)

end Fragment
end ViewTemplate
