import Mathlib
import ViewTemplate.Proofs.Execution
import ViewTemplate.Proofs.PrintedReading

/-!
Two ways to write what a variable holds inside: names and indexes behind points, or the same as
strings and integers in brackets. Both are read and select the same (`evaluate_paths_agree`), as
long as no index follows another one behind points: there the point is one of a number
(`parse_adjacentIndexes`).
-/

namespace ViewTemplate

open Fragment Text

/-! ## Keys -/

/-- What leads one step further inside a value. -/
inductive PathKey where
  | name (identifier : String)
  | index (number : Nat)
  deriving DecidableEq

namespace PathKey

/-- Whether the key can be written: names are no keywords, indexes are integers. -/
def isWritable : PathKey → Bool
  | .name identifier => isName identifier
  | .index number => number ≤ Int64.maxValue.toInt

def isIndex : PathKey → Bool
  | .name _ => false
  | .index _ => true

/-- The key behind a point. -/
def text : PathKey → String
  | .name identifier => identifier
  | .index number => toString number

/-- The key in brackets. -/
def quoted : PathKey → String
  | .name identifier => "'" ++ identifier ++ "'"
  | .index number => toString number

def memberKey : PathKey → MemberKey
  | .name identifier => .field ⟨identifier, ⟨0, 0⟩⟩
  | .index number => .position number ⟨0, 0⟩

def literal : PathKey → Literal
  | .name identifier => .string identifier
  | .index number => .integer (Int64.ofNat number)

/-- What the key behind a point selects. -/
def member (value : Value) : PathKey → Except Fault Value
  | .name identifier => value.field identifier
  | .index number => value.element number

theorem toInt_ofNat {number : Nat} (writable : (index number).isWritable = true) :
    (Int64.ofNat number).toInt = number := by
  have small : (number : Int) ≤ Int64.maxValue.toInt := of_decide_eq_true writable
  rw [Int64.toInt_maxValue] at small
  rw [← Int64.ofInt_eq_ofNat]
  exact Int64.toInt_ofInt_of_le (by omega) (by omega)

end PathKey

/-- A variable and keys behind it, each behind a point. -/
def dottedPath (root : String) (keys : List PathKey) : String :=
  keys.foldl (fun path key => path ++ "." ++ key.text) root

/-- A variable and keys behind it, each in brackets. -/
def bracketedPath (root : String) (keys : List PathKey) : String :=
  keys.foldl (fun path key => path ++ "[" ++ key.quoted ++ "]") root

/-! ## Reading -/

namespace Fragment

/-- A lexeme is what is cut off in front of a text. -/
def Lexeme.IsCutFrom (lexeme : Lexeme) (following : List Char) : Prop :=
  ∃ character behind, lexeme.text = character :: behind ∧
    stripInitial? endTag (character :: (behind ++ following)) = none ∧
      codeToken character (behind ++ following) = .ok (lexeme.kind, behind.length)

theorem lexes_cons {lexeme : Lexeme} {lexemes : List Lexeme} {rest : List Char} :
    Lexes rest (lexeme :: lexemes) ↔
      lexeme.IsCutFrom (codeOf lexemes ++ rest) ∧ Lexes rest lexemes :=
  Iff.rfl

theorem isCutFrom_name {name : String} (named : isName name = true) {stop : Char}
    (stops : isIdentifierContinue stop = false) (rest : List Char) :
    (nameLexeme name).IsCutFrom (stop :: rest) := by
  obtain ⟨first, others, text, start, further, word⟩ := exists_of_isName named
  have noPercent : first ≠ '%' := ne_of_property start (by decide)
  refine ⟨first, others, text, stripInitial?_endTag_of_ne noPercent, ?_⟩
  rw [codeToken_word start further stops, word]
  rfl

theorem isCutFrom_number (number : Nat) {stop : Char} {rest : List Char}
    (stops : isNumberCharacter stop = false)
    (noFraction : stop = '.' → ∀ next ∈ rest.head?, next.isDigit = false) :
    (numberLexeme number).IsCutFrom (stop :: rest) := by
  obtain ⟨first, others, text, -, noPercent, token⟩ := exists_codeToken_toDigits number
  exact ⟨first, others, text, stripInitial?_endTag_of_ne noPercent,
    token stop rest stops noFraction⟩

theorem isCutFrom_string (content : String) (following : List Char) :
    (stringLexeme content).IsCutFrom following :=
  ⟨'\'', _, rfl, stripInitial?_endTag_of_ne (by decide),
    codeToken_literalText content.toList following⟩

theorem isCutFrom_dot (following : List Char) : Symbol.dot.lexeme.IsCutFrom following :=
  ⟨'.', [], rfl, stripInitial?_endTag_of_ne (by decide), rfl⟩

theorem isCutFrom_leftBracket (following : List Char) :
    Symbol.leftBracket.lexeme.IsCutFrom following :=
  ⟨'[', [], rfl, stripInitial?_endTag_of_ne (by decide), rfl⟩

theorem isCutFrom_rightBracket (following : List Char) :
    Symbol.rightBracket.lexeme.IsCutFrom following :=
  ⟨']', [], rfl, stripInitial?_endTag_of_ne (by decide), rfl⟩

theorem isCutFrom_semicolon (following : List Char) :
    Symbol.semicolon.lexeme.IsCutFrom following :=
  ⟨';', [], rfl, stripInitial?_endTag_of_ne (by decide), rfl⟩

/-! ### Paths as expressions -/

def dottedFrom (target : Expression) (keys : List PathKey) : Expression :=
  keys.foldl (fun target key => .member target key.memberKey ⟨0, 0⟩) target

def bracketedFrom (target : Expression) (keys : List PathKey) : Expression :=
  keys.foldl (fun target key => .index target (.literal key.literal ⟨0, 0⟩) ⟨0, 0⟩) target

def rootExpression (root : String) : Expression :=
  .variable ⟨root, ⟨0, 0⟩⟩

def dottedLexemes (keys : List PathKey) : List Lexeme :=
  keys.flatMap fun key => [Symbol.dot.lexeme, key.memberKey.lexeme]

def bracketedLexemes (keys : List PathKey) : List Lexeme :=
  keys.flatMap fun key =>
    [Symbol.leftBracket.lexeme, key.literal.lexeme, Symbol.rightBracket.lexeme]

theorem enclosed_of_strength {target : Expression} (strong : target.strength = 8)
    (lexemes : List Lexeme) : enclosed 8 target lexemes = lexemes := by
  rw [enclosed, strong, if_neg (Nat.lt_irrefl 8)]

theorem enclosedNesting_of_strength {target : Expression} (strong : target.strength = 8)
    (nesting : Nat) : enclosedNesting 8 target nesting = nesting := by
  rw [enclosedNesting, strong, if_neg (Nat.lt_irrefl 8)]

section Shapes

variable {target : Expression} (strong : target.strength = 8) (keys : List PathKey)
include strong

theorem lexemes_dottedFrom :
    (dottedFrom target keys).lexemes = target.lexemes ++ dottedLexemes keys := by
  induction keys generalizing target with
  | nil => exact (List.append_nil _).symm
  | cons key keys inductionHypothesis =>
      have later := @inductionHypothesis (.member target key.memberKey ⟨0, 0⟩) rfl
      change (dottedFrom (.member target key.memberKey ⟨0, 0⟩) keys).lexemes = _
      rw [later, Expression.lexemes, enclosed_of_strength strong, List.append_assoc]
      rfl

theorem lexemes_bracketedFrom :
    (bracketedFrom target keys).lexemes = target.lexemes ++ bracketedLexemes keys := by
  induction keys generalizing target with
  | nil => exact (List.append_nil _).symm
  | cons key keys inductionHypothesis =>
      have later := @inductionHypothesis
        (.index target (.literal key.literal ⟨0, 0⟩) ⟨0, 0⟩) rfl
      change (bracketedFrom (.index target (.literal key.literal ⟨0, 0⟩) ⟨0, 0⟩) keys).lexemes = _
      rw [later, Expression.lexemes, enclosed_of_strength strong, List.append_assoc]
      rfl

theorem nesting_dottedFrom : (dottedFrom target keys).nesting = target.nesting := by
  induction keys generalizing target with
  | nil => rfl
  | cons key keys inductionHypothesis =>
      have later := @inductionHypothesis (.member target key.memberKey ⟨0, 0⟩) rfl
      exact later.trans (enclosedNesting_of_strength strong _)

theorem nesting_bracketedFrom : (bracketedFrom target keys).nesting ≤ max target.nesting 1 := by
  induction keys generalizing target with
  | nil => exact Nat.le_max_left _ _
  | cons key keys inductionHypothesis =>
      have later := @inductionHypothesis
        (.index target (.literal key.literal ⟨0, 0⟩) ⟨0, 0⟩) rfl
      rw [Expression.nesting, enclosedNesting_of_strength strong, Expression.nesting,
        Nat.max_assoc, Nat.max_self] at later
      exact later

end Shapes

theorem isPrintable_memberKey {key : PathKey} (writable : key.isWritable = true) :
    key.memberKey.isPrintable = true := by
  cases key with
  | name identifier => exact writable
  | index number =>
      have small : (number : Int) ≤ Int64.maxValue.toInt := of_decide_eq_true writable
      have bound : Int64.maxValue.toInt < UInt64.size := by decide
      exact decide_eq_true (by omega)

theorem isPrintable_literal {key : PathKey} (writable : key.isWritable = true) :
    key.literal.isPrintable = true := by
  cases key with
  | name identifier => rfl
  | index number =>
      have positive : 0 ≤ (Int64.ofNat number).toInt := by
        rw [PathKey.toInt_ofNat writable]
        exact Int.natCast_nonneg number
      exact decide_eq_true (Int64.le_iff_toInt_le.2 positive)

theorem isPrintable_dottedFrom {target : Expression} {keys : List PathKey}
    (printable : target.isPrintable = true) (writable : ∀ key ∈ keys, key.isWritable = true) :
    (dottedFrom target keys).isPrintable = true := by
  induction keys generalizing target with
  | nil => exact printable
  | cons key keys inductionHypothesis =>
      obtain ⟨first, others⟩ := List.forall_mem_cons.1 writable
      have member : (Expression.member target key.memberKey ⟨0, 0⟩).isPrintable = true :=
        Bool.and_eq_true_iff.2 ⟨printable, isPrintable_memberKey first⟩
      exact inductionHypothesis member others

theorem isPrintable_bracketedFrom {target : Expression} {keys : List PathKey}
    (printable : target.isPrintable = true) (writable : ∀ key ∈ keys, key.isWritable = true) :
    (bracketedFrom target keys).isPrintable = true := by
  induction keys generalizing target with
  | nil => exact printable
  | cons key keys inductionHypothesis =>
      obtain ⟨first, others⟩ := List.forall_mem_cons.1 writable
      have index : (Expression.index target (.literal key.literal ⟨0, 0⟩) ⟨0, 0⟩).isPrintable =
          true :=
        Bool.and_eq_true_iff.2 ⟨printable, isPrintable_literal first⟩
      exact inductionHypothesis index others

/-! ### Paths as code -/

theorem toList_toString (number : Nat) : (toString number).toList = Nat.toDigits 10 number :=
  String.toList_ofList

theorem text_memberKey_lexeme (key : PathKey) : key.memberKey.lexeme.text = key.text.toList := by
  cases key with
  | name identifier => rfl
  | index number => exact (toList_toString number).symm

/-- A name needs no escapes in a string. -/
theorem literalText_of_isName {name : String} (named : isName name = true) :
    literalText name.toList = ("'" ++ name ++ "'").toList := by
  obtain ⟨first, others, text, start, further, -⟩ := exists_of_isName named
  have continues : ∀ character ∈ name.toList, isIdentifierContinue character = true := by
    intro character member
    rw [text] at member
    rcases List.mem_cons.1 member with rfl | later
    · exact isIdentifierContinue_of_isIdentifierStart start
    · exact List.all_eq_true.1 further character later
  have plain : ∀ character ∈ name.toList, escapeCharacter character = [character] := by
    intro character member
    have word := continues character member
    have noBackslash : character ≠ '\\' := ne_of_property word (by decide)
    have noQuote : character ≠ '\'' := ne_of_property word (by decide)
    rw [escapeCharacter, if_neg (not_or.2 ⟨noBackslash, noQuote⟩)]
  have same : name.toList.flatMap escapeCharacter = name.toList := by
    rw [List.flatMap_def, List.map_congr_left plain, ← List.flatMap_def]
    exact List.flatMap_singleton' _
  rw [literalText, same, String.toList_append, String.toList_append]
  rfl

theorem text_literal_lexeme {key : PathKey} (writable : key.isWritable = true) :
    key.literal.lexeme.text = key.quoted.toList := by
  cases key with
  | name identifier => exact literalText_of_isName writable
  | index number =>
      have digits : (Int64.ofNat number).toInt.toNat = number := by
        rw [PathKey.toInt_ofNat writable, Int.toNat_natCast]
      change Nat.toDigits 10 (Int64.ofNat number).toInt.toNat = (toString number).toList
      rw [digits, toList_toString]

theorem toList_dottedPath (root : String) (keys : List PathKey) :
    (dottedPath root keys).toList = root.toList ++ codeOf (dottedLexemes keys) := by
  induction keys generalizing root with
  | nil => exact (List.append_nil _).symm
  | cons key keys inductionHypothesis =>
      have later := inductionHypothesis (root ++ "." ++ key.text)
      change (dottedPath (root ++ "." ++ key.text) keys).toList = _
      rw [later, String.toList_append, String.toList_append]
      simp [dottedLexemes, codeOf, Symbol.lexeme, Symbol.text, text_memberKey_lexeme]

theorem toList_bracketedPath (root : String) {keys : List PathKey}
    (writable : ∀ key ∈ keys, key.isWritable = true) :
    (bracketedPath root keys).toList = root.toList ++ codeOf (bracketedLexemes keys) := by
  induction keys generalizing root with
  | nil => exact (List.append_nil _).symm
  | cons key keys inductionHypothesis =>
      obtain ⟨first, others⟩ := List.forall_mem_cons.1 writable
      have later := inductionHypothesis (root ++ "[" ++ key.quoted ++ "]") others
      change (bracketedPath (root ++ "[" ++ key.quoted ++ "]") keys).toList = _
      rw [later]
      simp [String.toList_append, bracketedLexemes, codeOf, Symbol.lexeme, Symbol.text,
        text_literal_lexeme first]

/-! ### Paths are cut into their keys -/

/-- Whether no index follows another one. -/
def noAdjacentIndexes : List PathKey → Bool
  | first :: second :: keys =>
      !(first.isIndex && second.isIndex) && noAdjacentIndexes (second :: keys)
  | _ => true

theorem isCutFrom_literal (key : PathKey) (following : List Char) :
    key.literal.lexeme.IsCutFrom (']' :: following) := by
  cases key with
  | name identifier => exact isCutFrom_string identifier _
  | index number => exact isCutFrom_number _ (by decide) (by simp)

theorem lexes_bracketedLexemes (keys : List PathKey) (rest : List Char) :
    Lexes rest (bracketedLexemes keys) := by
  induction keys with
  | nil => trivial
  | cons key keys inductionHypothesis =>
      have parts : bracketedLexemes (key :: keys) = Symbol.leftBracket.lexeme ::
          key.literal.lexeme :: Symbol.rightBracket.lexeme :: bracketedLexemes keys := rfl
      rw [parts, lexes_cons, lexes_cons, lexes_cons]
      exact ⟨isCutFrom_leftBracket _, isCutFrom_literal key _, isCutFrom_rightBracket _,
        inductionHypothesis⟩

/-- What follows a key behind a point: the end of the code, or a point with the next key behind. -/
theorem isCutFrom_memberKey {key : PathKey} {keys : List PathKey}
    (writable : ∀ key' ∈ key :: keys, key'.isWritable = true)
    (apart : noAdjacentIndexes (key :: keys) = true) (rest : List Char) :
    key.memberKey.lexeme.IsCutFrom (codeOf (dottedLexemes keys) ++ ';' :: rest) := by
  obtain ⟨own, others⟩ := List.forall_mem_cons.1 writable
  cases keys with
  | nil =>
      cases key with
      | name identifier => exact isCutFrom_name own (by decide) rest
      | index number => exact isCutFrom_number number (by decide) (by simp)
  | cons second keys =>
      have parts : codeOf (dottedLexemes (second :: keys)) ++ ';' :: rest =
          '.' :: (second.memberKey.lexeme.text ++
            (codeOf (dottedLexemes keys) ++ ';' :: rest)) := by
        simp [dottedLexemes, codeOf, Symbol.lexeme, Symbol.text]
      rw [parts]
      cases key with
      | name identifier => exact isCutFrom_name own (by decide) _
      | index number =>
          refine isCutFrom_number number (by decide) fun _ next first => ?_
          cases second with
          | name identifier =>
              obtain ⟨start, behind, text, starts, -⟩ :=
                exists_of_isName (others _ List.mem_cons_self)
              have same : next = start := by
                change next ∈ (identifier.toList ++ _).head? at first
                rw [text] at first
                exact (Option.some.inj first).symm
              rw [same]
              exact isDigit_eq_false_of_property starts (by decide)
          | index other => simp [noAdjacentIndexes, PathKey.isIndex] at apart

theorem lexes_dottedLexemes {keys : List PathKey}
    (writable : ∀ key ∈ keys, key.isWritable = true)
    (apart : noAdjacentIndexes keys = true) (rest : List Char) :
    Lexes (';' :: rest) (dottedLexemes keys) := by
  induction keys with
  | nil => trivial
  | cons key keys inductionHypothesis =>
      have others : ∀ key ∈ keys, key.isWritable = true :=
        fun other member => writable other (List.mem_cons_of_mem _ member)
      have apartLater : noAdjacentIndexes keys = true := by
        cases keys with
        | nil => rfl
        | cons second keys => exact (Bool.and_eq_true_iff.1 apart).2
      have parts : dottedLexemes (key :: keys) =
          Symbol.dot.lexeme :: key.memberKey.lexeme :: dottedLexemes keys := rfl
      rw [parts, lexes_cons, lexes_cons]
      exact ⟨isCutFrom_dot _, isCutFrom_memberKey writable apart rest,
        inductionHypothesis others apartLater⟩

/-! ### Paths are read -/

/-- Code without white space that begins with a name is read as the expression that it spells. -/
theorem parse_echo_of_root {expression : Expression} (printable : expression.isPrintable = true)
    (nested : expression.nesting < maxDepth) {root : String} (named : isName root = true)
    {others : List Lexeme} (shape : expression.lexemes = nameLexeme root :: others)
    (lexes : ∀ rest, Lexes (';' :: rest) (nameLexeme root :: others)) :
    ∃ read : Expression, read.bare = expression.bare ∧
      parse ("<% echo " ++ String.ofList (codeOf (nameLexeme root :: others)) ++ "; %>").toList =
        .ok [.action (.echo read)] := by
  obtain ⟨first, behind, text, start, -⟩ := exists_of_isName named
  have starts : codeOf (nameLexeme root :: others) = first :: (behind ++ codeOf others) := by
    change root.toList ++ codeOf others = _
    rw [text]
    rfl
  have spells : (nameLexeme root :: others).filter (fun lexeme => lexeme.kind ≠ .whitespace) =
      expression.lexemes := by
    rw [← shape, List.filter_eq_self]
    intro lexeme member
    exact decide_eq_true (standAlone_lexemes expression printable lexeme member).visible
  exact parse_echo_of_lexes printable nested spells starts
    (isSpace_eq_false_of_isIdentifierStart start) lexes

section Read

variable {root : String} {keys : List PathKey} (named : isName root = true)
  (writable : ∀ key ∈ keys, key.isWritable = true)

include named writable

theorem parse_dottedPath (apart : noAdjacentIndexes keys = true) :
    ∃ read : Expression, read.bare = (dottedFrom (rootExpression root) keys).bare ∧
      parse ("<% echo " ++ dottedPath root keys ++ "; %>").toList =
        .ok [.action (.echo read)] := by
  have printable := @isPrintable_dottedFrom (rootExpression root) keys named writable
  have nested : (dottedFrom (rootExpression root) keys).nesting < maxDepth := by
    rw [nesting_dottedFrom rfl keys]
    exact Nat.zero_lt_succ _
  have shape : (dottedFrom (rootExpression root) keys).lexemes =
      nameLexeme root :: dottedLexemes keys := lexemes_dottedFrom rfl keys
  have code : codeOf (nameLexeme root :: dottedLexemes keys) = (dottedPath root keys).toList :=
    (toList_dottedPath root keys).symm
  have lexes (rest : List Char) : Lexes (';' :: rest) (nameLexeme root :: dottedLexemes keys) := by
    rw [lexes_cons]
    refine ⟨?_, lexes_dottedLexemes writable apart rest⟩
    cases keys with
    | nil => exact isCutFrom_name named (by decide) _
    | cons key keys => exact isCutFrom_name named (by decide) _
  have read := parse_echo_of_root printable nested named shape lexes
  rwa [code, String.ofList_toList] at read

theorem parse_bracketedPath :
    ∃ read : Expression, read.bare = (bracketedFrom (rootExpression root) keys).bare ∧
      parse ("<% echo " ++ bracketedPath root keys ++ "; %>").toList =
        .ok [.action (.echo read)] := by
  have printable := @isPrintable_bracketedFrom (rootExpression root) keys named writable
  have nested : (bracketedFrom (rootExpression root) keys).nesting < maxDepth :=
    Nat.lt_of_le_of_lt (nesting_bracketedFrom rfl keys) (show max 0 1 < maxDepth by decide)
  have shape : (bracketedFrom (rootExpression root) keys).lexemes =
      nameLexeme root :: bracketedLexemes keys := lexemes_bracketedFrom rfl keys
  have code : codeOf (nameLexeme root :: bracketedLexemes keys) =
      (bracketedPath root keys).toList :=
    (toList_bracketedPath root writable).symm
  have lexes (rest : List Char) :
      Lexes (';' :: rest) (nameLexeme root :: bracketedLexemes keys) := by
    rw [lexes_cons]
    refine ⟨?_, lexes_bracketedLexemes keys _⟩
    cases keys with
    | nil => exact isCutFrom_name named (by decide) _
    | cons key keys => exact isCutFrom_name named (by decide) _
  have read := parse_echo_of_root printable nested named shape lexes
  rwa [code, String.ofList_toList] at read

end Read

end Fragment

/-! ## Evaluation -/

/-- The same value, or a fault on either side. -/
inductive SameValue : Except Fault Value → Except Fault Value → Prop
  | ok (value : Value) : SameValue (.ok value) (.ok value)
  | error (left right : Fault) : SameValue (.error left) (.error right)

/-- A key selects the same behind a point and in brackets. -/
theorem PathKey.sameValue_select {key : PathKey} (writable : key.isWritable = true)
    (value : Value) : SameValue (key.member value) (value.index key.literal.value) := by
  cases key with
  | name identifier =>
      cases value with
      | map entries =>
          change SameValue (Value.entry identifier entries) (Value.entry identifier entries)
          cases Value.entry identifier entries with
          | ok found => exact .ok found
          | error fault => exact .error fault fault
      | _ => exact .error _ _
  | index number =>
      have integer := PathKey.toInt_ofNat writable
      cases value with
      | map entries =>
          have digits : Value.integerText (Int64.ofNat number) = toString number := by
            rw [Value.integerText, integer]
            rfl
          change SameValue (Value.entry (toString number) entries)
            (Value.entry (Value.integerText (Int64.ofNat number)) entries)
          rw [digits]
          cases Value.entry (toString number) entries with
          | ok found => exact .ok found
          | error fault => exact .error fault fault
      | list items =>
          simp only [PathKey.member, Value.element, PathKey.literal, Literal.value, Value.index,
            integer, Int.natCast_nonneg, if_true, Int.toNat_natCast]
          cases items[number]? with
          | some item => exact .ok item
          | none => exact .error _ _
      | _ => exact .error _ _

def rootValue (scope : Entries Value) (root : String) : Except Fault Value :=
  match scope.lookup root with
  | some value => .ok value
  | none => .error .unbound

def dottedValue (keys : List PathKey) (outcome : Except Fault Value) : Except Fault Value :=
  keys.foldl (fun outcome key => outcome.bind key.member) outcome

def bracketedValue (keys : List PathKey) (outcome : Except Fault Value) : Except Fault Value :=
  keys.foldl (fun outcome key => outcome.bind fun value => value.index key.literal.value) outcome

theorem sameValue_keys {keys : List PathKey} (writable : ∀ key ∈ keys, key.isWritable = true)
    {left right : Except Fault Value} (same : SameValue left right) :
    SameValue (dottedValue keys left) (bracketedValue keys right) := by
  induction keys generalizing left right with
  | nil => exact same
  | cons key keys inductionHypothesis =>
      obtain ⟨first, others⟩ := List.forall_mem_cons.1 writable
      apply inductionHypothesis others
      cases same with
      | ok value => exact key.sameValue_select first value
      | error left right => exact .error left right

namespace RenderContext

variable {σ : Type} (context : RenderContext σ (Render σ)) (scope : Entries Value)

/-- An expression is a path, at whatever bytes it stands, and leads to a value or a fault. -/
def IsPathTo (expression : Expression) (outcome : Except Fault Value) : Prop :=
  ∀ read : Expression, read.bare = expression.bare →
    ∃ span, context.path? scope read = some (context.locate span outcome)

/-- An expression evaluates to a value or a fault, at whatever bytes it stands. -/
def EvaluatesTo (expression : Expression) (outcome : Except Fault Value) : Prop :=
  ∀ read : Expression, read.bare = expression.bare →
    ∃ span, context.evaluate scope read = context.check span outcome

variable {context scope} {target : Expression} {outcome : Except Fault Value}

theorem isPathTo_root (root : String) :
    context.IsPathTo scope (rootExpression root) (rootValue scope root) := by
  intro read same
  cases read with
  | «variable» identifier =>
      have name : identifier.name = root := by
        simp only [Expression.bare, Expression.mapSpans, rootExpression, Identifier.mapSpan,
          Expression.variable.injEq, Identifier.mk.injEq] at same
        exact same.1
      refine ⟨identifier.span, ?_⟩
      rw [path?, RenderContext.lookup, rootValue, name]
      cases scope.lookup root <;> rfl
  | _ => simp [Expression.bare, Expression.mapSpans, rootExpression] at same

theorem IsPathTo.member (leads : context.IsPathTo scope target outcome) (key : PathKey)
    (span : Span) :
    context.IsPathTo scope (.member target key.memberKey span) (outcome.bind key.member) := by
  intro read same
  cases read with
  | member inner selector bytes =>
      simp only [Expression.bare, Expression.mapSpans, Expression.member.injEq] at same
      obtain ⟨targets, keys, -⟩ := same
      obtain ⟨place, path⟩ := leads inner targets
      rw [path?, path]
      cases outcome with
      | error fault => exact ⟨place, rfl⟩
      | ok value =>
          refine ⟨selector.span, ?_⟩
          cases key <;> cases selector <;>
            simp_all [PathKey.memberKey, MemberKey.mapSpan, Identifier.mapSpan,
              RenderContext.member, PathKey.member, locate, Except.bind]
  | _ => simp [Expression.bare, Expression.mapSpans] at same

theorem IsPathTo.evaluatesTo (leads : context.IsPathTo scope target outcome) :
    context.EvaluatesTo scope target outcome := by
  intro read same
  obtain ⟨span, path⟩ := leads read same
  refine ⟨span, ?_⟩
  rw [evaluate.eq_def, path]
  rfl

/-- A target is evaluated first, and the key in brackets selects from its value. -/
theorem EvaluatesTo.index (evaluates : context.EvaluatesTo scope target outcome)
    (literal : Literal) (place span : Span) :
    context.EvaluatesTo scope (.index target (.literal literal place) span)
      (outcome.bind fun value => value.index literal.value) := by
  intro read same
  cases read with
  | index inner selector bytes =>
      simp only [Expression.bare, Expression.mapSpans, Expression.index.injEq] at same
      obtain ⟨targets, selectors, -⟩ := same
      obtain ⟨bytes', value⟩ := evaluates inner targets
      obtain ⟨written, rfl⟩ : ∃ written, selector = .literal literal written := by
        cases selector with
        | literal other written =>
            simp only [Expression.mapSpans, Expression.literal.injEq] at selectors
            exact ⟨written, by rw [selectors.1]⟩
        | _ => simp [Expression.mapSpans] at selectors
      have selected : context.evaluate scope (.literal literal written) =
          (pure literal.value : Render σ Value) := by
        rw [evaluate.eq_def]
        rfl
      rw [evaluate.eq_def]
      simp only [path?, value, selected, pure_bind]
      cases outcome with
      | ok value => exact ⟨bytes, rfl⟩
      | error fault => exact ⟨bytes', rfl⟩
  | _ => simp [Expression.bare, Expression.mapSpans] at same

theorem evaluatesTo_dottedFrom (leads : context.IsPathTo scope target outcome)
    (keys : List PathKey) :
    context.EvaluatesTo scope (dottedFrom target keys) (dottedValue keys outcome) := by
  induction keys generalizing target outcome with
  | nil => exact leads.evaluatesTo
  | cons key keys inductionHypothesis => exact inductionHypothesis (leads.member key ⟨0, 0⟩)

theorem evaluatesTo_bracketedFrom (evaluates : context.EvaluatesTo scope target outcome)
    (keys : List PathKey) :
    context.EvaluatesTo scope (bracketedFrom target keys) (bracketedValue keys outcome) := by
  induction keys generalizing target outcome with
  | nil => exact evaluates
  | cons key keys inductionHypothesis =>
      exact inductionHypothesis (evaluates.index key.literal ⟨0, 0⟩ ⟨0, 0⟩)

end RenderContext

/-- A path behind points and the same path in brackets are read, and evaluate to the same value or
fail both, in whatever fragments and environments they stand. -/
theorem evaluate_paths_agree {root : String} {keys : List PathKey} (named : isName root = true)
    (writable : ∀ key ∈ keys, key.isWritable = true) (apart : noAdjacentIndexes keys = true) :
    ∃ dotted bracketed : Expression,
      parse ("<% echo " ++ dottedPath root keys ++ "; %>").toList =
          .ok [.action (.echo dotted)] ∧
        parse ("<% echo " ++ bracketedPath root keys ++ "; %>").toList =
          .ok [.action (.echo bracketed)] ∧
        ∀ {σ : Type} (first second : RenderContext σ (Render σ)) (scope : Entries Value),
          (∃ value, first.evaluate scope dotted = pure value ∧
              second.evaluate scope bracketed = pure value) ∨
            ∃ (left right : Span) (fault fault' : Fault),
              first.evaluate scope dotted = first.failAt left fault ∧
                second.evaluate scope bracketed = second.failAt right fault' := by
  obtain ⟨dotted, sameDotted, readDotted⟩ := parse_dottedPath named writable apart
  obtain ⟨bracketed, sameBracketed, readBracketed⟩ := parse_bracketedPath named writable
  refine ⟨dotted, bracketed, readDotted, readBracketed, fun first second scope => ?_⟩
  have rootFirst : first.IsPathTo scope (rootExpression root) (rootValue scope root) :=
    RenderContext.isPathTo_root root
  have rootSecond : second.IsPathTo scope (rootExpression root) (rootValue scope root) :=
    RenderContext.isPathTo_root root
  obtain ⟨left, dottedEnd⟩ :=
    RenderContext.evaluatesTo_dottedFrom rootFirst keys dotted sameDotted
  obtain ⟨right, bracketedEnd⟩ :=
    RenderContext.evaluatesTo_bracketedFrom rootSecond.evaluatesTo keys bracketed sameBracketed
  have roots : SameValue (rootValue scope root) (rootValue scope root) := by
    cases rootValue scope root with
    | ok value => exact .ok value
    | error fault => exact .error fault fault
  have same := sameValue_keys writable roots
  rw [dottedEnd, bracketedEnd]
  generalize dottedValue keys (rootValue scope root) = outcome at same
  generalize bracketedValue keys (rootValue scope root) = outcome' at same
  cases same with
  | ok value => exact .inl ⟨value, rfl, rfl⟩
  | error fault fault' => exact .inr ⟨left, right, fault, fault', rfl, rfl⟩

theorem evaluate_paths_agree_mixedKeys :
    let keys : List PathKey := [.index 0, .name "a", .index 17, .name "_0"]
    dottedPath "x" keys = "x.0.a.17._0" ∧ bracketedPath "x" keys = "x[0]['a'][17]['_0']" ∧
      isName "x" = true ∧ (∀ key ∈ keys, key.isWritable = true) ∧ noAdjacentIndexes keys = true ∧
      ∃ dotted bracketed : Expression,
        parse ("<% echo " ++ dottedPath "x" keys ++ "; %>").toList =
            .ok [.action (.echo dotted)] ∧
          parse ("<% echo " ++ bracketedPath "x" keys ++ "; %>").toList =
            .ok [.action (.echo bracketed)] ∧
          ∀ {σ : Type} (first second : RenderContext σ (Render σ)) (scope : Entries Value),
            (∃ value, first.evaluate scope dotted = pure value ∧
                second.evaluate scope bracketed = pure value) ∨
              ∃ (left right : Span) (fault fault' : Fault),
                first.evaluate scope dotted = first.failAt left fault ∧
                  second.evaluate scope bracketed = second.failAt right fault' := by
  intro keys
  have named : isName "x" = true := by decide
  have writable : ∀ key ∈ keys, key.isWritable = true := by decide
  have apart : noAdjacentIndexes keys = true := by decide
  exact ⟨by decide, by decide, named, writable, apart, evaluate_paths_agree named writable apart⟩

/-- Two indexes behind points that follow each other are cut off as one number with a fraction,
which is refused as an index. In brackets they select an element of an element. -/
theorem parse_adjacentIndexes :
    parse "<% echo x.0.1; %>".toList = .error ⟨.indexRange, ⟨10, 13⟩⟩ ∧
      ∃ bracketed : Expression,
        parse "<% echo x[0][1]; %>".toList = .ok [.action (.echo bracketed)] ∧
          ∀ {σ : Type} (context : RenderContext σ (Render σ)),
            context.evaluate [("x", .list [.list [.integer 1, .integer 2]])] bracketed =
              (pure (.integer 2) : Render σ Value) := by
  have writable : ∀ key ∈ [PathKey.index 0, .index 1], key.isWritable = true := by decide
  have code : bracketedPath "x" [.index 0, .index 1] = "x[0][1]" := by decide
  have named : isName "x" = true := by decide
  obtain ⟨bracketed, same, read⟩ := parse_bracketedPath named writable
  rw [code] at read
  refine ⟨by cbv, bracketed, read, fun context => ?_⟩
  obtain ⟨span, evaluated⟩ := RenderContext.evaluatesTo_bracketedFrom
    (RenderContext.isPathTo_root "x").evaluatesTo [.index 0, .index 1] bracketed same
  exact evaluated

end ViewTemplate
