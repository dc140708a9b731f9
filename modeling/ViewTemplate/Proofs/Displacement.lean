import ViewTemplate.Proofs.Tags

/-!
Fragments inside longer ones. A fragment that ends outside code tags is cut into the same tokens
when other text stands in front of it and a code tag behind it; only the offsets are greater
(`scanFrom_append`).
-/

namespace ViewTemplate

open Text

/-! ## Occurrences -/

namespace Text

/-- What a text does not begin with it does not begin with either when more text follows, unless it
is too short. -/
theorem stripInitial?_append_eq_none {pattern text : List Char}
    (none : stripInitial? pattern text = none) (long : pattern.length ≤ text.length)
    (rest : List Char) : stripInitial? pattern (text ++ rest) = .none := by
  rw [stripInitial?_eq_none_iff] at none ⊢
  intro begins
  exact none (List.prefix_of_prefix_length_le begins (List.prefix_append text rest) long)

/-- The first occurrence of a pattern stays the first one when more text follows. -/
theorem breakOn?_append_of_eq_some {pattern text before after : List Char}
    (found : breakOn? pattern text = some (before, after)) (rest : List Char) :
    breakOn? pattern (text ++ rest) = some (before, after ++ rest) := by
  have parts := breakOn?_append found
  induction text generalizing before with
  | nil =>
      obtain ⟨rfl, rfl, rfl⟩ : before = [] ∧ pattern = [] ∧ after = [] := by simpa using parts
      exact breakOn?_self_append [] rest
  | cons character text inductionHypothesis =>
      unfold breakOn? at found
      split at found
      next behind stripped =>
        cases found
        rw [stripInitial?_eq_some_iff.1 stripped, List.append_assoc]
        exact breakOn?_self_append pattern _
      next none =>
        obtain ⟨⟨others, _⟩, later, same⟩ := Option.map_eq_some_iff.1 found
        cases same
        have long : pattern.length ≤ (character :: text).length := by
          rw [parts]
          simp only [List.length_append]
          omega
        have notHere := stripInitial?_append_eq_none none long rest
        rw [List.cons_append] at notHere ⊢
        rw [breakOn?_cons_of_not_here (stripInitial?_eq_none_iff.1 notHere),
          inductionHypothesis later (breakOn?_append later)]
        rfl

theorem takeWhile_append_cons {p : Char → Bool} {stop : Char} (stops : p stop = false)
    (text rest : List Char) : (text ++ stop :: rest).takeWhile p = text.takeWhile p := by
  induction text with
  | nil => rw [List.nil_append, List.takeWhile_cons, stops, List.takeWhile_nil]; rfl
  | cons character text inductionHypothesis =>
      rw [List.cons_append, List.takeWhile_cons, List.takeWhile_cons, inductionHypothesis]

theorem takeWhile_append_of_length_lt {p : Char → Bool} {text : List Char}
    (stops : (text.takeWhile p).length < text.length) (rest : List Char) :
    (text ++ rest).takeWhile p = text.takeWhile p := by
  rw [List.takeWhile_append, if_neg (Nat.ne_of_lt stops)]

theorem dropWhile_append_cons {p : Char → Bool} {stop : Char} (stops : p stop = false)
    (text rest : List Char) :
    (text ++ stop :: rest).dropWhile p = text.dropWhile p ++ stop :: rest := by
  induction text with
  | nil => rw [List.nil_append, List.dropWhile_cons, stops, List.dropWhile_nil]; rfl
  | cons character text inductionHypothesis =>
      rw [List.cons_append, List.dropWhile_cons, List.dropWhile_cons]
      split
      · exact inductionHypothesis
      · rfl

end Text

namespace Fragment

/-! ## Tokens of code in front of a code tag -/

theorem lineCommentLength_append {text : List Char} (ends : lineCommentLength text < text.length)
    (rest : List Char) : lineCommentLength (text ++ rest) = lineCommentLength text := by
  fun_induction lineCommentLength text with
  | case1 => cases ends
  | case2 => rfl
  | case3 => rfl
  | case4 character text notLineFeed notEnd inductionHypothesis =>
      have later := inductionHypothesis (Nat.lt_of_succ_lt_succ ends)
      obtain ⟨next, others, rfl⟩ : ∃ next others, text = next :: others := by
        cases text with
        | nil => cases ends with | step impossible => cases impossible
        | cons next others => exact ⟨next, others, rfl⟩
      rw [List.cons_append, lineCommentLength, later]
      · exact notLineFeed
      · intro other percent same
        exact notEnd others percent (by rw [(List.cons.inj same).1])

theorem stringLength?_append {quote : Char} {escaped : Bool} {text : List Char} {length : Nat}
    (found : stringLength? quote escaped text = some length) (rest : List Char) :
    stringLength? quote escaped (text ++ rest) = some length := by
  induction text generalizing escaped length with
  | nil => cases found
  | cons character text inductionHypothesis =>
      rw [List.cons_append]
      unfold stringLength? at found ⊢
      split at found
      next closes => rw [if_pos closes, found]
      next stays =>
        obtain ⟨shorter, later, rfl⟩ := Option.map_eq_some_iff.1 found
        rw [if_neg stays, inductionHypothesis later]
        rfl

/-- No number goes on with this character. -/
structure EndsNumber (stop : Char) : Prop where
  notPart : isNumberCharacter stop = false
  notPoint : stop ≠ '.'

theorem numberLength_append {stop : Char} (ends : EndsNumber stop) (text rest : List Char) :
    numberLength (text ++ stop :: rest) = numberLength text := by
  unfold numberLength
  rw [takeWhile_append_cons ends.notPart, dropWhile_append_cons ends.notPart]
  cases text.dropWhile isNumberCharacter with
  | nil =>
      rw [List.nil_append]
      split
      next same => exact absurd (List.cons.inj same).1 ends.notPoint
      next => rfl
  | cons point behind =>
      by_cases isPoint : point = '.'
      · subst isPoint
        cases behind with
        | nil =>
            have noDigit : stop.isDigit = false := (Bool.or_eq_false_iff.1 ends.notPart).1
            simp [noDigit]
        | cons digit behind =>
            have same := takeWhile_append_cons ends.notPart (digit :: behind) rest
            simp only [List.cons_append] at same ⊢
            rw [same]
      · simp only [List.cons_append]
        split
        next same => exact absurd (List.cons.inj same).1 isPoint
        next =>
          split
          next same => exact absurd (List.cons.inj same).1 isPoint
          next => rfl

/-- A token of code that is not the last one stays the same in front of more text, unless that goes
on with a number. -/
theorem codeToken_append {character : Char} {behind : List Char} {kind : TokenKind} {more : Nat}
    (token : codeToken character behind = .ok (kind, more)) (left : more < behind.length)
    {stop : Char} (ends : EndsNumber stop) (rest : List Char) :
    codeToken character (behind ++ stop :: rest) = .ok (kind, more) := by
  obtain ⟨next, others, rfl⟩ : ∃ next others, behind = next :: others := by
    cases behind with
    | nil => cases left
    | cons next others => exact ⟨next, others, rfl⟩
  rw [List.cons_append]
  unfold codeToken at token
  split at token
  next lineComment =>
    cases lineComment
    cases token
    have same := lineCommentLength_append left (stop :: rest)
    rw [List.cons_append] at same
    rw [codeToken, same]
  next blockComment =>
    cases blockComment
    split at token
    next content after found =>
      cases token
      rw [codeToken, breakOn?_append_of_eq_some found]
    next => cases token
  next notLine notBlock =>
    rw [codeToken]
    · simp only [List.head?_cons] at token ⊢
      split at token
      next => exact token
      next =>
        split at token
        next quote =>
          rw [if_pos quote]
          split at token
          next length found =>
            have same := stringLength?_append found (stop :: rest)
            rw [List.cons_append] at same
            rw [same]
            exact token
          next => cases token
        next noQuote =>
          rw [if_neg noQuote, ← List.cons_append, numberLength_append ends]
          split at token
          next digit =>
            rw [if_pos digit]
            exact token
          next noDigit =>
            rw [if_neg noDigit]
            split at token
            next space =>
              cases token
              rw [if_pos space, takeWhile_append_of_length_lt left]
            next noSpace =>
              rw [if_neg noSpace]
              split at token
              next start =>
                cases token
                rw [if_pos start, takeWhile_append_of_length_lt left]
              next => cases token
    · intro tail slash same
      exact notLine others slash (by rw [(List.cons.inj same).1])
    · intro inner slash same
      exact notBlock others slash (by rw [(List.cons.inj same).1])

/-! ## Displaced tokens -/

/-- A span further back in a longer fragment. -/
def Span.later (distance : Nat) (span : Span) : Span :=
  ⟨span.start + distance, span.stop + distance⟩

@[simp]
theorem Span.later_zero : Span.later 0 = id := by
  funext span
  rfl

@[simp]
theorem Span.later_cover (distance : Nat) (left right : Span) :
    (left.cover right).later distance = (left.later distance).cover (right.later distance) := by
  simp only [Span.later, Span.cover, Nat.add_min_add_right, Nat.add_max_add_right]

def Token.later (distance : Nat) (token : Token) : Token :=
  ⟨token.kind, token.text, token.start + distance⟩

@[simp]
theorem Token.later_zero : Token.later 0 = id := by
  funext token
  rfl

@[simp]
theorem Token.span_later (distance : Nat) (token : Token) :
    (token.later distance).span = token.span.later distance := by
  simp only [Token.span, Token.later, Span.later, Nat.add_right_comm]

def ScanMode.later (distance : Nat) : ScanMode → ScanMode
  | .text => .text
  | .code opening => .code (opening.later distance)

theorem Scanned.ending_consNonempty (token : Token) (scanned : Scanned) :
    (scanned.consNonempty token).ending = scanned.ending := by
  rw [Scanned.consNonempty]
  split <;> rfl

/-- A text that ends outside code tags is cut into the same tokens between other text. -/
theorem scanFrom_append {mode : ScanMode} {offset length : Nat} {text : List Char}
    (complete : (scanFrom mode offset text).ending = .complete length) (distance : Nat)
    (rest : List Char) :
    scanFrom (mode.later distance) (offset + distance) (text ++ (beginTag ++ rest)) =
      (scanFrom .text (length + distance) (beginTag ++ rest)).prepend
        ((scanFrom mode offset text).tokens.map (Token.later distance)) := by
  fun_induction scanFrom mode offset text with
  | case1 offset =>
      cases complete
      rfl
  | case2 offset character behind unopened token =>
      cases complete
      have plain := not_infix_of_breakOn?_eq_none unopened
      rw [ScanMode.later, ← List.append_assoc, scanFrom_text_tag _ plain, scanFrom_text_beginTag,
        Nat.add_right_comm]
      rfl
  | case3 offset character behind before others opened opening inductionHypothesis =>
      rw [Scanned.ending_consNonempty] at complete
      have later := inductionHypothesis complete
      have start : offset + distance + byteLength before =
          offset + byteLength before + distance := Nat.add_right_comm ..
      have stop : offset + byteLength before + distance + 2 =
          offset + byteLength before + 2 + distance := Nat.add_right_comm ..
      rw [ScanMode.later, scanFrom_text (breakOn?_append_of_eq_some opened _), start, stop]
      by_cases empty : before = []
      · rw [Scanned.consNonempty, if_pos empty, Scanned.consNonempty, if_pos empty]
        exact congrArg (Scanned.cons _) later
      · rw [Scanned.consNonempty, if_neg empty, Scanned.consNonempty, if_neg empty]
        exact congrArg (fun scanned => Scanned.cons _ (Scanned.cons _ scanned)) later
  | case4 => cases complete
  | case5 offset opening character behind others closed token inductionHypothesis =>
      have later := inductionHypothesis complete
      have stop : offset + distance + 2 = offset + 2 + distance := Nat.add_right_comm ..
      rw [stripInitial?_eq_some_iff.1 closed, List.append_assoc, ScanMode.later,
        scanFrom_code_endTag, stop]
      exact congrArg (Scanned.cons _) later
  | case6 => cases complete
  | case7 offset opening character behind notClosed kind more found token inductionHypothesis =>
      have later := inductionHypothesis complete
      have left : more < behind.length := by
        refine Nat.lt_of_not_le fun enough => ?_
        rw [List.drop_of_length_le enough, scanFrom] at complete
        cases complete
      have long : endTag.length ≤ (character :: behind).length := by
        simp only [endTag, List.length_cons, List.length_nil]
        omega
      have noEnd := stripInitial?_append_eq_none notClosed long (beginTag ++ rest)
      have stop : offset + distance + byteLength (character :: behind.take more) =
          offset + byteLength (character :: behind.take more) + distance := Nat.add_right_comm ..
      rw [List.cons_append] at noEnd ⊢
      have ends : EndsNumber '<' := ⟨rfl, by decide⟩
      have token := codeToken_append found left ends ('%' :: rest)
      rw [ScanMode.later, scanFrom_code noEnd token,
        List.take_append_of_le_length (Nat.le_of_lt left),
        List.drop_append_of_le_length (Nat.le_of_lt left), stop]
      exact congrArg (Scanned.cons _) later

end Fragment

end ViewTemplate
