import Mathlib.Data.List.TakeWhile
import ViewTemplate.Proofs.Pieces

/-!
What is a comment, an echo or a directive. A text begins with one of them exactly if it is put
together like one of them (`recognize?_eq_some_iff`), which does not say how far ahead one has to
look to find out.
-/

namespace ViewTemplate

/-! ## First occurrences -/

namespace Text

/-- A text is parted where a pattern stands in it for the first time. -/
structure IsFirst (pattern text before after : List Char) : Prop where
  parts : text = before ++ pattern ++ after
  first : ∀ {earlier later}, text = earlier ++ pattern ++ later → before.length ≤ earlier.length

variable {pattern text before after : List Char}

theorem isFirst_of_breakOn? (found : breakOn? pattern text = some (before, after)) :
    IsFirst pattern text before after where
  parts := breakOn?_append found
  first := by
    intro earlier later parts
    induction text generalizing before earlier with
    | nil =>
        have parts' := breakOn?_append found
        cases before with
        | nil => exact Nat.zero_le _
        | cons => cases parts'
    | cons character text inductionHypothesis =>
        unfold breakOn? at found
        split at found
        next =>
          cases found
          exact Nat.zero_le _
        next absent =>
          obtain ⟨⟨shorter, behind⟩, foundLater, same⟩ := Option.map_eq_some_iff.1 found
          cases same
          cases earlier with
          | nil =>
              have here : pattern <+: character :: text := ⟨later, parts.symm⟩
              exact absurd here (stripInitial?_eq_none_iff.1 absent)
          | cons other earlier =>
              have within := (List.cons.inj parts).2
              exact Nat.succ_le_succ (inductionHypothesis foundLater within)

theorem breakOn?_eq_some_iff :
    breakOn? pattern text = some (before, after) ↔ IsFirst pattern text before after := by
  refine ⟨isFirst_of_breakOn?, fun isFirst => ?_⟩
  cases found : breakOn? pattern text with
  | none => exact absurd ⟨before, after, isFirst.parts.symm⟩ (not_infix_of_breakOn?_eq_none found)
  | some places =>
      obtain ⟨before', after'⟩ := places
      have isFirst' := isFirst_of_breakOn? found
      have length : before'.length = before.length :=
        Nat.le_antisymm (isFirst'.first isFirst.parts) (isFirst.first isFirst'.parts)
      have same := isFirst'.parts.symm.trans isFirst.parts
      rw [List.append_assoc, List.append_assoc] at same
      obtain ⟨rfl, rest⟩ := List.append_inj same length
      rw [List.append_cancel_left rest]

theorem breakOn?_singleton {mark : Char} (absent : mark ∉ before) (after : List Char) :
    breakOn? [mark] (before ++ mark :: after) = some (before, after) := by
  induction before with
  | nil => exact breakOn?_self_append [mark] after
  | cons character before inductionHypothesis =>
      obtain ⟨different, later⟩ := List.ne_and_not_mem_of_not_mem_cons absent
      have notHere : ¬ [mark] <+: character :: (before ++ mark :: after) := fun here =>
        different (List.cons_prefix_cons.1 here).1
      rw [List.cons_append, breakOn?_cons_of_not_here notHere, inductionHypothesis later]
      rfl

end Text

namespace Directive

open Text

/-! ## Arguments -/

/-- What stands behind the opening quote of a string, up to the closing one. -/
inductive Quoted (mark : Char) : List Char → Prop where
  | close : Quoted mark [mark]
  | escape (character : Char) {text : List Char} (others : Quoted mark text) :
      Quoted mark ('\\' :: character :: text)
  | plain {character : Char} {text : List Char} (inside : character ≠ mark)
      (noEscape : character ≠ '\\') (others : Quoted mark text) : Quoted mark (character :: text)

/-- All strings in a text are closed, and outside of them so are all parentheses. -/
inductive Balanced : List Char → Prop where
  | nil : Balanced []
  | plain {character : Char} {text : List Char} (isPlain : character ∉ ['(', ')', '\'', '"'])
      (others : Balanced text) : Balanced (character :: text)
  | string {mark : Char} {content text : List Char} (isQuote : mark = '\'' ∨ mark = '"')
      (quoted : Quoted mark content) (others : Balanced text) :
      Balanced (mark :: (content ++ text))
  | group {inner text : List Char} (within : Balanced inner) (others : Balanced text) :
      Balanced ('(' :: (inner ++ ')' :: text))

/-- Balanced text that in between closes further parentheses. -/
def Closes : (depth : Nat) → List Char → Prop
  | 0, text => Balanced text
  | depth + 1, text => ∃ inner others, text = inner ++ ')' :: others ∧ Balanced inner ∧
      Closes depth others

/-- Text that first ends the string that it begins in. -/
def Quoting.Closes (depth : Nat) : Quoting → List Char → Prop
  | .outside, text => Directive.Closes depth text
  | .inside mark, text => ∃ content others, text = content ++ others ∧ Quoted mark content ∧
      Directive.Closes depth others
  | .escaped mark, text => ∃ character content others, text = character :: (content ++ others) ∧
      Quoted mark content ∧ Directive.Closes depth others

section Arguments

variable {depth : Nat} {quoting : Quoting} {character : Char} {text arguments rest : List Char}

theorem closes_append {front : List Char}
    (balances : ∀ {text}, Balanced text → Balanced (front ++ text)) (closes : Closes depth text) :
    Closes depth (front ++ text) := by
  cases depth with
  | zero => exact balances closes
  | succ depth =>
      obtain ⟨inner, others, rfl, within, later⟩ := closes
      exact ⟨front ++ inner, others, (List.append_assoc ..).symm, balances within, later⟩

theorem closes_cons_open (closes : Closes (depth + 1) text) : Closes depth ('(' :: text) := by
  obtain ⟨inner, others, rfl, within, later⟩ := closes
  have group : ∀ {text}, Balanced text → Balanced (('(' :: inner ++ [')']) ++ text) := by
    intro text others
    simpa using Balanced.group within others
  simpa using closes_append group later

theorem closes_cons_plain (isPlain : character ∉ ['(', ')', '\'', '"'])
    (closes : Closes depth text) : Closes depth (character :: text) := by
  have plain : ∀ {text}, Balanced text → Balanced ([character] ++ text) := .plain isPlain
  exact closes_append plain closes

theorem closes_cons_string {mark : Char} (isQuote : mark = '\'' ∨ mark = '"')
    (closes : (Quoting.inside mark).Closes depth text) : Closes depth (mark :: text) := by
  obtain ⟨content, others, rfl, quoted, later⟩ := closes
  have string : ∀ {text}, Balanced text → Balanced ((mark :: content) ++ text) :=
    .string isQuote quoted
  exact closes_append string later

theorem closes_cons_inside {mark : Char}
    (closes : ((Quoting.inside mark).next character).Closes depth text) :
    (Quoting.inside mark).Closes depth (character :: text) := by
  rw [Quoting.next] at closes
  split at closes
  next escapes =>
    subst escapes
    obtain ⟨escaped, content, others, rfl, quoted, later⟩ := closes
    exact ⟨'\\' :: escaped :: content, others, rfl, .escape escaped quoted, later⟩
  next noEscape =>
    split at closes
    next ends =>
      subst ends
      exact ⟨[character], text, rfl, .close, closes⟩
    next inside =>
      obtain ⟨content, others, rfl, quoted, later⟩ := closes
      exact ⟨character :: content, others, rfl, .plain inside noEscape quoted, later⟩

/-- Arguments that are read close what was open in front of them. -/
theorem closes_of_readArguments?
    (found : readArguments? quoting depth text = some (arguments, rest)) :
    quoting.Closes depth arguments := by
  induction text generalizing quoting depth arguments with
  | nil => cases found
  | cons character text inductionHypothesis =>
      have advanced : ∀ {next : Quoting} {within : Nat},
          (readArguments? next within text).map
              (fun parts => (character :: parts.1, parts.2)) =
            some (arguments, rest) →
          ∃ shorter, arguments = character :: shorter ∧ next.Closes within shorter := by
        intro next within mapped
        obtain ⟨⟨shorter, _⟩, foundLater, same⟩ := Option.map_eq_some_iff.1 mapped
        obtain ⟨rfl, rfl⟩ := Prod.mk.inj same
        exact ⟨shorter, rfl, inductionHypothesis foundLater⟩
      unfold readArguments? at found
      cases quoting with
      | outside =>
          dsimp only at found
          split at found
          next opens =>
            subst opens
            obtain ⟨shorter, rfl, closes⟩ := advanced found
            exact closes_cons_open closes
          next notOpening =>
            split at found
            next ends =>
              subst ends
              split at found
              next =>
                cases found
                exact Balanced.nil
              next depth =>
                obtain ⟨shorter, rfl, closes⟩ := advanced found
                exact ⟨[], shorter, rfl, .nil, closes⟩
            next notEnding =>
              obtain ⟨shorter, rfl, closes⟩ := advanced found
              rw [Quoting.next] at closes
              split at closes
              next isQuote => exact closes_cons_string isQuote closes
              next noQuote =>
                rw [not_or] at noQuote
                exact closes_cons_plain (by simp [notOpening, notEnding, noQuote]) closes
      | inside mark =>
          obtain ⟨shorter, rfl, closes⟩ := advanced found
          exact closes_cons_inside closes
      | escaped mark =>
          obtain ⟨shorter, rfl, content, others, rfl, quoted, closes⟩ := advanced found
          exact ⟨character, content, others, rfl, quoted, closes⟩

/-- What is read has more text in front of it. -/
def behindText (front : List Char) (found : List Char × List Char) : List Char × List Char :=
  (front ++ found.1, found.2)

theorem map_behindText (front text : List Char) (found : Option (List Char × List Char)) :
    (found.map (behindText text)).map (behindText front) =
      found.map (behindText (front ++ text)) := by
  rw [Option.map_map]
  congr 1
  funext found
  exact Prod.ext (List.append_assoc ..).symm rfl

theorem readArguments?_cons (inString : quoting ≠ .outside) :
    readArguments? quoting depth (character :: text) =
      (readArguments? (quoting.next character) depth text).map (behindText [character]) := by
  cases quoting with
  | outside => exact absurd rfl inString
  | inside | escaped => rfl

theorem readArguments?_string {mark : Char} {content : List Char} (noEscape : mark ≠ '\\')
    (quoted : Quoted mark content) (depth : Nat) (text : List Char) :
    readArguments? (.inside mark) depth (content ++ text) =
      (readArguments? .outside depth text).map (behindText content) := by
  induction quoted with
  | close =>
      have ends : (Quoting.inside mark).next mark = .outside := by simp [Quoting.next, noEscape]
      rw [List.singleton_append, readArguments?_cons (by simp), ends]
  | escape character others inductionHypothesis =>
      have escapes : (Quoting.inside mark).next '\\' = .escaped mark := by simp [Quoting.next]
      have continues : (Quoting.escaped mark).next character = .inside mark := rfl
      rw [List.cons_append, List.cons_append, readArguments?_cons (by simp), escapes,
        readArguments?_cons (by simp), continues, inductionHypothesis, map_behindText,
        map_behindText]
      rfl
  | @plain character _ inside plain others inductionHypothesis =>
      have stays : (Quoting.inside mark).next character = .inside mark := by
        rw [Quoting.next, if_neg plain, if_neg inside]
      rw [List.cons_append, readArguments?_cons (by simp), stays, inductionHypothesis,
        map_behindText]
      rfl

theorem readArguments?_open (depth : Nat) (text : List Char) :
    readArguments? .outside depth ('(' :: text) =
      (readArguments? .outside (depth + 1) text).map (behindText ['(']) :=
  rfl

theorem readArguments?_close (depth : Nat) (text : List Char) :
    readArguments? .outside (depth + 1) (')' :: text) =
      (readArguments? .outside depth text).map (behindText [')']) :=
  rfl

theorem readArguments?_next (notOpening : character ≠ '(') (notClosing : character ≠ ')')
    (depth : Nat) (text : List Char) :
    readArguments? .outside depth (character :: text) =
      (readArguments? (Quoting.outside.next character) depth text).map
        (behindText [character]) := by
  rw [readArguments?.eq_def]
  dsimp only
  rw [if_neg notOpening, if_neg notClosing]
  rfl

/-- Balanced text in front of arguments is read with them. -/
theorem readArguments?_balanced {front : List Char} (balanced : Balanced front) (depth : Nat)
    (text : List Char) :
    readArguments? .outside depth (front ++ text) =
      (readArguments? .outside depth text).map (behindText front) := by
  induction balanced generalizing depth text with
  | nil =>
      have same : behindText [] = id := rfl
      rw [List.nil_append, same, Option.map_id_apply]
  | @plain character _ isPlain others inductionHypothesis =>
      simp only [List.mem_cons, List.not_mem_nil, or_false, not_or] at isPlain
      obtain ⟨notOpening, notClosing, noQuote⟩ := isPlain
      have stays : Quoting.outside.next character = .outside := by
        rw [Quoting.next, if_neg (not_or.2 noQuote)]
      rw [List.cons_append, readArguments?_next notOpening notClosing, stays,
        inductionHypothesis, map_behindText]
      rfl
  | @string mark content others isQuote quoted _ inductionHypothesis =>
      have noEscape : mark ≠ '\\' := by rcases isQuote with rfl | rfl <;> decide
      have notOpening : mark ≠ '(' := by rcases isQuote with rfl | rfl <;> decide
      have notClosing : mark ≠ ')' := by rcases isQuote with rfl | rfl <;> decide
      have begins : Quoting.outside.next mark = .inside mark := by
        rw [Quoting.next, if_pos isQuote]
      rw [List.cons_append, List.append_assoc, readArguments?_next notOpening notClosing, begins,
        readArguments?_string noEscape quoted, inductionHypothesis, map_behindText, map_behindText]
      rfl
  | @group inner others _ _ within behind =>
      rw [List.cons_append, List.append_assoc, List.cons_append, readArguments?_open, within,
        readArguments?_close, behind, map_behindText, map_behindText, map_behindText]
      simp

/-- Arguments go up to the first parenthesis behind balanced text that closes the one in front. -/
theorem readArguments?_eq_some_iff :
    readArguments? .outside 0 text = some (arguments, rest) ↔
      text = arguments ++ ')' :: rest ∧ Balanced arguments := by
  constructor
  · exact fun found => ⟨append_of_readArguments? found, closes_of_readArguments? found⟩
  · rintro ⟨rfl, balanced⟩
    rw [readArguments?_balanced balanced]
    simp [readArguments?, behindText]

end Arguments

/-! ## Comments, echos and directives -/

theorem trim_eq_nil_iff {text : List Char} :
    trim text = [] ↔ ∀ character ∈ text, isBlank character = true := by
  rw [trim, trimBy, List.reverse_eq_nil_iff, List.dropWhile_eq_nil_iff]
  constructor
  · intro blank
    have nothing : text.dropWhile isBlank = [] := by
      have visible := List.head?_dropWhile_not isBlank text
      cases behind : text.dropWhile isBlank with
      | nil => rfl
      | cons first others =>
          rw [behind] at blank visible
          have firstBlank := blank first (by simp)
          simp [firstBlank] at visible
    exact List.dropWhile_eq_nil_iff.1 nothing
  · intro blank
    rw [List.dropWhile_eq_nil_iff.2 blank]
    simp

theorem Kind.ofName?_eq_some_iff {name : List Char} {kind : Kind} :
    Kind.ofName? name = some kind ↔ name = kind.name.toList := by
  constructor
  · intro found
    have same := List.find?_some found
    exact (of_decide_eq_true same).symm
  · rintro rfl
    exact kind.ofName?_name

/-- The text of a directive with space in front of its arguments. -/
def spacedText (kind : Kind) (gap arguments : List Char) : List Char :=
  '@' :: kind.name.toList ++ gap ++ '(' :: arguments ++ [')']

/-- What a text can begin with that is more than text, and what follows it. -/
inductive Recognizes : List Char → Piece → List Char → Prop where
  /-- A comment goes up to its first closing mark. -/
  | closedComment {text content rest : List Char} (first : IsFirst commentClose text content rest) :
      Recognizes (commentOpen ++ text)
        (.comment content true (commentOpen ++ content ++ commentClose)) rest
  /-- If there is no closing mark at all, it goes up to the end of its line, which there must be. -/
  | lineComment {content ending behind : List Char}
      (unclosed : ¬ commentClose <:+: content ++ (ending ++ '\n' :: behind))
      (line : '\n' ∉ content)
      (lineEnd : ending = ['\r'] ∨ ending = [] ∧ content.getLast? ≠ some '\r') :
      Recognizes (commentOpen ++ (content ++ (ending ++ '\n' :: behind)))
        (.comment content false (commentOpen ++ content)) (ending ++ '\n' :: behind)
  /-- An echo goes up to its first closing mark, and there is something in it. -/
  | echo {text content rest : List Char} (noComment : ¬ ['-', '-'] <+: text)
      (first : IsFirst echoClose text content rest)
      (visible : ∃ character ∈ content, isBlank character = false) :
      Recognizes (echoOpen ++ text)
        (.echo (trim content) (echoOpen ++ content ++ echoClose)) rest
  /-- The name of a directive does not go on behind it. -/
  | plain {kind : Kind} {rest : List Char} (takes : kind.takesArguments = false)
      (stop : ∀ character ∈ rest.head?, isNameCharacter character = false) :
      Recognizes (plainText kind ++ rest) (.directive kind none (plainText kind)) rest
  /-- Arguments are balanced. -/
  | applied {kind : Kind} {gap arguments rest : List Char} (takes : kind.takesArguments = true)
      (blank : ∀ character ∈ gap, isGap character = true) (balanced : Balanced arguments) :
      Recognizes (spacedText kind gap arguments ++ rest)
        (.directive kind (some arguments) (spacedText kind gap arguments)) rest

/-- What stands behind the text of a line is a carriage return or nothing. -/
theorem exists_lineEnd (line : List Char) :
    ∃ ending, line = withoutReturn line ++ ending ∧
      (ending = ['\r'] ∨ ending = [] ∧ (withoutReturn line).getLast? ≠ some '\r') := by
  unfold withoutReturn
  split
  next returns =>
    obtain ⟨content, rfl⟩ := List.getLast?_eq_some_iff.1 returns
    rw [List.dropLast_concat]
    exact ⟨['\r'], rfl, .inl rfl⟩
  next noReturn => exact ⟨[], (List.append_nil line).symm, .inr ⟨rfl, noReturn⟩⟩

section Readers

variable {text rest : List Char} {piece : Piece}

theorem recognizes_of_readComment? (found : readComment? text = some (piece, rest)) :
    Recognizes (commentOpen ++ text) piece rest := by
  unfold readComment? at found
  split at found
  next content behind closed =>
    cases found
    exact .closedComment (breakOn?_eq_some_iff.1 closed)
  next unclosed =>
    obtain ⟨⟨line, behind⟩, broken, same⟩ := Option.map_eq_some_iff.1 found
    cases same
    have absent := not_infix_of_breakOn?_eq_none unclosed
    have inLine : '\n' ∉ line := fun member => by
      obtain ⟨before, after, rfl⟩ := List.append_of_mem member
      exact not_infix_of_breakOn? broken ⟨before, after, by simp⟩
    obtain ⟨ending, parts, lineEnd⟩ := exists_lineEnd line
    have whole : text = withoutReturn line ++ (ending ++ '\n' :: behind) := by
      rw [← List.append_assoc, ← parts]
      simpa using breakOn?_append broken
    rw [parts, List.mem_append, not_or] at inLine
    rw [whole] at absent ⊢
    rw [List.drop_left]
    exact .lineComment absent inLine.1 lineEnd

theorem recognizes_of_readEcho? (noComment : stripInitial? commentOpen (echoOpen ++ text) = none)
    (found : readEcho? text = some (piece, rest)) : Recognizes (echoOpen ++ text) piece rest := by
  unfold readEcho? at found
  split at found
  next content behind closed =>
    split at found
    next => cases found
    next notBlank =>
      cases found
      have visible : ∃ character ∈ content, isBlank character = false := by
        simpa [trim_eq_nil_iff] using notBlank
      refine .echo ?_ (breakOn?_eq_some_iff.1 closed) visible
      rintro ⟨others, rfl⟩
      exact stripInitial?_eq_none_iff.1 noComment ⟨others, rfl⟩
  next => cases found

theorem recognizes_of_readDirective? (found : readDirective? text = some (piece, rest)) :
    Recognizes ('@' :: text) piece rest := by
  simp only [readDirective?] at found
  split at found
  next => cases found
  next kind named =>
    have name := Kind.ofName?_eq_some_iff.1 named
    have parts := List.takeWhile_append_dropWhile (p := isNameCharacter) (l := text)
    have stop := List.head?_dropWhile_not isNameCharacter text
    generalize text.dropWhile isNameCharacter = behind at found parts stop
    rw [name] at parts found
    subst parts
    split at found
    next takes =>
      split at found
      next inner opened =>
        obtain ⟨⟨arguments, following⟩, read, same⟩ := Option.map_eq_some_iff.1 found
        cases same
        obtain ⟨rfl, balanced⟩ := readArguments?_eq_some_iff.1 read
        have spaced := List.takeWhile_append_dropWhile (p := isGap) (l := behind)
        have blank : ∀ character ∈ behind.takeWhile isGap, isGap character = true :=
          List.all_eq_true.1 List.all_takeWhile
        rw [opened] at spaced
        generalize behind.takeWhile isGap = gap at spaced blank ⊢
        subst spaced
        simpa [spacedText] using Recognizes.applied takes blank balanced
      next => cases found
    next takes =>
      cases found
      refine .plain (by simpa using takes) fun character first => ?_
      rw [Option.mem_def.1 first] at stop
      simpa using stop

theorem recognize?_commentOpen (text : List Char) :
    recognize? (commentOpen ++ text) = readComment? text := by
  change readBraces? (commentOpen ++ text) = _
  rw [readBraces?, stripInitial?_append]

theorem recognize?_echoOpen (noComment : ¬ ['-', '-'] <+: text) :
    recognize? (echoOpen ++ text) = readEcho? text := by
  have noOpening : stripInitial? commentOpen (echoOpen ++ text) = none := by
    refine stripInitial?_eq_none_iff.2 fun opens => noComment ?_
    exact (List.prefix_append_right_inj echoOpen).1 opens
  change readBraces? (echoOpen ++ text) = _
  rw [readBraces?, noOpening]
  simp only [stripInitial?_append]

theorem readComment?_line {content ending behind : List Char}
    (unclosed : ¬ commentClose <:+: content ++ (ending ++ '\n' :: behind)) (line : '\n' ∉ content)
    (lineEnd : ending = ['\r'] ∨ ending = [] ∧ content.getLast? ≠ some '\r') :
    readComment? (content ++ (ending ++ '\n' :: behind)) =
      some (.comment content false (commentOpen ++ content), ending ++ '\n' :: behind) := by
  have noBreak : '\n' ∉ content ++ ending := by
    rcases lineEnd with rfl | ⟨rfl, -⟩ <;> simp [line]
  have content_eq : withoutReturn (content ++ ending) = content := by
    rcases lineEnd with rfl | ⟨rfl, noReturn⟩
    · simp [withoutReturn]
    · rw [List.append_nil, withoutReturn, if_neg noReturn]
  have broken := breakOn?_singleton noBreak behind
  rw [List.append_assoc] at broken
  rw [readComment?, breakOn?_eq_none_of_not_infix unclosed]
  simp only [broken, Option.map_some, content_eq, List.drop_left]

theorem readEcho?_visible {content : List Char} (first : IsFirst echoClose text content rest)
    (visible : ∃ character ∈ content, isBlank character = false) :
    readEcho? text =
      some (.echo (trim content) (echoOpen ++ content ++ echoClose), rest) := by
  have notBlank : trim content ≠ [] := by
    rw [Ne, trim_eq_nil_iff]
    simpa using visible
  rw [readEcho?, breakOn?_eq_some_iff.2 first]
  simp only [if_neg notBlank]

theorem recognize?_spaced {kind : Kind} {gap arguments : List Char}
    (takes : kind.takesArguments = true) (blank : ∀ character ∈ gap, isGap character = true)
    (balanced : Balanced arguments) (rest : List Char) :
    recognize? (spacedText kind gap arguments ++ rest) =
      some (.directive kind (some arguments) (spacedText kind gap arguments), rest) := by
  have parts : spacedText kind gap arguments ++ rest =
      '@' :: (kind.name.toList ++ (gap ++ '(' :: (arguments ++ ')' :: rest))) := by
    simp [spacedText]
  have stop : ∀ character ∈ (gap ++ '(' :: (arguments ++ ')' :: rest)).head?,
      isNameCharacter character = false := by
    cases gap with
    | nil =>
        rintro character ⟨⟩
        rfl
    | cons first others =>
        rintro character ⟨⟩
        have space := blank first List.mem_cons_self
        simp only [isGap, Bool.or_eq_true, beq_iff_eq] at space
        rcases space with rfl | rfl <;> rfl
  obtain ⟨name, behind⟩ := takeWhile_name kind stop
  have read : readArguments? .outside 0 (arguments ++ ')' :: rest) = some (arguments, rest) :=
    readArguments?_eq_some_iff.2 ⟨rfl, balanced⟩
  have noGap : isGap '(' = false := rfl
  rw [parts]
  change readDirective? _ = _
  rw [readDirective?, name, behind]
  simp only [kind.ofName?_name, takes, if_true]
  rw [List.dropWhile_append_of_pos blank, List.takeWhile_append_of_pos blank]
  simp [noGap, read, spacedText]

theorem recognize?_of_recognizes (recognizes : Recognizes text piece rest) :
    recognize? text = some (piece, rest) := by
  cases recognizes with
  | closedComment first =>
      rw [recognize?_commentOpen, readComment?, breakOn?_eq_some_iff.2 first]
  | lineComment unclosed line lineEnd =>
      rw [recognize?_commentOpen, readComment?_line unclosed line lineEnd]
  | echo noComment first visible =>
      rw [recognize?_echoOpen noComment, readEcho?_visible first visible]
  | plain takes stop => exact recognize?_plain rest takes stop
  | applied takes blank balanced => exact recognize?_spaced takes blank balanced rest

theorem recognize?_eq_some_iff :
    recognize? text = some (piece, rest) ↔ Recognizes text piece rest := by
  refine ⟨fun found => ?_, recognize?_of_recognizes⟩
  unfold recognize? at found
  split at found
  next behind =>
    unfold readBraces? at found
    split at found
    next inner opened =>
      rw [stripInitial?_eq_some_iff.1 opened]
      exact recognizes_of_readComment? found
    next noComment =>
      split at found
      next inner opened =>
        have echo := stripInitial?_eq_some_iff.1 opened
        rw [echo] at noComment ⊢
        exact recognizes_of_readEcho? noComment found
      next => cases found
  next => exact recognizes_of_readDirective? found
  next => cases found

end Readers

end Directive
end ViewTemplate
