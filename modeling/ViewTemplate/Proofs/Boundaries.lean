import ViewTemplate.Proofs.Tags

/-!
Where the characters of a fragment begin. The tokens that a fragment is cut into begin and end
there, and so do the bytes of what is wrong with it; and no tag is left open without an error
(`tagged_scan`).
-/

namespace ViewTemplate.Fragment

open ViewTemplate.Text

/-! ## Bytes between characters -/

/-- A character of the source begins at an offset, or the source ends there. -/
def IsBoundary (source : List Char) (offset : Nat) : Prop :=
  ∃ before after, source = before ++ after ∧ byteLength before = offset

/-- Some bytes of a source, from the beginning of a character to the end of one. -/
structure Span.IsIn (source : List Char) (span : Span) : Prop where
  start : IsBoundary source span.start
  stop : IsBoundary source span.stop
  nonempty : span.start < span.stop

theorem byteLength_pos {text : List Char} (nonempty : text ≠ []) : 0 < byteLength text := by
  obtain ⟨character, others, rfl⟩ := List.exists_cons_of_ne_nil nonempty
  have size : 0 < character.utf8Size := character.utf8Size_pos
  exact Nat.lt_of_lt_of_le size (Nat.le_add_right _ _)

namespace Span

theorem isIn_of_append {source before middle after : List Char} (nonempty : middle ≠ [])
    (parts : source = before ++ (middle ++ after)) :
    IsIn source ⟨byteLength before, byteLength before + byteLength middle⟩ where
  start := ⟨before, middle ++ after, parts, rfl⟩
  stop := ⟨before ++ middle, after, by rw [parts, List.append_assoc], byteLength_append _ _⟩
  nonempty := Nat.lt_add_of_pos_right (byteLength_pos nonempty)

theorem IsIn.cover {source : List Char} {left right : Span} (first : left.IsIn source)
    (second : right.IsIn source) : (left.cover right).IsIn source where
  start := by
    rcases Nat.le_total left.start right.start with le | le
    · simpa only [Span.cover, Nat.min_eq_left le] using first.start
    · simpa only [Span.cover, Nat.min_eq_right le] using second.start
  stop := by
    rcases Nat.le_total left.stop right.stop with le | le
    · simpa only [Span.cover, Nat.max_eq_right le] using second.stop
    · simpa only [Span.cover, Nat.max_eq_left le] using first.stop
  nonempty := by
    have low : min left.start right.start ≤ left.start := Nat.min_le_left _ _
    have high : left.stop ≤ max left.stop right.stop := Nat.le_max_left _ _
    exact Nat.lt_of_le_of_lt low (Nat.lt_of_lt_of_le first.nonempty high)

end Span

/-! ## Escapes -/

/-- The bytes of a backslash and the character behind it, in a text that stands at an offset. -/
def Span.IsEscape (offset : Nat) (text : List Char) (span : Span) : Prop :=
  ∃ before letter after, text = before ++ (['\\', letter] ++ after) ∧
    span = ⟨offset + byteLength before,
      offset + byteLength before + byteLength ['\\', letter]⟩

theorem Span.IsEscape.behind {offset : Nat} {text : List Char} {span : Span} (front : List Char)
    (escape : IsEscape (offset + byteLength front) text span) :
    IsEscape offset (front ++ text) span := by
  obtain ⟨before, letter, after, rfl, rfl⟩ := escape
  refine ⟨front ++ before, letter, after, (List.append_assoc _ _ _).symm, ?_⟩
  rw [byteLength_append, Nat.add_assoc]

theorem eq_error_of_map {α β : Type} {f : α → β} {result : Except SyntaxError α}
    {error : SyntaxError} (failed : result.map f = .error error) : result = .error error := by
  cases result with
  | ok value => cases failed
  | error fault =>
      cases failed
      rfl

/-- What is wrong with a string is an escape. -/
theorem isEscape_of_unescape {offset : Nat} {text : List Char} {error : SyntaxError}
    (failed : unescape offset text = .error error) : error.span.IsEscape offset text := by
  have backslash : ('\\' : Char).utf8Size = 1 := rfl
  fun_induction unescape offset text with
  | case1 => cases failed
  | case2 => cases failed
  | case3 offset letter text stop meant isMeant inductionHypothesis =>
      have later := inductionHypothesis (eq_error_of_map failed)
      have length : stop = offset + byteLength ['\\', letter] := by
        simp only [byteLength, backslash, stop]
        omega
      rw [length] at later
      exact later.behind ['\\', letter]
  | case4 offset letter text stop unknown =>
      cases failed
      refine ⟨[], letter, text, rfl, ?_⟩
      simp only [byteLength, backslash, stop]
      congr 1
      omega
  | case5 offset character text plain inductionHypothesis =>
      have later := inductionHypothesis (eq_error_of_map failed)
      exact later.behind [character]

theorem isIn_of_readString {source before after : List Char} {token : Token} {error : SyntaxError}
    (parts : source = before ++ (token.text ++ after)) (start : token.start = byteLength before)
    (quoted : ∃ quote content, token.text = quote :: content ∧ quote.utf8Size = 1)
    (failed : readString token = .error error) : error.span.IsIn source := by
  obtain ⟨quote, content, text, size⟩ := quoted
  have wrong : unescape (token.start + 1) content.dropLast = .error error := by
    rw [readString, text, List.drop_one, List.tail_cons] at failed
    cases unescaped : unescape (token.start + 1) content.dropLast with
    | ok characters =>
        rw [unescaped] at failed
        cases failed
    | error fault =>
        rw [unescaped] at failed
        cases failed
        rfl
  obtain ⟨inner, letter, behind, inside, span⟩ := isEscape_of_unescape wrong
  obtain ⟨last, whole⟩ : ∃ last, content = content.dropLast ++ last := by
    refine ⟨content.drop (content.length - 1), ?_⟩
    rw [List.dropLast_eq_take, List.take_append_drop]
  have offset : token.start + 1 + byteLength inner = byteLength (before ++ quote :: inner) := by
    rw [byteLength_append, byteLength, size, start, Nat.add_assoc]
  rw [span, offset]
  have split : source =
      (before ++ quote :: inner) ++ (['\\', letter] ++ (behind ++ (last ++ after))) := by
    rw [parts, text, whole, inside]
    simp
  exact Span.isIn_of_append (List.cons_ne_nil _ _) split

/-! ## Tokens -/

theorem quote_of_codeToken {character : Char} {behind : List Char} {more : Nat}
    (found : codeToken character behind = .ok (.string, more)) :
    character = '"' ∨ character = '\'' := by
  cases beginsToken_of_codeToken found with
  | string quote => exact quote
  | word start isWord =>
      rcases wordKind_eq (character :: behind.takeWhile isIdentifierContinue) with
        word | ⟨keyword, word⟩
      · cases word.symm.trans isWord
      · cases word.symm.trans isWord

/-- A token whose bytes a function leaves where they are, and also the bytes of what may be wrong
with its content. -/
structure Token.IsFixed (move : Span → Span) (token : Token) : Prop where
  span : move token.span = token.span
  content : token.kind = .string → ∀ {error}, readString token = .error error →
    move error.span = error.span

/-- The tag that tokens stand in ends, or the scan fails. -/
def ClosesTag (ending : Ending) (tokens : List Token) : Prop :=
  (∃ token ∈ tokens, token.kind = .endTag) ∨ ∃ error, ending = .failed error

/-- Tokens and an ending whose bytes a function leaves where they are. No tag among them is left
open without an error. -/
structure Tagged (move : Span → Span) (ending : Ending) (tokens : List Token) : Prop where
  fixed : ∀ token ∈ tokens, token.IsFixed move
  failure : ∀ {error}, ending = .failed error → move error.span = error.span
  closes : ∀ {front token behind}, tokens = front ++ token :: behind → token.kind = .beginTag →
    ClosesTag ending behind

section Lists

variable {move : Span → Span} {ending : Ending} {token : Token} {tokens : List Token}

theorem ClosesTag.cons (closes : ClosesTag ending tokens) (token : Token) :
    ClosesTag ending (token :: tokens) := by
  rcases closes with ⟨close, member, isClose⟩ | failed
  · exact .inl ⟨close, List.mem_cons_of_mem _ member, isClose⟩
  · exact .inr failed

theorem ClosesTag.tail (closes : ClosesTag ending (token :: tokens))
    (inside : token.kind ≠ .endTag) : ClosesTag ending tokens := by
  rcases closes with ⟨close, member, isClose⟩ | failed
  · rcases List.mem_cons.1 member with rfl | later
    · exact absurd isClose inside
    · exact .inl ⟨close, later, isClose⟩
  · exact .inr failed

theorem Tagged.nil (failure : ∀ {error}, ending = .failed error → move error.span = error.span) :
    Tagged move ending [] where
  fixed := by simp
  failure := failure
  closes := by simp

theorem Tagged.cons (first : token.IsFixed move) (others : Tagged move ending tokens)
    (closes : token.kind = .beginTag → ClosesTag ending tokens) :
    Tagged move ending (token :: tokens) where
  fixed := List.forall_mem_cons.2 ⟨first, others.fixed⟩
  failure := others.failure
  closes := by
    intro front mark behind parts isMark
    cases front with
    | nil =>
        cases parts
        exact closes isMark
    | cons head front =>
        cases parts
        exact others.closes rfl isMark

theorem Tagged.tail (tagged : Tagged move ending (token :: tokens)) :
    Tagged move ending tokens where
  fixed := (List.forall_mem_cons.1 tagged.fixed).2
  failure := tagged.failure
  closes := by
    intro front mark behind parts isMark
    exact @Tagged.closes _ _ _ tagged (token :: front) _ _ (congrArg (token :: ·) parts) isMark

end Lists

/-! ## Scans -/

/-- A scan whose tokens and ending a function leaves where they are. One that begins in a tag ends
the tag, or fails. -/
structure Scanned.IsFixed (move : Span → Span) (mode : ScanMode) (scanned : Scanned) : Prop where
  tagged : Tagged move scanned.ending scanned.significant
  closes : mode ≠ .text → ClosesTag scanned.ending scanned.significant

theorem Scanned.IsFixed.cons {move : Span → Span} {mode mode' : ScanMode} {scanned : Scanned}
    {token : Token} (first : token.IsFixed move) (others : scanned.IsFixed move mode')
    (begins : token.kind = .beginTag → mode' ≠ .text)
    (stays : mode ≠ .text → token.kind = .endTag ∨ mode' ≠ .text) :
    (scanned.cons token).IsFixed move mode := by
  by_cases white : token.kind = .whitespace
  · have same : (scanned.cons token).significant = scanned.significant := by
      simp [Scanned.significant, Scanned.cons, white]
    refine ⟨same ▸ others.tagged, fun inside => ?_⟩
    rcases stays inside with close | inside'
    · rw [white] at close
      cases close
    · exact same ▸ others.closes inside'
  · have visible : (scanned.cons token).significant = token :: scanned.significant :=
      significant_cons white scanned
    have closes : mode' ≠ .text → ClosesTag scanned.ending (token :: scanned.significant) :=
      fun inside => (others.closes inside).cons token
    refine ⟨visible ▸ .cons first others.tagged fun isMark => others.closes (begins isMark),
      fun inside => ?_⟩
    rw [visible]
    rcases stays inside with close | inside'
    · exact .inl ⟨token, List.mem_cons_self, close⟩
    · exact (others.closes inside').cons token

def ScanMode.IsIn (source : List Char) : ScanMode → Prop
  | .text => True
  | .code opening => opening.IsIn source

section Scans

variable {source : List Char} {move : Span → Span}
  (fixes : ∀ {span : Span}, span.IsIn source → move span = span)

include fixes

theorem isFixed_of_append {before after : List Char} (token : Token)
    (parts : source = before ++ (token.text ++ after)) (start : byteLength before = token.start)
    (nonempty : token.text ≠ [])
    (quoted : token.kind = .string →
      ∃ quote content, token.text = quote :: content ∧ quote.utf8Size = 1) :
    token.IsFixed move where
  span := by
    have inside := Span.isIn_of_append nonempty parts
    rw [start] at inside
    exact fixes inside
  content := fun isString _ failed =>
    fixes (isIn_of_readString parts start.symm (quoted isString) failed)

theorem isFixed_scanFrom {mode : ScanMode} {offset : Nat} {before text : List Char}
    (parts : source = before ++ text) (start : byteLength before = offset)
    (inside : mode.IsIn source) : (scanFrom mode offset text).IsFixed move mode := by
  fun_induction scanFrom mode offset text generalizing before with
  | case1 => exact ⟨.nil (by simp), by simp⟩
  | case2 offset character behind unopened =>
      have whole : source = before ++ ((character :: behind) ++ []) := by
        rw [List.append_nil, parts]
      have fixed := isFixed_of_append fixes ⟨.raw, _, offset⟩ whole start
        (List.cons_ne_nil _ _) (by simp)
      exact ⟨.cons fixed (.nil (by simp)) (by simp), by simp⟩
  | case3 offset character behind raw others opened =>
      rename_i opening inductionHypothesis
      have cut : character :: behind = raw ++ (beginTag ++ others) := by
        rw [breakOn?_append opened, List.append_assoc]
      have whole : source = before ++ (raw ++ (beginTag ++ others)) := by rw [parts, cut]
      have wholeMark : source = (before ++ raw) ++ (beginTag ++ others) := by
        rw [whole, List.append_assoc]
      have wholeCode : source = (before ++ (raw ++ beginTag)) ++ others := by
        rw [whole, List.append_assoc, List.append_assoc]
      have startMark : byteLength (before ++ raw) = offset + byteLength raw := by
        rw [byteLength_append, start]
      have startCode : byteLength (before ++ (raw ++ beginTag)) = opening.span.stop := by
        rw [byteLength_append, byteLength_append, start, ← Nat.add_assoc]
        rfl
      have mark : opening.IsFixed move :=
        isFixed_of_append fixes opening wholeMark startMark (List.cons_ne_nil _ _)
          (by simp [opening])
      have insideMark : opening.span.IsIn source := by
        have bytes := Span.isIn_of_append (List.cons_ne_nil _ _) wholeMark
        rw [startMark] at bytes
        exact bytes
      have later := inductionHypothesis wholeCode startCode insideMark
      have marked : (Scanned.cons opening _).IsFixed move .text :=
        .cons mark later (by simp) (by simp)
      rw [Scanned.consNonempty]
      split
      next => exact marked
      next nonempty =>
        have fixed := isFixed_of_append fixes ⟨.raw, raw, offset⟩ whole start nonempty (by simp)
        exact .cons fixed marked (by simp) (by simp)
  | case4 offset opening =>
      exact ⟨.nil fun failed => by cases failed; exact fixes inside, fun _ => .inr ⟨_, rfl⟩⟩
  | case5 offset opening character behind others closed =>
      rename_i token inductionHypothesis
      have whole : source = before ++ (endTag ++ others) := by
        rw [parts, stripInitial?_eq_some_iff.1 closed]
      have wholeText : source = (before ++ endTag) ++ others := by
        rw [whole, List.append_assoc]
      have startText : byteLength (before ++ endTag) = token.span.stop := by
        rw [byteLength_append, start]
        rfl
      have mark : token.IsFixed move :=
        isFixed_of_append fixes token whole start (List.cons_ne_nil _ _) (by simp [token])
      exact .cons mark (inductionHypothesis wholeText startText trivial) (by simp [token])
        fun _ => .inl rfl
  | case6 offset opening character behind notClosed fault fails =>
      refine ⟨.nil fun failed => ?_, fun _ => .inr ⟨_, rfl⟩⟩
      cases failed
      refine fixes ?_
      dsimp only
      rw [faultSpan]
      split
      · have bytes := Span.isIn_of_append (List.cons_ne_nil character []) parts
        rw [start] at bytes
        exact bytes
      · have whole : source = before ++ ((character :: behind) ++ []) := by
          rw [List.append_nil, parts]
        have bytes := Span.isIn_of_append (List.cons_ne_nil character behind) whole
        rw [start] at bytes
        exact bytes
  | case7 offset opening character behind notClosed kind more found =>
      rename_i token inductionHypothesis
      have whole : source = before ++ ((character :: behind.take more) ++ behind.drop more) := by
        rw [parts, List.cons_append, List.take_append_drop]
      have wholeCode :
          source = (before ++ (character :: behind.take more)) ++ behind.drop more := by
        rw [whole, List.append_assoc]
      have startCode :
          byteLength (before ++ (character :: behind.take more)) = token.span.stop := by
        rw [byteLength_append, start]
        rfl
      have fixed : token.IsFixed move := by
        refine isFixed_of_append fixes token whole start (List.cons_ne_nil _ _) fun isString => ?_
        refine ⟨character, behind.take more, rfl, ?_⟩
        obtain rfl : kind = .string := isString
        rcases quote_of_codeToken found with rfl | rfl <;> rfl
      exact .cons fixed (inductionHypothesis wholeCode startCode inside) (by simp)
        fun _ => .inr (by simp)

/-- The tokens of a fragment begin and end between characters, and its tags end. -/
theorem tagged_scan : Tagged move (scan source).ending (scan source).significant := by
  have fixed : (scanFrom .text 0 source).IsFixed move .text :=
    isFixed_scanFrom fixes (List.nil_append source).symm rfl trivial
  exact fixed.tagged

end Scans

end ViewTemplate.Fragment
