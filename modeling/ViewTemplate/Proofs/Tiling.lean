import Mathlib.Data.List.Chain
import Mathlib.Data.List.Induction
import ViewTemplate.Proofs.ArgumentTokens
import ViewTemplate.Proofs.Boundaries

/-!
How the tokens of a fragment lie in it. They stand one behind the other from its beginning on, at
most one for each byte; text is never cut inside a tag nor code outside of one; and the scan comes
to the end of the fragment exactly if it leaves no tag open (`tiles_scan`).

One token is cut off at a time (`cuts_of_scanFrom`), and what holds behind the tokens in front of it
decides in which mode.
-/

namespace ViewTemplate

theorem Text.splitAtByte_byteLength (before after : List Char) :
    splitAtByte (byteLength before) (before ++ after) = (before, after) := by
  induction before with
  | nil =>
      cases after with
      | nil => rfl
      | cons character after => simp [splitAtByte, byteLength]
  | cons character before inductionHypothesis =>
      have positive : character.utf8Size ≠ 0 := Nat.ne_of_gt character.utf8Size_pos
      rw [List.cons_append, splitAtByte, byteLength, if_neg (by omega), Nat.add_sub_cancel_left,
        inductionHypothesis]

namespace Fragment

open Text

/-! ## Closing marks in tokens of code -/

theorem not_endTag_infix_of_not_mem {text : List Char} (absent : '%' ∉ text) :
    ¬ endTag <:+: text := by
  rintro ⟨before, after, rfl⟩
  exact absent (by simp [endTag])

theorem not_endTag_infix_of_property {p : Char → Bool} {text : List Char}
    (holds : ∀ character ∈ text, p character = true) (fails : p '%' = false) :
    ¬ endTag <:+: text := by
  refine not_endTag_infix_of_not_mem fun member => ?_
  rw [holds '%' member] at fails
  cases fails

theorem take_length_takeWhile (property : Char → Bool) (text : List Char) :
    text.take (text.takeWhile property).length = text.takeWhile property :=
  (List.prefix_iff_eq_take.1 (List.takeWhile_prefix property)).symm

/-- A line comment stops in front of a closing mark. -/
theorem not_endTag_infix_lineComment (text : List Char) :
    ¬ endTag <:+: text.take (lineCommentLength text) := by
  fun_induction lineCommentLength text with
  | case1 => simp [endTag]
  | case2 => simp [endTag]
  | case3 => simp [endTag]
  | case4 character text notBreak notEnd inductionHypothesis =>
      rw [List.take_succ_cons]
      intro inside
      rcases List.infix_cons_iff.1 inside with ⟨behind, here⟩ | later
      · cases text with
        | nil => simp [endTag] at here
        | cons next others =>
            cases length : lineCommentLength (next :: others) with
            | zero => simp [endTag, length] at here
            | succ count =>
                rw [length, List.take_succ_cons] at here
                obtain ⟨rfl, rest⟩ := List.cons.inj here
                obtain ⟨rfl, -⟩ := List.cons.inj rest
                exact notEnd others rfl rfl
      · exact inductionHypothesis later

theorem not_endTag_infix_symbol {character : Char} {behind : List Char} {symbol : Symbol}
    {more : Nat} (found : symbolOf? character behind.head? = some (symbol, more)) :
    ¬ endTag <:+: character :: behind.take more := by
  have noSymbol : symbol.text ≠ endTag := by cases symbol <;> decide
  intro inside
  rcases text_of_symbolOf? found with ⟨rfl, -⟩ | ⟨rfl, other, next, text⟩
  · exact absurd inside.length_le (by simp [endTag])
  · cases behind with
    | nil => cases next
    | cons second others =>
        cases next
        exact noSymbol (text.trans (inside.eq_of_length rfl).symm)

theorem not_endTag_infix_cons {character : Char} {behind : List Char} (other : character ≠ '%')
    (absent : ¬ endTag <:+: behind) : ¬ endTag <:+: character :: behind := by
  intro inside
  rcases List.infix_cons_iff.1 inside with ⟨rest, here⟩ | later
  · exact other (List.cons.inj here).1.symm
  · exact absent later

/-- A comment runs to the end of its line, or it begins a block. -/
theorem comment_of_codeToken {character : Char} {behind : List Char} {more : Nat}
    (slash : character = '/') (found : codeToken character behind = .ok (.comment, more)) :
    more = lineCommentLength behind ∨ ['/', '*'] <+: character :: behind.take more := by
  unfold codeToken at found
  split at found
  next =>
    cases found
    exact .inl rfl
  next inner =>
    split at found
    next content rest closed =>
      cases found
      exact .inr ⟨inner.take (content.length + 2), rfl⟩
    next => cases found
  next =>
    have symbol : symbolOf? '/' behind.head? = some (.slash, 0) := by simp [symbolOf?]
    rw [slash, symbol] at found
    cases found

/-- The text of a token that is neither a string nor a block comment. -/
theorem not_endTag_infix_of_codeToken {character : Char} {behind : List Char} {kind : TokenKind}
    {more : Nat} (found : codeToken character behind = .ok (kind, more))
    (notString : kind ≠ .string) (notBlock : ¬ ['/', '*'] <+: character :: behind.take more) :
    ¬ endTag <:+: character :: behind.take more := by
  cases beginsToken_of_codeToken found with
  | comment slash =>
      rcases comment_of_codeToken slash found with rfl | block
      · subst slash
        exact not_endTag_infix_cons (by decide) (not_endTag_infix_lineComment behind)
      · exact absurd block notBlock
  | symbol isSymbol => exact not_endTag_infix_symbol isSymbol
  | string quote closed => exact absurd rfl notString
  | number digit =>
      obtain ⟨part, others, rfl, length, digits⟩ := exists_part_of_number behind
      have first : isNumeral character = true := by simp [isNumeral, isNumberCharacter, digit]
      rw [← length, List.take_left]
      exact not_endTag_infix_of_property (List.forall_mem_cons.2 ⟨first, digits⟩) (by decide)
  | whitespace white =>
      rw [take_length_takeWhile]
      refine not_endTag_infix_of_property (p := isSpace) ?_ (by decide)
      exact List.forall_mem_cons.2 ⟨white, List.all_eq_true.1 List.all_takeWhile⟩
  | word start isWord =>
      rw [take_length_takeWhile]
      refine not_endTag_infix_of_property (p := isIdentifierContinue) ?_ (by decide)
      exact List.forall_mem_cons.2 ⟨isIdentifierContinue_of_isIdentifierStart start,
        List.all_eq_true.1 List.all_takeWhile⟩

theorem isCode_of_codeToken {character : Char} {behind : List Char} {kind : TokenKind} {more : Nat}
    (found : codeToken character behind = .ok (kind, more)) : kind.IsCode := by
  cases beginsToken_of_codeToken found with
  | comment | symbol | string | number | whitespace => simp [TokenKind.IsCode]
  | word start isWord =>
      rcases wordKind_eq (character :: behind.takeWhile isIdentifierContinue) with
        word | ⟨keyword, word⟩
      all_goals
        rw [← isWord, word]
        simp [TokenKind.IsCode]

/-! ## One token -/

/-- What is cut off a text that stands at an offset: the token, the text that is left, and the mode
in which the scan goes on. -/
inductive Cuts (offset : Nat) : ScanMode → Token → List Char → ScanMode → Prop where
  | raw {text rest : List Char} (nonempty : text ≠ []) (plain : ¬ beginTag <:+: text)
      (follows : rest = [] ∨ beginTag <+: rest) :
      Cuts offset .text ⟨.raw, text, offset⟩ rest .text
  | beginTag {rest : List Char} (opening : Span) :
      Cuts offset .text ⟨.beginTag, beginTag, offset⟩ rest (.code opening)
  | endTag {rest : List Char} (opening : Span) :
      Cuts offset (.code opening) ⟨.endTag, endTag, offset⟩ rest .text
  | code {kind : TokenKind} {text rest : List Char} (opening : Span) (isCode : kind.IsCode)
      (nonempty : text ≠ [])
      (noEnd : kind ≠ .string → ¬ ['/', '*'] <+: text → ¬ endTag <:+: text) :
      Cuts offset (.code opening) ⟨kind, text, offset⟩ rest (.code opening)

/-- How a scan begins: it is at the end of the fragment, or something is wrong inside a tag, or a
token is cut off and the scan goes on behind it. -/
inductive Begins (mode : ScanMode) (offset : Nat) (text : List Char) : Scanned → Prop where
  | complete (outside : mode = .text) (nothing : text = []) :
      Begins mode offset text ⟨[], .complete offset⟩
  | failed (inside : mode ≠ .text) (error : SyntaxError) :
      Begins mode offset text ⟨[], .failed error⟩
  | cut {token : Token} {rest : List Char} {mode' : ScanMode} (parts : text = token.text ++ rest)
      (cuts : Cuts offset mode token rest mode') :
      Begins mode offset text ((scanFrom mode' token.span.stop rest).cons token)

theorem begins_scanFrom (mode : ScanMode) (offset : Nat) (text : List Char) :
    Begins mode offset text (scanFrom mode offset text) := by
  fun_cases scanFrom mode offset text with
  | case1 => exact .complete rfl rfl
  | case2 character behind unopened token =>
      have whole : character :: behind = token.text ++ [] := (List.append_nil _).symm
      have cut := Begins.cut whole <|
        .raw (List.cons_ne_nil _ _) (not_infix_of_breakOn?_eq_none unopened) (.inl rfl)
      rw [scanFrom] at cut
      exact cut
  | case3 character behind before rest opened opening =>
      have parts : character :: behind = before ++ (beginTag ++ rest) := by
        rw [breakOn?_append opened, List.append_assoc]
      rw [Scanned.consNonempty]
      split
      next empty =>
        obtain rfl : before = [] := empty
        exact .cut parts (.beginTag opening.span)
      next nonempty =>
        have cuts : Cuts offset .text ⟨.raw, before, offset⟩ (beginTag ++ rest) .text :=
          .raw nonempty (not_infix_of_breakOn? opened) (.inr (List.prefix_append _ _))
        have cut := Begins.cut parts cuts
        rw [scanFrom_text_beginTag] at cut
        exact cut
  | case4 opening => exact .failed (by simp) _
  | case5 opening character behind rest closed token =>
      have parts : character :: behind = endTag ++ rest := stripInitial?_eq_some_iff.1 closed
      exact .cut parts (.endTag opening)
  | case6 opening => exact .failed (by simp) _
  | case7 opening character behind notClosed kind more found token =>
      have parts : character :: behind = character :: behind.take more ++ behind.drop more := by
        rw [List.cons_append, List.take_append_drop]
      exact .cut parts <|
        .code opening (isCode_of_codeToken found) (List.cons_ne_nil _ _)
          (not_endTag_infix_of_codeToken found)

theorem cuts_of_scanFrom {mode : ScanMode} {offset : Nat} {text : List Char} {token : Token}
    {tokens : List Token} {ending : Ending}
    (scanned : scanFrom mode offset text = ⟨token :: tokens, ending⟩) :
    ∃ rest mode', text = token.text ++ rest ∧ Cuts offset mode token rest mode' ∧
      scanFrom mode' token.span.stop rest = ⟨tokens, ending⟩ := by
  have begins := begins_scanFrom mode offset text
  rw [scanned] at begins
  generalize result : Scanned.mk (token :: tokens) ending = cut at begins
  cases begins with
  | complete | failed => cases result
  | cut parts cuts =>
      cases result
      exact ⟨_, _, parts, cuts, rfl⟩

theorem Cuts.nonempty {mode mode' : ScanMode} {offset : Nat} {token : Token} {rest : List Char}
    (cuts : Cuts offset mode token rest mode') : token.text ≠ [] := by
  cases cuts with
  | raw nonempty => exact nonempty
  | beginTag | endTag => exact List.cons_ne_nil _ _
  | code opening isCode nonempty => exact nonempty

theorem Cuts.start_eq {mode mode' : ScanMode} {offset : Nat} {token : Token} {rest : List Char}
    (cuts : Cuts offset mode token rest mode') : token.start = offset := by
  cases cuts <;> rfl

/-! ## All tokens -/

/-- The text that tokens make up. -/
def textOf (tokens : List Token) : List Char :=
  tokens.flatMap Token.text

theorem textOf_append (first second : List Token) :
    textOf (first ++ second) = textOf first ++ textOf second :=
  List.flatMap_append

theorem textOf_singleton (token : Token) : textOf [token] = token.text :=
  List.append_nil _

theorem length_le_byteLength_textOf {tokens : List Token}
    (nonempty : ∀ token ∈ tokens, token.text ≠ []) :
    tokens.length ≤ byteLength (textOf tokens) := by
  induction tokens with
  | nil => exact Nat.le_refl 0
  | cons token tokens inductionHypothesis =>
      obtain ⟨first, others⟩ := List.forall_mem_cons.1 nonempty
      have size := byteLength_pos first
      have rest := inductionHypothesis others
      have whole : byteLength (textOf (token :: tokens)) =
          byteLength token.text + byteLength (textOf tokens) := byteLength_append _ _
      rw [List.length_cons, whole]
      omega

/-- A tag is open behind tokens: one has begun that has not ended since. -/
def IsOpen (tokens : List Token) : Prop :=
  ∃ outer mark inner, tokens = outer ++ mark :: inner ∧ mark.kind = .beginTag ∧
    ∀ token ∈ inner, token.kind ≠ .endTag

section Open

variable {front : List Token} {token : Token}

theorem not_isOpen_nil : ¬ IsOpen [] := by
  rintro ⟨outer, mark, inner, parts, -⟩
  cases outer <;> cases parts

theorem isOpen_append_beginTag (isMark : token.kind = .beginTag) : IsOpen (front ++ [token]) :=
  ⟨front, token, [], rfl, isMark, by simp⟩

theorem isOpen_append_iff (notMark : token.kind ≠ .beginTag) :
    IsOpen (front ++ [token]) ↔ token.kind ≠ .endTag ∧ IsOpen front := by
  constructor
  · rintro ⟨outer, mark, inner, parts, isMark, unclosed⟩
    rcases List.eq_nil_or_concat inner with rfl | ⟨others, last, rfl⟩
    · obtain ⟨-, same⟩ := List.append_inj' parts rfl
      cases same
      exact absurd isMark notMark
    · rw [List.concat_eq_append, ← List.cons_append, ← List.append_assoc] at parts
      obtain ⟨rfl, same⟩ := List.append_inj' parts rfl
      cases same
      rw [List.concat_eq_append, List.forall_mem_append] at unclosed
      exact ⟨unclosed.2 token List.mem_cons_self, outer, mark, others, rfl, isMark, unclosed.1⟩
  · rintro ⟨notEnd, outer, mark, inner, rfl, isMark, unclosed⟩
    refine ⟨outer, mark, inner ++ [token], by simp, isMark, ?_⟩
    exact List.forall_mem_append.2 ⟨unclosed, List.forall_mem_singleton.2 notEnd⟩

/-- A tag is open behind tokens exactly if the scan goes on inside a tag. -/
theorem Cuts.isOpen_iff {offset : Nat} {mode mode' : ScanMode} {rest : List Char}
    (cuts : Cuts offset mode token rest mode') (inFront : IsOpen front ↔ mode ≠ .text) :
    IsOpen (front ++ [token]) ↔ mode' ≠ .text := by
  cases cuts with
  | raw =>
      rw [isOpen_append_iff (by simp), inFront]
      simp
  | beginTag opening => exact iff_of_true (isOpen_append_beginTag rfl) (by simp)
  | endTag opening =>
      rw [isOpen_append_iff (by simp)]
      simp
  | code opening isCode =>
      rw [isOpen_append_iff isCode.2.1, inFront]
      simp [isCode.2.2]

end Open

/-- What kind of token can stand between other tokens. -/
inductive Token.Fits (front behind : List Token) (ending : Ending) (token : Token) : Prop where
  | raw (isRaw : token.kind = .raw) (outside : ¬ IsOpen front) (plain : ¬ beginTag <:+: token.text)
      (follows : (∃ mark others, behind = mark :: others ∧ mark.kind = .beginTag) ∨
        behind = [] ∧ ∃ length, ending = .complete length)
  | beginTag (isMark : token.kind = .beginTag) (text : token.text = beginTag)
      (outside : ¬ IsOpen front)
  | endTag (isMark : token.kind = .endTag) (text : token.text = endTag) (inside : IsOpen front)
  | code (isCode : token.kind.IsCode) (inside : IsOpen front)
      (noEnd : token.kind ≠ .string → ¬ ['/', '*'] <+: token.text → ¬ endTag <:+: token.text)

/-- How the tokens of a scan lie in its source. -/
structure Scanned.Tiles (source : List Char) (scanned : Scanned) : Prop where
  /-- The scan ends after one token a byte at the latest. -/
  count : scanned.tokens.length ≤ byteLength source
  first : ∀ token ∈ scanned.tokens.head?, token.start = 0
  adjacent : scanned.tokens.IsChain fun token next => next.start = token.span.stop
  inside : ∀ token ∈ scanned.tokens, token.span.IsIn source
  text : ∀ token ∈ scanned.tokens,
    byteSlice token.span.start token.span.stop source = token.text
  fits : ∀ {front token behind}, scanned.tokens = front ++ token :: behind →
    token.Fits front behind scanned.ending
  /-- A scan that comes to the end has covered the source and closed all tags. -/
  complete : ∀ {length}, scanned.ending = .complete length →
    textOf scanned.tokens = source ∧ length = byteLength source ∧ ¬ IsOpen scanned.tokens
  failed : ∀ {error}, scanned.ending = .failed error → IsOpen scanned.tokens

section Runs

variable {source : List Char} {front tokens : List Token} {token : Token} {ending : Ending}

/-- The scan can be taken up behind any of its tokens. -/
theorem exists_scanFrom_behind (scanned : scan source = ⟨front ++ tokens, ending⟩) :
    ∃ mode rest, source = textOf front ++ rest ∧ (IsOpen front ↔ mode ≠ .text) ∧
      scanFrom mode (byteLength (textOf front)) rest = ⟨tokens, ending⟩ := by
  induction front using List.reverseRecOn generalizing tokens with
  | nil => exact ⟨.text, source, rfl, iff_of_false not_isOpen_nil (by simp), scanned⟩
  | append_singleton front token inductionHypothesis =>
      rw [List.append_assoc] at scanned
      obtain ⟨mode, text, whole, isOpen, further⟩ := inductionHypothesis scanned
      obtain ⟨rest, mode', parts, cuts, later⟩ := cuts_of_scanFrom further
      have stop : token.span.stop = byteLength (textOf (front ++ [token])) := by
        rw [textOf_append, textOf_singleton, byteLength_append, ← cuts.start_eq]
        rfl
      refine ⟨mode', rest, ?_, cuts.isOpen_iff isOpen, stop ▸ later⟩
      rw [whole, parts, textOf_append, textOf_singleton, List.append_assoc]

theorem fits_of_cuts {mode mode' : ScanMode} {offset : Nat} {rest : List Char}
    {behind : List Token} (isOpen : IsOpen front ↔ mode ≠ .text)
    (cuts : Cuts offset mode token rest mode')
    (later : scanFrom mode' token.span.stop rest = ⟨behind, ending⟩) :
    token.Fits front behind ending := by
  cases cuts with
  | raw nonempty plain follows =>
      refine .raw rfl (by simp [isOpen]) plain ?_
      rcases follows with rfl | ⟨others, rfl⟩
      · rw [scanFrom] at later
        cases later
        exact .inr ⟨rfl, _, rfl⟩
      · rw [scanFrom_text_beginTag] at later
        cases later
        exact .inl ⟨_, _, rfl, rfl⟩
  | beginTag opening => exact .beginTag rfl rfl (by simp [isOpen])
  | endTag opening => exact .endTag rfl rfl (by simp [isOpen])
  | code opening isCode nonempty noEnd => exact .code isCode (by simp [isOpen]) noEnd

/-- Where a token of a scan stands in the source. -/
structure Token.IsPlaced (source : List Char) (front behind : List Token) (ending : Ending)
    (token : Token) : Prop where
  start : token.start = byteLength (textOf front)
  nonempty : token.text ≠ []
  parts : ∃ rest, source = textOf front ++ (token.text ++ rest)
  fits : token.Fits front behind ending

theorem isPlaced_of_scan {behind : List Token}
    (scanned : scan source = ⟨front ++ token :: behind, ending⟩) :
    token.IsPlaced source front behind ending := by
  obtain ⟨mode, text, whole, isOpen, further⟩ := exists_scanFrom_behind scanned
  obtain ⟨rest, mode', parts, cuts, later⟩ := cuts_of_scanFrom further
  exact ⟨cuts.start_eq, cuts.nonempty, ⟨rest, parts ▸ whole⟩, fits_of_cuts isOpen cuts later⟩

theorem ended_of_scan (scanned : scan source = ⟨tokens, ending⟩) :
    (¬ IsOpen tokens ∧ textOf tokens = source ∧ ending = .complete (byteLength source)) ∨
      IsOpen tokens ∧ ∃ error, ending = .failed error := by
  rw [← List.append_nil tokens] at scanned
  obtain ⟨mode, rest, whole, isOpen, further⟩ := exists_scanFrom_behind scanned
  have begins := begins_scanFrom mode (byteLength (textOf tokens)) rest
  rw [further] at begins
  generalize result : Scanned.mk [] ending = last at begins
  cases begins with
  | complete outside nothing =>
      cases result
      subst nothing outside
      rw [List.append_nil] at whole
      exact .inl ⟨by simp [isOpen], whole.symm, by rw [whole]⟩
  | failed inside error =>
      cases result
      exact .inr ⟨isOpen.2 inside, error, rfl⟩
  | cut => cases result

theorem Token.IsPlaced.isIn {behind : List Token}
    (placed : token.IsPlaced source front behind ending) : token.span.IsIn source := by
  obtain ⟨rest, parts⟩ := placed.parts
  have bytes := Span.isIn_of_append placed.nonempty parts
  rwa [← placed.start] at bytes

theorem Token.IsPlaced.byteSlice {behind : List Token}
    (placed : token.IsPlaced source front behind ending) :
    byteSlice token.span.start token.span.stop source = token.text := by
  obtain ⟨rest, parts⟩ := placed.parts
  have size : token.span.stop - token.span.start = byteLength token.text :=
    Nat.add_sub_cancel_left ..
  have start : token.span.start = byteLength (textOf front) := placed.start
  rw [Text.byteSlice, size, start, parts, splitAtByte_byteLength, splitAtByte_byteLength]

end Runs

/-- The tokens of every scan cover its source without a gap. -/
theorem tiles_scan (source : List Char) : (scan source).Tiles source := by
  generalize scanned : scan source = result
  obtain ⟨tokens, ending⟩ := result
  have placed : ∀ {front token behind}, tokens = front ++ token :: behind →
      token.IsPlaced source front behind ending := by
    rintro front token behind rfl
    exact isPlaced_of_scan scanned
  have member : ∀ token ∈ tokens, ∃ front behind, token.IsPlaced source front behind ending := by
    intro token member
    obtain ⟨front, behind, parts⟩ := List.append_of_mem member
    exact ⟨front, behind, placed parts⟩
  have covered : textOf tokens <+: source := by
    rw [← List.append_nil tokens] at scanned
    obtain ⟨mode, rest, whole, -⟩ := exists_scanFrom_behind scanned
    exact ⟨rest, whole.symm⟩
  have ended := ended_of_scan scanned
  refine
    { count := ?_, first := ?_, adjacent := ?_, inside := ?_, text := ?_, fits := ?_,
      complete := ?_, failed := ?_ }
  · obtain ⟨rest, whole⟩ := covered
    have nonempty : ∀ token ∈ tokens, token.text ≠ [] := fun token isToken => by
      obtain ⟨front, behind, placed⟩ := member token isToken
      exact placed.nonempty
    have bytes := length_le_byteLength_textOf nonempty
    rw [← whole, byteLength_append]
    exact Nat.le_add_right_of_le bytes
  · intro token isFirst
    obtain ⟨behind, rfl⟩ := List.head?_eq_some_iff.1 isFirst
    exact (placed (List.nil_append _).symm).start
  · rw [List.isChain_iff_forall_rel_of_append_cons_cons]
    rintro token next front behind parts
    have start := (placed parts).start
    have further : tokens = (front ++ [token]) ++ next :: behind := by
      rw [List.append_assoc]
      exact parts
    rw [(placed further).start, textOf_append, textOf_singleton, byteLength_append, ← start]
    rfl
  · intro token isToken
    obtain ⟨front, behind, placed⟩ := member token isToken
    exact placed.isIn
  · intro token isToken
    obtain ⟨front, behind, placed⟩ := member token isToken
    exact placed.byteSlice
  · intro front token behind parts
    exact (placed parts).fits
  · rintro length rfl
    rcases ended with ⟨closed, whole, complete⟩ | ⟨_, error, failed⟩
    · cases complete
      exact ⟨whole, rfl, closed⟩
    · cases failed
  · rintro error rfl
    rcases ended with ⟨_, _, complete⟩ | ⟨inside, _⟩
    · cases complete
    · exact inside

end Fragment
end ViewTemplate
