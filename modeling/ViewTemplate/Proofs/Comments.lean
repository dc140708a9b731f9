import Mathlib
import ViewTemplate.Proofs.DisplacedPrograms
import ViewTemplate.Proofs.Printing

/-!
Comments between the tokens of code. Every reader stops at a comment as it stops at the end of a
tag, so that a comment is read as the end of the tag and the beginning of another one
(`parse_comment_iff_parse_tags`), and as nothing where the tag ends anyway
(`parse_comment_iff_parse_spaces`).
-/

namespace ViewTemplate.Fragment

open ViewTemplate.Text

/-! ## Other tokens where reading stops -/

/-- Tokens inside a tag at which every reader stops: a comment or the end of the tag comes first. -/
def StopsInTag (tokens : List Token) : Prop :=
  ∃ mark rest, tokens = mark :: rest ∧ (mark.kind = .comment ∨ mark.kind = .endTag)

section Exchange

variable {ending : Ending} {old new : List Token}

theorem StopsInTag.halts (stops : StopsInTag old) : Halts ending old := by
  obtain ⟨mark, rest, rfl, comment | close⟩ := stops
  · exact .mark (by rw [comment]; rfl)
  · exact .mark (by rw [close]; rfl)

/-- Outside of tags they are an error. -/
theorem StopsInTag.ending_ne_complete (stops : StopsInTag old) (length : Nat) :
    (readClauses ending false old).ending ≠ .complete length := by
  obtain ⟨mark, rest, rfl, comment | close⟩ := stops
  · rw [readClauses, comment]
    simp
  · rw [readClauses, close]
    simp

/-- Tokens inside a tag at which reading stops may be replaced by others that go on with the same
clauses. -/
theorem readClauses_exchange (stops : StopsInTag old) (stops' : StopsInTag new)
    (same : readClauses ending true new = readClauses ending true old) {inTag : Bool}
    {front : List Token} {length : Nat}
    (complete : (readClauses ending inTag (front ++ old)).ending = .complete length) :
    readClauses ending inTag (front ++ new) = readClauses ending inTag (front ++ old) := by
  have matched := matches_append 0 old new front
  rw [Token.later_zero, List.map_id] at matched
  obtain ⟨inTag', clauses, here, there⟩ :=
    sameFront_readClauses ⟨stops.halts, stops'.halts⟩ matched complete
  rw [Span.later_zero, PlacedClause.mapSpans_id, List.map_id] at there
  cases inTag' with
  | false =>
      rw [here] at complete
      exact absurd complete (stops.ending_ne_complete length)
  | true => rw [there, same, here]

end Exchange

/-! ## White space -/

/-- What readers see of a scan: all tokens but white space, and how it ended. -/
def Scanned.trimmed (scanned : Scanned) : Scanned :=
  ⟨scanned.significant, scanned.ending⟩

theorem Scanned.trimmed_cons {token : Token} (visible : token.kind ≠ .whitespace)
    (scanned : Scanned) : (scanned.cons token).trimmed = scanned.trimmed.cons token := by
  rw [trimmed, significant_cons visible]
  rfl

theorem Scanned.trimmed_cons_whitespace {token : Token} (white : token.kind = .whitespace)
    (scanned : Scanned) : (scanned.cons token).trimmed = scanned.trimmed := by
  simp [trimmed, significant, cons, white]

theorem codeToken_of_isSpace {character : Char} (white : isSpace character = true)
    (behind : List Char) :
    codeToken character behind = .ok (.whitespace, (behind.takeWhile isSpace).length) := by
  have noSymbol : character ∉ symbolCharacters := not_mem_of_property white (by decide)
  have noDigit := isDigit_eq_false_of_property white (by decide)
  have noQuote : character ≠ '"' ∧ character ≠ '\'' :=
    ⟨ne_of_property white (by decide), ne_of_property white (by decide)⟩
  rw [codeToken_of_plain noSymbol noQuote, noDigit, white]
  rfl

theorem isSpace_of_codeToken {character : Char} {behind : List Char} {more : Nat}
    (token : codeToken character behind = .ok (.whitespace, more)) :
    isSpace character = true ∧ more = (behind.takeWhile isSpace).length := by
  cases beginsToken_of_codeToken token with
  | whitespace space => exact ⟨space, rfl⟩
  | word start isWord =>
      rcases wordKind_eq (character :: behind.takeWhile isIdentifierContinue) with
        word | ⟨keyword, word⟩
      · cases word.symm.trans isWord
      · cases word.symm.trans isWord

section Blanks

variable {blanks : List Char} (white : blanks.all isSpace = true) (opening : Span) (offset : Nat)

include white

/-- White space in front of other code is one token. -/
theorem trimmed_scanFrom_spaces {text : List Char} (visible : text.takeWhile isSpace = []) :
    (scanFrom (.code opening) offset (blanks ++ text)).trimmed =
      (scanFrom (.code opening) (offset + byteLength blanks) text).trimmed := by
  cases blanks with
  | nil => rfl
  | cons character others =>
      rw [List.all_cons, Bool.and_eq_true] at white
      have noEnd : stripInitial? endTag (character :: (others ++ text)) = none :=
        stripInitial?_endTag_of_ne (ne_of_property white.1 (by decide))
      have token := codeToken_of_isSpace white.1 (others ++ text)
      rw [List.takeWhile_append_of_pos (List.all_eq_true.1 white.2), visible,
        List.append_nil] at token
      rw [List.cons_append, scanFrom_code noEnd token, List.take_left, List.drop_left,
        Scanned.trimmed_cons_whitespace rfl]

/-- Readers do not see how much white space there is. -/
theorem trimmed_scanFrom_blanks (text : List Char) :
    (scanFrom (.code opening) offset (blanks ++ text)).trimmed =
      (scanFrom (.code opening) (offset + byteLength blanks) text).trimmed := by
  have visible : (text.dropWhile isSpace).takeWhile isSpace = [] := by
    have first := List.head?_dropWhile_not isSpace text
    cases behind : text.dropWhile isSpace with
    | nil => rfl
    | cons character others =>
        rw [behind] at first
        exact List.takeWhile_cons_of_neg (by simpa using first)
  have spaces : (text.takeWhile isSpace).all isSpace = true := List.all_takeWhile
  have all : (blanks ++ text.takeWhile isSpace).all isSpace = true := by
    rw [List.all_append, white, spaces]
    rfl
  have before := trimmed_scanFrom_spaces all opening offset visible
  have behind := trimmed_scanFrom_spaces spaces opening (offset + byteLength blanks) visible
  rw [List.append_assoc, List.takeWhile_append_dropWhile, byteLength_append,
    ← Nat.add_assoc] at before
  rw [List.takeWhile_append_dropWhile] at behind
  exact before.trans behind.symm

end Blanks

theorem all_isSpace_spaces (count : Nat) : (List.replicate count ' ').all isSpace = true := by
  rw [List.all_replicate]
  split <;> rfl

theorem byteLength_spaces (count : Nat) : byteLength (List.replicate count ' ') = count := by
  induction count with
  | zero => rfl
  | succ count inductionHypothesis =>
      rw [List.replicate_succ, byteLength, inductionHypothesis, Nat.add_comm]
      rfl

/-! ## Code cut off -/

/-- Where a tag opened matters only to a tag that is never closed. -/
theorem scanFrom_code_opening {opening : Span} {offset length : Nat} {text : List Char}
    (complete : (scanFrom (.code opening) offset text).ending = .complete length)
    (opening' : Span) :
    scanFrom (.code opening') offset text = scanFrom (.code opening) offset text := by
  generalize code : ScanMode.code opening = mode at *
  fun_induction scanFrom mode offset text with
  | case1 => cases code
  | case2 => cases code
  | case3 => cases code
  | case4 => cases complete
  | case5 offset opening character behind others closed token =>
      rw [stripInitial?_eq_some_iff.1 closed]
      exact scanFrom_code_endTag opening' offset others
  | case6 => cases complete
  | case7 offset opening character behind notClosed kind more found token inductionHypothesis =>
      rw [scanFrom_code notClosed found]
      exact congrArg (Scanned.cons _) (inductionHypothesis code complete)

theorem codeToken_ne_unclosedTag (character : Char) (behind : List Char) :
    codeToken character behind ≠ .error .unclosedTag := by
  intro fails
  unfold codeToken at fails
  split at fails
  next => cases fails
  next => split at fails <;> cases fails
  next =>
    split at fails
    next => cases fails
    next =>
      split at fails
      next => split at fails <;> cases fails
      next => repeat' (split at fails <;> try cases fails)

theorem mem_getLast?_cons {first last : Token} {tokens : List Token}
    (isLast : last ∈ tokens.getLast?) : last ∈ (first :: tokens).getLast? := by
  rw [List.getLast?_cons, Option.mem_def.1 isLast]
  rfl

theorem Scanned.trimmed_cons_of_eq {scanned scanned' behind : Scanned}
    (same : scanned'.trimmed = behind.prepend scanned.significant) (token : Token) :
    (scanned'.cons token).trimmed = behind.prepend (scanned.cons token).significant := by
  by_cases white : token.kind = .whitespace
  · rw [trimmed_cons_whitespace white, same]
    simp [significant, cons, white]
  · rw [trimmed_cons white, same, significant_cons white]
    rfl

/-- A text that ends inside a code tag behind white space, if behind any token at all, is cut into
the same tokens in front of other code. -/
theorem trimmed_scanFrom_append {mode : ScanMode} {opening : Span} {offset : Nat}
    {text : List Char}
    (unclosed : (scanFrom mode offset text).ending = .failed ⟨.unclosedTag, opening⟩)
    (white : ∀ token ∈ (scanFrom mode offset text).tokens.getLast?, token.kind = .whitespace)
    {stop : Char} (ends : EndsNumber stop) (rest : List Char) :
    (scanFrom mode offset (text ++ stop :: rest)).trimmed =
      (scanFrom (.code opening) (offset + byteLength text) (stop :: rest)).trimmed.prepend
        (scanFrom mode offset text).significant := by
  fun_induction scanFrom mode offset text with
  | case1 => cases unclosed
  | case2 => cases unclosed
  | case3 offset character behind before others opened opening' inductionHypothesis =>
      rw [Scanned.ending_consNonempty] at unclosed
      have later := inductionHypothesis unclosed fun token isLast => by
        refine white token ?_
        rw [Scanned.consNonempty]
        split
        · exact mem_getLast?_cons isLast
        · exact mem_getLast?_cons (mem_getLast?_cons isLast)
      have whole : offset + byteLength (character :: behind) =
          opening'.span.stop + byteLength others := by
        rw [breakOn?_append opened, byteLength_append, byteLength_append]
        simp only [← Nat.add_assoc]
        rfl
      rw [scanFrom_text (breakOn?_append_of_eq_some opened _), whole]
      by_cases empty : before = []
      · rw [Scanned.consNonempty, if_pos empty, Scanned.consNonempty, if_pos empty]
        exact Scanned.trimmed_cons_of_eq later _
      · rw [Scanned.consNonempty, if_neg empty, Scanned.consNonempty, if_neg empty]
        exact Scanned.trimmed_cons_of_eq (Scanned.trimmed_cons_of_eq later _) _
  | case4 =>
      cases unclosed
      rfl
  | case5 offset opening' character behind others closed token inductionHypothesis =>
      have later := inductionHypothesis unclosed fun token isLast =>
        white token (mem_getLast?_cons isLast)
      have whole :
          offset + byteLength (endTag ++ others) = token.span.stop + byteLength others := by
        rw [byteLength_append, ← Nat.add_assoc]
        rfl
      rw [stripInitial?_eq_some_iff.1 closed, List.append_assoc, scanFrom_code_endTag, whole]
      exact Scanned.trimmed_cons_of_eq later _
  | case6 offset opening' character behind notClosed fault fails =>
      cases unclosed
      exact absurd fails (codeToken_ne_unclosedTag character behind)
  | case7 offset opening' character behind notClosed kind more found token inductionHypothesis =>
      by_cases last : behind.drop more = []
      · -- The last token is white space, so white space is all that is left of the text.
        rw [last, scanFrom] at unclosed white ⊢
        cases unclosed
        obtain rfl : kind = .whitespace := white token rfl
        obtain ⟨space, length⟩ := isSpace_of_codeToken found
        have others : behind.takeWhile isSpace = behind :=
          (List.takeWhile_prefix isSpace).eq_of_length_le
            (length ▸ List.drop_eq_nil_iff.1 last)
        have spaces : (character :: behind).all isSpace = true := by
          rw [List.all_cons, space, ← others, List.all_takeWhile]
          rfl
        rw [trimmed_scanFrom_blanks spaces]
        rfl
      · have left : more < behind.length := by
          rw [List.drop_eq_nil_iff] at last
          omega
        have later := inductionHypothesis unclosed fun token isLast =>
          white token (mem_getLast?_cons isLast)
        have long : endTag.length ≤ (character :: behind).length := by
          simp only [endTag, List.length_cons, List.length_nil]
          omega
        have noEnd := stripInitial?_append_eq_none notClosed long (stop :: rest)
        have whole : offset + byteLength (character :: behind) =
            token.span.stop + byteLength (behind.drop more) := by
          conv => lhs; rw [← List.take_append_drop more behind, ← List.cons_append,
            byteLength_append, ← Nat.add_assoc]
          rfl
        rw [List.cons_append] at noEnd ⊢
        rw [scanFrom_code noEnd (codeToken_append found left ends rest),
          List.take_append_of_le_length (Nat.le_of_lt left),
          List.drop_append_of_le_length (Nat.le_of_lt left), whole]
        exact Scanned.trimmed_cons_of_eq later _

/-! ## Comments in code -/

/-- Whether a text ends inside a code tag between two tokens, and not in a line comment: a space
behind it is white space of the code. -/
def endsInCode (front : List Char) : Bool :=
  let scanned := scan (front ++ [' '])
  match scanned.ending, scanned.tokens.getLast? with
  | .failed ⟨.unclosedTag, _⟩, some last => last.kind == .whitespace
  | _, _ => false

def blockComment (content : List Char) : List Char :=
  ['/', '*'] ++ content ++ ['*', '/']

/-- The end of a tag and the beginning of another one with white space behind it, all in all as long
as a comment. -/
def tagsLike (content : List Char) : List Char :=
  endTag ++ beginTag ++ List.replicate (byteLength content) ' '

theorem exists_trimmed_scan {front : List Char} (inCode : endsInCode front = true) :
    ∃ opening offset tokens, ∀ {stop}, EndsNumber stop → ∀ rest,
      (scan (front ++ ' ' :: stop :: rest)).trimmed =
        (scanFrom (.code opening) offset (stop :: rest)).trimmed.prepend tokens := by
  unfold endsInCode at inCode
  dsimp only at inCode
  split at inCode
  next opening last unclosed isLast =>
    have white : ∀ token ∈ (scan (front ++ [' '])).tokens.getLast?, token.kind = .whitespace := by
      intro token member
      rw [isLast] at member
      cases member
      exact beq_iff_eq.1 inCode
    refine ⟨opening, 0 + byteLength (front ++ [' ']), (scan (front ++ [' '])).significant,
      fun ends rest => ?_⟩
    have cut := trimmed_scanFrom_append unclosed white ends rest
    rw [List.append_assoc] at cut
    exact cut
  next => cases inCode

theorem codeToken_blockComment {content : List Char} (plain : ¬ ['*', '/'] <:+: content)
    (rest : List Char) :
    codeToken '/' ('*' :: (content ++ '*' :: '/' :: rest)) =
      .ok (.comment, content.length + 3) := by
  have different : ('*' : Char) ≠ '/' := by decide
  rw [codeToken, breakOn?_pair different plain rest]

theorem trimmed_scanFrom_comment {content : List Char} (plain : ¬ ['*', '/'] <:+: content)
    (opening : Span) (offset : Nat) (rest : List Char) :
    ∃ comment, comment.kind = .comment ∧
      (scanFrom (.code opening) offset (blockComment content ++ rest)).trimmed =
        (scanFrom (.code opening) (offset + (byteLength content + 4))
          rest).trimmed.cons comment := by
  have lexes : Lexes rest [⟨.comment, blockComment content⟩] := by
    have noEnd : '/' ≠ '%' := by decide
    refine ⟨⟨'/', '*' :: (content ++ ['*', '/']), rfl, stripInitial?_endTag_of_ne noEnd, ?_⟩,
      trivial⟩
    have token := codeToken_blockComment plain rest
    simpa [codeOf] using token
  have code : codeOf [⟨.comment, blockComment content⟩] = blockComment content := by simp [codeOf]
  have length : byteLength (blockComment content) = byteLength content + 4 := by
    rw [blockComment, byteLength_append, byteLength_append, Nat.add_comm _ (byteLength content)]
    rfl
  have cut : scanFrom (.code opening) offset (codeOf [⟨.comment, blockComment content⟩] ++ rest) =
      _ := scanFrom_codeOf lexes offset
  rw [code, length] at cut
  refine ⟨⟨.comment, blockComment content, offset⟩, rfl, ?_⟩
  rw [cut]
  exact Scanned.trimmed_cons (by simp) _

theorem trimmed_scanFrom_tags (content : List Char) (opening : Span) (offset : Nat)
    (rest : List Char) :
    ∃ close opening' span, close.kind = .endTag ∧ opening'.kind = .beginTag ∧
      (scanFrom (.code opening) offset (tagsLike content ++ rest)).trimmed =
        ((scanFrom (.code span) (offset + (byteLength content + 4)) rest).trimmed.cons
          opening').cons close := by
  have parts : tagsLike content ++ rest =
      endTag ++ (beginTag ++ (List.replicate (byteLength content) ' ' ++ rest)) := by
    simp [tagsLike]
  refine ⟨⟨.endTag, endTag, offset⟩, ⟨.beginTag, beginTag, offset + 2⟩, ⟨offset + 2, offset + 4⟩,
    rfl, rfl, ?_⟩
  rw [parts, scanFrom_code_endTag, Scanned.trimmed_cons (by simp), scanFrom_text_beginTag,
    Scanned.trimmed_cons (by simp), trimmed_scanFrom_blanks (all_isSpace_spaces _),
    byteLength_spaces, Nat.add_comm (byteLength content), ← Nat.add_assoc]

/-- Fragments that are cut alike up to where reading stops inside a tag, and are read alike from
there on, have the same statements. -/
theorem parse_of_trimmed {source source' : List Char} {front : List Token}
    {scanned scanned' : Scanned} {statements : List Statement}
    (here : (scan source).trimmed = scanned.prepend front)
    (there : (scan source').trimmed = scanned'.prepend front)
    (stops : StopsInTag scanned.tokens) (stops' : StopsInTag scanned'.tokens)
    (same : ∀ length, scanned.ending = .complete length → scanned'.ending = scanned.ending ∧
      readClauses scanned.ending true scanned'.tokens =
        readClauses scanned.ending true scanned.tokens)
    (parsed : parse source = .ok statements) : parse source' = .ok statements := by
  have clauses : clausesOf source = readClauses scanned.ending false (front ++ scanned.tokens) :=
    congrArg (fun scanned : Scanned => readClauses scanned.ending false scanned.tokens) here
  have clauses' : clausesOf source' =
      readClauses scanned'.ending false (front ++ scanned'.tokens) :=
    congrArg (fun scanned : Scanned => readClauses scanned.ending false scanned.tokens) there
  obtain ⟨length, complete⟩ := (assemble_eq_ok_iff.1 parsed).1
  rw [clauses] at complete
  obtain ⟨sameEnding, sameClauses⟩ := same length (ending_of_readClauses complete)
  rw [← parsed, parse, parse, clauses', sameEnding,
    readClauses_exchange stops stops' sameClauses complete, ← clauses]

/-- A comment between two tokens of code is read as the end of the tag and the beginning of another
one. -/
theorem parse_comment_iff_parse_tags {front content : List Char} (inCode : endsInCode front = true)
    (plain : ¬ ['*', '/'] <:+: content) (rest : List Char) (statements : List Statement) :
    parse (front ++ ' ' :: (blockComment content ++ ' ' :: rest)) = .ok statements ↔
      parse (front ++ ' ' :: (tagsLike content ++ ' ' :: rest)) = .ok statements := by
  obtain ⟨opening, offset, tokens, cut⟩ := exists_trimmed_scan inCode
  obtain ⟨comment, isComment, commented⟩ :=
    trimmed_scanFrom_comment plain opening offset (' ' :: rest)
  obtain ⟨close, mark, span, isClose, isMark, tagged⟩ :=
    trimmed_scanFrom_tags content opening offset (' ' :: rest)
  have first : (scan (front ++ ' ' :: (blockComment content ++ ' ' :: rest))).trimmed =
      (scanFrom _ _ (blockComment content ++ ' ' :: rest)).trimmed.prepend _ :=
    cut ⟨rfl, by decide⟩ _
  have second : (scan (front ++ ' ' :: (tagsLike content ++ ' ' :: rest))).trimmed =
      (scanFrom _ _ (tagsLike content ++ ' ' :: rest)).trimmed.prepend _ :=
    cut ⟨rfl, by decide⟩ _
  rw [commented] at first
  rw [tagged] at second
  have reads : ∀ ending tokens, readClauses ending true (close :: mark :: tokens) =
      readClauses ending true (comment :: tokens) := by
    intro ending tokens
    rw [readClauses_endTag isClose, readClauses_beginTag isMark, readClauses_comment isComment]
  refine ⟨parse_of_trimmed first second ⟨_, _, rfl, .inl isComment⟩ ⟨_, _, rfl, .inr isClose⟩
    fun length complete => ?_, parse_of_trimmed second first ⟨_, _, rfl, .inr isClose⟩
    ⟨_, _, rfl, .inl isComment⟩ fun length complete => ?_⟩
  · rw [scanFrom_code_opening complete span]
    exact ⟨rfl, reads _ _⟩
  · rw [scanFrom_code_opening complete opening]
    exact ⟨rfl, (reads _ _).symm⟩

theorem parse_comment_iff_parse_tags_between_operands :
    endsInCode "<% echo 3".toList = true ∧ ¬ ['*', '/'] <:+: " c ".toList ∧
      parse "<% echo 3 %><%     - 1; %>".toList =
        .ok [.action (.echo (.literal (.integer 3) ⟨8, 9⟩)),
          .action (.evaluate (.unary .negate (.literal (.integer 1) ⟨21, 22⟩) ⟨19, 22⟩))] := by
  have inCode : endsInCode "<% echo 3".toList = true := by cbv
  have plain : ¬ ['*', '/'] <:+: " c ".toList := by decide
  exact ⟨inCode, plain,
    (parse_comment_iff_parse_tags inCode plain " - 1; %>".toList _).1 (by cbv)⟩

theorem parse_comment_between_operands :
    (parse "<% echo 3 /* c */  - 1; %>".toList).map List.length = .ok 2 ∧
      (parse "<% echo 3  - 1; %>".toList).map List.length = .ok 1 := by
  constructor <;> cbv

/-- In front of the end of the tag a comment is read as white space. -/
theorem parse_comment_iff_parse_spaces {front content : List Char}
    (inCode : endsInCode front = true) (plain : ¬ ['*', '/'] <:+: content) (rest : List Char)
    (statements : List Statement) :
    parse (front ++ ' ' :: (blockComment content ++ ' ' :: (endTag ++ rest))) = .ok statements ↔
      parse (front ++ ' ' ::
        (List.replicate (byteLength content + 4) ' ' ++ ' ' :: (endTag ++ rest))) =
          .ok statements := by
  obtain ⟨opening, offset, tokens, cut⟩ := exists_trimmed_scan inCode
  obtain ⟨comment, isComment, commented⟩ :=
    trimmed_scanFrom_comment plain opening offset (' ' :: (endTag ++ rest))
  have blank := all_isSpace_spaces (byteLength content + 4)
  have spaced := trimmed_scanFrom_blanks blank opening offset
    (' ' :: (endTag ++ rest))
  have closed : ∃ close scanned, close.kind = .endTag ∧
      (scanFrom (.code opening) (offset + (byteLength content + 4))
        (' ' :: (endTag ++ rest))).trimmed = Scanned.cons close scanned := by
    have single := trimmed_scanFrom_blanks (all_isSpace_spaces 1) opening
      (offset + (byteLength content + 4)) (endTag ++ rest)
    rw [scanFrom_code_endTag, Scanned.trimmed_cons (by simp)] at single
    exact ⟨_, _, rfl, single⟩
  obtain ⟨close, scanned, isClose, closed⟩ := closed
  have first : (scan (front ++ ' ' :: (blockComment content ++ ' ' :: (endTag ++ rest)))).trimmed =
      (scanFrom _ _ (blockComment content ++ ' ' :: (endTag ++ rest))).trimmed.prepend _ :=
    cut ⟨rfl, by decide⟩ _
  have second : (scan (front ++ ' ' ::
      (List.replicate (byteLength content + 4) ' ' ++ ' ' :: (endTag ++ rest)))).trimmed =
      (scanFrom _ _ (List.replicate (byteLength content + 4) ' ' ++
        ' ' :: (endTag ++ rest))).trimmed.prepend _ :=
    cut ⟨rfl, by decide⟩ _
  rw [commented, closed] at first
  rw [spaced, byteLength_spaces, closed] at second
  have stops : StopsInTag (Scanned.cons close scanned).tokens := ⟨_, _, rfl, .inr isClose⟩
  have stops' : StopsInTag ((Scanned.cons close scanned).cons comment).tokens :=
    ⟨_, _, rfl, .inl isComment⟩
  have reads : ∀ ending,
      readClauses ending true ((Scanned.cons close scanned).cons comment).tokens =
      readClauses ending true (Scanned.cons close scanned).tokens :=
    fun _ => readClauses_comment isComment
  exact ⟨parse_of_trimmed first second stops' stops fun _ _ => ⟨rfl, (reads _).symm⟩,
    parse_of_trimmed second first stops stops' fun _ _ => ⟨rfl, reads _⟩⟩

end ViewTemplate.Fragment
