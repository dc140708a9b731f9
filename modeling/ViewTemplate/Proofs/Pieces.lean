import ViewTemplate.Directive.Pass
import ViewTemplate.Proofs.Occurrence

/-!
Cutting views that are put together from directives and text. A directive in front of a text is the
first piece, and text in which no piece begins stands in front of the pieces that follow.
-/

namespace ViewTemplate.Directive

open ViewTemplate.Text

/-! ## Cutting -/

theorem pieces_of_recognize? {text rest : List Char} {piece : Piece}
    (found : recognize? text = some (piece, rest)) : pieces text = piece :: pieces rest := by
  cases text with
  | nil => cases found
  | cons character behind =>
      rw [pieces]
      split
      next piece' rest' same =>
        cases found.symm.trans same
        rfl
      next none => cases found.symm.trans none

theorem pieces_cons {character : Char} {behind : List Char}
    (none : recognize? (character :: behind) = none) :
    pieces (character :: behind) = consText character (pieces behind) := by
  rw [pieces]
  split
  next piece rest found => cases none.symm.trans found
  next => rfl

/-- Text in which no piece begins stands in front of the pieces that follow. -/
theorem pieces_append {content : List Char} (rest : List Char)
    (plain : ∀ before character after, content = before ++ character :: after →
      recognize? (character :: (after ++ rest)) = none) :
    pieces (content ++ rest) = content.foldr consText (pieces rest) := by
  induction content with
  | nil => rfl
  | cons character content inductionHypothesis =>
      have later := inductionHypothesis fun before other after parts =>
        plain (character :: before) other after (by rw [parts]; rfl)
      have here := plain [] character content rfl
      rw [List.cons_append, pieces_cons here, later]
      rfl

theorem foldr_consText {piece : Piece} (notText : ∀ content, piece ≠ .text content)
    (content : List Char) (others : List Piece) :
    content.foldr consText (piece :: others) = textPieces content ++ piece :: others := by
  have cons_piece (character : Char) :
      consText character (piece :: others) = .text [character] :: piece :: others := by
    cases piece with
    | text content => exact absurd rfl (notText content)
    | _ => rfl
  induction content with
  | nil => rfl
  | cons character content inductionHypothesis =>
      rw [List.foldr_cons, inductionHypothesis]
      cases content with
      | nil => exact cons_piece character
      | cons other content => rfl

/-! ## Recognized pieces -/

def Piece.isText : Piece → Bool
  | .text _ => true
  | _ => false

/-- What is recognized is no text. A comment without a closing mark is on one line, and arguments go
up to the parenthesis that closes them. -/
theorem cases_of_recognize? {text rest : List Char} {piece : Piece}
    (found : recognize? text = some (piece, rest)) :
    (∃ content closed raw, piece = .comment content closed raw ∧
      (closed = false → '\n' ∉ content)) ∨
    (∃ expression raw, piece = .echo expression raw) ∨
    ∃ kind arguments raw, piece = .directive kind arguments raw ∧
      ∀ applied ∈ arguments, kind.takesArguments = true ∧
        ∃ inner, readArguments? .outside 0 inner = some (applied, rest) := by
  unfold recognize? at found
  split at found
  next =>
    unfold readBraces? at found
    split at found
    next =>
      refine .inl ?_
      unfold readComment? at found
      split at found
      next =>
        obtain ⟨rfl, _⟩ := Prod.mk.inj (Option.some.inj found)
        exact ⟨_, true, _, rfl, fun opened => by cases opened⟩
      next =>
        obtain ⟨⟨line, _⟩, broken, same⟩ := Option.map_eq_some_iff.1 found
        obtain ⟨rfl, _⟩ := Prod.mk.inj same
        refine ⟨_, false, _, rfl, fun _ member => ?_⟩
        obtain ⟨ending, parts⟩ := withoutReturn_append line
        have inLine : '\n' ∈ line := by
          rw [parts]
          exact List.mem_append_left _ member
        obtain ⟨before, after, rfl⟩ := List.append_of_mem inLine
        exact not_infix_of_breakOn? broken ⟨before, after, by simp⟩
    next =>
      refine .inr (.inl ?_)
      split at found
      next =>
        unfold readEcho? at found
        split at found
        next =>
          split at found
          next => cases found
          next =>
            obtain ⟨rfl, _⟩ := Prod.mk.inj (Option.some.inj found)
            exact ⟨_, _, rfl⟩
        next => cases found
      next => cases found
  next =>
    refine .inr (.inr ?_)
    simp only [readDirective?] at found
    split at found
    next => cases found
    next =>
      split at found
      next takes =>
        split at found
        next =>
          obtain ⟨⟨_, _⟩, read, same⟩ := Option.map_eq_some_iff.1 found
          obtain ⟨rfl, rfl⟩ := Prod.mk.inj same
          refine ⟨_, _, _, rfl, ?_⟩
          rintro _ ⟨⟩
          exact ⟨takes, _, read⟩
        next => cases found
      next =>
        obtain ⟨rfl, _⟩ := Prod.mk.inj (Option.some.inj found)
        exact ⟨_, _, _, rfl, fun _ none => by cases none⟩
  next => cases found

theorem isText_of_recognize? {text rest : List Char} {piece : Piece}
    (found : recognize? text = some (piece, rest)) : piece.isText = false := by
  rcases cases_of_recognize? found with ⟨_, _, _, rfl, _⟩ | ⟨_, _, rfl⟩ | ⟨_, _, _, rfl, _⟩ <;>
    rfl

/-- What is no text among the pieces of a view was recognized somewhere in it. -/
theorem exists_recognize?_of_mem_pieces {piece : Piece} (noText : piece.isText = false)
    {text : List Char} (member : piece ∈ pieces text) :
    ∃ behind rest, behind <:+ text ∧ recognize? behind = some (piece, rest) := by
  fun_induction pieces text with
  | case1 => cases member
  | case2 character behind first rest found inductionHypothesis =>
      rcases List.mem_cons.1 member with rfl | later
      · exact ⟨_, rest, List.suffix_refl _, found⟩
      · obtain ⟨others, last, within, recognized⟩ := inductionHypothesis later
        refine ⟨others, last, within.trans ?_, recognized⟩
        exact ⟨first.raw, (Piece.append_of_recognize? found).symm⟩
  | case3 character behind unrecognized inductionHypothesis =>
      have later : piece ∈ pieces behind := by
        unfold consText at member
        split at member
        next content others shape =>
          rcases List.mem_cons.1 member with rfl | later
          · cases noText
          · rw [shape]
            exact List.mem_cons_of_mem _ later
        next =>
          rcases List.mem_cons.1 member with rfl | later
          · cases noText
          · exact later
      obtain ⟨others, last, within, recognized⟩ := inductionHypothesis later
      exact ⟨others, last, within.trans (List.suffix_cons character behind), recognized⟩

/-! ## Directives -/

theorem Kind.ofName?_name (kind : Kind) : Kind.ofName? kind.name.toList = some kind := by
  cases kind <;> rfl

theorem Kind.isNameCharacter_of_mem_name (kind : Kind) :
    ∀ character ∈ kind.name.toList, isNameCharacter character = true := by
  refine List.all_eq_true.1 ?_
  cases kind <;> rfl

theorem takeWhile_name (kind : Kind) {rest : List Char}
    (stop : ∀ character ∈ rest.head?, isNameCharacter character = false) :
    (kind.name.toList ++ rest).takeWhile isNameCharacter = kind.name.toList ∧
      (kind.name.toList ++ rest).dropWhile isNameCharacter = rest := by
  rw [List.takeWhile_append_of_pos kind.isNameCharacter_of_mem_name,
    List.dropWhile_append_of_pos kind.isNameCharacter_of_mem_name]
  cases rest with
  | nil => exact ⟨List.append_nil _, rfl⟩
  | cons character rest =>
      have stopped := stop character rfl
      simp [stopped]

/-- The text of a directive with arguments. -/
def appliedText (kind : Kind) (arguments : List Char) : List Char :=
  '@' :: kind.name.toList ++ '(' :: arguments ++ [')']

theorem recognize?_applied (kind : Kind) {arguments rest : List Char}
    (takes : kind.takesArguments = true)
    (read : readArguments? .outside 0 (arguments ++ ')' :: rest) = some (arguments, rest)) :
    recognize? (appliedText kind arguments ++ rest) =
      some (.directive kind (some arguments) (appliedText kind arguments), rest) := by
  have parts : appliedText kind arguments ++ rest =
      '@' :: (kind.name.toList ++ '(' :: (arguments ++ ')' :: rest)) := by
    simp [appliedText]
  have stop : ∀ character ∈ ('(' :: (arguments ++ ')' :: rest)).head?,
      isNameCharacter character = false := by
    rintro character ⟨⟩
    rfl
  obtain ⟨name, behind⟩ := takeWhile_name kind stop
  rw [parts]
  change readDirective? _ = _
  rw [readDirective?, name, behind]
  simp only [kind.ofName?_name, takes, if_true]
  have noGap : isGap '(' = false := rfl
  simp [noGap, read, appliedText]

/-- The text of a directive without arguments. -/
def plainText (kind : Kind) : List Char :=
  '@' :: kind.name.toList

theorem recognize?_plain {kind : Kind} (rest : List Char) (takes : kind.takesArguments = false)
    (stop : ∀ character ∈ rest.head?, isNameCharacter character = false) :
    recognize? (plainText kind ++ rest) =
      some (.directive kind none (plainText kind), rest) := by
  obtain ⟨name, behind⟩ := takeWhile_name kind stop
  change readDirective? (kind.name.toList ++ rest) = _
  rw [readDirective?, name, behind]
  simp [kind.ofName?_name, takes, plainText]

/-! ## Quoted arguments -/

/-- Between single quotes only a backslash and the same quote would matter. -/
def PlainName (name : List Char) : Prop :=
  '\'' ∉ name ∧ '\\' ∉ name

theorem PlainName.of_cons {character : Char} {name : List Char}
    (plain : PlainName (character :: name)) :
    character ≠ '\'' ∧ character ≠ '\\' ∧ PlainName name := by
  obtain ⟨noQuote, noBackslash⟩ := plain
  obtain ⟨notQuote, laterQuote⟩ := List.ne_and_not_mem_of_not_mem_cons noQuote
  obtain ⟨notBackslash, laterBackslash⟩ := List.ne_and_not_mem_of_not_mem_cons noBackslash
  exact ⟨notQuote.symm, notBackslash.symm, laterQuote, laterBackslash⟩

/-- A name between single quotes. -/
def quotedName (name : List Char) : List Char :=
  '\'' :: name ++ ['\'']

theorem readArguments?_quoted {name : List Char} (plain : PlainName name) (rest : List Char) :
    readArguments? .outside 0 (quotedName name ++ ')' :: rest) = some (quotedName name, rest) := by
  have inside : readArguments? (.inside '\'') 0 (name ++ '\'' :: ')' :: rest) =
      some (name ++ ['\''], rest) := by
    induction name with
    | nil => rfl
    | cons character name inductionHypothesis =>
        obtain ⟨notQuote, notBackslash, plainLater⟩ := plain.of_cons
        rw [List.cons_append, readArguments?]
        simp only [Quoting.next, notQuote, notBackslash, if_false, inductionHypothesis plainLater]
        rfl
  have parts : quotedName name ++ ')' :: rest = '\'' :: (name ++ '\'' :: ')' :: rest) := by
    simp [quotedName]
  rw [parts, readArguments?]
  simp [Quoting.next, inside, quotedName]

/-! ## Lowering -/

/-- The passes behind the first, which lower pieces one by one. -/
def loweringPasses : List Pass := Pass.all.tail

/-- A piece after all passes that lower pieces. -/
def Piece.lowered (piece : Piece) : Piece :=
  loweringPasses.foldl (fun piece pass => pass.lowerPiece piece) piece

theorem foldl_apply {passes : List Pass} (lowering : ∀ pass ∈ passes, pass ≠ .inheritance)
    (pieces : List Piece) :
    passes.foldl (fun pieces pass => pass.apply pieces) pieces =
      pieces.map fun piece => passes.foldl (fun piece pass => pass.lowerPiece piece) piece := by
  induction passes generalizing pieces with
  | nil => simp
  | cons pass passes inductionHypothesis =>
      have applied : pass.apply pieces = pieces.map pass.lowerPiece := by
        cases pass with
        | inheritance => exact absurd rfl (lowering .inheritance (.head _))
        | _ => rfl
      rw [List.foldl_cons, applied,
        inductionHypothesis fun other member => lowering other (.tail _ member), List.map_map]
      rfl

/-- Lowering a view by all passes is moving its `extends` and then lowering piece by piece. -/
theorem lower_all (source : List Char) :
    lower Pass.all source = (inherit (pieces source)).flatMap fun piece => piece.lowered.raw := by
  have selected : Pass.selected Pass.all = .inheritance :: loweringPasses := rfl
  have lowering : ∀ pass ∈ loweringPasses, pass ≠ .inheritance := by decide
  rw [lower, selected, List.foldl_cons, foldl_apply lowering, List.flatMap_map]
  rfl

/-- Text is put out as it is by everything that puts out a text piece so. -/
theorem flatMap_textPieces {output : Piece → List Char}
    (plain : ∀ content, output (.text content) = content) (content : List Char) :
    (textPieces content).flatMap output = content := by
  unfold textPieces
  split
  next empty => rw [empty]; rfl
  next => rw [List.flatMap_singleton, plain]

/-- An `extends` directive alone on its line goes to the end, on a line of its own. -/
theorem inherit_extends (arguments raw : List Char) {body : List Piece} (nonempty : body ≠ [])
    (ends : endsInLineFeed body = false) :
    inherit (.directive .extends (some arguments) raw :: .text ['\n'] :: body) =
      body ++ [Piece.text ['\n'], Piece.directive .include (some arguments)
        ("@include(".toList ++ arguments ++ [')'])] := by
  have line : splitFirstLine (.text ['\n'] :: body) = ([], ['\n'], body) := rfl
  simp [inherit, line, nonempty, ends, textPieces]

end ViewTemplate.Directive
