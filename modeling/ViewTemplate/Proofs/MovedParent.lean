import Mathlib.Data.List.Basic
import ViewTemplate.Proofs.Sweep

/-!
Moving the parent of a view. The inheritance pass puts an `extends` directive at the beginning of a
view, with the rest of its line, behind the body. All of the body is kept, and of the first line all
but the line break, which is used if the body needs one (`movesParent_compileWith`).
-/

namespace ViewTemplate.Directive

open ViewTemplate.Text

/-! ## First lines -/

/-- The first line of a text and its line break. A text without a line break is one line. -/
inductive IsFirstLine : (text line lineBreak : List Char) → Prop where
  | whole {line : List Char} (single : '\n' ∉ line) : IsFirstLine line line []
  | returned {line : List Char} (single : '\n' ∉ line) (rest : List Char) :
      IsFirstLine (line ++ '\r' :: '\n' :: rest) line ['\r', '\n']
  | broken {line : List Char} (single : '\n' ∉ line) (noReturn : line.getLast? ≠ some '\r')
      (rest : List Char) : IsFirstLine (line ++ '\n' :: rest) line ['\n']

/-- A text is split behind its first line break. -/
theorem exists_splitLine (text : List Char) :
    ∃ line lineBreak rest, splitLine text = (line, lineBreak, rest) ∧
      text = line ++ lineBreak ++ rest ∧ IsFirstLine text line lineBreak := by
  unfold splitLine
  split
  next line rest found =>
    have parts : text = line ++ '\n' :: rest := by simpa using breakOn?_append found
    have single : '\n' ∉ line := fun member => by
      obtain ⟨before, after, rfl⟩ := List.append_of_mem member
      exact not_infix_of_breakOn? found ⟨before, after, by simp⟩
    split
    next returns =>
      obtain ⟨line, rfl⟩ := List.getLast?_eq_some_iff.1 returns
      have whole : text = line ++ '\r' :: '\n' :: rest := by simpa using parts
      rw [List.dropLast_concat, whole]
      refine ⟨line, _, rest, rfl, by simp, .returned (fun member => single ?_) rest⟩
      exact List.mem_append_left _ member
    next noReturn =>
      rw [parts]
      exact ⟨line, _, rest, rfl, by simp, .broken single noReturn rest⟩
  next none =>
    refine ⟨text, [], [], rfl, by simp, .whole fun member => ?_⟩
    obtain ⟨before, after, rfl⟩ := List.append_of_mem member
    exact not_infix_of_breakOn?_eq_none none ⟨before, after, by simp⟩

/-! ## Text in front -/

/-- The text in front of the first comment, echo or directive. -/
def leadingText : List Piece → List Char
  | .text content :: _ => content
  | _ => []

section LeadingText

variable {source : List Char} {others : List Piece}

/-- Behind the first character of a text piece stands the rest of that piece. -/
theorem exists_of_pieces_eq_text {content : List Char}
    (cut : pieces source = .text content :: others) :
    ∃ character inner behind, content = character :: inner ∧ source = character :: behind ∧
      pieces behind = textPieces inner ++ others := by
  cases source with
  | nil =>
      rw [pieces] at cut
      cases cut
  | cons character behind =>
      cases found : recognize? (character :: behind) with
      | some recognized =>
          obtain ⟨piece, rest⟩ := recognized
          rw [pieces_of_recognize? found] at cut
          cases cut
          cases isText_of_recognize? found
      | none =>
          rw [pieces_cons found] at cut
          unfold consText at cut
          split at cut
          next inner later shape =>
            cases cut
            refine ⟨character, inner, behind, rfl, rfl, ?_⟩
            have stands := (isSegmentation_cons_iff.1 (shape ▸ isSegmentation_pieces behind)).2.1
            have nonempty : inner ≠ [] := by
              cases stands with
              | text nonempty => exact nonempty
              | recognized recognizes =>
                  cases isText_of_recognize? (recognize?_eq_some_iff.2 recognizes)
            rw [shape, textPieces, if_neg nonempty]
            rfl
          next =>
            cases cut
            exact ⟨character, [], behind, rfl, rfl, rfl⟩

/-- A view from which text is taken that stands in front is cut as before. -/
theorem exists_of_pieces_eq_append {front rest : List Char}
    (cut : pieces source = .text (front ++ rest) :: others) :
    ∃ behind, source = front ++ behind ∧ pieces behind = textPieces rest ++ others := by
  induction front generalizing source with
  | nil =>
      obtain ⟨character, inner, behind, rfl, rfl, -⟩ := exists_of_pieces_eq_text cut
      exact ⟨_, rfl, cut⟩
  | cons character front inductionHypothesis =>
      obtain ⟨_, inner, behind, content, rfl, later⟩ := exists_of_pieces_eq_text cut
      obtain ⟨rfl, rfl : front ++ rest = inner⟩ := List.cons.inj content
      by_cases exhausted : front ++ rest = []
      · obtain ⟨rfl, rfl⟩ := List.append_eq_nil_iff.1 exhausted
        exact ⟨behind, rfl, later⟩
      · rw [textPieces, if_neg exhausted] at later
        obtain ⟨last, rfl, cutLater⟩ := inductionHypothesis later
        exact ⟨last, rfl, cutLater⟩

end LeadingText

/-- What stands behind a directive is its line, the line break, and a body that is cut as it would
be alone. -/
theorem exists_splitFirstLine (behind : List Char) :
    ∃ line lineBreak body, behind = line ++ lineBreak ++ body ∧
      IsFirstLine (leadingText (pieces behind)) line lineBreak ∧
      splitFirstLine (pieces behind) = (line, lineBreak, pieces body) := by
  cases cut : pieces behind with
  | nil => exact ⟨[], [], behind, rfl, .whole List.not_mem_nil, by rw [cut]; rfl⟩
  | cons piece others =>
      cases piece with
      | text content =>
          obtain ⟨line, lineBreak, rest, split, parts, first⟩ := exists_splitLine content
          rw [parts] at cut
          obtain ⟨body, rfl, cutLater⟩ := exists_of_pieces_eq_append cut
          refine ⟨line, lineBreak, body, rfl, first, ?_⟩
          rw [splitFirstLine, split, cutLater]
      | _ => exact ⟨[], [], behind, rfl, .whole List.not_mem_nil, by rw [cut]; rfl⟩

/-! ## Ends of views -/

theorem raw_getLast?_ne_of_recognizes {text rest : List Char} {piece : Piece}
    (recognizes : Recognizes text piece rest) : piece.raw.getLast? ≠ some '\n' := by
  cases recognizes with
  | closedComment => simp [Piece.raw, commentClose]
  | @lineComment content _ _ _ line =>
      rcases List.eq_nil_or_concat' content with rfl | ⟨others, last, rfl⟩
      · decide
      · intro ends
        rw [Piece.raw, ← List.append_assoc, List.getLast?_concat] at ends
        exact line (by simp [Option.some.inj ends])
  | echo => simp [Piece.raw, echoClose]
  | @plain kind => cases kind <;> decide
  | applied =>
      rw [Piece.raw, spacedText, List.getLast?_concat]
      decide

/-- The last piece of a view ends in a line feed if the view does: no comment, echo or directive
does. -/
theorem endsInLineFeed_pieces (source : List Char) :
    endsInLineFeed (pieces source) = true ↔ source.getLast? = some '\n' := by
  have segmentation := isSegmentation_pieces source
  rcases List.eq_nil_or_concat' (pieces source) with none | ⟨front, last, parts⟩
  · have empty : [] = source := by rw [← segmentation.lossless, none]; rfl
    rw [none, ← empty]
    decide
  · have whole : source = sourceOf front ++ last.raw := by
      rw [← segmentation.lossless, parts, sourceOf, List.flatMap_append]
      simp [sourceOf]
    rw [endsInLineFeed, parts, List.getLast?_concat, whole]
    cases segmentation.stands parts with
    | text nonempty => simp [Piece.raw, List.getLast?_append_of_ne_nil _ nonempty]
    | recognized recognizes =>
        have found := recognize?_eq_some_iff.2 recognizes
        have noText := isText_of_recognize? found
        rw [List.getLast?_append_of_ne_nil _ (Piece.raw_ne_nil_of_recognize? found)]
        cases last with
        | text => cases noText
        | _ => simpa using raw_getLast?_ne_of_recognizes recognizes

theorem pieces_eq_nil_iff {source : List Char} : pieces source = [] ↔ source = [] := by
  constructor
  · intro none
    rw [← (isSegmentation_pieces source).lossless, none]
    rfl
  · rintro rfl
    rw [pieces]

/-! ## Moving -/

/-- What stands between a body and the parent behind it: the line break of the first line, unless
there is no need for one. -/
def parentBreak (lineBreak body : List Char) : List Char :=
  if body = [] ∨ body.getLast? = some '\n' then [] else lineBreak

/-- The parent of a view as it is included behind the body. -/
def includedParent (arguments : List Char) : Piece :=
  .directive .include (some arguments) ("@include(".toList ++ arguments ++ [')'])

section Moving

variable {selection : List Pass} {source arguments raw line lineBreak body : List Char}

theorem swept_includedParent (arguments : List Char) :
    (includedParent arguments).swept [] = "@include(".toList ++ arguments ++ [')'] ∧
      (includedParent arguments).swept loweringPasses =
        "<% echo __env.make(".toList ++ arguments ++ ", defined_vars()); %>".toList := by
  constructor
  · rfl
  · change tagAround _ _ _ = _
    simp [tagAround, tag]

theorem swept_cons_inheritance (selection : List Pass) :
    Piece.swept (.inheritance :: selection) = Piece.swept selection := by
  funext piece
  cases belongs : piece.pass? with
  | none => simp only [Piece.swept, belongs]
  | some pass =>
      have lowers : pass ≠ .inheritance := fun same =>
        pass?_ne_inheritance piece (same ▸ belongs)
      simp only [Piece.swept, belongs, List.mem_cons, lowers, false_or]

theorem lower_of_not_mem (unmoved : .inheritance ∉ selection) (source : List Char) :
    lower selection source = (pieces source).flatMap (Piece.swept selection) := by
  rw [lower_eq_sweep, sweep, arranged, if_neg unmoved]

theorem lower_cons_inheritance (selection : List Pass) (source : List Char) :
    lower (.inheritance :: selection) source =
      (inherit (pieces source)).flatMap (Piece.swept selection) := by
  rw [lower_eq_sweep, sweep, arranged, if_pos List.mem_cons_self, swept_cons_inheritance]

/-- The first piece is an `extends` directive if one is recognized at the beginning. -/
theorem lower_of_unrecognized (unmoved : .inheritance ∉ selection)
    (noParent : ∀ arguments raw behind,
      recognize? source ≠ some (.directive .extends (some arguments) raw, behind)) :
    lower (.inheritance :: selection) source = lower selection source := by
  have same : inherit (pieces source) = pieces source := by
    unfold inherit
    split
    next arguments raw others cut =>
      have stands := (isSegmentation_cons_iff.1 (cut ▸ isSegmentation_pieces source)).2.1
      have lossless := (isSegmentation_pieces source).lossless
      rw [cut] at lossless
      cases stands with
      | recognized recognizes =>
          refine absurd (recognize?_eq_some_iff.2 ?_) (noParent arguments raw (sourceOf others))
          exact lossless ▸ recognizes
    next => rfl
  rw [lower_cons_inheritance, lower_of_not_mem unmoved, same]

/-- The body of a view is lowered as it would be alone, whatever stands in front of it. -/
theorem lower_of_recognize? (unmoved : .inheritance ∉ selection)
    (recognized : recognize? source =
      some (.directive .extends (some arguments) raw, line ++ lineBreak ++ body))
    (split : splitFirstLine (pieces (line ++ lineBreak ++ body)) = (line, lineBreak, pieces body)) :
    lower (.inheritance :: selection) source =
      lower selection body ++ parentBreak lineBreak body ++
        (includedParent arguments).swept selection ++ line := by
  have separator : (if pieces body = [] ∨ endsInLineFeed (pieces body) then []
      else textPieces lineBreak).flatMap (Piece.swept selection) = parentBreak lineBreak body := by
    simp only [pieces_eq_nil_iff, endsInLineFeed_pieces, parentBreak]
    split
    · rfl
    · exact flatMap_textPieces (fun _ => rfl) lineBreak
  have trailing : (textPieces line).flatMap (Piece.swept selection) = line :=
    flatMap_textPieces (fun _ => rfl) line
  rw [lower_cons_inheritance, pieces_of_recognize? recognized, inherit, split]
  simp only [List.flatMap_append, List.flatMap_cons, separator, trailing,
    lower_of_not_mem unmoved body, includedParent, List.append_assoc]

end Moving

/-- What the inheritance pass does to a view, by itself and with all other passes behind it. -/
inductive MovesParent (source : String) : Prop where
  | unmoved
      (noParent : ∀ arguments raw behind,
        recognize? source.toList ≠ some (.directive .extends (some arguments) raw, behind))
      (alone : compileWith [.inheritance] source = source)
      (compiled : compile source = compileWith loweringPasses source)
  | moved {arguments raw line lineBreak body : List Char}
      (recognized : recognize? source.toList =
        some (.directive .extends (some arguments) raw, line ++ lineBreak ++ body))
      (parts : source.toList = raw ++ line ++ lineBreak ++ body)
      (firstLine : IsFirstLine (leadingText (pieces (line ++ lineBreak ++ body))) line lineBreak)
      (alone : (compileWith [.inheritance] source).toList =
        body ++ parentBreak lineBreak body ++ "@include(".toList ++ arguments ++ [')'] ++ line)
      (compiled : (compile source).toList =
        (compileWith loweringPasses (String.ofList body)).toList ++ parentBreak lineBreak body ++
          "<% echo __env.make(".toList ++ arguments ++ ", defined_vars()); %>".toList ++ line)

/-- The parent of a view is moved without losing text or putting any out twice. -/
theorem movesParent_compileWith (source : String) : MovesParent source := by
  have unmoved : Pass.inheritance ∉ loweringPasses := by decide
  have all : Pass.all = .inheritance :: loweringPasses := rfl
  by_cases parent : ∃ arguments raw behind,
      recognize? source.toList = some (.directive .extends (some arguments) raw, behind)
  · obtain ⟨arguments, raw, behind, recognized⟩ := parent
    obtain ⟨line, lineBreak, body, rfl, firstLine, split⟩ := exists_splitFirstLine behind
    refine .moved recognized ?_ firstLine ?_ ?_
    · simpa [Piece.raw] using Piece.append_of_recognize? recognized
    · have moved := lower_of_recognize? List.not_mem_nil recognized split
      rw [lower_eq_sweep [] body, sweep_nil, (swept_includedParent arguments).1] at moved
      rw [compileWith, String.toList_ofList, moved]
      simp only [List.append_assoc]
    · have moved := lower_of_recognize? unmoved recognized split
      rw [(swept_includedParent arguments).2] at moved
      simp only [compile, compileWith, String.toList_ofList, all, moved, List.append_assoc]
  · have noParent : ∀ arguments raw behind,
        recognize? source.toList ≠ some (.directive .extends (some arguments) raw, behind) :=
      fun arguments raw behind found => parent ⟨arguments, raw, behind, found⟩
    refine .unmoved noParent ?_ ?_
    · rw [compileWith, lower_of_unrecognized List.not_mem_nil noParent, lower_eq_sweep, sweep_nil,
        String.ofList_toList]
    · rw [compile, compileWith, compileWith, all, lower_of_unrecognized unmoved noParent]

end ViewTemplate.Directive
