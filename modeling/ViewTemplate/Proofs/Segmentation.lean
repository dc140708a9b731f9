import ViewTemplate.Proofs.Recognition

/-!
Cutting views into pieces. Nothing of a view is lost, what can be recognized is, and the text in
between is one piece; there is only one way to cut it so (`isSegmentation_iff_eq_pieces`).
-/

namespace ViewTemplate.Directive

open ViewTemplate.Text

/-- What pieces were cut from. -/
def sourceOf (pieces : List Piece) : List Char :=
  pieces.flatMap Piece.raw

/-- How a piece stands in front of others. -/
inductive Piece.Stands (behind : List Piece) : Piece → Prop where
  /-- Text is all the text up to a piece of another kind, and nothing can be recognized in it. -/
  | text {content : List Char} (nonempty : content ≠ [])
      (apart : ∀ next ∈ behind.head?, next.isText = false)
      (plain : ∀ {before inner}, content = before ++ inner → inner ≠ [] →
        ∀ piece rest, ¬ Recognizes (inner ++ sourceOf behind) piece rest) :
      Stands behind (.text content)
  | recognized {piece : Piece}
      (recognizes : Recognizes (piece.raw ++ sourceOf behind) piece (sourceOf behind)) :
      Stands behind piece

/-- Pieces that a view can be cut into without losing anything or overlooking anything. -/
structure IsSegmentation (source : List Char) (pieces : List Piece) : Prop where
  lossless : sourceOf pieces = source
  stands : ∀ {front piece behind}, pieces = front ++ piece :: behind → piece.Stands behind

section Segmentation

variable {piece : Piece} {others : List Piece} {source : List Char}

theorem isSegmentation_nil : IsSegmentation [] [] where
  lossless := rfl
  stands := fun parts => by simp at parts

theorem isSegmentation_cons_iff :
    IsSegmentation source (piece :: others) ↔ source = piece.raw ++ sourceOf others ∧
      piece.Stands others ∧ IsSegmentation (sourceOf others) others := by
  constructor
  · rintro ⟨lossless, stands⟩
    refine ⟨lossless.symm, stands (List.nil_append _).symm, rfl,
      fun {front next behind} parts => ?_⟩
    have whole : piece :: others = (piece :: front) ++ next :: behind := by rw [parts]; rfl
    exact stands whole
  · rintro ⟨rfl, first, -, stands⟩
    refine ⟨rfl, fun {front piece behind} parts => ?_⟩
    cases front with
    | nil =>
        cases parts
        exact first
    | cons head front =>
        cases parts
        exact stands rfl

theorem foldr_consText_apart {content : List Char} (nonempty : content ≠ [])
    (apart : ∀ next ∈ others.head?, next.isText = false) :
    content.foldr consText others = .text content :: others := by
  induction content with
  | nil => exact absurd rfl nonempty
  | cons character content inductionHypothesis =>
      rw [List.foldr_cons]
      cases content with
      | nil =>
          rw [List.foldr_nil]
          unfold consText
          split
          next => cases apart _ rfl
          next => rfl
      | cons => rw [inductionHypothesis (List.cons_ne_nil _ _), consText]

theorem eq_pieces_of_isSegmentation {pieces : List Piece}
    (segmentation : IsSegmentation source pieces) : pieces = Directive.pieces source := by
  induction pieces generalizing source with
  | nil =>
      obtain rfl : [] = source := segmentation.lossless
      rw [Directive.pieces]
  | cons piece others inductionHypothesis =>
      obtain ⟨rfl, stands, further⟩ := isSegmentation_cons_iff.1 segmentation
      have later := inductionHypothesis further
      cases stands with
      | recognized recognizes =>
          rw [pieces_of_recognize? (recognize?_eq_some_iff.2 recognizes), ← later]
      | @text content nonempty apart plain =>
          have unrecognized : ∀ before character after, content = before ++ character :: after →
              recognize? (character :: (after ++ sourceOf others)) = none := by
            intro before character after parts
            refine Option.eq_none_iff_forall_ne_some.2 fun found recognized => ?_
            exact plain parts (List.cons_ne_nil _ _) _ _ (recognize?_eq_some_iff.1 recognized)
          rw [Piece.raw, pieces_append _ unrecognized, ← later,
            foldr_consText_apart nonempty apart]

/-- A character at which nothing can be recognized is text, with the text behind it. -/
theorem isSegmentation_consText {character : Char} {pieces : List Piece}
    (unrecognized : ∀ piece rest, ¬ Recognizes (character :: source) piece rest)
    (segmentation : IsSegmentation source pieces) :
    IsSegmentation (character :: source) (consText character pieces) := by
  unfold consText
  split
  next content others =>
    obtain ⟨rfl, stands, further⟩ := isSegmentation_cons_iff.1 segmentation
    refine isSegmentation_cons_iff.2 ⟨rfl, ?_, further⟩
    cases stands with
    | recognized recognizes =>
        cases isText_of_recognize? (recognize?_eq_some_iff.2 recognizes)
    | text nonempty apart plain =>
        refine .text (List.cons_ne_nil _ _) apart fun {before inner} parts visible => ?_
        cases before with
        | nil =>
            cases parts
            exact unrecognized
        | cons first before =>
            cases parts
            exact plain rfl visible
  next noText =>
    refine isSegmentation_cons_iff.2 ⟨?_, ?_, ?_⟩
    · rw [segmentation.lossless]
      rfl
    · refine .text (List.cons_ne_nil _ _) (fun next first => ?_)
        fun {before inner} parts visible => ?_
      · obtain ⟨others, shape⟩ := List.head?_eq_some_iff.1 first
        cases next with
        | text content => exact absurd shape (noText content others)
        | _ => rfl
      · cases before with
        | nil =>
            cases parts
            rw [segmentation.lossless]
            exact unrecognized
        | cons first before =>
            have nothing : [] = before ++ inner := (List.cons.inj parts).2
            exact absurd (List.append_eq_nil_iff.1 nothing.symm).2 visible
    · rw [segmentation.lossless]
      exact segmentation

theorem isSegmentation_pieces (source : List Char) : IsSegmentation source (pieces source) := by
  fun_induction pieces source with
  | case1 => exact isSegmentation_nil
  | case2 character behind piece rest found inductionHypothesis =>
      have lossless := inductionHypothesis.lossless
      have whole := Piece.append_of_recognize? found
      refine isSegmentation_cons_iff.2 ⟨by rw [lossless, whole], .recognized ?_, ?_⟩
      · rw [lossless, ← whole]
        exact recognize?_eq_some_iff.1 found
      · rw [lossless]
        exact inductionHypothesis
  | case3 character behind unrecognized inductionHypothesis =>
      refine isSegmentation_consText (fun piece rest recognizes => ?_) inductionHypothesis
      cases unrecognized.symm.trans (recognize?_eq_some_iff.2 recognizes)

end Segmentation

/-- The reader recognizes what there is to be recognized, and the pieces of a view are the only ones
that it can be cut into without losing or overlooking anything. -/
theorem isSegmentation_iff_eq_pieces :
    (∀ text piece rest, recognize? text = some (piece, rest) ↔ Recognizes text piece rest) ∧
      ∀ source ps, IsSegmentation source ps ↔ ps = pieces source := by
  refine ⟨fun text piece rest => recognize?_eq_some_iff, fun source ps =>
    ⟨eq_pieces_of_isSegmentation, ?_⟩⟩
  rintro rfl
  exact isSegmentation_pieces source

end ViewTemplate.Directive
