import Mathlib
import ViewTemplate.Proofs.Comments
import ViewTemplate.Proofs.LayoutChain

/-!
Views of text and comments alone. The code of a comment is read as nothing, whatever the comment
contains, so that such a view outputs its text as it is (`render_verbatim`).
-/

namespace ViewTemplate

open Fragment Directive Text

/-! ## Marks that do not occur -/

namespace Text

/-- A pair of characters is nowhere in a text whose neighbours are never that pair. -/
theorem not_infix_pair_iff {first second : Char} {text : List Char} :
    ¬ [first, second] <:+: text ↔
      text.IsChain fun left right => ¬ (left = first ∧ right = second) := by
  rw [List.isChain_iff_forall_rel_of_append_cons_cons]
  constructor
  · rintro absent left right before after rfl ⟨rfl, rfl⟩
    exact absent ⟨before, after, by simp⟩
  · rintro apart ⟨before, after, rfl⟩
    have neighbours : before ++ [first, second] ++ after = before ++ first :: second :: after := by
      simp
    exact apart neighbours ⟨rfl, rfl⟩

/-- Putting a space into a pair wherever it occurs leaves no such pair, not even across the places
where something was put in. -/
theorem not_infix_replaceAll {first second : Char} (different : first ≠ second)
    (firstNoSpace : first ≠ ' ') (secondNoSpace : second ≠ ' ') (text : List Char) :
    ¬ [first, second] <:+: replaceAll first [second] [first, ' ', second] text := by
  rw [replaceAll_eq]
  cases found : breakOn? [first, second] text with
  | none => exact not_infix_of_breakOn?_eq_none found
  | some parts =>
      obtain ⟨before, after⟩ := parts
      have shorter := length_lt_of_breakOn? found
      have earlier := not_infix_pair_iff.1 (not_infix_of_breakOn? found)
      have later := not_infix_pair_iff.1
        (not_infix_replaceAll different firstNoSpace secondNoSpace after)
      refine not_infix_pair_iff.2 (List.isChain_append.2 ⟨List.isChain_append.2
        ⟨earlier, ?_, fun left _ right isFirst => ?_⟩, later, fun left isLast right _ => ?_⟩)
      · simp [firstNoSpace.symm, secondNoSpace.symm]
      · cases isFirst
        exact fun same => different same.2
      · have last : left = second := by simpa using isLast.symm
        rw [last]
        exact fun same => different same.1.symm
termination_by text.length

theorem mem_of_mem_replaceAll {character first : Char} {pattern replacement : List Char}
    (added : character ∉ replacement) {text : List Char}
    (member : character ∈ replaceAll first pattern replacement text) : character ∈ text := by
  rw [replaceAll_eq] at member
  cases found : breakOn? (first :: pattern) text with
  | none =>
      rw [found] at member
      exact member
  | some parts =>
      obtain ⟨before, after⟩ := parts
      have shorter := length_lt_of_breakOn? found
      rw [found] at member
      rw [breakOn?_append found]
      rcases List.mem_append.1 member with early | late
      · rcases List.mem_append.1 early with inBefore | inReplacement
        · exact List.mem_append_left _ (List.mem_append_left _ inBefore)
        · exact absurd inReplacement added
      · exact List.mem_append_right _ (mem_of_mem_replaceAll added late)
termination_by text.length

end Text

/-! ## The code of comments -/

namespace Fragment

/-- The text of a comment as it stands in the code of the comment: nothing in it ends the code. -/
def commentBody (content : List Char) (closed : Bool) : List Char :=
  if closed then replaceAll '*' ['/'] ['*', ' ', '/'] (withoutTagEnd content)
  else withoutTagEnd content

/-- What the code of a comment is cut into. A comment that is open to the end of its line goes up
to the end of the tag. -/
def commentLexemes (content : List Char) (closed : Bool) : List Lexeme :=
  if closed then [space, ⟨.comment, blockComment (commentBody content true)⟩, space]
  else [space, ⟨.comment, '/' :: '/' :: commentBody content false ++ [' ']⟩]

theorem commentCode_eq_tagOf (content : List Char) (closed : Bool) :
    commentCode content closed = tagOf (commentLexemes content closed) := by
  cases closed <;>
    simp [commentCode, commentLexemes, commentBody, tagOf, codeOf, tag, blockComment, beginTag,
      endTag, space]

theorem lineCommentLength_endTag {content : List Char} (oneLine : '\n' ∉ content)
    (noEnd : ¬ endTag <:+: content) (rest : List Char) :
    lineCommentLength (content ++ (endTag ++ rest)) = content.length := by
  induction content with
  | nil => rfl
  | cons character content inductionHypothesis =>
      obtain ⟨notBreak, laterOneLine⟩ := List.ne_and_not_mem_of_not_mem_cons oneLine
      have later := inductionHypothesis laterOneLine fun inside => noEnd (List.infix_cons inside)
      rw [List.cons_append, lineCommentLength, later, List.length_cons]
      · exact fun same => notBreak same.symm
      · -- An end of the tag that begins here would stand in the content, or the content would end
        -- in half of it in front of a percent sign.
        rintro others rfl starts
        cases content with
        | nil => cases starts
        | cons other content =>
            cases starts
            exact noEnd ⟨[], content, rfl⟩

theorem lexes_commentLexemes {content : List Char} {closed : Bool}
    (oneLine : closed = false → '\n' ∉ content) (rest : List Char) :
    Lexes (endTag ++ rest) (commentLexemes content closed) := by
  have noEnd : ¬ endTag <:+: withoutTagEnd content :=
    not_infix_replaceAll (by decide) (by decide) (by decide) content
  cases closed with
  | true =>
      have plain : ¬ ['*', '/'] <:+: commentBody content true :=
        not_infix_replaceAll (by decide) (by decide) (by decide) _
      have token := codeToken_blockComment plain (' ' :: (endTag ++ rest))
      refine ⟨⟨' ', [], rfl, rfl, rfl⟩, ⟨'/', '*' :: (commentBody content true ++ ['*', '/']), ?_⟩,
        ⟨' ', [], rfl, rfl, rfl⟩, trivial⟩
      refine ⟨by simp [blockComment], rfl, ?_⟩
      simpa [codeOf, space] using token
  | false =>
      have body : commentBody content false = withoutTagEnd content := rfl
      have spaced : ¬ endTag <:+: '/' :: (withoutTagEnd content ++ [' ']) := by
        refine not_infix_pair_iff.2 (List.isChain_cons.2 ⟨fun next _ same => ?_, ?_⟩)
        · exact absurd same.1 (by decide)
        · refine List.isChain_append.2 ⟨not_infix_pair_iff.1 noEnd, .singleton _, ?_⟩
          rintro left _ right ⟨⟩ ⟨_, ⟨⟩⟩
      have oneLine : '\n' ∉ '/' :: (withoutTagEnd content ++ [' ']) := by
        have absent : '\n' ∉ withoutTagEnd content := fun member =>
          oneLine rfl (mem_of_mem_replaceAll (by decide) member)
        simp [absent]
      have length := lineCommentLength_endTag oneLine spaced rest
      refine ⟨⟨' ', [], rfl, rfl, rfl⟩, ⟨'/', '/' :: (withoutTagEnd content ++ [' ']), ?_⟩, trivial⟩
      refine ⟨by simp [body], rfl, ?_⟩
      rw [codeOf, List.flatMap_nil, List.nil_append, List.cons_append, codeToken]
      simp [← length]

/-- The code of a comment is read as nothing. -/
theorem clausesFrom_commentCode {content : List Char} {closed : Bool}
    (oneLine : closed = false → '\n' ∉ content) (offset : Nat) (rest : List Char) :
    clausesFrom offset (commentCode content closed ++ rest) =
      clausesFrom (offset + byteLength (commentCode content closed)) rest := by
  rw [commentCode_eq_tagOf]
  refine clausesFrom_tagOf id (lexes_commentLexemes oneLine rest) fun ending mark tokens isEnd => ?_
  have single : ∃ comment, comment.kind = .comment ∧
      significantOf (place (offset + 2) (commentLexemes content closed)) = [comment] := by
    cases closed <;> exact ⟨_, rfl, rfl⟩
  obtain ⟨comment, isComment, single⟩ := single
  rw [single, List.singleton_append, readClauses_comment isComment, readClauses_endTag isEnd]
  rfl

/-- Text without an opening mark is a clause unless it is empty, and then the fragment ends. -/
theorem actsAs_text {content : List Char} (noTag : ¬ beginTag <:+: content) (offset : Nat) :
    ActsAs (clausesFrom offset content) (rawActions content) := by
  cases content with
  | nil =>
      rw [clausesFrom_nil]
      exact .nil offset
  | cons character content =>
      have scanned : scanFrom .text offset (character :: content) =
          ⟨[⟨.raw, character :: content, offset⟩],
            .complete (offset + byteLength (character :: content))⟩ := by
        rw [scanFrom]
        split
        next => rfl
        next before rest opened =>
          have unopened := breakOn?_eq_none_of_not_infix noTag
          cases unopened.symm.trans opened
      have read : clausesFrom offset (character :: content) =
          Clauses.cons ⟨.action (.raw (String.ofList (character :: content))),
            ⟨offset, offset + byteLength (character :: content)⟩⟩
            ⟨[], .complete (offset + byteLength (character :: content))⟩ := by
        rw [clausesFrom, scanned]
        change readClauses _ false [_] = _
        rw [readClauses_raw rfl, readClauses]
        rfl
      rw [read, rawActions, if_neg (List.cons_ne_nil _ _)]
      exact (ActsAs.nil _).cons _ _

end Fragment

/-! ## Pieces -/

namespace Directive

/-- No two texts follow each other among the pieces of a view. -/
theorem isChain_pieces (text : List Char) :
    (pieces text).IsChain fun first second => ¬ (first.isText = true ∧ second.isText = true) := by
  fun_induction pieces text with
  | case1 => exact .nil
  | case2 character behind piece rest found inductionHypothesis =>
      refine List.isChain_cons.2 ⟨fun _ _ texts => ?_, inductionHypothesis⟩
      exact Bool.noConfusion ((isText_of_recognize? found).symm.trans texts.1)
  | case3 character behind unrecognized inductionHypothesis =>
      unfold consText
      split
      next content others shape =>
        rw [shape] at inductionHypothesis
        obtain ⟨apart, later⟩ := List.isChain_cons.1 inductionHypothesis
        exact List.isChain_cons.2 ⟨apart, later⟩
      next noText =>
        refine List.isChain_cons.2 ⟨fun next first texts => ?_, inductionHypothesis⟩
        obtain ⟨others, shape⟩ := List.head?_eq_some_iff.1 first
        cases next with
        | text content => exact noText content others shape
        | _ => exact Bool.noConfusion texts.2

/-- Text without code tags, or a comment. -/
def Piece.IsVerbatim : Piece → Prop
  | .text content => ¬ beginTag <:+: content
  | .comment _ _ _ => True
  | _ => False

instance : DecidablePred Piece.IsVerbatim
  | .text content => inferInstanceAs (Decidable (¬ beginTag <:+: content))
  | .comment _ _ _ => .isTrue trivial
  | .code _ => .isFalse id
  | .echo _ _ => .isFalse id
  | .directive _ _ _ => .isFalse id

/-- The text that a view of texts and comments outputs for a piece. -/
def Piece.shown : Piece → List Char
  | .text content => content
  | _ => []

end Directive

namespace Fragment

/-- Texts and comments are read as the actions that output the texts. -/
theorem readsAsActions_pieces {pieces : List Piece}
    (verbatim : ∀ piece ∈ pieces, piece.IsVerbatim)
    (oneLine : ∀ content raw, .comment content false raw ∈ pieces → '\n' ∉ content)
    (apart : pieces.IsChain fun first second =>
      ¬ (first.isText = true ∧ second.isText = true)) :
    ReadsAsActions (pieces.flatMap fun piece => piece.lowered.raw) fun performed =>
      performed = (pieces.map Piece.shown).flatMap rawActions := by
  induction pieces with
  | nil => exact readsAsActions_nil
  | cons piece pieces inductionHypothesis =>
      obtain ⟨isVerbatim, laterVerbatim⟩ := List.forall_mem_cons.1 verbatim
      obtain ⟨notBoth, laterApart⟩ := List.isChain_cons.1 apart
      have later := inductionHypothesis laterVerbatim
        (fun content raw member => oneLine content raw (.tail _ member)) laterApart
      rw [List.flatMap_cons]
      cases piece with
      | comment content closed raw =>
          have single : closed = false → '\n' ∉ content := by
            rintro rfl
            exact oneLine content raw (.head _)
          intro offset
          obtain ⟨performed, are, acts⟩ := later (offset + byteLength (commentCode content closed))
          refine ⟨performed, are, ?_⟩
          rw [← clausesFrom_commentCode single] at acts
          exact acts
      | text content =>
          cases pieces with
          | nil =>
              intro offset
              refine ⟨rawActions content, (List.append_nil _).symm, ?_⟩
              rw [List.flatMap_nil, List.append_nil]
              exact actsAs_text isVerbatim offset
          | cons next others =>
              cases next with
              | comment comment closed raw =>
                  have code : (Piece.comment comment closed raw).lowered.raw =
                      tagOf (commentLexemes comment closed) := commentCode_eq_tagOf comment closed
                  rw [List.flatMap_cons, code] at later ⊢
                  intro offset
                  obtain ⟨performed, ⟨_, rfl, rfl⟩, acts⟩ :=
                    readsAsActions_text isVerbatim later offset
                  exact ⟨_, rfl, acts⟩
              | text other => exact absurd ⟨rfl, rfl⟩ (notBoth _ rfl)
              | _ => exact absurd (laterVerbatim _ (.head _)) not_false
      | _ => exact isVerbatim.elim

/-- The program of a view of texts and comments outputs the texts one after the other. -/
theorem compile_verbatim {source : String}
    (verbatim : ∀ piece ∈ pieces source.toList, piece.IsVerbatim) :
    Program.compile (Directive.compile source) =
      .ok ⟨Directive.compile source,
        instructionsOf
          ((((pieces source.toList).map Piece.shown).flatMap rawActions).map .action)⟩ := by
  have unmoved : inherit (pieces source.toList) = pieces source.toList := by
    unfold inherit
    split
    next arguments raw others shape =>
      rw [shape] at verbatim
      exact (verbatim _ (.head _)).elim
    next => rfl
  have oneLine : ∀ content raw, .comment content false raw ∈ pieces source.toList →
      '\n' ∉ content := by
    intro content raw member
    obtain ⟨_, _, _, found⟩ := exists_recognize?_of_mem_pieces rfl member
    rcases cases_of_recognize? found with
      ⟨_, _, _, same, single⟩ | ⟨_, _, same⟩ | ⟨_, _, _, same, _⟩
    · cases same
      exact single rfl
    · cases same
    · cases same
  have code : (Directive.compile source).toList =
      (pieces source.toList).flatMap fun piece => piece.lowered.raw := by
    rw [Directive.compile, compileWith, String.toList_ofList, lower_all, unmoved]
  have reads := readsAsActions_pieces verbatim oneLine (isChain_pieces source.toList)
  rw [← code] at reads
  obtain ⟨_, rfl, compiled⟩ := exists_compile_of_readsAsActions reads
  exact compiled

end Fragment

/-! ## Renderings -/

/-- Outside all captures texts are put behind each other. -/
theorem RenderContext.foldlM_rawActions {σ : Type} (context : RenderContext σ (Render σ))
    {state : RenderState σ} (outside : state.sections.depth ≤ context.base)
    (contents : List (List Char)) (page : Page) :
    (contents.flatMap rawActions).foldlM context.perform page state =
      .ok { page with output := page.output ++ String.ofList contents.flatten } state := by
  induction contents generalizing page with
  | nil => simp [pure, EStateM.pure]
  | cons content contents inductionHypothesis =>
      rw [List.flatMap_cons, List.foldlM_append]
      have shown : (rawActions content).foldlM context.perform page state =
          .ok { page with output := page.output ++ String.ofList content } state := by
        rw [rawActions]
        split
        next empty =>
          rw [empty, String.ofList_nil, String.append_empty]
          rfl
        next =>
          have emitted : context.perform page (.raw (String.ofList content)) state =
              .ok { page with output := page.output ++ String.ofList content } state :=
            emit_outside outside (String.ofList content)
          rw [List.foldlM_cons, Render.bind_of_ok emitted]
          rfl
      rw [Render.bind_of_ok shown, inductionHypothesis, List.flatten_cons, String.ofList_append,
        String.append_assoc]

theorem length_flatMap_rawActions_le (contents : List (List Char)) :
    (contents.flatMap rawActions).length ≤ contents.length := by
  induction contents with
  | nil => exact Nat.le_refl 0
  | cons content contents inductionHypothesis =>
      have first := length_rawActions_le content
      rw [List.flatMap_cons, List.length_append, List.length_cons]
      omega

theorem Environment.renderProgram_rawActions {σ : Type} (environment : Environment σ)
    (enter : String → Entries Value → Render σ String) (source : String)
    {contents : List (List Char)} {fuel : Nat} (enough : contents.length < fuel)
    (scope : Entries Value) (state : RenderState σ) :
    environment.renderProgram enter fuel
        ⟨source, instructionsOf ((contents.flatMap rawActions).map .action)⟩ scope state =
      .ok (String.ofList contents.flatten) state := by
  have length := Nat.lt_of_le_of_lt (length_flatMap_rawActions_le contents) enough
  have performed := RenderContext.foldlM_rawActions
    ⟨environment, source, state.sections.depth, enter⟩
    (Nat.le_refl state.sections.depth) contents (Page.initial scope)
  refine (renderProgram_actions length performed rfl).trans ?_
  rw [Page.initial, String.empty_append]

section Views

variable {σ : Type} {environment : Environment σ} {name source : String} {stored : σ}
  {state : RenderState σ}
  (handed : environment.store.compiled name state.stored =
    (.ok (Directive.compile source), stored))
  (coherent : state.Coherent) (verbatim : ∀ piece ∈ pieces source.toList, piece.IsVerbatim)
  {fuel : Nat} (enough : (pieces source.toList).length < fuel)

include handed coherent verbatim enough

/-- However many views are around it, a view of texts and comments outputs the texts. -/
theorem renderAt_verbatim (levels : Nat) (parameters : Entries Value) :
    ∃ programs,
      (environment.renderAt fuel (levels + 1) name parameters : Render σ String) state =
        .ok (String.ofList ((pieces source.toList).flatMap Piece.shown))
          { state with stored := stored, programs := programs } := by
  obtain ⟨programs, _, same⟩ := coherent.renderAt handed fuel levels parameters
  have length : ((pieces source.toList).map Piece.shown).length < fuel := by
    rw [List.length_map]
    exact enough
  exact ⟨programs, same.trans (Environment.renderFragment_of_compile (compile_verbatim verbatim)
    (environment.renderProgram_rawActions _ _ length _ _))⟩

/-- Texts and comments render verbatim and invisibly: a view of texts without code tags and of any
comments renders without an error, in every environment, and outputs its texts one after the
other. -/
theorem render_verbatim (data : Entries Value) :
    ∃ programs,
      (View.render ⟨name, .ok data⟩ environment fuel : Render σ String) state =
        .ok (String.ofList ((pieces source.toList).flatMap Piece.shown))
          { state with stored := stored, programs := programs } :=
  renderAt_verbatim handed coherent verbatim enough environment.maxDepth data

end Views

/-- Half a mark in front of a comment, all kinds of marks in comments, and a comment that is open to
the end of its line. -/
def markedSource : String :=
  "a<\x7b\x7b--*/ %> <% '// \n*--\x7d\x7d%> b/\x7b\x7b--\"%>*/ %\r\n* /"

theorem pieces_markedSource :
    pieces markedSource.toList =
      [.text "a<".toList,
        .comment "*/ %> <% '// \n*".toList true
          "\x7b\x7b--*/ %> <% '// \n*--\x7d\x7d".toList,
        .text "%> b/".toList,
        .comment "\"%>*/ %".toList false "\x7b\x7b--\"%>*/ %".toList,
        .text "\r\n* /".toList] := by
  cbv

theorem render_markedSource :
    ∃ programs,
      (View.render ⟨"page", .ok []⟩ (Environment.ofStore .memory 0) 6 :
          Render MemoryViews String)
        ⟨MemoryViews.empty.insertAll [("page", markedSource)], [], .empty⟩ =
      .ok "a<%> b/\r\n* /"
        ⟨MemoryViews.empty.insertAll [("page", markedSource)], programs, .empty⟩ := by
  have inserted : (MemoryViews.empty.insertAll [("page", markedSource)]).compiled "page" =
      .ok (Directive.compile markedSource) :=
    MemoryViews.compiled_insertAll (by decide) (.head _) MemoryViews.empty
  have verbatim : ∀ piece ∈ pieces markedSource.toList, piece.IsVerbatim := by
    rw [pieces_markedSource]
    decide
  have enough : (pieces markedSource.toList).length < 6 := by
    rw [pieces_markedSource]
    decide
  have noPrograms : RenderState.Coherent
      ⟨MemoryViews.empty.insertAll [("page", markedSource)], [], .empty⟩ :=
    fun _ _ found => by cases found
  have inMemory : (Environment.ofStore .memory 0).store = .memory := rfl
  obtain ⟨programs, rendered⟩ := render_verbatim (compiled_memory inMemory inserted) noPrograms
    verbatim enough []
  refine ⟨programs, rendered.trans ?_⟩
  rw [pieces_markedSource]
  rfl

end ViewTemplate
