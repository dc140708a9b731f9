import ViewTemplate.Proofs.Actions
import ViewTemplate.Proofs.Pieces
import ViewTemplate.Store.Memory
import ViewTemplate.Render.View

/-!
Views that put content into a section and extend each other: how they are cut, lowered and read.
The program of such a view is a few actions in a row.
-/

namespace ViewTemplate

open Fragment Directive Text

/-! ## Content -/

/-- Content without braces and tags, in which every at sign begins a mark of the parent. -/
structure PlainContent (content : List Char) : Prop where
  noBraces : ¬ echoOpen <:+: content
  noTag : ¬ beginTag <:+: content
  marks (before after : List Char) :
    content = before ++ '@' :: after → "parent".toList <+: after

theorem plainContent_iff (content : List Char) :
    (Text.breakOn? echoOpen content = none ∧ Text.breakOn? beginTag content = none ∧
      ∀ position < content.length, content[position]? = some '@' →
        "parent".toList <+: content.drop (position + 1)) ↔ PlainContent content := by
  constructor
  · rintro ⟨noBraces, noTag, marks⟩
    refine ⟨Text.not_infix_of_breakOn?_eq_none noBraces,
      Text.not_infix_of_breakOn?_eq_none noTag, ?_⟩
    rintro before after rfl
    have mark := marks before.length (by simp) (by simp)
    simpa using mark
  · intro plain
    refine ⟨Text.breakOn?_eq_none_of_not_infix plain.noBraces,
      Text.breakOn?_eq_none_of_not_infix plain.noTag, fun position within found => ?_⟩
    refine plain.marks (content.take position) _ ?_
    rw [List.getElem?_eq_getElem within, Option.some.injEq] at found
    rw [← found, List.getElem_cons_drop, List.take_append_drop]

instance (content : List Char) : Decidable (PlainContent content) :=
  decidable_of_iff _ (plainContent_iff content)

theorem ofName?_of_parent (name : List Char) : Kind.ofName? ('p' :: name) = none := by
  refine List.find?_eq_none.2 fun kind _ same => ?_
  have spelled := of_decide_eq_true same
  cases kind <;> cases spelled

theorem recognize?_of_plainContent {content : List Char} (plain : PlainContent content)
    {rest : List Char} (noBrace : rest.head? ≠ some '\x7b') (before : List Char)
    (character : Char) (after : List Char) (parts : content = before ++ character :: after) :
    recognize? (character :: (after ++ rest)) = none := by
  by_cases brace : character = '\x7b'
  · subst brace
    have single : (after ++ rest).head? ≠ some '\x7b' := by
      cases after with
      | nil => exact noBrace
      | cons other after =>
          intro same
          cases same
          exact plain.noBraces ⟨before, after, by simp [parts, echoOpen]⟩
    have notEcho : stripInitial? echoOpen ('\x7b' :: (after ++ rest)) = none := by
      rw [Text.stripInitial?_eq_none_iff]
      intro opens
      obtain ⟨tail, same⟩ := (List.cons_prefix_cons.1 opens).2
      rw [← same] at single
      exact single rfl
    have notComment : stripInitial? commentOpen ('\x7b' :: (after ++ rest)) = none := by
      rw [Text.stripInitial?_eq_none_iff] at notEcho ⊢
      exact fun opens => notEcho (List.IsPrefix.trans ⟨['-', '-'], rfl⟩ opens)
    change readBraces? ('\x7b' :: (after ++ rest)) = none
    rw [readBraces?, notComment, notEcho]
  · by_cases mark : character = '@'
    · subst mark
      obtain ⟨later, rfl⟩ := plain.marks before after parts
      change readDirective? ("parent".toList ++ later ++ rest) = none
      have name : ("parent".toList ++ later ++ rest).takeWhile isNameCharacter =
          'p' :: ("arent".toList ++ later ++ rest).takeWhile isNameCharacter := rfl
      rw [readDirective?, name]
      simp only [ofName?_of_parent]
    · unfold recognize?
      split
      next same => exact absurd (List.cons.inj same).1 brace
      next same => exact absurd (List.cons.inj same).1 mark
      next => rfl

/-! ## Sources -/

/-- A view that puts content into a section and extends another view. -/
def extendingSource (sectionName parent content : String) : String :=
  "@extends('" ++ parent ++ "')\n@section('" ++ sectionName ++ "')" ++ content ++ "@stop"

/-- A view that puts content into a section and shows it. -/
def showingSource (sectionName content : String) : String :=
  "@section('" ++ sectionName ++ "')" ++ content ++ "@show"

theorem toList_extendingSource (sectionName parent content : String) :
    (extendingSource sectionName parent content).toList =
      appliedText .extends (quotedName parent.toList) ++ ('\n' ::
        (appliedText .section (quotedName sectionName.toList) ++
          (content.toList ++ plainText .stop))) := by
  unfold extendingSource
  simp [appliedText, plainText, quotedName, Kind.name]

theorem toList_showingSource (sectionName content : String) :
    (showingSource sectionName content).toList =
      appliedText .section (quotedName sectionName.toList) ++
        (content.toList ++ plainText .show) := by
  unfold showingSource
  simp [appliedText, plainText, quotedName, Kind.name]

/-! ## Compilation -/

theorem literalText_of_plainName {name : List Char} (plain : PlainName name) :
    literalText name = quotedName name := by
  have unchanged : name.flatMap escapeCharacter = name := by
    induction name with
    | nil => rfl
    | cons character name inductionHypothesis =>
        obtain ⟨notQuote, notBackslash, plainLater⟩ := plain.of_cons
        rw [List.flatMap_cons, inductionHypothesis plainLater, escapeCharacter,
          if_neg (not_or.2 ⟨notBackslash, notQuote⟩)]
        rfl
  rw [literalText, unchanged, quotedName]

/-- The pieces of a section from its directive to the one that ends it. -/
def sectionPieces (sectionName content : List Char) (kind : Kind) : List Piece :=
  Piece.directive .section (some (quotedName sectionName))
      (appliedText .section (quotedName sectionName)) ::
    textPieces content ++ [Piece.directive kind none (plainText kind)]

theorem flatMap_sectionPieces {sectionName : List Char} (plain : PlainName sectionName)
    (content : List Char) (kind : Kind) :
    (sectionPieces sectionName content kind).flatMap (fun piece => piece.lowered.raw) =
      tagOf (startLexemes sectionName) ++
        (content ++ (Piece.directive kind none (plainText kind)).lowered.raw) := by
  have start : (Piece.directive .section (some (quotedName sectionName))
      (appliedText .section (quotedName sectionName))).lowered.raw =
        tagOf (startLexemes sectionName) := by
    change tagAround "__env.start_section(" (quotedName sectionName) ");" = _
    rw [← literalText_of_plainName plain]
    simp [tagAround, tag, tagOf, codeOf, startLexemes, callLexemes, space, punctuation,
      nameLexeme, environmentName, beginTag, endTag]
  have captured : (textPieces content).flatMap (fun piece => piece.lowered.raw) = content :=
    flatMap_textPieces (fun _ => rfl) content
  simp only [sectionPieces, List.cons_append, List.flatMap_cons, List.flatMap_append, captured,
    start, List.flatMap_nil, List.append_nil]

section Compilation

variable {sectionName parent content : String} (plainSection : PlainName sectionName.toList)
  (plainContent : PlainContent content.toList)

include plainSection plainContent

/-- Section content between its directive and the one that ends it is one text. -/
theorem pieces_section {kind : Kind} (takes : kind.takesArguments = false) :
    pieces (appliedText .section (quotedName sectionName.toList) ++
        (content.toList ++ plainText kind)) =
      sectionPieces sectionName.toList content.toList kind := by
  have opened := recognize?_applied .section rfl
    (readArguments?_quoted plainSection (content.toList ++ plainText kind))
  have closed : pieces (plainText kind) = [.directive kind none (plainText kind)] := by
    have found := recognize?_plain [] takes (by simp)
    rw [List.append_nil] at found
    rw [pieces_of_recognize? found, pieces]
  have text := pieces_append (plainText kind)
    (recognize?_of_plainContent plainContent (by simp [plainText]))
  rw [pieces_of_recognize? opened, text, closed, foldr_consText (by simp)]
  rfl

/-- The fragment of a view that extends another: its section, and the other view on a new line. -/
theorem toList_compile_extendingSource (plainParent : PlainName parent.toList) :
    (Directive.compile (extendingSource sectionName parent content)).toList =
      tagOf (startLexemes sectionName.toList) ++ (content.toList ++ (tagOf stopLexemes ++
        ('\n' :: tagOf (makeLexemes parent.toList)))) := by
  have extended := recognize?_applied .extends rfl
    (readArguments?_quoted plainParent ('\n' ::
      (appliedText .section (quotedName sectionName.toList) ++
        (content.toList ++ plainText .stop))))
  have cut : pieces (extendingSource sectionName parent content).toList =
      .directive .extends (some (quotedName parent.toList))
          (appliedText .extends (quotedName parent.toList)) ::
        .text ['\n'] :: sectionPieces sectionName.toList content.toList .stop := by
    rw [toList_extendingSource, pieces_of_recognize? extended, pieces_cons rfl,
      pieces_section plainSection plainContent rfl]
    rfl
  have ends : endsInLineFeed (sectionPieces sectionName.toList content.toList .stop) = false := by
    rw [endsInLineFeed, sectionPieces, List.getLast?_concat]
  have stop : (Piece.directive .stop none (plainText .stop)).lowered.raw = tagOf stopLexemes := rfl
  have make : (Piece.directive .include (some (quotedName parent.toList))
      ("@include(".toList ++ quotedName parent.toList ++ [')'])).lowered.raw =
        tagOf (makeLexemes parent.toList) := by
    change tagAround "echo __env.make(" (quotedName parent.toList) ", defined_vars());" = _
    rw [← literalText_of_plainName plainParent]
    simp [tagAround, tag, tagOf, codeOf, makeLexemes, echoLexemes, callLexemes, space, punctuation,
      nameLexeme, environmentName, scopeFunctionName, Keyword.word, beginTag, endTag]
  rw [Directive.compile, compileWith, String.toList_ofList, lower_all, cut,
    inherit_extends _ _ (by simp [sectionPieces]) ends, List.flatMap_append,
    flatMap_sectionPieces plainSection, stop, List.flatMap_cons, List.flatMap_cons, make]
  simp [Piece.lowered, Piece.raw, loweringPasses, Pass.all, Pass.lowerPiece, Pass.lower?]

theorem toList_compile_showingSource :
    (Directive.compile (showingSource sectionName content)).toList =
      tagOf (startLexemes sectionName.toList) ++ (content.toList ++ tagOf yieldLexemes) := by
  have shown : (Piece.directive .show none (plainText .show)).lowered.raw = tagOf yieldLexemes :=
    rfl
  have inherited : inherit (sectionPieces sectionName.toList content.toList .show) =
      sectionPieces sectionName.toList content.toList .show := rfl
  rw [Directive.compile, compileWith, String.toList_ofList, lower_all, toList_showingSource,
    pieces_section plainSection plainContent rfl, inherited, flatMap_sectionPieces plainSection,
    shown]

end Compilation

/-! ## Programs -/

/-- The calls that start a section. -/
abbrev StartsSection (name : String) : Expression → Prop :=
  IsCall "start_section" fun values => ∃ span, values = [.literal (.string name) span]

/-- The calls that close a section in one way or the other. -/
abbrev ClosesSection (method : String) : Expression → Prop :=
  IsCall method fun values => values = []

/-- The calls that render a view with the variables in scope. -/
abbrev MakesView (view : String) : Expression → Prop :=
  IsCall "make" fun values => ∃ span name inner, name.name = scopeFunctionName ∧
    values = [.literal (.string view) span, .call name [] inner]

theorem readsAs_startLexemes (name : String) :
    ReadsAs (startLexemes name.toList) fun action =>
      ∃ call, action = .evaluate call ∧ StartsSection name call := by
  have reads := readsAs_callLexemes "start_section"
    (readsAsArguments_string name.toList)
  rw [String.ofList_toList] at reads
  exact reads

/-- The actions of a view that extends another. -/
def extendingActions (start stop make : Expression) (content : List Char) : List Action :=
  Action.evaluate start ::
    (rawActions content ++ [Action.evaluate stop, Action.raw "\n", Action.echo make])

/-- The actions of a view that shows its section. -/
def showingActions (start yield : Expression) (content : List Char) : List Action :=
  Action.evaluate start :: (rawActions content ++ [Action.echo yield])

theorem readsAs_makeLexemes (view : String) :
    ReadsAs (makeLexemes view.toList) fun action =>
      ∃ call, action = .echo call ∧ MakesView view call := by
  have reads := readsAs_echo_callLexemes "make" (readsAsArguments_make view.toList)
  rw [String.ofList_toList] at reads
  exact reads

theorem exists_program_extendingSource {sectionName parent content : String}
    (plainSection : PlainName sectionName.toList) (plainContent : PlainContent content.toList)
    (plainParent : PlainName parent.toList) :
    ∃ start stop make, StartsSection sectionName start ∧ ClosesSection "stop_section" stop ∧
      MakesView parent make ∧
        Program.compile (Directive.compile (extendingSource sectionName parent content)) =
          .ok ⟨Directive.compile (extendingSource sectionName parent content),
            instructionsOf ((extendingActions start stop make content.toList).map .action)⟩ := by
  have lineFeed : ¬ beginTag <:+: ['\n'] := by decide
  have makes := readsAsActions_tag (lexes_makeLexemes [] parent.toList)
    (readsAs_makeLexemes parent) readsAsActions_nil
  have stops := readsAsActions_tag (lexes_stopLexemes _)
    (readsAs_callLexemes "stop_section" readsAsArguments_nil) (readsAsActions_text lineFeed makes)
  have starts := readsAsActions_tag (lexes_startLexemes _ sectionName.toList)
    (readsAs_startLexemes sectionName) (readsAsActions_text plainContent.noTag stops)
  have source := toList_compile_extendingSource plainSection plainContent plainParent
  rw [← List.append_nil (tagOf (makeLexemes parent.toList)), ← List.singleton_append] at source
  rw [← source] at starts
  obtain ⟨_, ⟨_, _, rfl, ⟨start, rfl, isStart⟩, _, rfl, _, _, rfl, ⟨stop, rfl, isStop⟩, _, rfl,
    _, _, rfl, ⟨make, rfl, isMake⟩, rfl⟩, compiled⟩ := exists_compile_of_readsAsActions starts
  exact ⟨start, stop, make, isStart, isStop, isMake, compiled⟩

theorem exists_program_showingSource {sectionName content : String}
    (plainSection : PlainName sectionName.toList) (plainContent : PlainContent content.toList) :
    ∃ start yield, StartsSection sectionName start ∧ ClosesSection "yield_section" yield ∧
      Program.compile (Directive.compile (showingSource sectionName content)) =
        .ok ⟨Directive.compile (showingSource sectionName content),
          instructionsOf ((showingActions start yield content.toList).map .action)⟩ := by
  have yields := readsAsActions_tag (lexes_yieldLexemes [])
    (readsAs_echo_callLexemes "yield_section" readsAsArguments_nil) readsAsActions_nil
  have starts := readsAsActions_tag (lexes_startLexemes _ sectionName.toList)
    (readsAs_startLexemes sectionName) (readsAsActions_text plainContent.noTag yields)
  have source := toList_compile_showingSource plainSection plainContent
  rw [← List.append_nil (tagOf yieldLexemes)] at source
  rw [← source] at starts
  obtain ⟨_, ⟨_, _, rfl, ⟨start, rfl, isStart⟩, _, rfl, _, _, rfl, ⟨yield, rfl, isYield⟩, rfl⟩,
    compiled⟩ := exists_compile_of_readsAsActions starts
  exact ⟨start, yield, isStart, isYield, compiled⟩

end ViewTemplate
