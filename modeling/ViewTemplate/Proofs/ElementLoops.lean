import ViewTemplate.Proofs.Compilation
import ViewTemplate.Proofs.ElementViews
import ViewTemplate.Proofs.LiteralValues
import ViewTemplate.Proofs.LoopReading
import ViewTemplate.Proofs.MoreSteps

/-!
Two ways to render a view for each element of a list or a map: one call on the environment, or a
loop with a call for each element. They have the same output and leave the same state, or fail with
the same error (`endAlike_showEach_makeEach`).
-/

namespace ViewTemplate

open Fragment Text

/-! ## The calls -/

namespace Fragment

/-- The call `__env.show_each('view', listed, 'iterator')`. -/
def showEachCall (view listed iterator : String) : Expression :=
  .method ⟨"show_each", ⟨0, 0⟩⟩
    [.literal (.string view) ⟨0, 0⟩, .variable ⟨listed, ⟨0, 0⟩⟩,
      .literal (.string iterator) ⟨0, 0⟩] ⟨0, 0⟩

/-- The map `['key' => keyed, 'iterator' => valued]`. -/
def elementMap (iterator keyed valued : String) : Expression :=
  .map [(.literal (.string "key") ⟨0, 0⟩, .variable ⟨keyed, ⟨0, 0⟩⟩),
    (.literal (.string iterator) ⟨0, 0⟩, .variable ⟨valued, ⟨0, 0⟩⟩)] ⟨0, 0⟩

/-- The call `__env.make('view', ['key' => keyed, 'iterator' => valued])`. -/
def makeCall (view iterator keyed valued : String) : Expression :=
  .method ⟨"make", ⟨0, 0⟩⟩
    [.literal (.string view) ⟨0, 0⟩, elementMap iterator keyed valued] ⟨0, 0⟩

/-- A text in single quotes, with its escapes. -/
def singleQuoted (text : String) : String :=
  String.ofList (literalText text.toList)

/-- The call of `showEachCall` as code. -/
def showEachCode (view listed iterator : String) : String :=
  "__env.show_each(" ++ singleQuoted view ++ ", " ++ listed ++ ", " ++ singleQuoted iterator ++ ")"

/-- The call of `makeCall` as code. -/
def makeCode (view iterator keyed valued : String) : String :=
  "__env.make(" ++ singleQuoted view ++ ", ['key' => " ++ keyed ++ ", " ++
    singleQuoted iterator ++ " => " ++ valued ++ "])"

example : showEachCode "row" "xs" "it" = "__env.show_each('row', xs, 'it')" := by decide

example : makeCode "row" "it" "k" "v" = "__env.make('row', ['key' => k, 'it' => v])" := by decide

theorem codeOf_laidOut_showEachCall (view listed iterator : String) :
    codeOf (laidOut (showEachCall view listed iterator).lexemes) =
      (showEachCode view listed iterator).toList := by
  have lexemes : laidOut (showEachCall view listed iterator).lexemes =
      [nameLexeme environmentName, Symbol.dot.lexeme, nameLexeme "show_each",
        Symbol.leftParenthesis.lexeme, stringLexeme view, Symbol.comma.lexeme, space,
        nameLexeme listed, Symbol.comma.lexeme, space, stringLexeme iterator,
        Symbol.rightParenthesis.lexeme] := rfl
  rw [lexemes]
  change _ = ("__env.show_each(" ++ singleQuoted view ++ ", " ++ listed ++ ", " ++
    singleQuoted iterator ++ ")").toList
  simp [codeOf, singleQuoted, nameLexeme, environmentName, stringLexeme, Symbol.lexeme,
    Symbol.text, space]

theorem codeOf_laidOut_makeCall (view iterator keyed valued : String) :
    codeOf (laidOut (makeCall view iterator keyed valued).lexemes) =
      (makeCode view iterator keyed valued).toList := by
  have lexemes : laidOut (makeCall view iterator keyed valued).lexemes =
      [nameLexeme environmentName, Symbol.dot.lexeme, nameLexeme "make",
        Symbol.leftParenthesis.lexeme, stringLexeme view, Symbol.comma.lexeme, space,
        Symbol.leftBracket.lexeme, stringLexeme "key", space, Symbol.arrow.lexeme, space,
        nameLexeme keyed, Symbol.comma.lexeme, space, stringLexeme iterator, space,
        Symbol.arrow.lexeme, space, nameLexeme valued, Symbol.rightBracket.lexeme,
        Symbol.rightParenthesis.lexeme] := rfl
  have quoted : literalText ['k', 'e', 'y'] = ['\'', 'k', 'e', 'y', '\''] := by decide
  rw [lexemes]
  change _ = ("__env.make(" ++ singleQuoted view ++ ", ['key' => " ++ keyed ++ ", " ++
    singleQuoted iterator ++ " => " ++ valued ++ "])").toList
  simp [codeOf, singleQuoted, nameLexeme, environmentName, stringLexeme, quoted, Symbol.lexeme,
    Symbol.text, space]

theorem isName_environment : isName environmentName = true := by decide

theorem isWritten_showEachCall (view iterator : String) {listed : String}
    (named : isName listed = true) :
    IsWritten (showEachCall view listed iterator) ';'
      (laidOut (showEachCall view listed iterator).lexemes) := by
  have method : isName "show_each" = true := by decide
  have nested : (showEachCall view listed iterator).nesting < maxDepth := by
    simp [showEachCall, Expression.nesting, nestingOfAll, maxDepth]
  refine isWritten_laidOut ?_ nested rfl (by decide) fun rest => ?_
  · simp [showEachCall, Expression.isPrintable, areAllPrintable, Literal.isPrintable, named, method]
  · exact ⟨isCutFrom_name isName_environment (by decide) _, isCutFrom_dot _,
      isCutFrom_name method (by decide) _, isCutFrom_leftParenthesis _, isCutFrom_string view _,
      isCutFrom_comma _, isCutFrom_space_name named _ _, isCutFrom_name named (by decide) _,
      isCutFrom_comma _, isCutFrom_space (by decide) _, isCutFrom_string iterator _,
      isCutFrom_rightParenthesis _, trivial⟩

theorem isWritten_makeCall (view iterator : String) {keyed valued : String}
    (keyNamed : isName keyed = true) (valueNamed : isName valued = true) :
    IsWritten (makeCall view iterator keyed valued) ';'
      (laidOut (makeCall view iterator keyed valued).lexemes) := by
  have method : isName "make" = true := by decide
  have nested : (makeCall view iterator keyed valued).nesting < maxDepth := by
    simp [makeCall, elementMap, Expression.nesting, nestingOfAll, nestingOfEntries, maxDepth]
  refine isWritten_laidOut ?_ nested rfl (by decide) fun rest => ?_
  · simp [makeCall, elementMap, Expression.isPrintable, areAllPrintable, areEntriesPrintable,
      Literal.isPrintable, keyNamed, valueNamed, method]
  · exact ⟨isCutFrom_name isName_environment (by decide) _, isCutFrom_dot _,
      isCutFrom_name method (by decide) _, isCutFrom_leftParenthesis _, isCutFrom_string view _,
      isCutFrom_comma _, isCutFrom_space (by decide) _, isCutFrom_leftBracket _,
      isCutFrom_string "key" _, isCutFrom_space (by decide) _, isCutFrom_arrow _,
      isCutFrom_space_name keyNamed _ _, isCutFrom_name keyNamed (by decide) _, isCutFrom_comma _,
      isCutFrom_space (by decide) _, isCutFrom_string iterator _, isCutFrom_space (by decide) _,
      isCutFrom_arrow _, isCutFrom_space_name valueNamed _ _,
      isCutFrom_name valueNamed (by decide) _, isCutFrom_rightBracket _,
      isCutFrom_rightParenthesis _, trivial⟩

end Fragment

namespace RenderContext

variable {σ : Type} {context : RenderContext σ (Render σ)} {scope : Entries Value}

theorem denotes_variable {name : String} {value : Value} (bound : scope.lookup name = some value)
    (span : Span) : context.Denotes scope (.variable ⟨name, span⟩) value := by
  intro read same
  cases read with
  | «variable» identifier =>
      obtain ⟨called, bytes⟩ := identifier
      obtain rfl : called = name := congrArg Identifier.name (Expression.variable.inj same)
      rw [evaluate.eq_def]
      simp only [path?, lookup, bound]
      rfl
  | _ => cases same

/-- What the call of a method does when its arguments have values. -/
theorem evaluate_method {name : String} {arguments : List Expression} {values : List Value}
    (denotes : List.Forall₂ (context.Denotes scope) arguments values) {read : Expression}
    (same : read.bare = (Expression.method ⟨name, ⟨0, 0⟩⟩ arguments ⟨0, 0⟩).bare) :
    ∃ called span, called.name = name ∧
      context.evaluate scope read = context.callNamed called span values := by
  cases read with
  | method called reads span =>
      obtain ⟨names, sameArguments, -⟩ := Expression.method.inj same
      refine ⟨called, span, congrArg Identifier.name names, ?_⟩
      rw [evaluate.eq_def]
      simp only [path?, evaluateAll_of_denotes denotes sameArguments, pure_bind]
  | _ => cases same

theorem denotes_elementMap (iterator : String) {keyed valued : String} {key element : Value}
    (boundKey : scope.lookup keyed = some key) (boundValue : scope.lookup valued = some element) :
    context.Denotes scope (elementMap iterator keyed valued)
      (.map (elementParameters iterator key element)) := by
  intro read same
  cases read with
  | map reads span =>
      obtain ⟨sameEntries, -⟩ := Expression.map.inj same
      have pairs : context.evaluateEntries scope reads =
          (pure [("key", key), (iterator, element)] : Render σ (List (String × Value))) :=
        evaluateEntries_of_denotes
          (.cons ⟨denotes_literal (.string "key") ⟨0, 0⟩, denotes_variable boundKey ⟨0, 0⟩⟩
            (.cons ⟨denotes_literal (.string iterator) ⟨0, 0⟩, denotes_variable boundValue ⟨0, 0⟩⟩
              .nil)) sameEntries
      rw [evaluate.eq_def]
      simp only [path?, pairs, pure_bind]
      rfl
  | _ => cases same

/-- The parameters of the view of an element are those that a map of them gives. -/
theorem mergeParameters_elementParameters (iterator : String) (key element : Value) :
    mergeParameters [.map (elementParameters iterator key element)] =
      .ok (elementParameters iterator key element) :=
  congrArg Except.ok
    (Entries.ofPairs_of_ascending (Entries.ascending_ofPairs [("key", key), (iterator, element)]))

/-- Without elements the call gives what the mark in front of no text says: nothing. -/
theorem showEach_verbatimMark (enter : String → Entries Value → Render σ String)
    (view iterator : String) {collection : Value} {elements : List (Value × Value)}
    (listed : elements? collection = some elements) :
    showEach enter view collection iterator verbatimMark =
      enterEach enter view iterator elements := by
  unfold showEach
  rw [listed]
  cases elements with
  | nil => rfl
  | cons first others => rfl

section Echo

variable {page : Page} {read : Expression} {view iterator : String}

theorem perform_echo_showEach {listed : String} {collection : Value}
    {elements : List (Value × Value)}
    (same : read.bare = (showEachCall view listed iterator).bare)
    (bound : page.scope.lookup listed = some collection)
    (holds : elements? collection = some elements) :
    context.perform page (.echo read) =
      enterEach context.enter view iterator elements >>= fun output =>
        context.emit output page := by
  have denotes : List.Forall₂ (context.Denotes page.scope)
      [.literal (.string view) ⟨0, 0⟩, .variable ⟨listed, ⟨0, 0⟩⟩,
        .literal (.string iterator) ⟨0, 0⟩]
      [.string view, collection, .string iterator] :=
    .cons (denotes_literal (.string view) ⟨0, 0⟩) (.cons (denotes_variable bound ⟨0, 0⟩)
      (.cons (denotes_literal (.string iterator) ⟨0, 0⟩) .nil))
  obtain ⟨called, span, named, evaluated⟩ := evaluate_method denotes same
  have method : EnvironmentMethod.ofName? called.name = some .showEach := by
    rw [named]
    decide
  have call : context.callNamed called span [.string view, collection, .string iterator] =
      enterEach context.enter view iterator elements >>= fun output =>
        (pure (.string output) : Render σ Value) := by
    rw [callNamed, method, ← showEach_verbatimMark context.enter view iterator holds]
    rfl
  rw [perform, evaluated, call, bind_assoc]
  rfl

theorem perform_echo_make {keyed valued : String} {key element : Value}
    (same : read.bare = (makeCall view iterator keyed valued).bare)
    (boundKey : page.scope.lookup keyed = some key)
    (boundValue : page.scope.lookup valued = some element) :
    context.perform page (.echo read) =
      context.enter view (elementParameters iterator key element) >>= fun output =>
        context.emit output page := by
  have denotes : List.Forall₂ (context.Denotes page.scope)
      [.literal (.string view) ⟨0, 0⟩, elementMap iterator keyed valued]
      [.string view, .map (elementParameters iterator key element)] :=
    .cons (denotes_literal (.string view) ⟨0, 0⟩)
      (.cons (denotes_elementMap iterator boundKey boundValue) .nil)
  obtain ⟨called, span, named, evaluated⟩ := evaluate_method denotes same
  have method : EnvironmentMethod.ofName? called.name = some .make := by
    rw [named]
    decide
  have call : context.callNamed called span
        [.string view, .map (elementParameters iterator key element)] =
      context.enter view (elementParameters iterator key element) >>= fun output =>
        (pure (.string output) : Render σ Value) := by
    rw [callNamed, method]
    change (pure view : Render σ String) >>= (fun view =>
      context.check span (mergeParameters [.map (elementParameters iterator key element)]) >>=
        fun parameters => context.enter view parameters >>= fun output =>
          (pure (Value.string output) : Render σ Value)) = _
    rw [mergeParameters_elementParameters]
    rfl
  rw [perform, evaluated, call, bind_assoc]
  rfl

end Echo

/-! ## The statements -/

/-- What a loop goes through is what the value of its variable has as elements. None, which has no
elements, is no list and no map. -/
theorem loopElements_variable {listed : String} {collection : Value} {iterable : Expression}
    {elements : List (Value × Value)}
    (same : iterable.bare = (Expression.variable ⟨listed, ⟨0, 0⟩⟩).bare)
    (bound : scope.lookup listed = some collection) (something : collection ≠ .none)
    (holds : elements? collection = some elements) :
    context.loopElements scope iterable = (pure elements : Render σ (List (Value × Value))) := by
  have denotes : context.evaluate scope iterable = (pure collection : Render σ Value) :=
    denotes_variable bound ⟨0, 0⟩ iterable same
  rw [loopElements, denotes, pure_bind, holds]
  cases collection with
  | none => exact absurd rfl something
  | _ => rfl

section Statements

variable (sees : ∀ view parameters, SeesNoText (context.enter view parameters)) {page : Page}
  {keyName valueName : Identifier} (different : keyName.name ≠ valueName.name)
  {iterable call make : Expression} {view listed iterator : String}
  (sameIterable : iterable.bare = (Expression.variable ⟨listed, ⟨0, 0⟩⟩).bare)
  (sameCall : call.bare = (showEachCall view listed iterator).bare)
  (sameMake : make.bare = (makeCall view iterator keyName.name valueName.name).bare)

include different sameMake

/-- A round of the loop puts out the view of its element. -/
theorem executeAll_echo_make (rounds : Nat) (key element : Value) (page : Page) :
    context.executeAll rounds [.action (.echo make)]
        (page.inRound (.entry keyName valueName) key element) =
      context.enter view (elementParameters iterator key element) >>= fun output =>
        context.emit output (page.inRound (.entry keyName valueName) key element) := by
  have boundKey :
      (page.inRound (.entry keyName valueName) key element).scope.lookup keyName.name =
        some key := by
    simp only [Page.inRound, Entries.lookup_put, if_neg different, if_true]
  have boundValue :
      (page.inRound (.entry keyName valueName) key element).scope.lookup valueName.name =
        some element := by
    simp only [Page.inRound, Entries.lookup_put, if_true]
  simp only [executeAll, execute, perform_echo_make sameMake boundKey boundValue, bind_pure]

variable (context)

include sees sameIterable sameCall

/-- The loop ends like the call, which may stand in another fragment. -/
theorem alike_execute_each {collection : Value} (something : collection ≠ .none)
    {elements : List (Value × Value)} (holds : elements? collection = some elements)
    (bound : page.scope.lookup listed = some collection) (source : String) (rounds : Nat)
    (state : RenderState σ) :
    Outcome.Alike context.base Page.output
      (context.execute rounds (.each (.entry keyName valueName) iterable [.action (.echo make)])
        page state)
      ({ context with source := source }.perform page (.echo call) state) := by
  have loop : context.execute rounds
        (.each (.entry keyName valueName) iterable [.action (.echo make)]) page =
      executeEach (.entry keyName valueName)
        (context.executeAll rounds [.action (.echo make)]) elements page := by
    rw [execute, loopElements_variable sameIterable bound something holds, pure_bind]
  have called : { context with source := source }.perform page (.echo call) =
      enterEach context.enter view iterator elements >>= fun output =>
        context.emit output page :=
    perform_echo_showEach sameCall bound holds
  rw [loop, called]
  exact context.alike_executeEach sees
    (executeAll_echo_make different sameMake rounds) elements page state

end Statements

end RenderContext

/-! ## Runs -/

namespace Outcome.Alike

variable {σ α β : Type} {base : Nat} {output : α → String}

theorem settled {first second : Outcome σ α} (alike : Alike base output first second)
    (settled : Settled first) : Settled second := by
  cases alike with
  | ok reached same => trivial
  | error interrupt same => cases interrupt <;> exact settled

theorem bind_pure {first second : Render σ α} {state : RenderState σ}
    (alike : Alike base output (first state) (second state)) {text : β → String}
    {left right : α → β} (sameLeft : ∀ result, text (left result) = output result)
    (sameRight : ∀ result, text (right result) = output result) :
    Alike base text ((first >>= fun result => pure (left result)) state)
      ((second >>= fun result => pure (right result)) state) := by
  change Alike base text (EStateM.bind first _ state) (EStateM.bind second _ state)
  unfold EStateM.bind
  generalize first state = firstEnd at alike ⊢
  generalize second state = secondEnd at alike ⊢
  cases alike with
  | ok reached same => exact .ok reached ((sameLeft _).trans (same.trans (sameRight _).symm))
  | error interrupt same => exact .error interrupt same

end Outcome.Alike

/-- Two renderings end alike: if one of them ends, then so does the other, in the same way. -/
structure Render.EndAlike {σ α : Type} (base : Nat) (output : α → String)
    (first second : (fuel : Nat) → Render σ α) (state : RenderState σ) : Prop where
  ends_second {outcome : Outcome σ α} :
    Render.Ends first state outcome →
      ∃ other, Render.Ends second state other ∧ Outcome.Alike base output outcome other
  ends_first {outcome : Outcome σ α} :
    Render.Ends second state outcome →
      ∃ other, Render.Ends first state other ∧ Outcome.Alike base output other outcome

/-- What the code of a view is evaluated in that began with `base` captures and inside which views
may stand `levels` deep. Each of them may take `fuel` steps. -/
abbrev Environment.contextAt {σ : Type} (environment : Environment σ) (source : String)
    (base levels fuel : Nat) : RenderContext σ (Render σ) :=
  ⟨environment, source, base, environment.renderAt fuel levels⟩

/-- Carries out a program on a page, in a view that began with `base` captures and inside which
views may stand `levels` deep. -/
def Fragment.Program.runOn {σ : Type} (program : Program) (environment : Environment σ)
    (base levels : Nat) (page : Page) (fuel : Nat) : Render σ RenderFrame :=
  (environment.contextAt program.source base levels fuel).run program.instructions fuel
    ⟨0, [], page⟩

namespace Fragment.Program

variable {σ : Type} {environment : Environment σ} {base levels : Nat} {source₁ source₂ : String}
  {statements₁ statements₂ : List Statement} {page : Page} {state : RenderState σ}

/-- Where a run of statements ends, a run of statements that are executed alike ends alike. -/
theorem exists_ends_of_alike
    (alike : ∀ fuel rounds, Outcome.Alike base Page.output
      ((environment.contextAt source₁ base levels fuel).executeAll rounds statements₁ page state)
      ((environment.contextAt source₂ base levels fuel).executeAll rounds statements₂ page state))
    {outcome : Outcome σ RenderFrame}
    (ends : Render.Ends
      (runOn ⟨source₁, instructionsOf statements₁⟩ environment base levels page) state outcome) :
    ∃ other, Render.Ends
        (runOn ⟨source₂, instructionsOf statements₂⟩ environment base levels page) state other ∧
      Outcome.Alike base (fun frame => frame.page.output) outcome other := by
  obtain ⟨settled, fuel, ran⟩ := ends
  obtain ⟨-, rounds, executed⟩ :=
    ((environment.contextAt source₁ base levels fuel).ends_run_iff statements₁ page state
      outcome).1 ⟨settled, fuel, ran⟩
  let context := environment.contextAt source₂ base levels fuel
  let other := (context.executeAll rounds statements₂ page >>= fun after =>
    pure ⟨(instructionsOf statements₂).size, [], after⟩ : Render σ RenderFrame) state
  have matched : Outcome.Alike base (fun frame => frame.page.output) outcome other := by
    rw [← executed]
    exact (alike fuel rounds).bind_pure (fun _ => rfl) fun _ => rfl
  obtain ⟨settledOther, steps, ranOther⟩ :=
    (context.ends_run_iff statements₂ page state other).2 ⟨matched.settled settled, rounds, rfl⟩
  -- The second run may need more steps than the first one; the views inside may take them too.
  have agrees := Render.agrees_run environment (Nat.le_max_left fuel steps) levels source₂ base
    (instructionsOf statements₂) (Nat.le_max_right fuel steps) ⟨0, [], page⟩ state
  change context.run _ steps _ state = other at ranOther
  refine ⟨other, ⟨settledOther, max fuel steps, ?_⟩, matched⟩
  rw [← ranOther] at settledOther
  exact (agrees settledOther).trans ranOther

/-- Runs of statements end alike if the statements are executed alike. -/
theorem endAlike_of_alike
    (alike : ∀ fuel rounds, Outcome.Alike base Page.output
      ((environment.contextAt source₁ base levels fuel).executeAll rounds statements₁ page state)
      ((environment.contextAt source₂ base levels fuel).executeAll rounds statements₂ page state)) :
    Render.EndAlike base (fun frame => frame.page.output)
      (runOn ⟨source₁, instructionsOf statements₁⟩ environment base levels page)
      (runOn ⟨source₂, instructionsOf statements₂⟩ environment base levels page) state where
  ends_second := exists_ends_of_alike alike
  ends_first ends := by
    obtain ⟨other, endsOther, matched⟩ :=
      exists_ends_of_alike (fun fuel rounds => (alike fuel rounds).symm) ends
    exact ⟨other, endsOther, matched.symm⟩

end Fragment.Program

/-! ## Fragments -/

/-- A fragment that has a view rendered for each element of a variable. -/
def showEachFragment (view listed iterator : String) : String :=
  "<% echo " ++ showEachCode view listed iterator ++ "; %>"

/-- A fragment that goes through the elements of a variable and renders a view for each. -/
def makeEachFragment (view listed iterator keyed valued : String) : String :=
  "<% foreach (" ++ listed ++ " as " ++ keyed ++ " => " ++ valued ++ "): echo " ++
    makeCode view iterator keyed valued ++ "; endforeach; %>"

theorem compile_of_parse {source : String} {statements : List Statement}
    (parsed : parse source.toList = .ok statements) :
    Program.compile source = .ok ⟨source, instructionsOf statements⟩ := by
  rw [Program.compile, parsed]
  rfl

section Fragments

variable (view iterator : String) {listed keyed valued : String} (listNamed : isName listed = true)

include listNamed

theorem parse_showEachFragment :
    ∃ call : Expression, call.bare = (showEachCall view listed iterator).bare ∧
      parse (showEachFragment view listed iterator).toList = .ok [.action (.echo call)] := by
  obtain ⟨call, same, parsed⟩ := (isWritten_showEachCall view iterator listNamed).parse_echo
  rw [codeOf_laidOut_showEachCall, String.ofList_toList] at parsed
  exact ⟨call, same, parsed⟩

variable (keyNamed : isName keyed = true) (valueNamed : isName valued = true)

include keyNamed valueNamed

theorem parse_makeEachFragment :
    ∃ (keyName valueName : Identifier) (iterable make : Expression),
      keyName.name = keyed ∧ valueName.name = valued ∧
        iterable.bare = (Expression.variable ⟨listed, ⟨0, 0⟩⟩).bare ∧
          make.bare = (makeCall view iterator keyed valued).bare ∧
            parse (makeEachFragment view listed iterator keyed valued).toList =
              .ok [.each (.entry keyName valueName) iterable [.action (.echo make)]] := by
  obtain ⟨keyName, valueName, iterable, make, called, calledValue, sameIterable, sameMake,
    parsed⟩ := (isWritten_variable listNamed).parse_elementLoop
      (isWritten_makeCall view iterator keyNamed valueNamed) keyNamed valueNamed
  have name : String.ofList (codeOf [nameLexeme listed]) = listed := by
    rw [codeOf, List.flatMap_singleton, nameLexeme, String.ofList_toList]
  rw [codeOf_laidOut_makeCall, String.ofList_toList, name] at parsed
  exact ⟨keyName, valueName, iterable, make, called, calledValue, sameIterable, sameMake, parsed⟩

/-- A view for each element can be had in two ways. On every page on which a variable has a list or
a map as its value, the call that has a view rendered for each of its elements and the loop with a
call for each element end alike: they put out the same text, be it to the view or to a capture, and
leave the same state, or they fail with the same error. -/
theorem endAlike_showEach_makeEach (different : keyed ≠ valued) :
    ∃ call loop, Program.compile (showEachFragment view listed iterator) = .ok call ∧
      Program.compile (makeEachFragment view listed iterator keyed valued) = .ok loop ∧
        ∀ {σ : Type} (environment : Environment σ) (base levels : Nat) (page : Page)
          (state : RenderState σ) (collection : Value),
          page.scope.lookup listed = some collection →
            collection.kind = .list ∨ collection.kind = .map →
              Render.EndAlike base (fun frame => frame.page.output)
                (loop.runOn environment base levels page)
                (call.runOn environment base levels page) state := by
  obtain ⟨call, sameCall, callParsed⟩ := parse_showEachFragment view iterator listNamed
  obtain ⟨keyName, valueName, iterable, make, rfl, rfl, sameIterable, sameMake, loopParsed⟩ :=
    parse_makeEachFragment view iterator listNamed keyNamed valueNamed
  refine ⟨_, _, compile_of_parse callParsed, compile_of_parse loopParsed,
    fun environment base levels page state collection bound isCollection => ?_⟩
  have something : collection ≠ .none := by
    rintro rfl
    simp [Value.kind] at isCollection
  obtain ⟨elements, holds⟩ : ∃ elements, RenderContext.elements? collection = some elements := by
    cases collection with
    | list items => exact ⟨_, rfl⟩
    | map entries => exact ⟨_, rfl⟩
    | _ => simp [Value.kind] at isCollection
  refine Program.endAlike_of_alike fun fuel rounds => ?_
  let loopFragment := makeEachFragment view listed iterator keyName.name valueName.name
  have execution := (environment.contextAt loopFragment base levels fuel).alike_execute_each
    (seesNoText_renderAt environment fuel levels) different sameIterable sameCall sameMake something
    holds bound (showEachFragment view listed iterator) rounds state
  simp only [RenderContext.executeAll, RenderContext.execute, bind_pure] at execution ⊢
  exact execution

end Fragments

/-- The iterator may be called `key`: then the element takes the place of its own key. -/
theorem endAlike_showEach_makeEach_key :
    isName "xs" = true ∧ isName "k" = true ∧ isName "v" = true ∧ "k" ≠ "v" ∧
      ∃ call loop, Program.compile (showEachFragment "row" "xs" "key") = .ok call ∧
        Program.compile (makeEachFragment "row" "xs" "key" "k" "v") = .ok loop ∧
          ∀ {σ : Type} (environment : Environment σ) (base levels : Nat) (state : RenderState σ),
            let page : Page := ⟨[("xs", .list [.string "a", .map [("b", .none)]])], "rows: "⟩
            Render.EndAlike base (fun frame => frame.page.output)
              (loop.runOn environment base levels page) (call.runOn environment base levels page)
                state := by
  have listNamed : isName "xs" = true := by decide
  have keyNamed : isName "k" = true := by decide
  have valueNamed : isName "v" = true := by decide
  have different : "k" ≠ "v" := by decide
  obtain ⟨call, loop, callCompiled, loopCompiled, alike⟩ :=
    endAlike_showEach_makeEach "row" "key" listNamed keyNamed valueNamed different
  exact ⟨listNamed, keyNamed, valueNamed, different, call, loop, callCompiled, loopCompiled,
    fun environment base levels state =>
      alike environment base levels _ state (.list [.string "a", .map [("b", .none)]]) rfl
        (.inl rfl)⟩

end ViewTemplate
