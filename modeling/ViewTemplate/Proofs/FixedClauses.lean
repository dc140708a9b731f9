import ViewTemplate.Proofs.BlockGrammar
import ViewTemplate.Proofs.DisplacedPrograms
import ViewTemplate.Proofs.FixedReading

/-!
Fragments and the bytes of their instructions. Whatever is wrong with a fragment, some of its bytes
are to blame (`isIn_of_compile`), and so are they for whatever fails in its program
(`mapSpans_of_compile`).
-/

namespace ViewTemplate.Fragment

variable {move : Span → Span} {ending : Ending}

/-! ## Parts of clauses -/

theorem yields_readKeyword (wanted : Keyword) :
    YieldsReader move ending (Token.IsFixed move) (readKeyword ending wanted) := by
  refine yieldsReader_of_cons ⟨_, rfl⟩ fun token tokens inTag => ?_
  rw [readKeyword]
  split
  next found isKeyword =>
    split
    next => exact .ok inTag.first (inTag.tail (by simp [isKeyword]))
    next => exact .error inTag.first.span
  next => exact .error inTag.first.span

theorem yields_readIdentifier :
    YieldsReader move ending (fun identifier => identifier.mapSpan move = identifier)
      (readIdentifier ending) := by
  intro tokens inTag
  exact (yields_readKind (by simp) inTag).bind fun token rest fixed left =>
    .ok fixed.identifier left

theorem yields_readLoopVariables :
    YieldsReader move ending (fun binding => binding.mapSpans move = binding)
      (readLoopVariables ending) := by
  intro tokens inTag
  refine (yields_readIdentifier inTag).bind fun first behind fixedFirst inTag => ?_
  refine yields_peek inTag fun token rest _ => ?_
  split
  next =>
    refine (yields_readKind (by simp) inTag).bind fun arrow next _ inTag => ?_
    refine (yields_readIdentifier inTag).bind fun second rest fixedSecond left => .ok ?_ left
    rw [LoopVariables.mapSpans, fixedFirst, fixedSecond]
  next =>
    refine .ok ?_ inTag
    rw [LoopVariables.mapSpans, fixedFirst]

section Parts

variable (covers : KeepsCovers move)

include covers

theorem yields_readCondition :
    YieldsReader move ending (Expression.IsFixed move) (readCondition ending) := by
  intro tokens inTag
  refine (yields_readKind (by simp) inTag).bind fun opening inner _ inTag => ?_
  refine (yields_readExpression covers inTag).bind fun condition last fixed inTag => ?_
  refine (yields_readKind (by simp) inTag).bind fun close behind _ inTag => ?_
  exact (yields_readKind (by simp) inTag).bind fun colon rest _ left => .ok fixed left

/-- What is done with the rest of an assignment is in place if it is for all assignments and for
none. -/
theorem yields_readAssignmentTo? {α : Type} {Fixed : α → Prop} {fits : List Token → Prop}
    {tokens : List Token} (inTag : InTag move ending tokens) {target : Identifier}
    (fixedTarget : target.mapSpan move = target)
    {next : Option (Assignment × Shorter tokens) →
      Except SyntaxError (α × { rest : List Token // fits rest })}
    (absent : Yields move ending Fixed (next none))
    (assigned : ∀ assignment rest, assignment.mapSpans move = assignment →
      InTag move ending rest.1 → Yields move ending Fixed (next (some (assignment, rest)))) :
    Yields move ending Fixed (readAssignmentTo? ending target tokens >>= next) := by
  have spanTarget : move target.span = target.span := congrArg Identifier.span fixedTarget
  unfold readAssignmentTo?
  rw [bind_assoc]
  refine yields_peek inTag fun token rest parts => ?_
  dsimp only
  split
  next action found =>
    have inside : token.kind ≠ .endTag := ne_of_eq_some found rfl
    rw [bind_assoc]
    refine (yields_readAny inTag parts inside).bind fun symbol behind _ inTag => ?_
    dsimp only
    rw [bind_assoc]
    refine (yields_readExpression covers inTag).bind fun value rest fixed left => ?_
    refine assigned _ _ ?_ left
    rw [Assignment.mapSpans, mapSpans_of_valueAssignment? found, fixedTarget, fixed,
      covers spanTarget fixed.span]
  next action _ found =>
    have inside : token.kind ≠ .endTag := ne_of_eq_some found rfl
    rw [bind_assoc]
    refine (yields_readAny inTag parts inside).bind fun symbol rest fixed left => ?_
    refine assigned _ _ ?_ left
    rw [Assignment.mapSpans, mapSpans_of_stepAssignment? found, fixedTarget,
      covers spanTarget fixed.span]
  next => exact absent

theorem yields_readAssignment :
    YieldsReader move ending (fun assignment => assignment.mapSpans move = assignment)
      (readAssignment ending) := by
  intro tokens inTag
  refine (yields_readIdentifier inTag).bind fun target behind fixed inTag => ?_
  refine yields_readAssignmentTo? covers inTag fixed ?_ fun assignment rest fixed left =>
    .ok fixed left
  obtain ⟨behind, shorter⟩ := behind
  cases behind with
  | nil => exact .error (inTag.missing _)
  | cons token tokens => exact .error inTag.first.span

end Parts

theorem yields_readUpTo {α : Type} {displace : α → α} (mark : Symbol) {part : Reader α}
    (yields : YieldsReader move ending (fun value => displace value = value) part) :
    YieldsReader move ending (fun value? => value?.map displace = value?)
      (readUpTo ending mark part) := by
  intro tokens inTag
  refine yields_peek inTag fun token rest _ => ?_
  split
  next =>
    exact (yields_readKind (by simp) inTag).bind fun close rest _ left => .ok rfl left
  next =>
    refine (yields inTag).bind fun value behind fixed inTag => ?_
    exact (yields_readKind (by simp) inTag).bind fun close rest _ left =>
      .ok (congrArg some fixed) left

/-! ## Clauses -/

section Clauses

variable (covers : KeepsCovers move)

include covers

theorem yields_readForeach :
    YieldsReader move ending (fun clause => clause.mapSpans move = clause)
      (readForeach ending) := by
  intro tokens inTag
  refine (yields_readKind (by simp) inTag).bind fun opening inner _ inTag => ?_
  refine (yields_readExpression covers inTag).bind fun iterable afterIterable fixed inTag => ?_
  refine (yields_readKeyword .as inTag).bind fun word afterAs _ inTag => ?_
  refine (yields_readLoopVariables inTag).bind fun binding last fixedBinding inTag => ?_
  refine (yields_readKind (by simp) inTag).bind fun close behind _ inTag => ?_
  refine (yields_readKind (by simp) inTag).bind fun colon rest _ left => .ok ?_ left
  rw [Clause.mapSpans, fixed, fixedBinding]

theorem yields_readFor :
    YieldsReader move ending (fun clause => clause.mapSpans move = clause)
      (readFor ending) := by
  intro tokens inTag
  refine (yields_readKind (by simp) inTag).bind fun opening inner _ inTag => ?_
  refine (yields_readUpTo .semicolon (yields_readAssignment covers) inTag).bind
    fun start afterStart fixedStart inTag => ?_
  refine (yields_readUpTo .semicolon (yields_readExpression covers) inTag).bind
    fun condition afterCondition fixedCondition inTag => ?_
  refine (yields_readUpTo .rightParenthesis (yields_readAssignment covers) inTag).bind
    fun step behind fixedStep inTag => ?_
  refine (yields_readKind (by simp) inTag).bind fun colon rest _ left => .ok ?_ left
  rw [Clause.mapSpans, fixedStart, fixedCondition, fixedStep]

theorem yields_readKeywordClause {keyword : Token} (fixed : keyword.IsFixed move) (word : Keyword)
    {tokens : List Token} (inTag : InTag move ending tokens) :
    Yields move ending (fun clause => clause.mapSpans move = clause)
      (readKeywordClause ending keyword word tokens) := by
  cases word with
  | echo =>
      refine (yields_readExpression covers inTag).bind fun value rest fixed left => .ok ?_ left
      rw [Clause.mapSpans, Action.mapSpans, fixed]
  | «if» | «elseif» | «while» =>
      refine (yields_readCondition covers inTag).bind fun value rest fixed left => .ok ?_ left
      rw [Clause.mapSpans, fixed]
  | «else» =>
      exact (yields_readKind (by simp) inTag).bind fun colon rest _ left => .ok rfl left
  | foreach =>
      exact (yields_readForeach covers inTag).bind fun clause rest fixed left => .ok fixed left
  | «for» =>
      exact (yields_readFor covers inTag).bind fun clause rest fixed left => .ok fixed left
  | endif | endforeach | endfor | endwhile => exact .ok rfl inTag
  | _ => exact .error fixed.span

theorem yields_readPlainClause :
    YieldsReader move ending (fun clause => clause.mapSpans move = clause)
      (readPlainClause ending) := by
  intro tokens inTag
  refine (yields_readExpression covers inTag).bind fun value behind fixed inTag => ?_
  have evaluated : (Clause.action (.evaluate value)).mapSpans move = .action (.evaluate value) := by
    rw [Clause.mapSpans, Action.mapSpans, fixed]
  cases value with
  | «variable» target =>
      refine yields_readAssignmentTo? covers inTag (Expression.variable.inj fixed)
        (.ok evaluated inTag) fun assignment rest fixed left => .ok ?_ left
      rw [Clause.mapSpans, Action.mapSpans, fixed]
  | _ => exact .ok evaluated inTag

theorem yields_readClause :
    YieldsReader move ending (fun clause => clause.mapSpans move = clause)
      (readClause ending) := by
  intro tokens inTag
  cases tokens with
  | nil => exact yields_readPlainClause covers inTag
  | cons token tokens =>
      rw [readClause]
      split
      next word isKeyword =>
        split
        next => exact yields_readPlainClause covers inTag
        next =>
          have inside : token.kind ≠ .endTag := by simp [isKeyword]
          exact (yields_readKeywordClause covers inTag.first word (inTag.tail inside)).bind
            fun clause rest fixed left => .ok fixed left
      next => exact yields_readPlainClause covers inTag

end Clauses

/-! ## Whole fragments -/

/-- Clauses and an ending whose bytes a function leaves where they are. -/
structure Clauses.IsFixed (move : Span → Span) (clauses : Clauses) : Prop where
  placed : ∀ placed ∈ clauses.clauses, placed.mapSpans move = placed
  failure : ∀ {error}, clauses.ending = .failed error → move error.span = error.span

theorem Clauses.IsFixed.failed {error : SyntaxError} (fixed : move error.span = error.span) :
    Clauses.IsFixed move ⟨[], .failed error⟩ where
  placed := by simp
  failure := by
    intro other same
    cases same
    exact fixed

theorem Clauses.IsFixed.cons {placed : PlacedClause} {clauses : Clauses}
    (first : placed.mapSpans move = placed) (others : clauses.IsFixed move) :
    (clauses.cons placed).IsFixed move where
  placed := List.forall_mem_cons.2 ⟨first, others.placed⟩
  failure := others.failure

theorem isFixed_readClauses (covers : KeepsCovers move) {inTag : Bool} {tokens : List Token}
    (tagged : Tagged move ending tokens) (ends : inTag = true → ClosesTag ending tokens) :
    (readClauses ending inTag tokens).IsFixed move := by
  fun_induction readClauses ending inTag tokens with
  | case1 => exact ⟨by simp, tagged.failure⟩
  | case2 token rest raw inductionHypothesis =>
      refine .cons ?_ (inductionHypothesis tagged.tail (by simp))
      rw [PlacedClause.mapSpans, Clause.mapSpans, Action.mapSpans,
        (tagged.fixed token List.mem_cons_self).span]
  | case3 token rest tag inductionHypothesis =>
      have closes : ClosesTag ending rest :=
        @Tagged.closes _ _ _ tagged [] token rest rfl tag
      exact inductionHypothesis tagged.tail fun _ => closes
  | case4 token rest => exact .failed (tagged.fixed token List.mem_cons_self).span
  | case5 =>
      have inside : InTag move ending [] := ⟨tagged, ends rfl⟩
      exact .failed (inside.missing _)
  | case6 token rest tag inductionHypothesis =>
      exact inductionHypothesis tagged.tail (by simp)
  | case7 token rest comment inductionHypothesis =>
      exact inductionHypothesis tagged.tail fun _ => (ends rfl).tail (by simp [comment])
  | case8 token rest semicolon inductionHypothesis =>
      exact inductionHypothesis tagged.tail fun _ => (ends rfl).tail (by simp [semicolon])
  | case9 token rest error fails =>
      have inside : InTag move ending (token :: rest) := ⟨tagged, ends rfl⟩
      have read := yields_readClause covers inside
      rw [fails] at read
      cases read with
      | error span => exact .failed span
  | case10 token rest clause behind read _ _ _ inductionHypothesis =>
      have inside : InTag move ending (token :: rest) := ⟨tagged, ends rfl⟩
      have yields := yields_readClause covers inside
      rw [read] at yields
      cases yields with
      | ok fixed left =>
          refine .cons ?_ (inductionHypothesis left.toTagged fun _ => left.ends)
          rw [PlacedClause.mapSpans, fixed, inside.first.span]

theorem isFixed_clausesOf {source : List Char} (covers : KeepsCovers move)
    (fixes : ∀ {span : Span}, span.IsIn source → move span = span) :
    (clausesOf source).IsFixed move :=
  isFixed_readClauses covers (tagged_scan fixes) (by simp)

/-! ## Programs -/

theorem Instruction.displaced_zero (instruction : Instruction) :
    instruction.displaced move 0 = instruction.mapSpans move := by
  cases instruction <;> rfl

namespace Clauses.IsFixed

variable {clauses : Clauses} (fixed : clauses.IsFixed move)

include fixed

theorem error {error : SyntaxError} (refused : assemble clauses = .error error) :
    move error.span = error.span := by
  rcases assemble_ok_or_error clauses with ⟨statements, assembled, -⟩ | ⟨other, same, cause⟩
  · rw [assembled] at refused
    cases refused
  · rw [same] at refused
    cases refused
    rcases cause with failed | ⟨placed, member, keyword, -, rfl | rfl⟩
    · exact fixed.failure failed
    · exact congrArg PlacedClause.span (fixed.placed placed member)
    · exact congrArg PlacedClause.span (fixed.placed placed member)

theorem statements {statements : List Statement} (assembled : assemble clauses = .ok statements) :
    statements.map (Statement.mapSpans move) = statements := by
  have folded := (assemble_eq_ok_iff.1 assembled).2
  have same : clauses.clauses.map (PlacedClause.mapSpans move) = clauses.clauses :=
    (List.map_congr_left fixed.placed).trans (List.map_id _)
  have moved : (clauses.clauses.map (PlacedClause.mapSpans move)).foldlM Assembly.next
      ⟨[], []⟩ = .ok ⟨statements.reverse.map (Statement.mapSpans move) ++ [], []⟩ :=
    Assembly.foldlM_next_above folded
  rw [same, folded, List.append_nil] at moved
  have reversed := congrArg Assembly.statements (Except.ok.inj moved)
  rw [List.map_reverse] at reversed
  exact (List.reverse_inj.1 reversed).symm

end Clauses.IsFixed

/-- The instructions of a program stay at their bytes if all bytes of the source do. -/
theorem mapSpans_of_compile {source : String} {program : Program} (covers : KeepsCovers move)
    (fixes : ∀ {span : Span}, span.IsIn source.toList → move span = span)
    (compiled : Program.compile source = .ok program) {instruction : Instruction}
    (member : instruction ∈ program.instructions) :
    instruction.mapSpans move = instruction := by
  obtain ⟨statements, parsed, rfl⟩ := exists_parse_of_compile compiled
  have fixed := (isFixed_clausesOf covers fixes).statements parsed
  have code := layoutAll_mapSpans move 0 0 statements
  rw [mapSpansStatements_eq_map, fixed, ← toList_instructionsOf] at code
  have same := List.map_inj_left.1 (code.symm.trans (List.map_id _).symm) instruction member.val
  rwa [Instruction.displaced_zero] at same

/-! ## Bytes of the source -/

open Classical in
/-- Some bytes of the source for each span: the span itself where possible, else the first
character. -/
noncomputable def Span.clamp (source : List Char) (span : Span) : Span :=
  if span.IsIn source then span else ⟨0, Text.byteLength (source.take 1)⟩

section Clamp

variable {source : List Char}

theorem Span.clamp_of_isIn {span : Span} (inside : span.IsIn source) : span.clamp source = span :=
  if_pos inside

theorem Span.isIn_clamp (nonempty : source ≠ []) (span : Span) :
    (span.clamp source).IsIn source := by
  unfold Span.clamp
  split
  next inside => exact inside
  next =>
    obtain ⟨character, others, rfl⟩ := List.exists_cons_of_ne_nil nonempty
    have parts : character :: others = [] ++ ([character] ++ others) := rfl
    have first := Span.isIn_of_append (List.cons_ne_nil character []) parts
    rw [Text.byteLength, Nat.zero_add] at first
    exact first

theorem Span.keepsCovers_clamp (nonempty : source ≠ []) : KeepsCovers (Span.clamp source) := by
  intro left right fixedLeft fixedRight
  have insideLeft : left.IsIn source := fixedLeft ▸ Span.isIn_clamp nonempty left
  have insideRight : right.IsIn source := fixedRight ▸ Span.isIn_clamp nonempty right
  exact Span.clamp_of_isIn (insideLeft.cover insideRight)

end Clamp

theorem parse_nil : parse [] = .ok [] := by
  change assemble (clausesFrom 0 []) = _
  rw [clausesFrom_nil]
  rfl

/-- What is wrong with a fragment is at some of its bytes. -/
theorem isIn_of_compile {source : String} {error : SyntaxError}
    (refused : Program.compile source = .error error) : error.span.IsIn source.toList := by
  have wrong := parse_of_compile_eq_error refused
  have nonempty : source.toList ≠ [] := by
    intro empty
    rw [empty, parse_nil] at wrong
    cases wrong
  have fixed : error.span.clamp source.toList = error.span :=
    (isFixed_clausesOf (Span.keepsCovers_clamp nonempty) Span.clamp_of_isIn).error wrong
  rw [← fixed]
  exact Span.isIn_clamp nonempty error.span

end ViewTemplate.Fragment
