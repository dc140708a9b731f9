import ViewTemplate.Proofs.DisplacedReading

/-!
Clauses inside longer fragments. The clauses of a fragment without errors stand in front of those of
what follows it, with displaced spans (`clausesFrom_append`).
-/

namespace ViewTemplate.Fragment

def Clause.mapSpans (move : Span → Span) : Clause → Clause
  | .action performed => .action (performed.mapSpans move)
  | .if condition => .if (condition.mapSpans move)
  | .elseif condition => .elseif (condition.mapSpans move)
  | .else => .else
  | .endif => .endif
  | .foreach binding iterable => .foreach (binding.mapSpans move) (iterable.mapSpans move)
  | .endforeach => .endforeach
  | .for start condition step =>
      .for (start.map (Assignment.mapSpans move)) (condition.map (Expression.mapSpans move))
        (step.map (Assignment.mapSpans move))
  | .endfor => .endfor
  | .while condition => .while (condition.mapSpans move)
  | .endwhile => .endwhile

def PlacedClause.mapSpans (move : Span → Span) (placed : PlacedClause) : PlacedClause :=
  ⟨placed.clause.mapSpans move, move placed.span⟩

@[simp]
theorem Clause.mapSpans_id (clause : Clause) : clause.mapSpans id = clause := by
  cases clause with
  | action performed => cases performed <;> simp [Clause.mapSpans, Action.mapSpans]
  | foreach binding iterable => cases binding <;> simp [Clause.mapSpans, LoopVariables.mapSpans]
  | «for» start condition step =>
      have assignments : Assignment.mapSpans id = id := funext Assignment.mapSpans_id
      have expressions : Expression.mapSpans id = id := funext Expression.mapSpans_id
      simp [Clause.mapSpans, assignments, expressions]
  | _ => simp [Clause.mapSpans]

theorem PlacedClause.mapSpans_id : PlacedClause.mapSpans id = id := by
  funext placed
  simp [PlacedClause.mapSpans]

variable {α β : Type} {length distance : Nat} {ending ending' : Ending}
  {old new behind : List Token} (halts : HaltsBoth ending ending' old new)

/-! ## Parts of clauses -/

include halts in
theorem carries_readKeyword (keyword : Keyword) :
    CarriesReader distance old new (Token.later distance) (readKeyword ending keyword)
      (readKeyword ending' keyword) := by
  refine carriesReader_of_cons halts.old ⟨_, rfl⟩ (fun token rest mark => ?_)
    fun token tokens tokens' matched => ?_
  · obtain ⟨kind, text, start⟩ := token
    match kind, mark with
    | .beginTag, _ | .endTag, _ | .comment, _ => exact ⟨_, rfl⟩
  · have sameKind : (token.later distance).kind = token.kind := rfl
    rw [readKeyword, readKeyword, sameKind]
    split
    next =>
      split
      next => exact carries_pure rfl matched
      next => exact carries_error
    next => exact carries_error

include halts in
theorem carries_readCondition :
    CarriesReader distance old new (Expression.mapSpans (Span.later distance))
      (readCondition ending) (readCondition ending') := by
  intro tokens tokens' matched
  refine (carries_readKind halts rfl matched).bind fun opening inner inner' _ _ matched => ?_
  refine (carries_readExpression halts matched).bind fun condition last last' _ _ matched => ?_
  refine (carries_readKind halts rfl matched).bind fun close next next' _ _ matched => ?_
  exact (carries_readKind halts rfl matched).bind fun colon rest rest' _ _ left =>
    carries_pure rfl left

include halts in
theorem carries_readIdentifier :
    CarriesReader distance old new (Identifier.mapSpan (Span.later distance))
      (readIdentifier ending) (readIdentifier ending') := by
  intro tokens tokens' matched
  refine (carries_readKind halts rfl matched).bind fun token rest rest' _ _ left =>
    carries_pure ?_ left
  exact identifier_later distance token

include halts in
theorem carries_readLoopVariables :
    CarriesReader distance old new (LoopVariables.mapSpans (Span.later distance))
      (readLoopVariables ending) (readLoopVariables ending') := by
  intro tokens tokens' matched
  refine (carries_readIdentifier halts matched).bind fun first middle middle' _ _ matched => ?_
  refine carries_peek halts matched fun seen seen' alike => ?_
  split
  next =>
    obtain rfl := (alike _).1 rfl
    refine (carries_readKind halts rfl matched).bind fun arrow next next' _ _ matched => ?_
    exact (carries_readIdentifier halts matched).bind fun second rest rest' _ _ left =>
      carries_pure rfl left
  next notArrow =>
    split
    next => exact absurd ((alike _).2 rfl) notArrow
    next => exact carries_pure rfl matched

theorem mapSpans_of_valueAssignment? {kind : TokenKind} {action : Expression → AssignmentAction}
    (found : valueAssignment? kind = some action) (move : Span → Span) (value : Expression) :
    (action value).mapSpans move = action (value.mapSpans move) := by
  unfold valueAssignment? at found
  split at found <;> cases found <;> rfl

theorem mapSpans_of_stepAssignment? {kind : TokenKind} {action : AssignmentAction}
    (found : stepAssignment? kind = some action) (move : Span → Span) :
    action.mapSpans move = action := by
  unfold stepAssignment? at found
  split at found <;> cases found <;> rfl

theorem readAssignmentTo?_of_halts {tokens : List Token} (halts : Halts ending tokens)
    (target : Identifier) : readAssignmentTo? ending target tokens = .ok none := by
  obtain ⟨seen, looked, noSymbol⟩ := halts.exists_peek
  rw [readAssignmentTo?, looked]
  cases seen with
  | none => rfl
  | some kind =>
      cases kind with
      | symbol symbol => exact absurd rfl (noSymbol symbol)
      | _ => rfl

/-- What is done with the rest of an assignment carries over if it does for all assignments and for
none. -/
theorem carries_readAssignmentTo? (halts : HaltsBoth ending ending' old new) {displace : α → β}
    {fits fits' : List Token → Prop} {tokens tokens' : List Token}
    (matched : Matches distance old new tokens tokens') (target : Identifier)
    {next : Option (Assignment × Shorter tokens) →
      Except SyntaxError (α × { rest : List Token // fits rest })}
    {next' : Option (Assignment × Shorter tokens') →
      Except SyntaxError (β × { rest : List Token // fits' rest })}
    (absent : Carries distance old new displace (next none) (next' none))
    (assigned : ∀ assignment rest rest' proof proof', Matches distance old new rest rest' →
      Carries distance old new displace (next (some (assignment, ⟨rest, proof⟩)))
        (next' (some (assignment.mapSpans (Span.later distance), ⟨rest', proof'⟩)))) :
    Carries distance old new displace (readAssignmentTo? ending target tokens >>= next)
      (readAssignmentTo? ending' (target.mapSpan (Span.later distance)) tokens' >>= next') := by
  cases matched with
  | stop =>
      rw [readAssignmentTo?_of_halts halts.old, readAssignmentTo?_of_halts halts.new]
      exact absent
  | @cons token tokens tokens' matched =>
      unfold readAssignmentTo?
      rw [bind_assoc, bind_assoc]
      refine carries_check (fun seen looked => looked) fun seen => ?_
      cases seen with
      | none => exact absent
      | some kind =>
          dsimp only
          split
          next _ action found =>
            rw [bind_assoc, bind_assoc]
            refine (carries_readAny token matched).bind
              fun symbol inner inner' shorter shorter' matched => ?_
            dsimp only
            rw [bind_assoc, bind_assoc]
            refine (carries_readExpression halts matched).bind
              fun value rest rest' less less' left => ?_
            have carried := assigned ⟨target, action value, target.span.cover value.span⟩ rest rest'
              (Nat.lt_trans less shorter) (Nat.lt_trans less' shorter') left
            rw [Assignment.mapSpans, mapSpans_of_valueAssignment? found, Span.later_cover,
              ← Expression.span_mapSpans (Span.later distance) value] at carried
            exact carried
          next action _ found =>
            rw [bind_assoc, bind_assoc]
            refine (carries_readAny token matched).bind fun symbol rest rest' less less' left => ?_
            have carried := assigned ⟨target, action, target.span.cover symbol.span⟩ rest rest'
              less less' left
            rw [Assignment.mapSpans, mapSpans_of_stepAssignment? found, Span.later_cover,
              ← Token.span_later] at carried
            exact carried
          next => exact absent

include halts in
theorem carries_readAssignment :
    CarriesReader distance old new (Assignment.mapSpans (Span.later distance))
      (readAssignment ending) (readAssignment ending') := by
  intro tokens tokens' matched
  refine (carries_readIdentifier halts matched).bind fun target middle middle' _ _ matched => ?_
  refine carries_readAssignmentTo? halts matched target ?_
    fun assignment rest rest' _ _ left => carries_pure rfl left
  cases middle <;> exact carries_error

theorem carries_readUpTo (halts : HaltsBoth ending ending' old new) {displace : α → β}
    (mark : Symbol) {part : Reader α} {part' : Reader β}
    (carries : CarriesReader distance old new displace part part') :
    CarriesReader distance old new (Option.map displace) (readUpTo ending mark part)
      (readUpTo ending' mark part') := by
  intro tokens tokens' matched
  refine carries_peek halts matched fun seen seen' alike => ?_
  by_cases marked : seen = some (.symbol mark)
  · rw [if_pos marked, if_pos ((alike mark).1 marked)]
    exact (carries_readKind halts rfl matched).bind fun close rest rest' _ _ left =>
      carries_pure rfl left
  · rw [if_neg marked, if_neg fun later => marked ((alike mark).2 later)]
    refine (carries matched).bind fun value next next' _ _ matched => ?_
    exact (carries_readKind halts rfl matched).bind fun close rest rest' _ _ left =>
      carries_pure rfl left

/-! ## Clauses -/

section Clauses

include halts

theorem carries_readForeach :
    CarriesReader distance old new (Clause.mapSpans (Span.later distance))
      (readForeach ending) (readForeach ending') := by
  intro tokens tokens' matched
  refine (carries_readKind halts rfl matched).bind fun opening inner inner' _ _ matched => ?_
  refine (carries_readExpression halts matched).bind
    fun iterable afterIterable afterIterable' _ _ matched => ?_
  refine (carries_readKeyword halts .as matched).bind fun word afterAs afterAs' _ _ matched => ?_
  refine (carries_readLoopVariables halts matched).bind fun binding last last' _ _ matched => ?_
  refine (carries_readKind halts rfl matched).bind fun close next next' _ _ matched => ?_
  exact (carries_readKind halts rfl matched).bind fun colon rest rest' _ _ left =>
    carries_pure rfl left

theorem carries_readFor :
    CarriesReader distance old new (Clause.mapSpans (Span.later distance))
      (readFor ending) (readFor ending') := by
  intro tokens tokens' matched
  refine (carries_readKind halts rfl matched).bind fun opening inner inner' _ _ matched => ?_
  refine (carries_readUpTo halts .semicolon (carries_readAssignment halts) matched).bind
    fun start afterStart afterStart' _ _ matched => ?_
  refine (carries_readUpTo halts .semicolon (carries_readExpression halts) matched).bind
    fun condition afterCondition afterCondition' _ _ matched => ?_
  refine (carries_readUpTo halts .rightParenthesis (carries_readAssignment halts) matched).bind
    fun step next next' _ _ matched => ?_
  exact (carries_readKind halts rfl matched).bind fun colon rest rest' _ _ left =>
    carries_pure rfl left

theorem carries_readKeywordClause (keyword : Token) (word : Keyword) {tokens tokens' : List Token}
    (matched : Matches distance old new tokens tokens') :
    Carries distance old new (Clause.mapSpans (Span.later distance))
      (readKeywordClause ending keyword word tokens)
      (readKeywordClause ending' (keyword.later distance) word tokens') := by
  cases word with
  | echo =>
      exact (carries_readExpression halts matched).bind fun value rest rest' _ _ left =>
        carries_pure rfl left
  | «if» | «elseif» | «while» =>
      exact (carries_readCondition halts matched).bind fun value rest rest' _ _ left =>
        carries_pure rfl left
  | «else» =>
      exact (carries_readKind halts rfl matched).bind fun colon rest rest' _ _ left =>
        carries_pure rfl left
  | foreach =>
      exact (carries_readForeach halts matched).bind fun clause rest rest' _ _ left =>
        carries_pure rfl left
  | «for» =>
      exact (carries_readFor halts matched).bind fun clause rest rest' _ _ left =>
        carries_pure rfl left
  | endif | endforeach | endfor | endwhile => exact carries_pure rfl matched
  | _ => exact carries_error

theorem carries_readPlainClause :
    CarriesReader distance old new (Clause.mapSpans (Span.later distance))
      (readPlainClause ending) (readPlainClause ending') := by
  intro tokens tokens' matched
  refine (carries_readExpression halts matched).bind fun value next next' _ _ matched => ?_
  cases value with
  | «variable» target =>
      exact carries_readAssignmentTo? halts matched target (carries_pure rfl matched)
        fun assignment rest rest' _ _ left => carries_pure rfl left
  | _ => exact carries_pure rfl matched

theorem carries_readClause (token : Token) {tokens tokens' : List Token}
    (matched : Matches distance old new tokens tokens') :
    Carries distance old new (Clause.mapSpans (Span.later distance))
      (readClause ending (token :: tokens))
      (readClause ending' (token.later distance :: tokens')) := by
  have sameKind : (token.later distance).kind = token.kind := rfl
  rw [readClause, readClause, sameKind]
  split
  next word _ =>
    split
    next => exact carries_readPlainClause halts (.cons token matched)
    next =>
      exact (carries_readKeywordClause halts token word matched).bind
        fun clause rest rest' _ _ left => carries_pure rfl left
  next => exact carries_readPlainClause halts (.cons token matched)

end Clauses

/-! ## Whole fragments -/

def Clauses.prepend (front : List PlacedClause) (clauses : Clauses) : Clauses :=
  ⟨front ++ clauses.clauses, clauses.ending⟩

theorem Clauses.clauses_prepend (front : List PlacedClause) (clauses : Clauses) :
    (clauses.prepend front).clauses = front ++ clauses.clauses :=
  rfl

/-- In front of the clauses of `old` and of `new` stand the same clauses, displaced in the second
fragment. -/
def SameFront (distance : Nat) (ending ending' : Ending) (old new : List Token)
    (clauses clauses' : Clauses) : Prop :=
  ∃ inTag front, clauses = (readClauses ending inTag old).prepend front ∧
    clauses' = (readClauses ending' inTag new).prepend
      (front.map (PlacedClause.mapSpans (Span.later distance)))

theorem SameFront.cons {clauses clauses' : Clauses}
    (same : SameFront distance ending ending' old new clauses clauses') (placed : PlacedClause) :
    SameFront distance ending ending' old new (clauses.cons placed)
      (clauses'.cons (placed.mapSpans (Span.later distance))) := by
  obtain ⟨inTag, front, rfl, rfl⟩ := same
  exact ⟨inTag, placed :: front, rfl, rfl⟩

include halts in
/-- Up to where reading stops, a fragment without errors has the same clauses as the other. -/
theorem sameFront_readClauses {inTag : Bool} {tokens tokens' : List Token}
    (matched : Matches distance old new tokens tokens')
    (complete : (readClauses ending inTag tokens).ending = .complete length) :
    SameFront distance ending ending' old new (readClauses ending inTag tokens)
      (readClauses ending' inTag tokens') := by
  cases matched with
  | stop => exact ⟨inTag, [], rfl, rfl⟩
  | @cons token tokens tokens' matched =>
      have sameKind : (token.later distance).kind = token.kind := rfl
      cases inTag with
      | false =>
          rw [readClauses] at complete
          split at complete
          next raw =>
            rw [readClauses_raw raw, readClauses_raw (sameKind.trans raw), Token.span_later]
            exact (sameFront_readClauses matched complete).cons _
          next tag =>
            rw [readClauses_beginTag tag, readClauses_beginTag (sameKind.trans tag)]
            exact sameFront_readClauses matched complete
          next => cases complete
      | true =>
          rw [readClauses] at complete
          split at complete
          next tag =>
            rw [readClauses_endTag tag, readClauses_endTag (sameKind.trans tag)]
            exact sameFront_readClauses matched complete
          next comment =>
            rw [readClauses_comment comment, readClauses_comment (sameKind.trans comment)]
            exact sameFront_readClauses matched complete
          next semicolon =>
            rw [readClauses_semicolon semicolon, readClauses_semicolon (sameKind.trans semicolon)]
            exact sameFront_readClauses matched complete
          next notEnd notComment notSemicolon =>
            split at complete
            next => cases complete
            next clause left read =>
              obtain ⟨left', matched, carried⟩ :=
                carries_readClause halts token matched clause left read
              obtain ⟨left, shorter⟩ := left
              rw [readClauses_clause notEnd notComment notSemicolon ⟨shorter, read⟩]
              rw [← sameKind] at notEnd notComment notSemicolon
              rw [readClauses_clause notEnd notComment notSemicolon carried, Token.span_later]
              exact (sameFront_readClauses matched complete).cons _
termination_by tokens.length
decreasing_by
  all_goals subst_vars
  iterate 5 exact Nat.lt_succ_self _
  exact shorter

/-- The clauses of displaced tokens stand in front of those of what is behind the tokens. -/
theorem readClauses_displaced (stops : Halts ending behind) {inTag : Bool} {tokens : List Token}
    {stop : Nat}
    (complete : (readClauses (.complete length) inTag tokens).ending = .complete stop) :
    readClauses ending inTag (tokens.map (Token.later distance) ++ behind) =
      (readClauses ending false behind).prepend
        ((readClauses (.complete length) inTag tokens).clauses.map
          (PlacedClause.mapSpans (Span.later distance))) := by
  have matched := matches_append distance [] behind tokens
  rw [List.append_nil] at matched
  obtain ⟨inTag', front, short, long⟩ :=
    sameFront_readClauses ⟨.finished rfl, stops⟩ matched complete
  rw [short] at complete
  cases inTag' with
  | true =>
      rw [readClauses] at complete
      cases complete
  | false =>
      rw [long, short, Clauses.clauses_prepend, readClauses, List.append_nil]

theorem significantOf_map_later (distance : Nat) (tokens : List Token) :
    significantOf (tokens.map (Token.later distance)) =
      (significantOf tokens).map (Token.later distance) := by
  rw [significantOf, List.filter_map]
  rfl

/-- A fragment without errors has the same clauses in front of a code tag of a longer one. -/
theorem clausesFrom_append {offset : Nat} {text : List Char}
    (complete : (clausesFrom offset text).ending = .complete length) (distance : Nat)
    (rest : List Char) :
    clausesFrom (offset + distance) (text ++ (beginTag ++ rest)) =
      (clausesFrom (length + distance) (beginTag ++ rest)).prepend
        ((clausesFrom offset text).clauses.map (PlacedClause.mapSpans (Span.later distance))) := by
  have scanned : (scanFrom .text offset text).ending = .complete length :=
    ending_of_readClauses complete
  have stops : Halts (scanFrom .text (length + distance) (beginTag ++ rest)).ending
      (scanFrom .text (length + distance) (beginTag ++ rest)).significant := by
    rw [scanFrom_text_beginTag, significant_cons (by simp)]
    exact .mark rfl
  have cut := scanFrom_append scanned distance rest
  rw [ScanMode.later] at cut
  have significant : (scanFrom .text (offset + distance) (text ++ (beginTag ++ rest))).significant =
      (scanFrom .text offset text).significant.map (Token.later distance) ++
        (scanFrom .text (length + distance) (beginTag ++ rest)).significant := by
    rw [cut, significant_prepend, significantOf_map_later]
    rfl
  rw [clausesFrom, scanned] at complete
  rw [clausesFrom, clausesFrom, clausesFrom, significant, scanned]
  have sameEnding : (scanFrom .text (offset + distance) (text ++ (beginTag ++ rest))).ending =
      (scanFrom .text (length + distance) (beginTag ++ rest)).ending := by
    rw [cut]
    rfl
  rw [sameEnding]
  exact readClauses_displaced stops complete

end ViewTemplate.Fragment
