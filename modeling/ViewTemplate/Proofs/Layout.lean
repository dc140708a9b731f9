import ViewTemplate.Fragment.Program

/-!
The layout of programs. Where the instructions of a statement begin decides all of them, the targets
of their jumps included; compiling with targets that are filled in later gives these instructions
(`toList_instructionsOf`).
-/

namespace ViewTemplate.Fragment

def assignmentCode : Option Assignment → List Instruction
  | some assignment => [.perform (.assign assignment)]
  | none => []

/-- The instructions that leave a loop for `stop` unless the condition holds, if there is one. -/
def conditionCode (stop : Nat) : Option Expression → List Instruction
  | some condition => [.jumpUnless condition stop]
  | none => []

/-- The position where a second branch begins, behind a first one that ends at `stop`. -/
def elseStart (stop : Nat) : Option (List Statement) → Nat
  | some _ => stop + 1
  | none => stop

mutual

/-- The instructions of a statement that begins at position `base`. -/
def layout (base : Nat) : Statement → List Instruction
  | .action action => [.perform action]
  | .branch condition thenBranch elseBranch =>
      let chosen := layoutAll (base + 1) thenBranch
      let stop := base + 1 + chosen.length
      .jumpUnless condition (elseStart stop elseBranch) :: chosen ++ layoutElse stop elseBranch
  | .each binding iterable body =>
      let code := layoutAll (base + 2) body
      .startLoop binding iterable :: .nextElement (base + 2 + code.length + 1) ::
        code ++ [.jump (base + 1)]
  | .count start condition step body =>
      let top := base + (assignmentCode start).length
      let inside := top + (conditionCode 0 condition).length
      let code := layoutAll inside body
      let stop := inside + code.length + (assignmentCode step).length + 1
      assignmentCode start ++ conditionCode stop condition ++ code ++ assignmentCode step ++
        [.jump top]
  | .repeat condition body =>
      let code := layoutAll (base + 1) body
      .jumpUnless condition (base + 1 + code.length + 1) :: code ++ [.jump base]

def layoutAll (base : Nat) : List Statement → List Instruction
  | [] => []
  | statement :: statements =>
      let code := layout base statement
      code ++ layoutAll (base + code.length) statements

def layoutElse (base : Nat) : Option (List Statement) → List Instruction
  | none => []
  | some elseBranch =>
      let code := layoutAll (base + 1) elseBranch
      .jump (base + 1 + code.length) :: code

end

/-- Where a loop goes on afterwards does not change the number of its instructions. -/
theorem length_conditionCode (stop : Nat) (condition : Option Expression) :
    (conditionCode stop condition).length = (conditionCode 0 condition).length := by
  cases condition <;> rfl

/-! ## Filling in targets -/

theorem toList_land {position : Nat} {code : Array Instruction}
    (before : List Instruction) (instruction : Instruction) (after : List Instruction)
    (parts : code.toList = before ++ instruction :: after) (here : position = before.length) :
    (land position code).toList =
      before ++ instruction.retarget code.size :: after := by
  subst here
  rw [land, Array.toList_modify, parts, List.modify_eq_take_cons_drop (by simp)]
  simp

theorem toList_appendAssignment (code : Array Instruction) (assignment : Option Assignment) :
    (appendAssignment code assignment).toList = code.toList ++ assignmentCode assignment := by
  cases assignment with
  | none => simp [appendAssignment, assignmentCode]
  | some assignment => simp [appendAssignment, assignmentCode]

mutual

theorem toList_appendStatement (code : Array Instruction) :
    ∀ statement : Statement,
      (appendStatement code statement).toList = code.toList ++ layout code.size statement
  | .action action => by simp [appendStatement, layout]
  | .branch condition thenBranch elseBranch => by
      have chosen := toList_appendStatements
        (code.push (.jumpUnless condition unknownTarget)) thenBranch
      rw [Array.size_push, Array.toList_push, List.append_assoc] at chosen
      have joined := toList_appendElse condition code.toList
        (layoutAll (code.size + 1) thenBranch) elseBranch chosen
      simp only [appendStatement, layout]
      rw [Array.length_toList, List.append_assoc] at joined
      exact joined
  | .each binding iterable body => by
      have inside := toList_appendStatements
        ((code.push (.startLoop binding iterable)).push (.nextElement unknownTarget)) body
      simp only [appendStatement, layout]
      rw [toList_land (code.toList ++ [.startLoop binding iterable])
        (.nextElement unknownTarget)
        (layoutAll (code.size + 2) body ++ [.jump (code.size + 1)])
        (by simp [inside]) (by simp)]
      simp [inside, Instruction.retarget, ← Array.length_toList]
      omega
  | .count start condition step body => by
      have started := toList_appendAssignment code start
      have top : (appendAssignment code start).size =
          code.size + (assignmentCode start).length := by
        rw [← Array.length_toList, started, List.length_append, Array.length_toList]
      cases condition with
      | none =>
          have inside := toList_appendStatements (appendAssignment code start) body
          simp only [appendStatement, layout, Array.toList_push, toList_appendAssignment, inside,
            top, conditionCode, List.length_nil, Nat.add_zero, List.append_assoc,
            List.nil_append]
      | some condition =>
          have inside := toList_appendStatements
            ((appendAssignment code start).push (.jumpUnless condition unknownTarget)) body
          simp only [Array.toList_push, Array.size_push, started, top] at inside
          simp only [appendStatement, layout]
          rw [toList_land (code.toList ++ assignmentCode start)
            (.jumpUnless condition unknownTarget)
            (layoutAll (code.size + (assignmentCode start).length + 1) body ++
              assignmentCode step ++ [.jump (code.size + (assignmentCode start).length)])
            (by simp [toList_appendAssignment, inside, top]) (by simp [top])]
          simp [← Array.length_toList, toList_appendAssignment, inside, Instruction.retarget,
            conditionCode]
          omega
  | .repeat condition body => by
      have inside := toList_appendStatements (code.push (.jumpUnless condition unknownTarget)) body
      simp only [appendStatement, layout]
      rw [toList_land code.toList (.jumpUnless condition unknownTarget)
        (layoutAll (code.size + 1) body ++ [.jump code.size])
        (by simp [inside]) (by simp)]
      simp [inside, Instruction.retarget, ← Array.length_toList]
      omega

theorem toList_appendStatements (code : Array Instruction) :
    ∀ statements : List Statement,
      (appendStatements code statements).toList = code.toList ++ layoutAll code.size statements
  | [] => by simp [appendStatements, layoutAll]
  | statement :: statements => by
      have first := toList_appendStatement code statement
      have others := toList_appendStatements (appendStatement code statement) statements
      rw [← Array.length_toList, first, List.length_append, Array.length_toList] at others
      simp only [appendStatements, layoutAll, others, List.append_assoc]

theorem toList_appendElse (condition : Expression) (before chosen : List Instruction)
    {code : Array Instruction} :
    ∀ elseBranch : Option (List Statement),
      code.toList = before ++ .jumpUnless condition unknownTarget :: chosen →
        (appendElse before.length code elseBranch).toList =
          before ++ .jumpUnless condition
              (elseStart (before.length + 1 + chosen.length) elseBranch) :: chosen ++
            layoutElse (before.length + 1 + chosen.length) elseBranch
  | none, parts => by
      have size : code.size = before.length + 1 + chosen.length := by
        rw [← Array.length_toList, parts, List.length_append, List.length_cons]
        omega
      rw [appendElse, toList_land before _ chosen parts rfl, size]
      simp [elseStart, layoutElse, Instruction.retarget]
  | some elseBranch, parts => by
      have size : code.size = before.length + 1 + chosen.length := by
        rw [← Array.length_toList, parts, List.length_append, List.length_cons]
        omega
      have turned : (land before.length (code.push (.jump unknownTarget))).toList =
          before ++ .jumpUnless condition (code.size + 1) :: chosen ++ [.jump unknownTarget] := by
        rw [toList_land before (.jumpUnless condition unknownTarget)
          (chosen ++ [.jump unknownTarget]) (by simp [parts]) rfl]
        simp [Instruction.retarget]
      have inside := toList_appendStatements
        (land before.length (code.push (.jump unknownTarget))) elseBranch
      have turnedSize : (land before.length (code.push (.jump unknownTarget))).size =
          code.size + 1 := by
        simp [land]
      rw [turned, turnedSize, size] at inside
      have ended : (appendStatements (land before.length (code.push (.jump unknownTarget)))
          elseBranch).size = before.length + 1 + chosen.length + 1 +
            (layoutAll (before.length + 1 + chosen.length + 1) elseBranch).length := by
        rw [← Array.length_toList, inside]
        simp
        omega
      rw [appendElse, toList_land
        (before ++
          .jumpUnless condition (before.length + 1 + chosen.length + 1) :: chosen)
        (.jump unknownTarget)
        (layoutAll (before.length + 1 + chosen.length + 1) elseBranch)
        (by simp [inside]) (by simp [size]; omega), ended]
      simp [elseStart, layoutElse, Instruction.retarget]

end

theorem toList_instructionsOf (statements : List Statement) :
    (instructionsOf statements).toList = layoutAll 0 statements := by
  rw [instructionsOf, toList_appendStatements]
  simp

/-! ## Targets -/

/-- Every jump among instructions goes on at most at a position. -/
def TargetsWithin (stop : Nat) (code : List Instruction) : Prop :=
  ∀ instruction ∈ code, ∀ target ∈ instruction.target?, target ≤ stop

theorem TargetsWithin.mono {stop later : Nat} {code : List Instruction}
    (within : TargetsWithin stop code) (le : stop ≤ later) : TargetsWithin later code :=
  fun instruction member target found =>
    Nat.le_trans (within instruction member target found) le

theorem targetsWithin_append {stop : Nat} {first second : List Instruction} :
    TargetsWithin stop (first ++ second) ↔
      TargetsWithin stop first ∧ TargetsWithin stop second := by
  simp only [TargetsWithin, List.mem_append, or_imp, forall_and]

theorem targetsWithin_cons {stop : Nat} {instruction : Instruction} {code : List Instruction} :
    TargetsWithin stop (instruction :: code) ↔
      (∀ target ∈ instruction.target?, target ≤ stop) ∧ TargetsWithin stop code := by
  simp only [TargetsWithin, List.mem_cons, forall_eq_or_imp]

theorem targetsWithin_nil (stop : Nat) : TargetsWithin stop [] :=
  fun _ member => nomatch member

theorem targetsWithin_assignmentCode (stop : Nat) (assignment : Option Assignment) :
    TargetsWithin stop (assignmentCode assignment) := by
  cases assignment with
  | none => exact targetsWithin_nil stop
  | some assignment => simp [assignmentCode, TargetsWithin, Instruction.target?]

theorem targetsWithin_conditionCode {stop last : Nat} (le : stop ≤ last)
    (condition : Option Expression) : TargetsWithin last (conditionCode stop condition) := by
  cases condition with
  | none => exact targetsWithin_nil last
  | some condition => simpa [conditionCode, TargetsWithin, Instruction.target?] using le

mutual

theorem targetsWithin_layout (base : Nat) :
    ∀ statement : Statement,
      TargetsWithin (base + (layout base statement).length) (layout base statement)
  | .action action => by simp [layout, TargetsWithin, Instruction.target?]
  | .branch condition thenBranch elseBranch => by
      have chosen := targetsWithin_layoutAll (base + 1) thenBranch
      have turned := targetsWithin_layoutElse
        (base + 1 + (layoutAll (base + 1) thenBranch).length) elseBranch
      simp only [layout, List.cons_append, List.length_cons, List.length_append,
        targetsWithin_cons, targetsWithin_append, Instruction.target?, Option.mem_some_iff,
        forall_eq']
      refine ⟨?_, chosen.mono (by omega), turned.mono (by omega)⟩
      cases elseBranch <;> simp only [elseStart, layoutElse, List.length_cons] <;> omega
  | .each binding iterable body => by
      have round := targetsWithin_layoutAll (base + 2) body
      simp only [layout, List.cons_append, List.length_cons, List.length_append,
        targetsWithin_cons, targetsWithin_append, Instruction.target?, Option.mem_some_iff,
        forall_eq', List.length_nil]
      exact ⟨nofun, by omega, round.mono (by omega), by omega, targetsWithin_nil _⟩
  | .count start condition step body => by
      have round := targetsWithin_layoutAll
        (base + (assignmentCode start).length + (conditionCode 0 condition).length) body
      simp only [layout, List.length_cons, List.length_append, targetsWithin_cons,
        targetsWithin_append, Instruction.target?, Option.mem_some_iff, forall_eq',
        List.length_nil, length_conditionCode _ condition]
      exact ⟨⟨⟨⟨targetsWithin_assignmentCode _ start, targetsWithin_conditionCode (by omega) _⟩,
        round.mono (by omega)⟩, targetsWithin_assignmentCode _ step⟩, by omega,
        targetsWithin_nil _⟩
  | .repeat condition body => by
      have round := targetsWithin_layoutAll (base + 1) body
      simp only [layout, List.cons_append, List.length_cons, List.length_append,
        targetsWithin_cons, targetsWithin_append, Instruction.target?, Option.mem_some_iff,
        forall_eq', List.length_nil]
      exact ⟨by omega, round.mono (by omega), by omega, targetsWithin_nil _⟩

theorem targetsWithin_layoutAll (base : Nat) :
    ∀ statements : List Statement,
      TargetsWithin (base + (layoutAll base statements).length) (layoutAll base statements)
  | [] => targetsWithin_nil _
  | statement :: statements => by
      have first := targetsWithin_layout base statement
      have others := targetsWithin_layoutAll (base + (layout base statement).length) statements
      simp only [layoutAll, List.length_append, targetsWithin_append]
      exact ⟨first.mono (by omega), others.mono (by omega)⟩

theorem targetsWithin_layoutElse (base : Nat) :
    ∀ elseBranch : Option (List Statement),
      TargetsWithin (base + (layoutElse base elseBranch).length) (layoutElse base elseBranch)
  | none => targetsWithin_nil _
  | some elseBranch => by
      have inside := targetsWithin_layoutAll (base + 1) elseBranch
      simp only [layoutElse, List.length_cons, targetsWithin_cons, Instruction.target?,
        Option.mem_some_iff, forall_eq']
      exact ⟨by omega, inside.mono (by omega)⟩

end

/-- No jump of a program goes on farther than behind its last instruction. -/
theorem targetsWithin_instructionsOf (statements : List Statement) :
    TargetsWithin (instructionsOf statements).size (instructionsOf statements).toList := by
  have within := targetsWithin_layoutAll 0 statements
  rwa [Nat.zero_add, ← toList_instructionsOf, Array.length_toList] at within

/-! ## Parts of a program -/

/-- Whether a list stands in a sequence from a position on. -/
def StandsAt {α : Type} (sequence : Nat → Option α) : (base : Nat) → List α → Prop
  | _, [] => True
  | base, entry :: entries => sequence base = some entry ∧ StandsAt sequence (base + 1) entries

namespace StandsAt

variable {α : Type} {sequence : Nat → Option α} {base : Nat}

theorem append {first second : List α} :
    StandsAt sequence base (first ++ second) ↔
      StandsAt sequence base first ∧ StandsAt sequence (base + first.length) second := by
  induction first generalizing base with
  | nil => simp [StandsAt]
  | cons entry entries inductionHypothesis =>
      simp only [List.cons_append, StandsAt, inductionHypothesis, List.length_cons, and_assoc,
        Nat.add_assoc, Nat.add_comm 1]

theorem of_append (before : List α) (part : List α) :
    StandsAt (fun position => (before ++ part)[position]?) before.length part := by
  induction part generalizing before with
  | nil => trivial
  | cons entry entries inductionHypothesis =>
      have others := inductionHypothesis (before ++ [entry])
      rw [List.append_assoc, List.length_append] at others
      exact ⟨by simp, others⟩

end StandsAt

theorem standsAt_instructionsOf (statements : List Statement) :
    StandsAt (fun position => (instructionsOf statements)[position]?) 0
      (layoutAll 0 statements) := by
  have whole := StandsAt.of_append [] (layoutAll 0 statements)
  simpa only [List.nil_append, ← toList_instructionsOf, Array.getElem?_toList,
    List.length_nil] using whole

theorem size_instructionsOf (statements : List Statement) :
    (instructionsOf statements).size = (layoutAll 0 statements).length := by
  rw [← Array.length_toList, toList_instructionsOf]

end ViewTemplate.Fragment
