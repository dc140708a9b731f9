import ViewTemplate.Fragment.Assembly

/-!
Programs: statements as instructions with jumps. Instructions are put behind each other; a jump
forward gets its target once the position it goes to is known.
-/

namespace ViewTemplate.Fragment

inductive Instruction where
  | perform (action : Action)
  /-- Goes on at a position. -/
  | jump (target : Nat)
  /-- Goes on at a position unless the condition holds. -/
  | jumpUnless (condition : Expression) (target : Nat)
  /-- Starts a loop over a list or a map. -/
  | startLoop (binding : LoopVariables) (iterable : Expression)
  /-- Binds the next element of the innermost loop, or ends that loop and goes on at a position. -/
  | nextElement (target : Nat)

/-- The target of a jump as long as the position it goes to is not known. -/
def unknownTarget : Nat := UInt64.size - 1

/-- The position that an instruction may go on at, if it is a jump. -/
def Instruction.target? : Instruction → Option Nat
  | .jump target | .jumpUnless _ target | .nextElement target => some target
  | .perform _ | .startLoop _ _ => none

/-- The instruction with another target, if it is a jump. -/
def Instruction.retarget (target : Nat) : Instruction → Instruction
  | .jump _ => .jump target
  | .jumpUnless condition _ => .jumpUnless condition target
  | .nextElement _ => .nextElement target
  | other => other

/-- Lets the jump at a position go on behind all instructions so far. -/
def land (position : Nat) (code : Array Instruction) : Array Instruction :=
  code.modify position (Instruction.retarget code.size)

/-- Puts an assignment behind the instructions so far, if there is one. -/
def appendAssignment (code : Array Instruction) : Option Assignment → Array Instruction
  | some assignment => code.push (.perform (.assign assignment))
  | none => code

mutual

def appendStatement (code : Array Instruction) : Statement → Array Instruction
  | .action action => code.push (.perform action)
  | .branch condition thenBranch elseBranch =>
      let choice := code.size
      let chosen := appendStatements (code.push (.jumpUnless condition unknownTarget)) thenBranch
      appendElse choice chosen elseBranch
  | .each binding iterable body =>
      let top := code.size + 1
      let opened := (code.push (.startLoop binding iterable)).push (.nextElement unknownTarget)
      land top ((appendStatements opened body).push (.jump top))
  | .count start condition step body =>
      let started := appendAssignment code start
      let top := started.size
      match condition with
      | some condition =>
          let opened := started.push (.jumpUnless condition unknownTarget)
          land top ((appendAssignment (appendStatements opened body) step).push (.jump top))
      | none => (appendAssignment (appendStatements started body) step).push (.jump top)
  | .repeat condition body =>
      let top := code.size
      let opened := code.push (.jumpUnless condition unknownTarget)
      land top ((appendStatements opened body).push (.jump top))

def appendStatements (code : Array Instruction) : List Statement → Array Instruction
  | [] => code
  | statement :: statements => appendStatements (appendStatement code statement) statements

/-- Puts the second branch, if there is one, behind the instructions so far, which end with the
first. `choice` is the position of the jump between them. -/
def appendElse (choice : Nat) (code : Array Instruction) :
    Option (List Statement) → Array Instruction
  | none => land choice code
  | some elseBranch =>
      let leaving := code.size
      let turned := land choice (code.push (.jump unknownTarget))
      land leaving (appendStatements turned elseBranch)

end

def instructionsOf (statements : List Statement) : Array Instruction :=
  appendStatements #[] statements

/-- A fragment that is ready to be run: its source and its instructions. -/
structure Program where
  source : String
  instructions : Array Instruction

def Program.compile (source : String) : Except SyntaxError Program := do
  let statements ← parse source.toList
  .ok ⟨source, instructionsOf statements⟩

theorem exists_parse_of_compile {source : String} {program : Program}
    (compiled : Program.compile source = .ok program) :
    ∃ statements, parse source.toList = .ok statements ∧
      program = ⟨source, instructionsOf statements⟩ := by
  obtain ⟨statements, parsed, made⟩ := bind_eq_ok.1 compiled
  cases made
  exact ⟨statements, parsed, rfl⟩

theorem parse_of_compile_eq_error {source : String} {error : SyntaxError}
    (refused : Program.compile source = .error error) : parse source.toList = .error error := by
  rw [Program.compile] at refused
  cases parsed : parse source.toList with
  | ok statements =>
      rw [parsed] at refused
      cases refused
  | error fault =>
      rw [parsed] at refused
      cases refused
      rfl

theorem Program.source_of_compile {source : String} {program : Program}
    (compiled : Program.compile source = .ok program) : program.source = source := by
  obtain ⟨statements, -, rfl⟩ := exists_parse_of_compile compiled
  rfl

end ViewTemplate.Fragment
