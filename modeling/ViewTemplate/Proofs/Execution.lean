import ViewTemplate.Proofs.Layout
import ViewTemplate.Render.Machine

/-!
Execution of statements without instructions: by recursion on the statements, where only the rounds
of loops need a bound. Running the laid out instructions of statements is executing them and going
on behind them (`simulates_executeAll`).
-/

namespace ViewTemplate

open Fragment

/-! ## Direct execution -/

/-- The page in a round of a loop. The variables of the loop lie on those around it, the one for the
key below the one for the element. -/
def Page.inRound (binding : LoopVariables) (key element : Value) (page : Page) : Page :=
  match binding with
  | .item item => { page with scope := Entries.put item.name element page.scope }
  | .entry keyName valueName =>
      { page with
        scope := Entries.put valueName.name element (Entries.put keyName.name key page.scope) }

theorem Page.bindElement_eq_inRound (binding : LoopVariables) (key element : Value) (page : Page) :
    page.bindElement binding key element = page.inRound binding key element := by
  cases binding <;> rfl

namespace RenderContext

section Execution

variable {σ : Type} {m : Type → Type} [Rendering σ m] (context : RenderContext σ m)

def performIfAny (page : Page) : Option Assignment → m Page
  | some assignment => context.perform page (.assign assignment)
  | none => return page

/-- Whether a condition holds. A missing one does. -/
def holds (condition : Option Expression) (page : Page) : m Bool :=
  match condition with
  | some condition => do
      let value ← context.evaluate page.scope condition
      return value.isTruthy
  | none => return true

/-- Goes through rounds of a loop while a condition holds, through fewer than `rounds`. -/
def executeWhile (condition : Page → m Bool) (round : Page → m Page) :
    (rounds : Nat) → Page → m Page
  | 0, _ => Rendering.exhaust
  | rounds + 1, page => do
      if ← condition page then
        let after ← round page
        executeWhile condition round rounds after
      else return page

/-- Goes through a round of a loop for each element, with the variables of the loop bound. -/
def executeEach (binding : LoopVariables) (round : Page → m Page) :
    List (Value × Value) → Page → m Page
  | [], page => return page
  | (key, element) :: others, page => do
      let after ← round (page.inRound binding key element)
      executeEach binding round others after

mutual

/-- Executes a statement. Each loop with a condition may take fewer than `rounds` rounds. -/
def execute (rounds : Nat) : Statement → Page → m Page
  | .action action, page => context.perform page action
  | .branch condition thenBranch elseBranch, page => do
      let value ← context.evaluate page.scope condition
      if value.isTruthy then executeAll rounds thenBranch page
      else executeElse rounds elseBranch page
  | .each binding iterable body, page => do
      let elements ← context.loopElements page.scope iterable
      executeEach binding (executeAll rounds body) elements page
  | .count start condition step body, page => do
      let started ← context.performIfAny page start
      executeWhile (context.holds condition)
        (fun page => do
          let after ← executeAll rounds body page
          context.performIfAny after step)
        rounds started
  | .repeat condition body, page =>
      executeWhile (context.holds (some condition)) (executeAll rounds body) rounds page

def executeAll (rounds : Nat) : List Statement → Page → m Page
  | [], page => return page
  | statement :: statements, page => do
      let after ← execute rounds statement page
      executeAll rounds statements after

def executeElse (rounds : Nat) : Option (List Statement) → Page → m Page
  | none, page => return page
  | some elseBranch, page => executeAll rounds elseBranch page

end

end Execution

end RenderContext

/-! ## Simulation -/

/-- The allowed number of steps sufficed. -/
def Outcome.Settled {σ α : Type} : Outcome σ α → Prop
  | .error .exhausted _ => False
  | .error (.failed _) _ | .ok _ _ => True

variable {σ α β : Type}

theorem Render.bind_of_ok {x : Render σ α} {state reached : RenderState σ} {result : α}
    (ended : x state = .ok result reached) (next : α → Render σ β) :
    (x >>= next) state = next result reached := by
  change EStateM.bind x next state = _
  rw [EStateM.bind, ended]

theorem Render.bind_of_error {x : Render σ α} {state reached : RenderState σ}
    {interrupt : Interrupt} (ended : x state = .error interrupt reached) (next : α → Render σ β) :
    (x >>= next) state = .error interrupt reached := by
  change EStateM.bind x next state = _
  rw [EStateM.bind, ended]

theorem Render.exists_ok_of_bind {x : Render σ α} {next : α → Render σ β}
    {state last : RenderState σ} {result : β} (ended : (x >>= next) state = .ok result last) :
    ∃ middle reached, x state = .ok middle reached ∧ next middle reached = .ok result last := by
  cases first : x state with
  | ok middle reached => exact ⟨middle, reached, rfl, (bind_of_ok first next).symm.trans ended⟩
  | error interrupt reached => cases (bind_of_error first next).symm.trans ended

theorem Render.settled_of_bind {x : Render σ α} {next : α → Render σ β} {state : RenderState σ}
    (settled : Outcome.Settled ((x >>= next) state)) : Outcome.Settled (x state) := by
  cases ended : x state with
  | ok result reached => trivial
  | error interrupt reached =>
      rw [bind_of_error ended] at settled
      cases interrupt with
      | failed error => trivial
      | exhausted => exact settled

open Render

namespace RenderContext

variable (context : RenderContext σ (Render σ)) (instructions : Array Instruction)

/-- With enough steps, running instructions from a frame does what a direct execution does and then
goes on from the frame that comes next. -/
def Reproduces (frame : RenderFrame) (direct : Render σ α) (next : α → RenderFrame)
    (state : RenderState σ) : Prop :=
  Outcome.Settled (direct state) →
    ∃ steps, ∀ fuel,
      context.run instructions (fuel + steps) frame state =
        (direct >>= fun result => context.run instructions fuel (next result)) state

/-- If a number of steps suffices, running instructions from a frame does only what a direct
execution does, and then goes on from the frame that comes next with the steps that are left. -/
def Refines (fuel : Nat) (frame : RenderFrame) (direct : Render σ α) (next : α → RenderFrame)
    (state : RenderState σ) : Prop :=
  Outcome.Settled (context.run instructions fuel frame state) →
    ∃ rest ≤ fuel,
      context.run instructions fuel frame state =
        (direct >>= fun result => context.run instructions rest (next result)) state

/-- Running instructions from a frame is a direct execution and then running them from the frame
that comes next. The direct execution needs at most as many rounds as the run has steps. -/
structure Simulates (frame : RenderFrame) (direct : (rounds : Nat) → Render σ α)
    (next : α → RenderFrame) : Prop where
  reproduces (rounds : Nat) (state : RenderState σ) :
    context.Reproduces instructions frame (direct rounds) next state
  refines {fuel rounds : Nat} (enough : fuel ≤ rounds) (state : RenderState σ) :
    context.Refines instructions fuel frame (direct rounds) next state

variable {context instructions} {frame : RenderFrame}

theorem run_succ {instruction : Instruction}
    (here : instructions[frame.position]? = some instruction) (fuel : Nat) :
    context.run instructions (fuel + 1) frame =
      context.step frame instruction >>= context.run instructions fuel := by
  rw [run, here]

theorem exists_less_of_settled {fuel : Nat} {state : RenderState σ}
    (settled : Outcome.Settled (context.run instructions fuel frame state)) :
    ∃ less, fuel = less + 1 := by
  cases fuel with
  | zero => cases settled
  | succ less => exact ⟨less, rfl⟩

/-! ### Sequences -/

theorem Reproduces.bind {first : Render σ α} {between : α → RenderFrame}
    {second : α → Render σ β} {next : β → RenderFrame} {state : RenderState σ}
    (left : context.Reproduces instructions frame first between state)
    (right : ∀ result reached,
      context.Reproduces instructions (between result) (second result) next reached) :
    context.Reproduces instructions frame (first >>= second) next state := by
  intro settled
  obtain ⟨steps, firstRun⟩ := left (settled_of_bind settled)
  cases ended : first state with
  | error interrupt reached =>
      refine ⟨steps, fun fuel => ?_⟩
      rw [firstRun, bind_assoc, bind_of_error ended, bind_of_error ended]
  | ok result reached =>
      rw [bind_of_ok ended] at settled
      obtain ⟨later, secondRun⟩ := right result reached settled
      refine ⟨later + steps, fun fuel => ?_⟩
      rw [← Nat.add_assoc, firstRun, bind_assoc, bind_of_ok ended, bind_of_ok ended, secondRun]

theorem Refines.bind {fuel : Nat} {first : Render σ α} {between : α → RenderFrame}
    {second : α → Render σ β} {next : β → RenderFrame} {state : RenderState σ}
    (left : context.Refines instructions fuel frame first between state)
    (right : ∀ rest ≤ fuel, ∀ result reached,
      context.Refines instructions rest (between result) (second result) next reached) :
    context.Refines instructions fuel frame (first >>= second) next state := by
  intro settled
  obtain ⟨rest, restLe, firstRun⟩ := left settled
  cases ended : first state with
  | error interrupt reached =>
      refine ⟨rest, restLe, ?_⟩
      rw [firstRun, bind_assoc, bind_of_error ended, bind_of_error ended]
  | ok result reached =>
      rw [firstRun, bind_of_ok ended] at settled
      obtain ⟨last, lastLe, secondRun⟩ := right rest restLe result reached settled
      refine ⟨last, Nat.le_trans lastLe restLe, ?_⟩
      rw [firstRun, bind_assoc, bind_of_ok ended, bind_of_ok ended, secondRun]

namespace Simulates

theorem pure (result : α) (next : α → RenderFrame) :
    context.Simulates instructions (next result) (fun _ => Pure.pure result) next where
  reproduces _ _ _ := ⟨0, fun _ => rfl⟩
  refines {fuel} _ _ _ _ := ⟨fuel, Nat.le_refl fuel, rfl⟩

theorem bind {first : Nat → Render σ α} {between : α → RenderFrame}
    {second : Nat → α → Render σ β} {next : β → RenderFrame}
    (left : context.Simulates instructions frame first between)
    (right : ∀ result, context.Simulates instructions (between result)
      (fun rounds => second rounds result) next) :
    context.Simulates instructions frame (fun rounds => first rounds >>= second rounds) next where
  reproduces rounds state :=
    (left.reproduces rounds state).bind fun result => (right result).reproduces rounds
  refines enough state :=
    (left.refines enough state).bind fun _ restLe result =>
      (right result).refines (Nat.le_trans restLe enough)

/-- One instruction is a direct execution if it does the same. -/
theorem of_step {instruction : Instruction} {direct : Render σ α} {next : α → RenderFrame}
    (here : instructions[frame.position]? = some instruction)
    (same : context.step frame instruction = direct >>= fun result => Pure.pure (next result)) :
    context.Simulates instructions frame (fun _ => direct) next := by
  have stepped (fuel : Nat) : context.run instructions (fuel + 1) frame =
      direct >>= fun result => context.run instructions fuel (next result) := by
    rw [run_succ here, same, bind_assoc]
    simp only [pure_bind]
  refine ⟨fun _ state _ => ⟨1, fun fuel => by rw [stepped]⟩, ?_⟩
  intro fuel rounds enough state settled
  obtain ⟨less, rfl⟩ := exists_less_of_settled settled
  exact ⟨less, Nat.le_succ less, by rw [stepped]⟩

/-- A jump comes before what is done at its target. -/
theorem of_jump {target : RenderFrame} {direct : Nat → Render σ α} {next : α → RenderFrame}
    {instruction : Instruction} (here : instructions[frame.position]? = some instruction)
    (jumps : context.step frame instruction = Pure.pure target)
    (simulates : context.Simulates instructions target direct next) :
    context.Simulates instructions frame direct next := by
  have jump : context.Simulates instructions frame (fun _ => Pure.pure ()) fun _ => target :=
    of_step here (by rw [jumps, pure_bind])
  exact jump.bind fun _ => simulates

/-- A jump comes behind what is done in front of it. -/
theorem before_jump {direct : Nat → Render σ α} {between next : α → RenderFrame}
    {instruction : Instruction} (simulates : context.Simulates instructions frame direct between)
    (here : ∀ result, instructions[(between result).position]? = some instruction)
    (jumps : ∀ result, context.step (between result) instruction = Pure.pure (next result)) :
    context.Simulates instructions frame direct next := by
  have joined : context.Simulates instructions frame
      (fun rounds => direct rounds >>= fun result => Pure.pure result) next :=
    simulates.bind fun result => of_jump (here result) (jumps result) (pure result next)
  simpa only [bind_pure] using joined

/-! ### Loops -/

/-- A loop with a condition: the instructions test the condition on top, go through a round, and
come back with at least one step. -/
theorem executeWhile {condition : Page → Render σ Bool} {round : Nat → Page → Render σ Page}
    {top behind : Page → RenderFrame} (inside bottom : Page → RenderFrame)
    (choice : ∀ page, context.Simulates instructions (top page) (fun _ => condition page)
      fun holds => if holds then inside page else behind page)
    (body : ∀ page, context.Simulates instructions (inside page)
      (fun rounds => round rounds page) bottom)
    (returns : ∀ fuel page, context.run instructions (fuel + 1) (bottom page) =
      context.run instructions fuel (top page)) (page : Page) :
    context.Simulates instructions (top page)
      (fun rounds => RenderContext.executeWhile condition (round rounds) rounds page) behind where
  reproduces rounds state := by
    -- The rounds that are left decrease, those of the loops in the body do not.
    suffices bounded : ∀ left page state, context.Reproduces instructions (top page)
        (RenderContext.executeWhile condition (round rounds) left page) behind state from
      bounded rounds page state
    intro left
    induction left with
    | zero => exact fun _ _ settled => settled.elim
    | succ left inductionHypothesis =>
        intro page state
        refine ((choice page).reproduces rounds state).bind fun holds reached => ?_
        cases holds with
        | false => exact (pure page behind).reproduces rounds reached
        | true =>
            refine ((body page).reproduces rounds reached).bind fun after reached => ?_
            intro settled
            obtain ⟨steps, topRun⟩ := inductionHypothesis after reached settled
            exact ⟨steps + 1, fun fuel => by rw [← Nat.add_assoc, returns, topRun]⟩
  refines {fuel rounds} enough state := by
    suffices bounded : ∀ fuel ≤ rounds, ∀ left, fuel ≤ left → ∀ page state,
        context.Refines instructions fuel (top page)
          (RenderContext.executeWhile condition (round rounds) left page) behind state from
      bounded fuel enough rounds enough page state
    intro fuel
    induction fuel using Nat.strongRecOn with
    | ind fuel inductionHypothesis =>
        intro enough left fuelLe page state settled
        obtain ⟨left, rfl⟩ : ∃ less, left = less + 1 := by
          obtain ⟨less, rfl⟩ := exists_less_of_settled settled
          exact ⟨left - 1, by omega⟩
        refine ((choice page).refines enough state).bind
          (fun rest restLe holds reached => ?_) settled
        cases holds with
        | false => exact (pure page behind).refines (Nat.le_trans restLe enough) reached
        | true =>
            refine ((body page).refines (Nat.le_trans restLe enough) reached).bind
              fun last lastLe after reached settled => ?_
            obtain ⟨less, rfl⟩ := exists_less_of_settled settled
            rw [returns] at settled ⊢
            obtain ⟨final, finalLe, topRun⟩ := inductionHypothesis less (by omega) (by omega)
              left (by omega) after reached settled
            exact ⟨final, Nat.le_succ_of_le finalLe, topRun⟩

end Simulates

/-! ## Statements -/

variable {base : Nat} {loops : List LoopState}

theorem simulates_performIfAny {assignment : Option Assignment}
    (stands : StandsAt (fun position => instructions[position]?) base
      (assignmentCode assignment)) (page : Page) :
    context.Simulates instructions ⟨base, loops, page⟩
      (fun _ => context.performIfAny page assignment)
      fun after => ⟨base + (assignmentCode assignment).length, loops, after⟩ := by
  cases assignment with
  | none => exact Simulates.pure page _
  | some assignment =>
      exact Simulates.of_step stands.1 rfl

theorem simulates_holds {condition : Option Expression} {stop : Nat}
    (stands : StandsAt (fun position => instructions[position]?) base
      (conditionCode stop condition)) (page : Page) :
    context.Simulates instructions ⟨base, loops, page⟩ (fun _ => context.holds condition page)
      fun holds =>
        if holds then ⟨base + (conditionCode stop condition).length, loops, page⟩
        else ⟨stop, loops, page⟩ := by
  cases condition with
  | none =>
      exact Simulates.pure true fun holds =>
        if holds then ⟨base, loops, page⟩ else ⟨stop, loops, page⟩
  | some condition =>
      refine Simulates.of_step stands.1 ?_
      change _ = (context.evaluate page.scope condition >>= _) >>= _
      rw [bind_assoc]
      refine congrArg (context.evaluate page.scope condition >>= ·) (funext fun value => ?_)
      cases value.isTruthy <;> rfl

/-- A loop over elements, from the instruction on that binds the next one. -/
theorem simulates_executeEach {binding : LoopVariables} {round : Nat → Page → Render σ Page}
    {stop bottom : Nat} (next : instructions[base]? = some (.nextElement stop))
    (jump : instructions[bottom]? = some (.jump base))
    (body : ∀ elements page, context.Simulates instructions
      ⟨base + 1, ⟨binding, elements⟩ :: loops, page⟩ (fun rounds => round rounds page)
      fun after => ⟨bottom, ⟨binding, elements⟩ :: loops, after⟩)
    (elements : List (Value × Value)) (page : Page) :
    context.Simulates instructions ⟨base, ⟨binding, elements⟩ :: loops, page⟩
      (fun rounds => executeEach binding (round rounds) elements page)
      fun after => ⟨stop, loops, after⟩ := by
  induction elements generalizing page with
  | nil =>
      exact Simulates.of_jump next rfl (Simulates.pure page fun after => ⟨stop, loops, after⟩)
  | cons element others inductionHypothesis =>
      obtain ⟨key, element⟩ := element
      refine Simulates.of_jump next rfl ?_
      rw [Page.bindElement_eq_inRound]
      refine (body others _).bind fun after => ?_
      exact Simulates.of_jump jump rfl (inductionHypothesis after)

mutual

theorem simulates_execute {base stop : Nat} {loops : List LoopState} :
    ∀ statement : Statement,
      StandsAt (fun position => instructions[position]?) base (layout base statement) →
        stop = base + (layout base statement).length →
          ∀ page, context.Simulates instructions ⟨base, loops, page⟩
            (fun rounds => context.execute rounds statement page)
            fun after => ⟨stop, loops, after⟩
  | .action action, stands, ends, page => by
      subst ends
      exact Simulates.of_step stands.1 rfl
  | .branch condition thenBranch elseBranch, stands, ends, page => by
      obtain ⟨⟨test, inside⟩, behind⟩ := StandsAt.append.1 stands
      rw [List.length_cons, Nat.add_comm _ 1, ← Nat.add_assoc] at behind
      simp only [layout, List.length_append, List.length_cons] at ends
      refine (Simulates.of_step test rfl).bind fun value => ?_
      cases value.isTruthy with
      | false =>
          exact simulates_executeElse elseBranch behind (by omega) page
      | true =>
          cases elseBranch with
          | none =>
              simp only [layoutElse, List.length_nil] at ends
              exact simulates_executeAll thenBranch inside (by omega) page
          | some elseBranch =>
              have target : stop = base + 1 + (layoutAll (base + 1) thenBranch).length + 1 +
                  (layoutAll (base + 1 + (layoutAll (base + 1) thenBranch).length + 1)
                    elseBranch).length := by
                simp only [layoutElse, List.length_cons] at ends
                omega
              refine (simulates_executeAll thenBranch inside rfl page).before_jump
                (fun _ => behind.1) fun after => ?_
              rw [target]
              rfl
  | .each binding iterable body, stands, ends, page => by
      obtain ⟨⟨start, next, inside⟩, jump, _⟩ := StandsAt.append.1 stands
      simp only [layout, List.length_append, List.length_cons, List.length_nil] at ends
      refine (Simulates.of_step start rfl).bind fun elements => ?_
      change StandsAt _ (base + 2) _ at inside
      rw [show base + 2 + (layoutAll (base + 2) body).length + 1 = stop by omega] at next
      exact simulates_executeEach next jump
        (fun elements page => simulates_executeAll body inside (by simp; omega) page) elements page
  | .count start condition step body, stands, ends, page => by
      simp only [layout, StandsAt.append, List.length_append, ← Nat.add_assoc,
        length_conditionCode _ condition] at stands ends
      obtain ⟨⟨⟨⟨started, test⟩, inside⟩, after⟩, jump, _⟩ := stands
      refine (simulates_performIfAny started page).bind fun page => ?_
      rw [List.length_cons, List.length_nil, Nat.zero_add] at ends
      rw [← ends] at test
      refine Simulates.executeWhile
        (fun page => ⟨base + (assignmentCode start).length +
          (conditionCode 0 condition).length, loops, page⟩)
        (fun after => ⟨stop - 1, loops, after⟩) ?_ ?_ ?_ page
      · intro page
        rw [← length_conditionCode stop condition]
        exact simulates_holds test page
      · intro page
        refine (simulates_executeAll body inside rfl page).bind fun page => ?_
        rw [ends, Nat.add_sub_cancel]
        exact simulates_performIfAny after page
      · intro fuel page
        rw [ends, Nat.add_sub_cancel, run_succ jump]
        rfl
  | .repeat condition body, stands, ends, page => by
      obtain ⟨⟨test, inside⟩, jump, _⟩ := StandsAt.append.1 stands
      simp only [layout, List.length_append, List.length_cons, List.length_nil] at ends
      rw [show base + 1 + (layoutAll (base + 1) body).length + 1 = stop by omega] at test
      have choice : StandsAt (fun position => instructions[position]?) base
          (conditionCode stop (some condition)) := ⟨test, trivial⟩
      refine Simulates.executeWhile (fun page => ⟨base + 1, loops, page⟩)
        (fun after => ⟨base + (layoutAll (base + 1) body).length + 1, loops, after⟩)
        (simulates_holds choice)
        (fun page => simulates_executeAll body inside (by omega) page)
        (fun fuel page => ?_) page
      rw [run_succ jump]
      rfl

/-- Running the laid out instructions of statements is executing them and going on behind them. -/
theorem simulates_executeAll {base stop : Nat} {loops : List LoopState} :
    ∀ statements : List Statement,
      StandsAt (fun position => instructions[position]?) base (layoutAll base statements) →
        stop = base + (layoutAll base statements).length →
          ∀ page, context.Simulates instructions ⟨base, loops, page⟩
            (fun rounds => context.executeAll rounds statements page)
            fun after => ⟨stop, loops, after⟩
  | [], _, ends, page => by
      subst ends
      exact Simulates.pure page _
  | statement :: statements, stands, ends, page => by
      obtain ⟨first, others⟩ := StandsAt.append.1 stands
      rw [layoutAll, List.length_append, ← Nat.add_assoc] at ends
      exact (simulates_execute statement first rfl page).bind fun after =>
        simulates_executeAll statements others ends after

theorem simulates_executeElse {base stop : Nat} {loops : List LoopState} :
    ∀ elseBranch : Option (List Statement),
      StandsAt (fun position => instructions[position]?) base (layoutElse base elseBranch) →
        stop = base + (layoutElse base elseBranch).length →
          ∀ page, context.Simulates instructions ⟨elseStart base elseBranch, loops, page⟩
            (fun rounds => context.executeElse rounds elseBranch page)
            fun after => ⟨stop, loops, after⟩
  | none, _, ends, page => by
      subst ends
      exact Simulates.pure page _
  | some elseBranch, stands, ends, page => by
      simp only [layoutElse, List.length_cons] at ends
      exact simulates_executeAll elseBranch stands.2 (by omega) page

end

end RenderContext

end ViewTemplate
