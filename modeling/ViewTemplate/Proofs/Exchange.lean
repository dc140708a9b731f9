import ViewTemplate.Proofs.Captures
import ViewTemplate.Proofs.Underlay

/-!
Other captures underneath. A rendering never reads the captures that it finds, so above as many
others it ends in the same way (`relation`), and a whole view does so with exactly the captures that
it found (`seesNoText_renderAt`).
-/

namespace ViewTemplate

variable {σ α β : Type}

namespace Outcome

variable (outcome : Outcome σ α)

@[simp]
theorem reached_mapReached (change : RenderState σ → RenderState σ) :
    reached (mapReached change outcome) = change (reached outcome) := by
  cases outcome <;> rfl

@[simp]
theorem reached_mapError (change : Error → Error) :
    reached (mapError change outcome) = reached outcome := by
  rcases outcome with ⟨result, state⟩ | ⟨error | _, state⟩ <;> rfl

theorem mapError_mapReached (change : Error → Error)
    (changeState : RenderState σ → RenderState σ) :
    mapError change (mapReached changeState outcome) =
      mapReached changeState (mapError change outcome) := by
  rcases outcome with ⟨result, state⟩ | ⟨error | _, state⟩ <;> rfl

theorem mapReached_mapReached_congr {first second third fourth : RenderState σ → RenderState σ}
    (same : first (second (reached outcome)) = third (fourth (reached outcome))) :
    mapReached first (mapReached second outcome) =
      mapReached third (mapReached fourth outcome) := by
  cases outcome with
  | ok result state => exact congrArg (EStateM.Result.ok result) same
  | error interrupt state => exact congrArg (EStateM.Result.error interrupt) same

end Outcome

/-- Renderings that do the same above other captures: what is opened beyond the outer ones is opened
beyond the others, and all else is equal. -/
def Exchanges (outer others : List Capture) (x y : Render σ α) : Prop :=
  ∀ (state : RenderState σ) (opened : List Capture),
    state.sections.captures = opened ++ outer →
      ∃ openedThen, (Outcome.reached (x state)).sections.captures = openedThen ++ outer ∧
        y (state.withCaptures (opened ++ others)) =
          Outcome.mapReached (RenderState.withCaptures (openedThen ++ others)) (x state)

namespace Exchange

variable {outer others : List Capture}

theorem exchanges_bind {x y : Render σ α} {next₁ next₂ : α → Render σ β}
    (first : Exchanges outer others x y)
    (second : ∀ result, Exchanges outer others (next₁ result) (next₂ result)) :
    Exchanges outer others (x >>= next₁) (y >>= next₂) := by
  intro state opened captures
  obtain ⟨openedBetween, between, same⟩ := first state opened captures
  cases ended : x state with
  | ok result reached =>
      rw [ended] at between same
      rw [Render.bind_of_ok ended, Render.bind_of_ok same]
      exact second result reached openedBetween between
  | error interrupt reached =>
      rw [ended] at between same
      rw [Render.bind_of_error ended, Render.bind_of_error same]
      exact ⟨openedBetween, between, rfl⟩

/-- A rendering that has nothing to do with the captures does the same above any. -/
theorem exchanges_of_apart {x : Render σ α}
    (captures : ∀ state, (Outcome.reached (x state)).sections.captures = state.sections.captures)
    (commutes : ∀ state captures, x (state.withCaptures captures) =
      Outcome.mapReached (RenderState.withCaptures captures) (x state)) :
    Exchanges outer others x x := fun state opened same =>
  ⟨opened, (captures state).trans same, commutes state _⟩

theorem exchanges_pure (result : α) :
    Exchanges outer others (pure result : Render σ α) (pure result) :=
  exchanges_of_apart (fun _ => rfl) fun _ _ => rfl

theorem exchanges_fail (error : Error) :
    Exchanges outer others (Rendering.fail error : Render σ α) (Rendering.fail error) :=
  exchanges_of_apart (fun _ => rfl) fun _ _ => rfl

theorem exchanges_mapError {x y : Render σ α} (change : Error → Error)
    (exchanges : Exchanges outer others x y) :
    Exchanges outer others (Rendering.mapError change x) (Rendering.mapError change y) := by
  intro state opened captures
  obtain ⟨openedThen, capturesThen, same⟩ := exchanges state opened captures
  refine ⟨openedThen, ?_, ?_⟩
  · change (Outcome.reached (Outcome.mapError change (x state))).sections.captures = _
    rw [Outcome.reached_mapError, capturesThen]
  · exact (congrArg (Outcome.mapError change) same).trans (Outcome.mapError_mapReached ..)

theorem exchanges_compiled (environment : Environment σ) (view : String) :
    Exchanges outer others (Rendering.compiled environment view : Render σ String)
      (Rendering.compiled environment view) :=
  exchanges_of_apart
    (fun state => congrArg Sections.captures (Render.sections_compiled environment view state))
    (Render.compiled_withCaptures environment view)

theorem exchanges_freshProgram (view fragment : String) :
    Exchanges outer others (Rendering.freshProgram view fragment : Render σ Fragment.Program)
      (Rendering.freshProgram view fragment) := by
  unfold Rendering.freshProgram
  cases Fragment.Program.compile fragment with
  | ok program =>
      exact exchanges_bind (exchanges_of_apart (fun _ => rfl) fun _ _ => rfl)
        fun _ => exchanges_pure program
  | error error => exact exchanges_fail _

/-! ## Operations on the captures -/

theorem exchanges_start (name : String) :
    Exchanges outer others (Rendering.start name : Render σ Unit) (Rendering.start name) := by
  intro state opened captures
  have started : (⟨name, ""⟩ : Capture) :: state.sections.captures =
      ⟨name, ""⟩ :: opened ++ outer := congrArg (⟨name, ""⟩ :: ·) captures
  exact ⟨⟨name, ""⟩ :: opened, started, rfl⟩

variable {base : Nat} (sameLength : outer.length = others.length) (enough : outer.length ≤ base)

include sameLength enough

/-- A rendering that works on the innermost capture beyond the first ones does the same above
others, if it has nothing to do with the captures when there is none. -/
theorem exchanges_of_innermost {x apart : Render σ α}
    (beyond : ∀ (state : RenderState σ) (capture : Capture), ∃ result pushed table,
      ∀ rest, base ≤ rest.length → x (state.withCaptures (capture :: rest)) =
        .ok result { state with sections := ⟨pushed ++ rest, table⟩ })
    (within : ∀ state : RenderState σ, ¬ base < state.sections.depth → x state = apart state)
    (exchanges : Exchanges outer others apart apart) : Exchanges outer others x x := by
  intro state opened same
  have depth : state.sections.depth = (opened ++ others).length := by
    rw [Sections.depth, same, List.length_append, List.length_append, sameLength]
  by_cases deep : base < state.sections.depth
  · cases opened with
    | nil => exact absurd (depth ▸ deep) (Nat.not_lt.2 (sameLength ▸ enough))
    | cons capture rest =>
        have itself : state = state.withCaptures (capture :: (rest ++ outer)) :=
          congrArg (fun captures => state.withCaptures captures) same
        have lengthOthers : base ≤ (rest ++ others).length := by
          rw [depth] at deep
          exact Nat.le_of_lt_succ deep
        have lengthOuter : base ≤ (rest ++ outer).length := by
          rwa [List.length_append, sameLength, ← List.length_append]
        obtain ⟨result, pushed, table, does⟩ := beyond state capture
        have here := does (rest ++ outer) lengthOuter
        rw [← itself, ← List.append_assoc] at here
        have there := does (rest ++ others) lengthOthers
        rw [← List.append_assoc] at there
        refine ⟨pushed ++ rest, ?_, ?_⟩
        · rw [here]
          rfl
        · rw [List.cons_append, there, here]
          rfl
  · have shallow : ¬ base < (state.withCaptures (opened ++ others)).sections.depth := by
      rwa [depth] at deep
    rw [within state deep, within _ shallow]
    exact exchanges state opened same

theorem exchanges_close (closing : Closing) (missing : Error) :
    Exchanges outer others (Rendering.close closing base missing : Render σ String)
      (Rendering.close closing base missing) := by
  refine exchanges_of_innermost sameLength enough (fun state capture => ?_)
    (fun state shallow => ?_) (exchanges_fail missing)
  · obtain ⟨text, closes⟩ := Sections.exists_close?_cons closing capture state.sections.table
    refine ⟨text, [], ((⟨[], state.sections.table⟩ : Sections).extend capture.name
      capture.text).table, fun rest deep => ?_⟩
    have beyond : base < (state.withCaptures (capture :: rest)).sections.depth :=
      Nat.lt_succ_of_le deep
    change Render.close closing base missing _ = _
    rw [Render.close, if_pos beyond, show (state.withCaptures (capture :: rest)).sections =
      ⟨capture :: rest, state.sections.table⟩ from rfl, closes]
    rfl
  · change Render.close closing base missing state = _
    rw [Render.close, if_neg shallow]
    rfl

theorem exchanges_write (text : String) :
    Exchanges outer others (Rendering.write base text : Render σ Bool)
      (Rendering.write base text) := by
  refine exchanges_of_innermost sameLength enough (fun state capture => ?_)
    (fun state shallow => ?_) (exchanges_pure false)
  · refine ⟨true, [⟨capture.name, capture.text ++ text⟩], state.sections.table,
      fun rest deep => ?_⟩
    have beyond : base < (state.withCaptures (capture :: rest)).sections.depth :=
      Nat.lt_succ_of_le deep
    change Render.write base text _ = _
    rw [Render.write, if_pos beyond]
    rfl
  · change Render.write base text state = _
    rw [Render.write, if_neg shallow]
    rfl

theorem exchanges_unclosed :
    Exchanges outer others (Rendering.unclosed? base : Render σ (Option String))
      (Rendering.unclosed? base) := by
  intro state opened same
  obtain ⟨stored, programs, captures, table⟩ := state
  obtain rfl : captures = opened ++ outer := same
  have sameCapture : (opened ++ others).reverse[base]? = (opened ++ outer).reverse[base]? := by
    rw [List.reverse_append, List.reverse_append,
      List.getElem?_append_right (by rw [List.length_reverse, ← sameLength]; exact enough),
      List.getElem?_append_right (by rw [List.length_reverse]; exact enough),
      List.length_reverse, List.length_reverse, sameLength]
  exact ⟨opened, rfl, congrArg (fun capture? : Option Capture =>
    EStateM.Result.ok (capture?.map Capture.name) _) sameCapture⟩

omit enough in
theorem exchanges_framed {body₁ body₂ : Nat → Render σ α}
    (bodies : ∀ base : { base : Nat // outer.length ≤ base },
      Exchanges outer others (body₁ base.1) (body₂ base.1)) :
    Exchanges outer others (Rendering.framed body₁) (Rendering.framed body₂) := by
  intro state opened captures
  have depth : state.sections.depth = opened.length + outer.length := by
    rw [Sections.depth, captures, List.length_append]
  have depth' : (state.withCaptures (opened ++ others)).sections.depth =
      opened.length + others.length := List.length_append
  obtain ⟨openedThen, capturesThen, same⟩ :=
    bodies ⟨_, Nat.le_add_left outer.length opened.length⟩ state opened captures
  change ∃ openedLast,
    (Outcome.reached
        (Outcome.mapReached (RenderState.truncate _) (body₁ _ state))).sections.captures =
          openedLast ++ outer ∧
      Outcome.mapReached (RenderState.truncate _) (body₂ _ _) =
        Outcome.mapReached _ (Outcome.mapReached (RenderState.truncate _) (body₁ _ state))
  rw [depth, depth', ← sameLength, same, Outcome.reached_mapReached,
    Underlay.truncate_append capturesThen opened.length]
  refine ⟨openedThen.drop (openedThen.length - opened.length), rfl, ?_⟩
  refine Outcome.mapReached_mapReached_congr _ ?_
  rw [Underlay.truncate_append capturesThen opened.length, sameLength]
  have captures : ((Outcome.reached (body₁ (opened.length + others.length) state)).withCaptures
      (openedThen ++ others)).sections.captures = openedThen ++ others := rfl
  exact Underlay.truncate_append captures opened.length

omit enough in
/-- The relation of renderings above some captures and above as many others. -/
def relation (σ : Type) : Rendering.ViewRelation σ (Render σ) (Render σ) where
  Index := { base : Nat // outer.length ≤ base }
  left := Subtype.val
  right := Subtype.val
  Inner _ := True
  Same e₁ e₂ := e₁ = e₂
  Holds _ _ x y := Exchanges outer others x y
  same_unlocated _ _ := rfl
  same_refl _ := rfl
  pure _ := exchanges_pure
  bind := exchanges_bind
  fail same := same ▸ exchanges_fail _
  exhaust _ := exchanges_of_apart (fun _ => rfl) fun _ _ => rfl
  mapError view := exchanges_mapError (Error.inView view)
  programOf _ environment view :=
    Rendering.programOf_of_steps (fun x y => Exchanges outer others x y) exchanges_pure
      exchanges_bind (exchanges_compiled environment view)
      (exchanges_of_apart (fun _ => rfl) fun _ _ => rfl) (exchanges_freshProgram view)
  contains _ _ _ := exchanges_of_apart (fun _ => rfl) fun _ _ => rfl
  content _ _ := exchanges_of_apart (fun _ => rfl) fun _ _ => rfl
  start _ := exchanges_start
  extend _ _ _ := exchanges_of_apart (fun _ => rfl) fun _ _ => rfl
  close {base _ _} closing same := same ▸ exchanges_close sameLength base.2 closing _
  write {base} text _ := exchanges_write sameLength base.2 text
  unclosed {base} _ := exchanges_unclosed sameLength base.2
  framed bodies := exchanges_framed sameLength fun base => bodies base trivial

end Exchange

/-- A rendering that leaves the captures that it finds, and above as many others ends in the same
way. -/
structure SeesNoText (rendering : Render σ α) : Prop where
  captures (state : RenderState σ) :
    (Outcome.reached (rendering state)).sections.captures = state.sections.captures
  exchanged (state : RenderState σ) (others : List Capture) :
    state.sections.captures.length = others.length →
      rendering (state.withCaptures others) =
        Outcome.mapReached (RenderState.withCaptures others) (rendering state)

/-- To a view inside another it makes no difference what the captures around it have gathered. -/
theorem seesNoText_renderAt (environment : Environment σ) (fuel levels : Nat) (view : String)
    (parameters : Entries Value) :
    SeesNoText (environment.renderAt fuel levels view parameters) := by
  have captures (state : RenderState σ) :=
    (LeavesCaptures.of_follows
      (Traced.follows_renderAt environment fuel levels view parameters) state).captures
  refine ⟨captures, fun state others sameLength => ?_⟩
  obtain ⟨opened, same, exchanged⟩ := (Exchange.relation sameLength σ).renderAt environment
    (.inl rfl) levels ⟨_, Nat.le_refl _⟩ view parameters state [] rfl
  have none : opened = [] := List.append_left_eq_self.1 (same.symm.trans (captures state))
  rw [none] at exchanged
  exact exchanged

end ViewTemplate
