import ViewTemplate.Proofs.Execution
import ViewTemplate.Proofs.Traced

/-!
A further capture underneath. A rendering that succeeds and does not begin a section does the same,
with the same result, when a capture for that section was opened before all captures that it can
reach (`Underlay.relation`).
-/

namespace ViewTemplate

/-- The state with other captures. -/
def RenderState.withCaptures {σ : Type} (captures : List Capture) (state : RenderState σ) :
    RenderState σ :=
  { state with sections := { state.sections with captures := captures } }

/-- The captures beyond the outer ones, none of them for a section that has no content either. -/
structure RenderState.Above {σ : Type} (name : String) (outer opened : List Capture)
    (state : RenderState σ) : Prop where
  captures : state.sections.captures = opened ++ outer
  fresh : ∀ capture ∈ opened, capture.name ≠ name
  without : state.sections.content? name = none

/-- Successful renderings that do not begin a section are repeated above a capture for it. -/
def Repeats {σ α : Type} (name : String) (outer : List Capture) (traced : Traced σ α)
    (plain : Render σ α) : Prop :=
  ∀ (state : RenderState σ) (opened : List Capture), state.Above name outer opened →
    ∀ (events : List SectionEvent) (result : α) (reached : RenderState σ),
      traced state = (events, .ok result reached) →
        (∀ event ∈ events, ¬ event.Begins name) →
          ∃ openedThen, reached.Above name outer openedThen ∧
            ∀ text, plain (state.withCaptures (opened ++ ⟨name, text⟩ :: outer)) =
              .ok result (reached.withCaptures (openedThen ++ ⟨name, text⟩ :: outer))

theorem Outcome.eq_ok_of_mapError {σ α : Type} {change : Error → Error} {outcome : Outcome σ α}
    {result : α} {reached : RenderState σ}
    (same : outcome.mapError change = .ok result reached) : outcome = .ok result reached := by
  cases outcome with
  | ok other state => exact same
  | error interrupt state => cases interrupt <;> cases same

theorem Outcome.exists_of_mapReached_eq_ok {σ α : Type} {change : RenderState σ → RenderState σ}
    {outcome : Outcome σ α} {result : α} {reached : RenderState σ}
    (same : outcome.mapReached change = .ok result reached) :
    ∃ state, outcome = .ok result state ∧ reached = change state := by
  cases outcome with
  | ok other state =>
      cases same
      exact ⟨state, rfl, rfl⟩
  | error interrupt state => cases same

namespace Traced

variable {σ α β : Type}

theorem exists_ok_of_bind {traced : Traced σ α} {next : α → Traced σ β}
    {state last : RenderState σ} {events : List SectionEvent} {result : β}
    (ended : (traced >>= next) state = (events, .ok result last)) :
    ∃ before middle between after, traced state = (before, .ok middle between) ∧
      next middle between = (after, .ok result last) ∧ events = before ++ after := by
  change traced.andThen next state = _ at ended
  unfold andThen at ended
  split at ended
  next before middle between first =>
    cases second : next middle between with
    | mk after outcome =>
        rw [second] at ended
        cases ended
        exact ⟨before, middle, between, after, first, second, rfl⟩
  next => cases ended

theorem exists_ok_of_framed {body : Nat → Traced σ α} {state reached : RenderState σ}
    {events : List SectionEvent} {result : α}
    (ended : Rendering.framed body state = (events, .ok result reached)) :
    ∃ before last, body state.sections.depth state = (before, .ok result last) ∧
      reached = last.truncate state.sections.depth ∧
        events = before ++ [.left state.sections.depth] := by
  have outcome : Outcome.mapReached (RenderState.truncate state.sections.depth)
      (body state.sections.depth state).2 = .ok result reached := congrArg Prod.snd ended
  obtain ⟨last, succeeded, same⟩ := Outcome.exists_of_mapReached_eq_ok outcome
  exact ⟨(body state.sections.depth state).1, last, Prod.ext rfl succeeded, same,
    (congrArg Prod.fst ended).symm⟩

end Traced

/-- Asking the store changes no sections. -/
theorem Render.sections_compiled {σ : Type} (environment : Environment σ) (view : String)
    (state : RenderState σ) :
    (Outcome.reached (Render.compiled environment view state)).sections = state.sections := by
  unfold Render.compiled
  split <;> rfl

theorem Render.compiled_withCaptures {σ : Type} (environment : Environment σ) (view : String)
    (state : RenderState σ) (captures : List Capture) :
    Render.compiled environment view (state.withCaptures captures) =
      Outcome.mapReached (RenderState.withCaptures captures)
        (Render.compiled environment view state) := by
  unfold Render.compiled RenderState.withCaptures
  dsimp only
  split <;> rfl

/-- What closing the innermost capture gives does not depend on the captures around it. -/
theorem Sections.exists_close?_cons (closing : Closing) (capture : Capture)
    (table : Entries String) :
    ∃ text, ∀ others, (⟨capture :: others, table⟩ : Sections).close? closing =
      some (text, (⟨others, table⟩ : Sections).extend capture.name capture.text) := by
  cases closing with
  | stop => exact ⟨capture.name, fun others => rfl⟩
  | yield =>
      exact ⟨((⟨[], table⟩ : Sections).extend capture.name capture.text).content capture.name,
        fun others => rfl⟩

namespace Underlay

variable {σ α β : Type} {name : String} {outer : List Capture}

theorem repeats_bind {traced : Traced σ α} {plain : Render σ α} {next₁ : α → Traced σ β}
    {next₂ : α → Render σ β} (first : Repeats name outer traced plain)
    (second : ∀ result, Repeats name outer (next₁ result) (next₂ result)) :
    Repeats name outer (traced >>= next₁) (plain >>= next₂) := by
  intro state opened above events result reached ended quiet
  obtain ⟨before, middle, between, after, firstEnded, secondEnded, rfl⟩ :=
    Traced.exists_ok_of_bind ended
  obtain ⟨openedBetween, aboveBetween, same⟩ := first state opened above before middle between
    firstEnded fun event member => quiet event (List.mem_append_left _ member)
  obtain ⟨openedThen, aboveThen, sameThen⟩ := second middle between openedBetween aboveBetween
    after result reached secondEnded fun event member =>
      quiet event (List.mem_append_right _ member)
  refine ⟨openedThen, aboveThen, fun text => ?_⟩
  exact (Render.bind_of_ok (same text) next₂).trans (sameThen text)

theorem repeats_of_error {events : Sections → List SectionEvent} {rendering plain : Render σ α}
    (fails : ∀ state, ∃ interrupt, rendering state = .error interrupt state) :
    Repeats name outer (Traced.noting events rendering) plain := by
  intro state opened above events result reached ended quiet
  obtain ⟨interrupt, failed⟩ := fails state
  have outcome := congrArg Prod.snd ended
  cases failed.symm.trans outcome

/-- A rendering that has nothing to do with the sections is repeated above any capture. -/
theorem repeats_of_apart {rendering : Render σ α}
    (sections : ∀ state, (Outcome.reached (rendering state)).sections = state.sections)
    (commutes : ∀ state captures, rendering (state.withCaptures captures) =
      Outcome.mapReached (RenderState.withCaptures captures) (rendering state)) :
    Repeats name outer (Traced.noting (fun _ => []) rendering) rendering := by
  intro state opened above events result reached ended quiet
  have outcome : rendering state = .ok result reached := congrArg Prod.snd ended
  have kept := sections state
  rw [outcome] at kept
  refine ⟨opened, ⟨?_, above.fresh, ?_⟩, fun text => ?_⟩
  · exact (congrArg Sections.captures kept).trans above.captures
  · exact (congrArg (Sections.content? name) kept).trans above.without
  · rw [commutes, outcome]
    rfl

theorem repeats_pure (result : α) :
    Repeats name outer (pure result : Traced σ α) (pure result) :=
  repeats_of_apart (fun _ => rfl) fun _ _ => rfl

theorem repeats_mapError {traced : Traced σ α} {plain : Render σ α} (change : Error → Error)
    (repeats : Repeats name outer traced plain) :
    Repeats name outer (Rendering.mapError change traced) (Rendering.mapError change plain) := by
  intro state opened above events result reached ended quiet
  have succeeded : (traced state).2 = .ok result reached :=
    Outcome.eq_ok_of_mapError (congrArg Prod.snd ended)
  have sameEvents : (traced state).1 = events := congrArg Prod.fst ended
  obtain ⟨openedThen, aboveThen, same⟩ := repeats state opened above events result reached
    (Prod.ext sameEvents succeeded) quiet
  refine ⟨openedThen, aboveThen, fun text => ?_⟩
  exact congrArg (Outcome.mapError change) (same text)

theorem repeats_compiled (environment : Environment σ) (view : String) :
    Repeats name outer (Rendering.compiled environment view)
      (Rendering.compiled environment view) :=
  repeats_of_apart (Render.sections_compiled environment view)
    (Render.compiled_withCaptures environment view)

theorem repeats_freshProgram (view fragment : String) :
    Repeats name outer (Rendering.freshProgram view fragment : Traced σ Fragment.Program)
      (Rendering.freshProgram view fragment) := by
  unfold Rendering.freshProgram
  cases Fragment.Program.compile fragment with
  | ok program =>
      exact repeats_bind (repeats_of_apart (fun _ => rfl) fun _ _ => rfl)
        fun _ => repeats_pure program
  | error error => exact repeats_of_error fun state => ⟨_, rfl⟩

/-! ## Operations on the sections -/

theorem repeats_start (other : String) :
    Repeats name outer (Rendering.start other : Traced σ Unit) (Rendering.start other) := by
  intro state opened above events result reached ended quiet
  cases ended
  have different : ¬ other = name := quiet (.started other) List.mem_cons_self
  refine ⟨⟨other, ""⟩ :: opened, ⟨?_, ?_, above.without⟩, fun text => rfl⟩
  · exact congrArg (⟨other, ""⟩ :: ·) above.captures
  · exact List.forall_mem_cons.2 ⟨different, above.fresh⟩

theorem repeats_extend (other text : String) :
    Repeats name outer (Rendering.extend other text : Traced σ Unit)
      (Rendering.extend other text) := by
  intro state opened above events result reached ended quiet
  cases ended
  have different : ¬ other = name := quiet (.extended other text) List.mem_cons_self
  have without := Sections.content?_extend_of_ne different text state.sections
  exact ⟨opened, ⟨above.captures, above.fresh, without.trans above.without⟩, fun text => rfl⟩

theorem repeats_content (other : String) :
    Repeats name outer (Rendering.content other : Traced σ String) (Rendering.content other) := by
  intro state opened above events result reached ended quiet
  cases ended
  exact ⟨opened, above, fun text => rfl⟩

/-- Where the frames of views begin: the one whose code is compared, or one inside it. -/
abbrev Frame (outer : List Capture) : Type :=
  Option { base : Nat // outer.length ≤ base }

/-- The number of captures that were open when a frame began. -/
def Frame.left : Frame outer → Nat
  | none => outer.length
  | some base => base.1

/-- The same above one capture more, which was opened in the frame whose code is compared. -/
def Frame.right : Frame outer → Nat
  | none => outer.length
  | some base => base.1 + 1

theorem Frame.le_left (frame : Frame outer) : outer.length ≤ frame.left := by
  cases frame with
  | none => exact Nat.le_refl _
  | some base => exact base.2

theorem Frame.right_le (frame : Frame outer) : frame.right ≤ frame.left + 1 := by
  cases frame with
  | none => exact Nat.le_succ _
  | some base => exact Nat.le_refl _

theorem exists_cons_of_lt {state : RenderState σ} {opened : List Capture}
    (above : state.Above name outer opened) {frame : Frame outer}
    (beyond : frame.left < state.sections.depth) :
    ∃ capture others, opened = capture :: others := by
  cases opened with
  | nil =>
      have short : state.sections.depth = outer.length := congrArg List.length above.captures
      have le := frame.le_left
      omega
  | cons capture others => exact ⟨capture, others, rfl⟩

theorem repeats_close {frame : Frame outer} (closing : Closing) (missing missing' : Error) :
    Repeats name outer (Rendering.close closing frame.left missing : Traced σ String)
      (Rendering.close closing frame.right missing') := by
  intro state opened above events result reached ended quiet
  have outcome : Render.close closing frame.left missing state = .ok result reached :=
    congrArg Prod.snd ended
  unfold Render.close at outcome
  by_cases beyond : frame.left < state.sections.depth
  · rw [if_pos beyond] at outcome
    obtain ⟨capture, others, rfl⟩ := exists_cons_of_lt above beyond
    obtain ⟨stored, programs, captures, table⟩ := state
    obtain rfl : captures = capture :: others ++ outer := above.captures
    obtain ⟨text, closes⟩ := Sections.exists_close?_cons closing capture table
    rw [List.cons_append, closes] at outcome
    cases outcome
    obtain ⟨different, fresh⟩ := List.forall_mem_cons.1 above.fresh
    have without := Sections.content?_extend_of_ne different capture.text
      (⟨others ++ outer, table⟩ : Sections)
    refine ⟨others, ⟨rfl, fresh, without.trans above.without⟩, fun content => ?_⟩
    have beyond' : frame.right < (capture :: (others ++ ⟨name, content⟩ :: outer)).length := by
      have le := frame.right_le
      simp only [Sections.depth, List.length_cons, List.length_append] at beyond ⊢
      omega
    change Render.close closing frame.right missing' ⟨stored, programs,
      ⟨capture :: (others ++ ⟨name, content⟩ :: outer), table⟩⟩ = _
    rw [Render.close, Sections.depth, if_pos beyond', closes]
    rfl
  · rw [if_neg beyond] at outcome
    cases outcome

theorem Frame.right_of_isSome {frame : Frame outer} (inner : frame.isSome = true) :
    frame.right = frame.left + 1 := by
  obtain ⟨base, rfl⟩ := Option.isSome_iff_exists.1 inner
  rfl

theorem repeats_write {frame : Frame outer} (inner : frame.isSome = true) (text : String) :
    Repeats name outer (Rendering.write frame.left text : Traced σ Bool)
      (Rendering.write frame.right text) := by
  intro state opened above events result reached ended quiet
  have outcome : Render.write frame.left text state = .ok result reached :=
    congrArg Prod.snd ended
  have same := Frame.right_of_isSome inner
  unfold Render.write at outcome
  by_cases beyond : frame.left < state.sections.depth
  · rw [if_pos beyond] at outcome
    obtain ⟨capture, others, rfl⟩ := exists_cons_of_lt above beyond
    obtain ⟨stored, programs, captures, table⟩ := state
    obtain rfl : captures = capture :: others ++ outer := above.captures
    cases outcome
    obtain ⟨different, fresh⟩ := List.forall_mem_cons.1 above.fresh
    refine ⟨⟨capture.name, capture.text ++ text⟩ :: others,
      ⟨rfl, List.forall_mem_cons.2 ⟨different, fresh⟩, above.without⟩, fun content => ?_⟩
    have beyond' : frame.right < (capture :: (others ++ ⟨name, content⟩ :: outer)).length := by
      simp only [Sections.depth, List.length_cons, List.length_append] at beyond ⊢
      omega
    change Render.write frame.right text ⟨stored, programs,
      ⟨capture :: (others ++ ⟨name, content⟩ :: outer), table⟩⟩ = _
    rw [Render.write, Sections.depth, if_pos beyond']
    rfl
  · rw [if_neg beyond] at outcome
    cases outcome
    refine ⟨opened, above, fun content => ?_⟩
    obtain ⟨stored, programs, captures, table⟩ := state
    obtain rfl : captures = opened ++ outer := above.captures
    have notBeyond : ¬ frame.right < (opened ++ ⟨name, content⟩ :: outer).length := by
      simp only [Sections.depth, List.length_cons, List.length_append] at beyond ⊢
      omega
    change Render.write frame.right text ⟨stored, programs,
      ⟨opened ++ ⟨name, content⟩ :: outer, table⟩⟩ = _
    rw [Render.write, Sections.depth, if_neg notBeyond]
    rfl

/-- The captures beyond the further one are counted one further. -/
theorem captureAt?_succ {base : Nat} (enough : outer.length ≤ base) (opened : List Capture)
    (capture : Capture) (table : Entries String) :
    (⟨opened ++ capture :: outer, table⟩ : Sections).captureAt? (base + 1) =
      (⟨opened ++ outer, table⟩ : Sections).captureAt? base := by
  have reversed : (opened ++ capture :: outer).reverse =
      (outer.reverse ++ [capture]) ++ opened.reverse := by simp
  have length : (outer.reverse ++ [capture]).length = outer.length + 1 := by simp
  rw [Sections.captureAt?, Sections.captureAt?, reversed, List.reverse_append,
    List.getElem?_append_right (by omega), List.getElem?_append_right (by simpa using enough),
    length, List.length_reverse, Nat.add_sub_add_right]

theorem repeats_unclosed {frame : Frame outer} (inner : frame.isSome = true) :
    Repeats name outer (Rendering.unclosed? frame.left : Traced σ (Option String))
      (Rendering.unclosed? frame.right) := by
  intro state opened above events result reached ended quiet
  cases ended
  refine ⟨opened, above, fun content => ?_⟩
  obtain ⟨stored, programs, captures, table⟩ := state
  obtain rfl : captures = opened ++ outer := above.captures
  have same := captureAt?_succ frame.le_left opened ⟨name, content⟩ table
  rw [← Frame.right_of_isSome inner] at same
  exact congrArg (fun capture : Option Capture => EStateM.Result.ok (capture.map Capture.name) _)
    same

theorem truncate_append {state : RenderState σ} {opened outer : List Capture}
    (captures : state.sections.captures = opened ++ outer) (count : Nat) :
    state.truncate (count + outer.length) =
      state.withCaptures (opened.drop (opened.length - count) ++ outer) := by
  have depth : state.sections.depth - (count + outer.length) = opened.length - count := by
    rw [Sections.depth, captures, List.length_append, Nat.add_sub_add_right]
  rw [RenderState.truncate, Sections.truncate, depth, captures,
    List.drop_append_of_le_length (Nat.sub_le ..)]
  rfl

/-- A view inside begins above the further capture and leaves it as it is. -/
theorem repeats_framed {body₁ : Nat → Traced σ α} {body₂ : Nat → Render σ α}
    (bodies : ∀ base : { base : Nat // outer.length ≤ base },
      Repeats name outer (body₁ base.1) (body₂ (base.1 + 1))) :
    Repeats name outer (Rendering.framed body₁) (Rendering.framed body₂) := by
  intro state opened above events result reached ended quiet
  have depth : state.sections.depth = opened.length + outer.length := by
    rw [Sections.depth, above.captures, List.length_append]
  obtain ⟨inside, before, succeeded, rfl, rfl⟩ := Traced.exists_ok_of_framed ended
  rw [depth] at succeeded ⊢
  obtain ⟨openedThen, aboveThen, same⟩ := bodies ⟨_, Nat.le_add_left outer.length opened.length⟩
    state opened above inside result before succeeded
    fun event member => quiet event (List.mem_append_left _ member)
  rw [truncate_append aboveThen.captures opened.length]
  refine ⟨openedThen.drop (openedThen.length - opened.length), ⟨rfl, ?_, aboveThen.without⟩,
    fun text => ?_⟩
  · intro capture member
    exact aboveThen.fresh capture (List.mem_of_mem_drop member)
  · have depth' : (state.withCaptures (opened ++ ⟨name, text⟩ :: outer)).sections.depth =
        opened.length + outer.length + 1 := List.length_append
    change Outcome.mapReached (RenderState.truncate _) (body₂ _ _) = _
    rw [depth', same text]
    have captures : (before.withCaptures (openedThen ++ ⟨name, text⟩ :: outer)).sections.captures =
        openedThen ++ ⟨name, text⟩ :: outer := rfl
    have truncated := truncate_append captures opened.length
    rw [List.length_cons, ← Nat.add_assoc] at truncated
    exact congrArg (EStateM.Result.ok result) truncated

/-- The relation of renderings above a further capture. -/
def relation (σ : Type) (name : String) (outer : List Capture) :
    Rendering.ViewRelation σ (Traced σ) (Render σ) where
  Index := Frame outer
  left := Frame.left
  right := Frame.right
  Inner frame := frame.isSome = true
  Same _ _ := True
  Holds _ _ traced plain := Repeats name outer traced plain
  same_unlocated _ _ := trivial
  same_refl _ := trivial
  pure _ := repeats_pure
  bind := repeats_bind
  fail _ := repeats_of_error fun _ => ⟨_, rfl⟩
  exhaust _ := repeats_of_error fun _ => ⟨_, rfl⟩
  mapError view := repeats_mapError (Error.inView view)
  programOf _ environment view :=
    Rendering.programOf_of_steps (fun traced plain => Repeats name outer traced plain) repeats_pure
      repeats_bind (repeats_compiled environment view)
      (repeats_of_apart (fun _ => rfl) fun _ _ => rfl) (repeats_freshProgram view)
  contains _ _ _ := repeats_of_apart (fun _ => rfl) fun _ _ => rfl
  content _ := repeats_content
  start _ := repeats_start
  extend _ := repeats_extend
  close closing _ := repeats_close closing _ _
  write text inner := repeats_write inner text
  unclosed inner := repeats_unclosed inner
  framed bodies := repeats_framed fun base => bodies (some base) rfl

end Underlay

end ViewTemplate
