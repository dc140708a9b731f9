import ViewTemplate.Proofs.Relation

/-!
Renderings that also tell what they do to the sections. The traced monad does what the plain one
does and notes every operation on the sections; what is proved of the notes is proved of rendering,
because rendering is the same code in both monads.
-/

namespace ViewTemplate

/-- An operation on the sections that a rendering has completed. -/
inductive SectionEvent where
  | started (name : String)
  | wrote (text : String)
  /-- A section was given content without a capture. -/
  | extended (name text : String)
  /-- A capture was closed, and its text given to its section. -/
  | closed (name text : String)
  /-- A view ended, and the captures beyond the first `base` were dropped. -/
  | left (base : Nat)
  deriving DecidableEq

namespace SectionEvent

/-- The section and the content that an event gives to it, if it does so. -/
def finalized? : SectionEvent → Option (String × String)
  | .extended name text | .closed name text => some (name, text)
  | .started _ | .wrote _ | .left _ => none

/-- Whether an event opens a capture for a section, or gives it content without one. -/
def Begins (name : String) : SectionEvent → Prop
  | .started other | .extended other _ => other = name
  | .wrote _ | .closed _ _ | .left _ => False

/-- What an event does to sections, unless it cannot have happened to them: text is only written
to an open capture, and the innermost capture is closed with the text that it holds. -/
def occur? (sections : Sections) : SectionEvent → Option Sections
  | .started name => some (sections.start name)
  | .wrote text => sections.write? text
  | .extended name text => some (sections.extend name text)
  | .closed name text =>
      match sections.captures with
      | capture :: outer =>
          if capture = ⟨name, text⟩ then
            some ({ sections with captures := outer }.extend name text)
          else none
      | [] => none
  | .left base => some (sections.truncate base)

end SectionEvent

namespace Sections

/-- Sections after events, if the events can have happened to them. -/
def replay? (events : List SectionEvent) (sections : Sections) : Option Sections :=
  events.foldlM SectionEvent.occur? sections

/-- Sections after contents are given to them, one after the other. -/
def extendAll (contents : List (String × String)) (sections : Sections) : Sections :=
  contents.foldl (fun sections (name, text) => sections.extend name text) sections

theorem replay?_append (first second : List SectionEvent) (sections : Sections) :
    sections.replay? (first ++ second) =
      (sections.replay? first).bind fun reached => reached.replay? second := by
  simp only [replay?, List.foldlM_append]
  rfl

/-! ### Tables -/

theorem table_extend (name text : String) {left right : Sections}
    (same : left.table = right.table) :
    (left.extend name text).table = (right.extend name text).table := by
  simp only [extend, content?, same]

theorem table_extendAll (contents : List (String × String)) {left right : Sections}
    (same : left.table = right.table) :
    (left.extendAll contents).table = (right.extendAll contents).table := by
  induction contents generalizing left right with
  | nil => exact same
  | cons content contents inductionHypothesis =>
      obtain ⟨name, text⟩ := content
      exact inductionHypothesis (table_extend name text same)

/-- The table after events is the former one with the contents that the events give, whatever else
was written. -/
theorem table_of_replay? {events : List SectionEvent} {sections reached : Sections}
    (replayed : sections.replay? events = some reached) :
    reached.table =
      (sections.extendAll (events.filterMap SectionEvent.finalized?)).table := by
  induction events generalizing sections with
  | nil =>
      cases replayed
      rfl
  | cons event events inductionHypothesis =>
      obtain ⟨next, applied, later⟩ := Option.bind_eq_some_iff.1 replayed
      rw [inductionHypothesis later]
      cases event with
      | started name =>
          cases applied
          exact table_extendAll _ rfl
      | wrote text =>
          refine table_extendAll _ ?_
          simp only [SectionEvent.occur?, write?] at applied
          split at applied
          · cases applied
          · cases applied
            rfl
      | extended name text =>
          cases applied
          rfl
      | closed name text =>
          refine table_extendAll _ ?_
          simp only [SectionEvent.occur?] at applied
          split at applied
          next capture outer opened =>
            split at applied
            · cases applied
              exact table_extend name text rfl
            · cases applied
          next => cases applied
      | left base =>
          cases applied
          exact table_extendAll _ rfl

theorem content?_extend (name content : String) (sections : Sections) :
    (sections.extend name content).content? name =
      some (((sections.content? name).map (Text.replace parentMark content)).getD content) := by
  rw [content?, extend, Entries.lookup_put, if_pos rfl]
  cases sections.content? name <;> rfl

theorem content?_extend_of_ne {name other : String} (different : other ≠ name)
    (text : String) (sections : Sections) :
    (sections.extend other text).content? name = sections.content? name := by
  rw [content?, extend, Entries.lookup_put, if_neg different.symm, content?]

/-- A section without content gets just the content that it is given. -/
theorem extend_of_content?_eq_none {name : String} {sections : Sections}
    (none : sections.content? name = none) (content : String) :
    sections.extend name content =
      { sections with table := Entries.put name content sections.table } := by
  rw [extend, none]

theorem has_extend {name : String} {sections : Sections} (other text : String)
    (has : sections.has name = true) : (sections.extend other text).has name = true := by
  simp only [Sections.has, content?, extend, Entries.lookup_put] at has ⊢
  split
  · rfl
  · exact has

theorem has_extendAll {name : String} {sections : Sections}
    (contents : List (String × String)) (has : sections.has name = true) :
    (sections.extendAll contents).has name = true := by
  induction contents generalizing sections with
  | nil => exact has
  | cons content contents inductionHypothesis =>
      exact inductionHypothesis (has_extend content.1 content.2 has)

/-! ### Captures -/

/-- The first `base` captures that were opened. -/
def outer (base : Nat) (sections : Sections) : List Capture :=
  sections.captures.drop (sections.depth - base)

/-- Closing a capture takes the innermost one away and gives its text to its section. -/
theorem exists_capture_of_close? {closing : Closing} {text : String}
    {sections closed : Sections} (found : sections.close? closing = some (text, closed)) :
    ∃ capture, sections.captures = capture :: closed.captures ∧
      closed =
        ({ sections with captures := closed.captures } : Sections).extend
          capture.name capture.text := by
  have stopped : ∃ name, sections.stop? = some (name, closed) := by
    cases closing with
    | stop => exact ⟨text, found⟩
    | yield =>
        obtain ⟨⟨name, reached⟩, stopped, same⟩ := Option.map_eq_some_iff.1 found
        cases same
        exact ⟨name, stopped⟩
  obtain ⟨name, stopped⟩ := stopped
  unfold stop? at stopped
  split at stopped
  · cases stopped
  next capture outer opened =>
    cases stopped
    exact ⟨capture, opened, rfl⟩

theorem captures_of_close?_eq_none {closing : Closing} {sections : Sections}
    (none : sections.close? closing = none) : sections.captures = [] := by
  obtain ⟨captures, table⟩ := sections
  cases captures with
  | nil => rfl
  | cons capture outer => cases closing <;> cases none

theorem captures_of_write?_eq_none {text : String} {sections : Sections}
    (none : sections.write? text = none) : sections.captures = [] := by
  obtain ⟨captures, table⟩ := sections
  cases captures with
  | nil => rfl
  | cons capture outer => cases none

/-- Sections in which the first `base` captures are as they were before. -/
structure Undisturbed (base : Nat) (before after : Sections) : Prop where
  depth : base ≤ after.depth
  outer : after.outer base = before.outer base

namespace Undisturbed

variable {base : Nat} {first second third : Sections}

theorem trans (left : Undisturbed base first second)
    (right : Undisturbed base second third) : Undisturbed base first third :=
  ⟨right.depth, right.outer.trans left.outer⟩

/-- What is opened beyond captures that stay may change. -/
theorem of_append (opened₁ opened₂ : List Capture) {rest : List Capture}
    (before : first.captures = opened₁ ++ rest) (after : second.captures = opened₂ ++ rest)
    (enough : base ≤ rest.length) : Undisturbed base first second := by
  have outer_eq : ∀ {opened : List Capture} {sections : Sections},
      sections.captures = opened ++ rest →
        sections.outer base = rest.drop (rest.length - base) := by
    intro opened sections parts
    have lengths : sections.depth - base = opened.length + (rest.length - base) := by
      rw [Sections.depth, parts, List.length_append]
      omega
    rw [Sections.outer, lengths, parts, List.drop_append]
    simp
  refine ⟨?_, (outer_eq after).trans (outer_eq before).symm⟩
  rw [Sections.depth, after, List.length_append]
  omega

theorem of_captures (opened : base ≤ first.depth)
    (same : second.captures = first.captures) : Undisturbed base first second :=
  of_append [] [] rfl same opened

theorem refl (opened : base ≤ first.depth) : Undisturbed base first first :=
  of_captures opened rfl

theorem start (name : String) (opened : base ≤ first.depth) :
    Undisturbed base first (first.start name) :=
  of_append [] [⟨name, ""⟩] rfl rfl opened

theorem write {text : String} (opened : base < first.depth)
    (written : first.write? text = some second) : Undisturbed base first second := by
  unfold Sections.write? at written
  split at written
  · cases written
  next capture outer before =>
    cases written
    rw [Sections.depth, before] at opened
    exact of_append [capture] [_] before rfl
      (Nat.le_of_lt_succ opened)

theorem close {closing : Closing} {text : String} (opened : base < first.depth)
    (closed : first.close? closing = some (text, second)) :
    Undisturbed base first second := by
  obtain ⟨capture, before, _⟩ := exists_capture_of_close? closed
  rw [Sections.depth, before] at opened
  exact of_append [capture] [] before rfl
    (Nat.le_of_lt_succ opened)

/-- Dropping what was opened beyond all former captures brings those back. -/
theorem captures_truncate (kept : Undisturbed first.depth first second) :
    (second.truncate first.depth).captures = first.captures := by
  have whole : first.outer first.depth = first.captures := by
    rw [Sections.outer, Nat.sub_self, List.drop_zero]
  exact kept.outer.trans whole

end Undisturbed

end Sections

/-! ## The traced monad -/

/-- A rendering with a result of type `α` that notes what it does to the sections. -/
def Traced (σ α : Type) : Type :=
  RenderState σ → List SectionEvent × Outcome σ α

namespace Traced

variable {σ α β : Type}

/-- A plain rendering with notes that depend on where it begins. -/
def noting (events : Sections → List SectionEvent) (rendering : Render σ α) : Traced σ α :=
  fun state => (events state.sections, rendering state)

/-- The plain rendering under a traced one. -/
def plain (traced : Traced σ α) : Render σ α := fun state =>
  (traced state).2

def andThen (traced : Traced σ α) (next : α → Traced σ β) : Traced σ β := fun state =>
  match traced state with
  | (events, .ok result reached) =>
      let (later, outcome) := next result reached
      (events ++ later, outcome)
  | (events, .error interrupt reached) => (events, .error interrupt reached)

instance : Monad (Traced σ) where
  pure result := noting (fun _ => []) (pure result)
  bind := andThen

/-- The note on closing a capture beyond the first `base`. -/
def closedEvents (base : Nat) (sections : Sections) : List SectionEvent :=
  if base < sections.depth then
    sections.captures.head?.toList.map fun capture => .closed capture.name capture.text
  else []

/-- The note on adding text to a capture beyond the first `base`. -/
def wroteEvents (base : Nat) (text : String) (sections : Sections) : List SectionEvent :=
  if base < sections.depth then [.wrote text] else []

instance : Rendering σ (Traced σ) where
  fail error := noting (fun _ => []) (Rendering.fail error)
  exhaust := noting (fun _ => []) Rendering.exhaust
  mapError change traced := fun state =>
    ((traced state).1, Rendering.mapError change traced.plain state)
  compiled environment view := noting (fun _ => []) (Rendering.compiled environment view)
  contains environment view := noting (fun _ => []) (Rendering.contains environment view)
  kept? view := noting (fun _ => []) (Rendering.kept? view)
  keep view program := noting (fun _ => []) (Rendering.keep view program)
  content name := noting (fun _ => []) (Rendering.content name)
  start name := noting (fun _ => [.started name]) (Rendering.start name)
  extend name text := noting (fun _ => [.extended name text]) (Rendering.extend name text)
  close closing base missing :=
    noting (closedEvents base) (Rendering.close closing base missing)
  write base text := noting (wroteEvents base text) (Rendering.write base text)
  unclosed? base := noting (fun _ => []) (Rendering.unclosed? base)
  framed body := fun state =>
    let base := state.sections.depth
    ((body base state).1 ++ [.left base], Rendering.framed (fun base => (body base).plain) state)

/-! ## What the notes account for -/

/-- What notes say of the sections before and after them. -/
structure Accounting where
  Holds : (before : Sections) → List SectionEvent → (after : Sections) → Prop
  quiet (sections : Sections) : Holds sections [] sections
  trans {first second third : Sections} {events later : List SectionEvent} :
    Holds first events second → Holds second later third →
      Holds first (events ++ later) third

/-- Notes that explain how the sections came about, with the first `base` captures untouched. -/
structure Accounts (base : Nat) (before : Sections) (events : List SectionEvent)
    (after : Sections) : Prop where
  replayed : before.replay? events = some after
  undisturbed : base ≤ before.depth → before.Undisturbed base after

/-- Notes that explain how the sections came about, with all captures untouched. -/
structure AccountsForAll (before : Sections) (events : List SectionEvent)
    (after : Sections) : Prop where
  replayed : before.replay? events = some after
  captures : after.captures = before.captures

theorem replayed_trans {first second third : Sections} {events later : List SectionEvent}
    (left : first.replay? events = some second) (right : second.replay? later = some third) :
    first.replay? (events ++ later) = some third := by
  rw [Sections.replay?_append, left]
  exact right

/-- The accounting inside a view that began with `base` open captures. -/
def inside (base : Nat) : Accounting where
  Holds := Accounts base
  quiet _ := ⟨rfl, Sections.Undisturbed.refl⟩
  trans left right :=
    ⟨replayed_trans left.replayed right.replayed, fun opened =>
      have kept := left.undisturbed opened
      kept.trans (right.undisturbed kept.depth)⟩

/-- The accounting around views. -/
def around : Accounting where
  Holds := AccountsForAll
  quiet _ := ⟨rfl, rfl⟩
  trans left right :=
    ⟨replayed_trans left.replayed right.replayed, right.captures.trans left.captures⟩

/-- A traced rendering does what a plain one does, and its notes account for that. -/
def Follows (accounting : Accounting) (traced : Traced σ α) (plain : Render σ α) : Prop :=
  ∀ state, (traced state).2 = plain state ∧
    accounting.Holds state.sections (traced state).1
      (Outcome.reached (plain state)).sections

variable {accounting : Accounting}

theorem follows_noting {events : Sections → List SectionEvent} {rendering : Render σ α}
    (accounts : ∀ state, accounting.Holds state.sections (events state.sections)
      (Outcome.reached (rendering state)).sections) :
    Follows accounting (noting events rendering) rendering :=
  fun state => ⟨rfl, accounts state⟩

theorem follows_quiet {rendering : Render σ α}
    (same : ∀ state, (Outcome.reached (rendering state)).sections = state.sections) :
    Follows accounting (noting (fun _ => []) rendering) rendering :=
  follows_noting fun state => by
    rw [same]
    exact accounting.quiet _

theorem follows_bind {traced : Traced σ α} {plain : Render σ α}
    {next₁ : α → Traced σ β} {next₂ : α → Render σ β} (first : Follows accounting traced plain)
    (second : ∀ result, Follows accounting (next₁ result) (next₂ result)) :
    Follows accounting (traced >>= next₁) (plain >>= next₂) := by
  intro state
  obtain ⟨outcome, account⟩ := first state
  change (traced.andThen next₁ state).2 = EStateM.bind plain next₂ state ∧
    accounting.Holds state.sections (traced.andThen next₁ state).1
      (Outcome.reached (EStateM.bind plain next₂ state)).sections
  unfold andThen EStateM.bind
  cases ended : plain state with
  | ok result middle =>
      rw [ended] at outcome account
      have parts : traced state = ((traced state).1, .ok result middle) :=
        Prod.ext rfl outcome
      rw [parts]
      obtain ⟨outcome', account'⟩ := second result middle
      exact ⟨outcome', accounting.trans account account'⟩
  | error interrupt middle =>
      rw [ended] at outcome account
      have parts : traced state = ((traced state).1, .error interrupt middle) :=
        Prod.ext rfl outcome
      rw [parts]
      exact ⟨rfl, account⟩

theorem follows_mapError {traced : Traced σ α} {plain : Render σ α}
    (change : Error → Error) (follows : Follows accounting traced plain) :
    Follows accounting (Rendering.mapError change traced)
      (Rendering.mapError change plain) := by
  intro state
  obtain ⟨outcome, account⟩ := follows state
  refine ⟨congrArg (Outcome.mapError change) outcome, ?_⟩
  have ended : (Outcome.reached (Rendering.mapError change plain state)).sections =
      (Outcome.reached (plain state)).sections := by
    change (Outcome.reached (Outcome.mapError change (plain state))).sections = _
    match plain state with
    | .ok _ _ | .error .exhausted _ | .error (.failed _) _ => rfl
  rw [ended]
  exact account

theorem follows_fail (error : Error) :
    Follows accounting (Rendering.fail error : Traced σ α) (Rendering.fail error) :=
  follows_quiet fun _ => rfl

theorem follows_ofExcept (result : Except Error α) :
    Follows accounting (Rendering.ofExcept result : Traced σ α)
      (Rendering.ofExcept result) := by
  cases result with
  | ok result => exact follows_quiet fun _ => rfl
  | error error => exact follows_fail error

theorem follows_compiled (environment : Environment σ) (view : String) :
    Follows accounting (Rendering.compiled environment view)
      (Rendering.compiled environment view) := by
  refine follows_quiet fun state => ?_
  change (Outcome.reached (Render.compiled environment view state)).sections = _
  unfold Render.compiled
  split <;> rfl

theorem follows_freshProgram (view fragment : String) :
    Follows accounting
      (Rendering.freshProgram view fragment : Traced σ Fragment.Program)
      (Rendering.freshProgram view fragment) := by
  unfold Rendering.freshProgram
  cases Fragment.Program.compile fragment with
  | ok program =>
      exact follows_bind (follows_quiet fun _ => rfl) fun _ => follows_quiet fun _ => rfl
  | error error => exact follows_fail _

theorem follows_programOf (environment : Environment σ) (view : String) :
    Follows accounting (Rendering.programOf environment view)
      (Rendering.programOf environment view) :=
  Rendering.programOf_of_steps (fun traced plain => Follows accounting traced plain)
    (fun _ => follows_quiet fun _ => rfl) follows_bind (follows_compiled environment view)
    (follows_quiet fun _ => rfl) (follows_freshProgram view)

/-! ## Operations on the sections -/

theorem follows_close (base : Nat) (closing : Closing) (missing : Error) :
    Follows (inside base) (Rendering.close closing base missing : Traced σ String)
      (Rendering.close closing base missing) := by
  refine follows_noting fun state => ?_
  change Accounts _ _ _ (Outcome.reached (Render.close closing base missing state)).sections
  unfold Render.close closedEvents
  by_cases opened : base < state.sections.depth
  · rw [if_pos opened, if_pos opened]
    cases closed : state.sections.close? closing with
    | none =>
        have empty := Sections.captures_of_close?_eq_none closed
        rw [Sections.depth, empty] at opened
        cases opened
    | some result =>
        obtain ⟨text, after⟩ := result
        obtain ⟨capture, before, same⟩ := Sections.exists_capture_of_close? closed
        refine ⟨?_, fun _ => Sections.Undisturbed.close opened closed⟩
        simp [Sections.replay?, SectionEvent.occur?, before, Outcome.reached, ← same]
  · rw [if_neg opened, if_neg opened]
    exact (inside base).quiet _

theorem follows_write (base : Nat) (text : String) :
    Follows (inside base) (Rendering.write base text : Traced σ Bool)
      (Rendering.write base text) := by
  refine follows_noting fun state => ?_
  change Accounts _ _ _ (Outcome.reached (Render.write base text state)).sections
  unfold Render.write wroteEvents
  by_cases opened : base < state.sections.depth
  · rw [if_pos opened, if_pos opened]
    cases written : state.sections.write? text with
    | none =>
        have empty := Sections.captures_of_write?_eq_none written
        rw [Sections.depth, empty] at opened
        cases opened
    | some after =>
        refine ⟨?_, fun _ => Sections.Undisturbed.write opened written⟩
        simp [Sections.replay?, SectionEvent.occur?, written, Outcome.reached]
  · rw [if_neg opened, if_neg opened]
    exact (inside base).quiet _

/-- A view touches none of the captures that it found and leaves no other one open. -/
theorem follows_framed {body₁ : Nat → Traced σ α} {body₂ : Nat → Render σ α}
    (bodies : ∀ base, Follows (inside base) (body₁ base) (body₂ base)) :
    Follows around (Rendering.framed body₁) (Rendering.framed body₂) := by
  intro state
  let found := state.sections.depth
  obtain ⟨outcome, account⟩ := bodies found state
  have ended : (Outcome.reached (Rendering.framed body₂ state)).sections =
      (Outcome.reached (body₂ found state)).sections.truncate found := by
    change (Outcome.reached (Outcome.mapReached _ (body₂ found state))).sections = _
    cases body₂ found state <;> rfl
  refine ⟨congrArg (Outcome.mapReached (RenderState.truncate found)) outcome, ?_⟩
  rw [ended]
  have kept := account.undisturbed (Nat.le_refl found)
  exact ⟨replayed_trans account.replayed rfl, kept.captures_truncate⟩

/-- What happens around views touches no capture of the view that it happens in. -/
theorem Follows.inside {traced : Traced σ α} {plain : Render σ α}
    (follows : Follows around traced plain) (base : Nat) :
    Follows (inside base) traced plain := by
  intro state
  obtain ⟨outcome, account⟩ := follows state
  exact ⟨outcome, account.replayed, fun opened =>
    Sections.Undisturbed.of_captures opened account.captures⟩

/-- The traced monad follows the plain one through every rendering. -/
def relation (σ : Type) : Rendering.ViewRelation σ (Traced σ) (Render σ) where
  Index := Nat
  left := id
  right := id
  Inner _ := True
  Same e₁ e₂ := e₁ = e₂
  Holds base _ traced plain := Follows (inside base) traced plain
  same_unlocated _ _ := rfl
  same_refl _ := rfl
  pure _ _ := follows_quiet fun _ => rfl
  bind := follows_bind
  fail same := same ▸ follows_fail _
  exhaust _ := follows_quiet fun _ => rfl
  mapError view := follows_mapError (Error.inView view)
  programOf _ := follows_programOf
  contains _ _ _ := follows_quiet fun _ => rfl
  content _ _ := follows_quiet fun _ => rfl
  start _ name := follows_noting fun _ =>
    ⟨rfl, Sections.Undisturbed.start name⟩
  extend _ _ _ := follows_noting fun _ =>
    ⟨rfl, fun opened => Sections.Undisturbed.of_captures opened rfl⟩
  close closing same := same ▸ follows_close _ closing _
  write text _ := follows_write _ text
  unclosed _ := follows_quiet fun _ => rfl
  framed bodies := (follows_framed fun base => bodies base trivial).inside _

/-! ## Views -/

theorem contexts (environment : Environment σ) (fuel levels : Nat) (source : String)
    (base : Nat) :
    (relation σ).Contexts base id
      ⟨environment, source, base, environment.renderAt fuel levels⟩
      ⟨environment, source, base, environment.renderAt fuel levels⟩ where
  environment := rfl
  left := rfl
  right := rfl
  errors _ _ := rfl
  enter := (relation σ).renderAt environment (Or.inl rfl) levels base

theorem follows_renderProgram (environment : Environment σ) (fuel levels : Nat)
    (program : Fragment.Program) (scope : Entries Value) :
    Follows around
      (environment.renderProgram (environment.renderAt fuel levels) fuel program scope)
      (environment.renderProgram (environment.renderAt fuel levels) fuel program scope) :=
  follows_framed fun base =>
    Rendering.Relation.runProgram trivial (contexts environment fuel levels program.source base)
      (fun instruction _ => instruction.mapSpans_id) ((relation σ).exhaust base) (Or.inl rfl) scope

theorem follows_renderAt (environment : Environment σ) (fuel levels : Nat) (view : String)
    (parameters : Entries Value) :
    Follows around (environment.renderAt fuel levels view parameters)
      (environment.renderAt fuel levels view parameters) := by
  cases levels with
  | zero => exact follows_fail _
  | succ levels =>
      refine follows_mapError _ ?_
      refine follows_bind (follows_programOf environment view) fun program => ?_
      exact follows_renderProgram environment fuel levels program _

theorem follows_render (view : View) (environment : Environment σ) (fuel : Nat) :
    Follows around (view.render environment fuel) (view.render environment fuel) :=
  follows_bind (follows_ofExcept view.data) fun data =>
    follows_renderAt environment fuel _ view.name data

end Traced

end ViewTemplate
