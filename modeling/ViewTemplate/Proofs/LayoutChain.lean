import ViewTemplate.Proofs.Coherence
import ViewTemplate.Proofs.InheritanceChain
import ViewTemplate.Proofs.Substitution
import ViewTemplate.Proofs.Traced

/-!
Chains of views, each of which extends the next one. Rendering the first view of a chain gives the
contents of all of them, each in place of the marks in the one before it (`render_chain`).
-/

namespace ViewTemplate

open Fragment Directive

/-! ## Contents -/

namespace Sections

/-- Contents one inside the other: each in place of the marks in the one before it. -/
def nested : List String → String
  | [] => ""
  | [content] => content
  | content :: contents => Text.replace parentMark (nested contents) content

theorem toList_replace_parentMark (content existing : String) :
    (Text.replace parentMark content existing).toList =
      Text.replaceAll '@' "parent".toList content.toList existing.toList :=
  String.toList_ofList

theorem replace_replace {first second : String}
    (markedFirst : Text.Marked '@' "parent".toList first.toList)
    (markedSecond : Text.Marked '@' "parent".toList second.toList) (third : String) :
    Text.replace parentMark third (Text.replace parentMark second first) =
      Text.replace parentMark (Text.replace parentMark third second) first := by
  rw [← String.toList_inj]
  simp only [toList_replace_parentMark]
  exact markedFirst.replaceAll_replaceAll markedSecond third.toList

/-- Replacing the marks in what there is by one content after the other nests them. -/
theorem foldl_replace {contents : List String}
    (marked : ∀ content ∈ contents, Text.Marked '@' "parent".toList content.toList)
    {first : String} (markedFirst : Text.Marked '@' "parent".toList first.toList) :
    contents.foldl (fun existing content => Text.replace parentMark content existing) first =
      nested (first :: contents) := by
  induction contents generalizing first with
  | nil => rfl
  | cons second contents inductionHypothesis =>
      obtain ⟨markedSecond, markedLater⟩ := List.forall_mem_cons.1 marked
      have markedBoth : Text.Marked '@' "parent".toList
          (Text.replace parentMark second first).toList := by
        rw [toList_replace_parentMark]
        exact markedFirst.replaceAll markedSecond
      rw [List.foldl_cons, inductionHypothesis markedLater markedBoth]
      cases contents with
      | nil => rfl
      | cons third contents => exact replace_replace markedFirst markedSecond _

example : nested ["a@parent!@parent", "b@parent", "c"] = "abc!bc" := by cbv

theorem content?_extendAll (name : String) (contents : List String) {sections : Sections}
    {first : String} (has : sections.content? name = some first) :
    (sections.extendAll (contents.map (name, ·))).content? name =
      some (contents.foldl (fun existing content => Text.replace parentMark content existing)
        first) := by
  induction contents generalizing sections first with
  | nil => exact has
  | cons content contents inductionHypothesis =>
      refine inductionHypothesis ?_
      rw [content?_extend, has]
      rfl

theorem content_extendAll {name first : String} {contents : List String} {sections : Sections}
    (none : sections.content? name = none)
    (marked : ∀ content ∈ first :: contents, Text.Marked '@' "parent".toList content.toList) :
    (sections.extendAll ((first :: contents).map (name, ·))).content name =
      nested (first :: contents) := by
  obtain ⟨markedFirst, markedLater⟩ := List.forall_mem_cons.1 marked
  have has : (sections.extend name first).content? name = some first := by
    rw [content?_extend, none]
    rfl
  rw [content, List.map_cons, extendAll, List.foldl_cons]
  change Option.getD ((extendAll _ (sections.extend name first)).content? name) "" = _
  rw [content?_extendAll name contents has, Option.getD_some, foldl_replace markedLater markedFirst]

end Sections

theorem PlainContent.marked {content : List Char} (plain : PlainContent content) :
    Text.Marked '@' "parent".toList content :=
  .of_forall plain.marks

/-! ## Programs -/

theorem length_rawActions_le (content : List Char) : (rawActions content).length ≤ 1 := by
  rw [rawActions]
  split
  · exact Nat.zero_le 1
  · exact Nat.le_refl 1

section Programs

variable {σ : Type} {environment : Environment σ}
  {enter : String → Entries Value → Render σ String} {sectionName source : String}
  {start : Expression} (isStart : StartsSection sectionName start) {fuel : Nat}
  (enough : 6 ≤ fuel) (content : String) (scope : Entries Value) (state : RenderState σ)

include isStart enough

theorem Environment.renderProgram_showingActions {yield : Expression}
    (isYield : ClosesSection "yield_section" yield) :
    environment.renderProgram enter fuel
        ⟨source, instructionsOf ((showingActions start yield content.toList).map .action)⟩ scope
        state =
      .ok ((state.sections.extend sectionName content).content sectionName)
        { state with sections := state.sections.extend sectionName content } := by
  have length : (showingActions start yield content.toList).length < fuel := by
    have raw := length_rawActions_le content.toList
    simp only [showingActions, List.length_cons, List.length_append, List.length_nil]
    omega
  refine (renderProgram_actions length
    (RenderContext.foldlM_showingActions isStart content rfl isYield) rfl).trans ?_
  rw [Page.initial, String.empty_append]

/-- The program of a view that extends another outputs a line feed and what the other view outputs
with the content in the section. -/
theorem Environment.renderProgram_extendingActions {stop make : Expression}
    {parent output : String} (isStop : ClosesSection "stop_section" stop)
    (isMake : MakesView parent make) {reached : RenderState σ}
    (entered : enter parent (Entries.overlay [] scope)
      { state with sections := state.sections.extend sectionName content } = .ok output reached)
    (kept : reached.sections.captures = state.sections.captures) :
    environment.renderProgram enter fuel
        ⟨source, instructionsOf ((extendingActions start stop make content.toList).map .action)⟩
        scope state =
      .ok ("\n" ++ output) reached := by
  have length : (extendingActions start stop make content.toList).length < fuel := by
    have raw := length_rawActions_le content.toList
    simp only [extendingActions, List.length_cons, List.length_append, List.length_nil]
    omega
  refine (renderProgram_actions length
    (RenderContext.foldlM_extendingActions isStart content rfl isStop isMake entered kept)
    kept).trans ?_
  rw [Page.initial, String.empty_append]

end Programs

/-! ## Chains -/

/-- A view of a chain: its name, and its content of the section that all of the chain fill. -/
structure Layer where
  name : String
  content : String

/-- The sources of a chain of views: each extends the next one, and the last one shows the
section. -/
def chainSources (sectionName : String) : List Layer → List (String × String)
  | [] => []
  | [layer] => [(layer.name, showingSource sectionName layer.content)]
  | layer :: parent :: layers =>
      (layer.name, extendingSource sectionName parent.name layer.content) ::
        chainSources sectionName (parent :: layers)

theorem names_chainSources (sectionName : String) (layers : List Layer) :
    Entries.names (chainSources sectionName layers) = layers.map Layer.name := by
  induction layers with
  | nil => rfl
  | cons layer layers inductionHypothesis =>
      cases layers with
      | nil => rfl
      | cons parent layers => exact congrArg (layer.name :: ·) inductionHypothesis

namespace MemoryViews

/-- Compiles views and puts them in, one after the other. -/
def insertAll (sources : List (String × String)) (views : MemoryViews) : MemoryViews :=
  sources.foldl (fun views (name, source) => views.insert name source) views

theorem lookup_insert (name source key : String) (views : MemoryViews) :
    (views.insert name source).fragments.lookup key =
      if key = name then some (Directive.compile source) else views.fragments.lookup key :=
  Entries.lookup_put name key _ views.fragments

theorem lookup_insertAll_of_not_mem {name : String} {sources : List (String × String)}
    (absent : name ∉ Entries.names sources) (views : MemoryViews) :
    (views.insertAll sources).fragments.lookup name = views.fragments.lookup name := by
  induction sources generalizing views with
  | nil => rfl
  | cons first sources inductionHypothesis =>
      obtain ⟨other, later⟩ := List.ne_and_not_mem_of_not_mem_cons absent
      exact (inductionHypothesis later _).trans ((lookup_insert ..).trans (if_neg other))

/-- Of views with different names each is found with its own fragment. -/
theorem compiled_insertAll {name source : String} {sources : List (String × String)}
    (distinct : (Entries.names sources).Nodup) (member : (name, source) ∈ sources)
    (views : MemoryViews) :
    (views.insertAll sources).compiled name = .ok (Directive.compile source) := by
  have found : (views.insertAll sources).fragments.lookup name =
      some (Directive.compile source) := by
    induction sources generalizing views with
    | nil => cases member
    | cons first sources inductionHypothesis =>
        obtain ⟨different, distinctLater⟩ := List.nodup_cons.1 distinct
        rcases List.mem_cons.1 member with rfl | later
        · exact (lookup_insertAll_of_not_mem different _).trans
            ((lookup_insert ..).trans (if_pos rfl))
        · exact inductionHypothesis distinctLater later _
  rw [compiled, found]

end MemoryViews

/-- The sections that a chain of views leaves. -/
def Sections.fill (sectionName : String) (layers : List Layer) (sections : Sections) : Sections :=
  sections.extendAll ((layers.map Layer.content).map (sectionName, ·))

theorem Sections.captures_fill (sectionName : String) (layers : List Layer)
    (sections : Sections) : (sections.fill sectionName layers).captures = sections.captures := by
  induction layers generalizing sections with
  | nil => rfl
  | cons layer layers inductionHypothesis =>
      exact inductionHypothesis (sections.extend sectionName layer.content)

section Chains

variable {environment : Environment MemoryViews} (inMemory : environment.store = .memory)
  {sectionName : String} (plainSection : PlainName sectionName.toList) {fuel : Nat}
  (enough : 6 ≤ fuel)

include inMemory in
theorem compiled_memory {state : RenderState MemoryViews} {view fragment : String}
    (found : state.stored.compiled view = .ok fragment) :
    environment.store.compiled view state.stored = (.ok fragment, state.stored) := by
  rw [inMemory]
  exact congrArg (·, state.stored) found

include inMemory plainSection enough

/-- The first view of a chain outputs a line feed for each view that extends another, and then what
the section has after all views of the chain gave it their contents. -/
theorem renderAt_chain {layer : Layer} {layers : List Layer}
    (plainNames : ∀ other ∈ layers, PlainName other.name.toList)
    (plainContents : ∀ other ∈ layer :: layers, PlainContent other.content.toList)
    {levels : Nat} (deep : layers.length < levels) {state : RenderState MemoryViews}
    (coherent : state.Coherent)
    (inserted : ∀ name source, (name, source) ∈ chainSources sectionName (layer :: layers) →
      state.stored.compiled name = .ok (Directive.compile source))
    (parameters : Entries Value) :
    ∃ programs,
      (environment.renderAt fuel levels layer.name parameters : Render MemoryViews String) state =
        .ok
          (String.ofList (List.replicate layers.length '\n') ++
            (state.sections.fill sectionName (layer :: layers)).content sectionName)
          { state with
            programs := programs
            sections := state.sections.fill sectionName (layer :: layers) } := by
  induction layers generalizing layer levels state parameters with
  | nil =>
      obtain ⟨plainContent, _⟩ := List.forall_mem_cons.1 plainContents
      obtain ⟨levels, rfl⟩ := Nat.exists_eq_add_one_of_ne_zero (Nat.ne_zero_of_lt deep)
      obtain ⟨start, yield, isStart, isYield, compiled⟩ :=
        exists_program_showingSource plainSection plainContent
      have handed := inserted layer.name _ List.mem_cons_self
      obtain ⟨programs, _, sameFragment⟩ := coherent.renderAt (compiled_memory inMemory handed)
        fuel levels parameters
      refine ⟨programs, (sameFragment.trans (Environment.renderFragment_of_compile compiled
        (Environment.renderProgram_showingActions isStart enough layer.content _ _
          isYield))).trans ?_⟩
      rw [List.length_nil, List.replicate_zero, String.ofList_nil, String.empty_append]
      rfl
  | cons parent layers inductionHypothesis =>
      obtain ⟨plainParent, plainNamesLater⟩ := List.forall_mem_cons.1 plainNames
      obtain ⟨plainContent, plainContentsLater⟩ := List.forall_mem_cons.1 plainContents
      obtain ⟨levels, rfl⟩ := Nat.exists_eq_add_one_of_ne_zero (Nat.ne_zero_of_lt deep)
      obtain ⟨start, stop, make, isStart, isStop, isMake, compiled⟩ :=
        exists_program_extendingSource plainSection plainContent plainParent
      have handed := inserted layer.name _ List.mem_cons_self
      obtain ⟨programs, coherentKept, sameFragment⟩ :=
        coherent.renderAt (compiled_memory inMemory handed) fuel levels parameters
      -- The parent is rendered while the section has the content of this view already.
      have coherentThen : RenderState.Coherent { state with
          programs := programs
          sections := state.sections.extend sectionName layer.content } := coherentKept
      obtain ⟨programsAfter, parentRendered⟩ := inductionHypothesis plainNamesLater
        plainContentsLater (Nat.lt_of_succ_lt_succ deep) coherentThen
        (fun name source member => inserted name source (List.mem_cons_of_mem _ member))
        (Entries.overlay [] (environment.variablesFor layer.name parameters))
      have kept := Sections.captures_fill sectionName (parent :: layers)
        (state.sections.extend sectionName layer.content)
      refine ⟨programsAfter, (sameFragment.trans (Environment.renderFragment_of_compile compiled
        (Environment.renderProgram_extendingActions isStart enough layer.content _ _ isStop isMake
          parentRendered kept))).trans ?_⟩
      rw [List.length_cons, List.replicate_succ, String.ofList_cons, String.append_assoc]
      rfl

/-- Layouts compose by substitution: the first view of a chain in memory renders without an error,
to a line feed for each view that extends another and the contents of all of them, each in place of
the marks of the parent in the one before it. -/
theorem render_chain {layer : Layer} {layers : List Layer} {sources : List (String × String)}
    {views : MemoryViews} (plainNames : ∀ other ∈ layers, PlainName other.name.toList)
    (distinct : ((layer :: layers).map Layer.name).Nodup)
    (plainContents : ∀ other ∈ layer :: layers, PlainContent other.content.toList)
    (chained : sources.Perm (chainSources sectionName (layer :: layers)))
    (deep : layers.length ≤ environment.maxDepth) {state : RenderState MemoryViews}
    (stored : state.stored = views.insertAll sources) (coherent : state.Coherent)
    (without : state.sections.has sectionName = false) (data : Entries Value) :
    ∃ reached,
      (View.render ⟨layer.name, .ok data⟩ environment fuel : Render MemoryViews String) state =
        .ok
          (String.ofList (List.replicate layers.length '\n') ++
            Sections.nested ((layer :: layers).map Layer.content))
          reached := by
  have names : (Entries.names sources).Nodup := by
    have same : (Entries.names sources).Perm ((layer :: layers).map Layer.name) := by
      rw [← names_chainSources sectionName]
      exact chained.map Prod.fst
    exact same.nodup_iff.2 distinct
  have inserted : ∀ name source, (name, source) ∈ chainSources sectionName (layer :: layers) →
      state.stored.compiled name = .ok (Directive.compile source) := by
    intro name source member
    rw [stored]
    exact MemoryViews.compiled_insertAll names (chained.mem_iff.2 member) views
  obtain ⟨programs, rendered⟩ := renderAt_chain inMemory plainSection enough plainNames
    plainContents (Nat.lt_succ_of_le deep) coherent inserted data
  have filled : (state.sections.fill sectionName (layer :: layers)).content sectionName =
      Sections.nested ((layer :: layers).map Layer.content) := by
    have none : state.sections.content? sectionName = none :=
      Option.not_isSome_iff_eq_none.1 (Bool.eq_false_iff.1 without)
    have marked : ∀ content ∈ (layer :: layers).map Layer.content,
        Text.Marked '@' "parent".toList content.toList := by
      intro content member
      obtain ⟨other, within, rfl⟩ := List.mem_map.1 member
      exact (plainContents other within).marked
    exact Sections.content_extendAll none marked
  rw [filled] at rendered
  exact ⟨_, rendered⟩

end Chains

theorem render_chain_of_three_layers :
    ∃ reached,
      (View.render ⟨"page", .ok []⟩ (Environment.ofStore .memory 0) 6 :
          Render MemoryViews String)
        ⟨MemoryViews.empty.insertAll (chainSources "main"
          [⟨"page", "a@parent!@parent"⟩, ⟨"part", "b@parent"⟩, ⟨"base", "c"⟩]), [], .empty⟩ =
      .ok (String.ofList (List.replicate 2 '\n') ++
        Sections.nested ["a@parent!@parent", "b@parent", "c"]) reached := by
  have plainNames : ∀ other ∈ [⟨"part", "b@parent"⟩, (⟨"base", "c"⟩ : Layer)],
      PlainName other.name.toList := by
    simp only [List.forall_mem_cons, List.not_mem_nil, false_imp_iff, implies_true, and_true]
    exact ⟨⟨by decide, by decide⟩, by decide, by decide⟩
  have plainContents : ∀ other ∈ [⟨"page", "a@parent!@parent"⟩, ⟨"part", "b@parent"⟩,
      (⟨"base", "c"⟩ : Layer)], PlainContent other.content.toList := by
    simp only [List.forall_mem_cons, List.not_mem_nil, false_imp_iff, implies_true, and_true]
    exact ⟨by decide, by decide, by decide⟩
  exact render_chain rfl ⟨by decide, by decide⟩ (Nat.le_refl 6) plainNames (by decide)
    plainContents (.refl _) (by decide) rfl (fun _ _ found => by cases found) rfl []

end ViewTemplate
