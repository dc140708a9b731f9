import ViewTemplate.Proofs.HostImages
import ViewTemplate.Render.View

/-!
The data that views begin with, as layers. What a view is given lies on what all views share, and
then the composers that are for the view change it (`beginsWith_variablesFor`). A view that is
named, and given data link by link, begins with what its links supply, later ones on top
(`enters_linked`), or ends with the error of the first link that supplies nothing
(`render_linked_of_refuses`).
-/

namespace ViewTemplate

/-! ## Layers -/

/-- Data that is made up of layers, the first of them on top: a name has the value that it has in
the first layer which binds it. -/
structure IsLayered (layers : List (Entries Value)) (data : Entries Value) : Prop where
  ascending : data.Ascending
  lookup (name : String) : data.lookup name = layers.findSome? fun layer => layer.lookup name

namespace IsLayered

variable {layers others : List (Entries Value)} {data below : Entries Value}

theorem unique {other : Entries Value} (layered : IsLayered layers data)
    (layeredOther : IsLayered layers other) : data = other :=
  Entries.eq_of_lookup layered.ascending layeredOther.ascending fun name =>
    (layered.lookup name).trans (layeredOther.lookup name).symm

theorem nil : IsLayered [] [] :=
  ⟨Entries.ascending_nil, fun _ => rfl⟩

theorem overlay (layered : IsLayered layers data) (layeredBelow : IsLayered others below) :
    IsLayered (layers ++ others) (Entries.overlay below data) := by
  constructor
  · exact Entries.ascending_overlay data layeredBelow.ascending
  · intro name
    rw [Entries.lookup_overlay_of_ascending below layered.ascending, layered.lookup,
      layeredBelow.lookup, List.findSome?_append]

theorem single (ascending : data.Ascending) : IsLayered [data] data := by
  constructor
  · exact ascending
  · intro name
    cases found : data.lookup name with
    | none => simp [found]
    | some value => simp [found]

theorem put (name : String) (value : Value) (layered : IsLayered layers data) :
    IsLayered ([(name, value)] :: layers) (Entries.put name value data) := by
  have above : IsLayered [[(name, value)]] [(name, value)] :=
    single (Entries.ascending_single name value)
  exact above.overlay layered

end IsLayered

/-! ## Composers -/

/-- Composers change the data of a view, one after the other. The others leave it as it is. -/
inductive Composes (view : String) : List Composer → Entries Value → Entries Value → Prop
  | nil (data : Entries Value) : Composes view [] data data
  | applied {composer : Composer} {composers : List Composer} {data last : Entries Value} :
      composer.pattern = "*" ∨ composer.pattern = view →
        Composes view composers (composer.compose view data) last →
          Composes view (composer :: composers) data last
  | passed {composer : Composer} {composers : List Composer} {data last : Entries Value} :
      ¬ (composer.pattern = "*" ∨ composer.pattern = view) → Composes view composers data last →
        Composes view (composer :: composers) data last

theorem Composer.appliesTo_iff (composer : Composer) (view : String) :
    composer.appliesTo view = true ↔ composer.pattern = "*" ∨ composer.pattern = view := by
  simp [Composer.appliesTo]

namespace Composes

variable {view : String} {composers : List Composer} {data last : Entries Value}

theorem foldl (view : String) (composers : List Composer) (data : Entries Value) :
    Composes view composers data
      (composers.foldl (fun data composer =>
        if composer.appliesTo view then composer.compose view data else data) data) := by
  induction composers generalizing data with
  | nil => exact .nil data
  | cons composer composers inductionHypothesis =>
      rw [List.foldl_cons]
      split
      next applies =>
        exact .applied ((composer.appliesTo_iff view).1 applies) (inductionHypothesis _)
      next passes =>
        exact .passed (mt (composer.appliesTo_iff view).2 passes) (inductionHypothesis data)

/-- Composers that keep data in order do so together. -/
theorem ascending
    (keeps : ∀ composer ∈ composers, ∀ data : Entries Value, data.Ascending →
      (composer.compose view data).Ascending)
    (composes : Composes view composers data last) (ascending : data.Ascending) :
    last.Ascending := by
  induction composes with
  | nil data => exact ascending
  | applied _ _ inductionHypothesis =>
      obtain ⟨first, others⟩ := List.forall_mem_cons.1 keeps
      exact inductionHypothesis others (first _ ascending)
  | passed _ _ inductionHypothesis =>
      exact inductionHypothesis (List.forall_mem_cons.1 keeps).2 ascending

theorem unique {other : Entries Value} (composes : Composes view composers data last)
    (composesOther : Composes view composers data other) : last = other := by
  induction composes with
  | nil data =>
      cases composesOther
      rfl
  | applied applies _ inductionHypothesis =>
      cases composesOther with
      | applied _ later => exact inductionHypothesis later
      | passed passes _ => exact absurd applies passes
  | passed passes _ inductionHypothesis =>
      cases composesOther with
      | applied applies _ => exact absurd applies passes
      | passed _ later => exact inductionHypothesis later

end Composes

namespace Environment

variable {σ : Type} (environment : Environment σ)

/-- The variables that a view begins with if it is given data in layers: these layers lie on what
is shared, and then the composers for the view have changed the data. -/
def BeginsWith (view : String) (layers : List (Entries Value)) (scope : Entries Value) : Prop :=
  ∃ data, IsLayered (layers ++ [environment.shared]) data ∧
    Composes view environment.composers data scope

variable {environment}

/-- There is only one scope that a view can begin with. -/
theorem BeginsWith.unique {view : String} {layers : List (Entries Value)}
    {scope other : Entries Value} (begins : environment.BeginsWith view layers scope)
    (beginsOther : environment.BeginsWith view layers other) : scope = other := by
  obtain ⟨data, layered, composes⟩ := begins
  obtain ⟨dataOther, layeredOther, composesOther⟩ := beginsOther
  obtain rfl := layered.unique layeredOther
  exact composes.unique composesOther

theorem beginsWith_variablesFor (ascending : environment.shared.Ascending) (view : String)
    {layers : List (Entries Value)} {parameters : Entries Value}
    (layered : IsLayered layers parameters) :
    environment.BeginsWith view layers (environment.variablesFor view parameters) :=
  ⟨environment.viewData parameters, layered.overlay (.single ascending),
    Composes.foldl view environment.composers _⟩

/-! ## Entering a view -/

/-- Renders a view that may hold views `levels` deep, from the variables in scope on. -/
def renderFrom (environment : Environment σ) (fuel levels : Nat) (view : String)
    (scope : Entries Value) : Render σ String :=
  Rendering.mapError (Error.inView view) do
    let program ← Rendering.programOf environment view
    environment.renderProgram (environment.renderAt fuel levels) fuel program scope

/-- A rendering is that of a view which is given data in layers. -/
def Enters (environment : Environment σ) (fuel levels : Nat) (view : String)
    (layers : List (Entries Value)) (rendering : Render σ String) : Prop :=
  ∃ scope, environment.BeginsWith view layers scope ∧
    rendering = environment.renderFrom fuel levels view scope

theorem enters_renderAt (ascending : environment.shared.Ascending) (fuel levels : Nat)
    (view : String) {layers : List (Entries Value)} {parameters : Entries Value}
    (layered : IsLayered layers parameters) :
    environment.Enters fuel levels view layers
      (environment.renderAt fuel (levels + 1) view parameters) :=
  ⟨environment.variablesFor view parameters, beginsWith_variablesFor ascending view layered, rfl⟩

end Environment

/-! ## Views with data -/

/-- How a view is given data: a variable, or host data. -/
inductive DataLink where
  | bind (name : String) (value : Value)
  | withData (data : HostData)

namespace DataLink

def addTo (view : View) : DataLink → View
  | bind name value => view.bind name value
  | withData data => view.withData data

/-- The layer that a link puts on top. -/
inductive Supplies : DataLink → Entries Value → Prop
  | variable (name : String) (value : Value) : Supplies (.bind name value) [(name, value)]
  | map {data : HostData} {entries : Entries Value} :
      data.toValue = .ok (.map entries) → Supplies (.withData data) entries
  | nothing {data : HostData} : data.toValue = .ok .none → Supplies (.withData data) []

/-- The fault of host data that does not convert to a map or to none. -/
inductive Refuses : DataLink → HostData.Fault → Prop
  | conversion {data : HostData} {fault : HostData.Fault} :
      data.toValue = .error fault → Refuses (.withData data) fault
  | kind {data : HostData} {value : Value} :
      data.toValue = .ok value → value.kind ≠ .map → value.kind ≠ .none →
        Refuses (.withData data) (.unusableViewData value.kind)

variable {link : DataLink} {view : View} {layer data : Entries Value}

theorem supplies_or_refuses (link : DataLink) :
    (∃ layer, link.Supplies layer) ∨ ∃ fault, link.Refuses fault := by
  cases link with
  | bind name value => exact .inl ⟨_, .variable name value⟩
  | withData data =>
      cases converted : data.toValue with
      | error fault => exact .inr ⟨fault, .conversion converted⟩
      | ok value =>
          cases value with
          | map entries => exact .inl ⟨entries, .map converted⟩
          | none => exact .inl ⟨[], .nothing converted⟩
          | _ => exact .inr ⟨_, .kind converted (by simp [Value.kind]) (by simp [Value.kind])⟩

/-- All links supply data, or there is a first one that does not. -/
theorem supply_or_refuse (links : List DataLink) :
    (∃ layers, List.Forall₂ Supplies links layers) ∨
      ∃ before link after layers fault, links = before ++ link :: after ∧
        List.Forall₂ Supplies before layers ∧ link.Refuses fault := by
  induction links with
  | nil => exact .inl ⟨[], .nil⟩
  | cons link links inductionHypothesis =>
      rcases link.supplies_or_refuses with ⟨layer, supplies⟩ | ⟨fault, refuses⟩
      · rcases inductionHypothesis with
          ⟨layers, supplied⟩ | ⟨before, other, after, layers, fault, rfl, supplied, refuses⟩
        · exact .inl ⟨layer :: layers, .cons supplies supplied⟩
        · exact .inr ⟨link :: before, other, after, layer :: layers, fault, rfl,
            .cons supplies supplied, refuses⟩
      · exact .inr ⟨[], link, links, [], fault, rfl, .nil, refuses⟩

theorem ascending_of_image {data : HostData} {entries : Entries Value}
    (image : HostData.Image data (.map entries)) : entries.Ascending := by
  induction data using HostData.induction_of_children with
  | step data inductionHypothesis =>
      cases image with
      | present image => exact inductionHypothesis _ (.present _) image
      | wrapped image => exact inductionHypothesis _ (.wrapped _) image
      | tagged name image => exact Entries.ascending_single name _
      | record fields isMap => exact isMap.ascending
      | map entries isMap => exact isMap.ascending

theorem Supplies.ascending (supplies : link.Supplies layer) : layer.Ascending := by
  cases supplies with
  | «variable» name value => exact Entries.ascending_single name value
  | map converted => exact ascending_of_image ((HostData.toValue_eq_ok_iff _ _).1 converted)
  | nothing => exact Entries.ascending_nil

theorem data_addTo_of_supplies (supplies : link.Supplies layer) (filled : view.data = .ok data) :
    (link.addTo view).data = .ok (Entries.overlay data layer) := by
  cases supplies with
  | «variable» name value =>
      rw [addTo, View.bind, filled]
      rfl
  | map converted =>
      rw [addTo, View.withData, HostData.toViewData, filled, converted]
      rfl
  | nothing converted =>
      rw [addTo, View.withData, HostData.toViewData, filled, converted]
      rfl

theorem data_addTo_of_refuses {fault : HostData.Fault} (refuses : link.Refuses fault)
    (filled : view.data = .ok data) :
    (link.addTo view).data = .error (Error.ofCause (.conversion fault)) := by
  cases refuses with
  | conversion failed =>
      rw [addTo, View.withData, HostData.toViewData, filled, failed]
      rfl
  | @kind _ value converted notMap notNone =>
      rw [addTo, View.withData, HostData.toViewData, filled, converted]
      cases value with
      | map => exact absurd rfl notMap
      | none => exact absurd rfl notNone
      | _ => rfl

theorem data_addTo_of_error {error : Error} (failed : view.data = .error error) :
    (link.addTo view).data = .error error := by
  cases link with
  | bind name value =>
      rw [addTo, View.bind, failed]
      rfl
  | withData data => rw [addTo, View.withData, failed]

theorem name_addTo (link : DataLink) (view : View) : (link.addTo view).name = view.name := by
  cases link <;> rfl

end DataLink

namespace View

/-- A view that is named and given data link by link. -/
def linked (name : String) (links : List DataLink) : View :=
  links.foldl DataLink.addTo (View.ofName name)

section Links

variable {links : List DataLink} {view : View} {layers base : List (Entries Value)}
  {data : Entries Value}

theorem name_foldl_addTo (links : List DataLink) (view : View) :
    (links.foldl DataLink.addTo view).name = view.name := by
  induction links generalizing view with
  | nil => rfl
  | cons link links inductionHypothesis =>
      rw [List.foldl_cons, inductionHypothesis, link.name_addTo]

theorem exists_data_of_supplies (supplied : List.Forall₂ DataLink.Supplies links layers)
    (layered : IsLayered base data) (filled : view.data = .ok data) :
    ∃ data', (links.foldl DataLink.addTo view).data = .ok data' ∧
      IsLayered (layers.reverse ++ base) data' := by
  induction supplied generalizing view base data with
  | nil => exact ⟨data, filled, layered⟩
  | @cons link layer links layers supplies _ inductionHypothesis =>
      have onTop : IsLayered (layer :: base) (Entries.overlay data layer) :=
        (IsLayered.single supplies.ascending).overlay layered
      have whole := inductionHypothesis onTop (DataLink.data_addTo_of_supplies supplies filled)
      rwa [List.reverse_cons, List.append_assoc]

/-- The first error stays. -/
theorem data_foldl_addTo_of_error {error : Error} (failed : view.data = .error error) :
    (links.foldl DataLink.addTo view).data = .error error := by
  induction links generalizing view with
  | nil => exact failed
  | cons link links inductionHypothesis =>
      exact inductionHypothesis (DataLink.data_addTo_of_error failed)

end Links

variable {σ : Type} {environment : Environment σ}

/-- A view begins with what its links supply, the last on top. -/
theorem enters_linked (ascending : environment.shared.Ascending) (fuel : Nat) (name : String)
    {links : List DataLink} {layers : List (Entries Value)}
    (supplied : List.Forall₂ DataLink.Supplies links layers) :
    environment.Enters fuel environment.maxDepth name layers.reverse
      ((View.linked name links).render environment fuel) := by
  have named : (View.ofName name).data = .ok [] := rfl
  obtain ⟨data, filled, layered⟩ := exists_data_of_supplies supplied .nil named
  rw [List.append_nil] at layered
  have entered : (View.linked name links).render environment fuel =
      environment.renderTop fuel name data := by
    rw [render, linked, filled, name_foldl_addTo]
    exact pure_bind data _
  rw [entered]
  exact Environment.enters_renderAt ascending fuel environment.maxDepth name layered

/-- A view whose links do not all supply data ends with the error of the first that does not, in
the state in which it was to be rendered. -/
theorem render_linked_of_refuses (environment : Environment σ) (fuel : Nat) (name : String)
    {before : List DataLink} {layers : List (Entries Value)}
    (supplied : List.Forall₂ DataLink.Supplies before layers) {link : DataLink}
    {fault : HostData.Fault} (refuses : link.Refuses fault) (after : List DataLink)
    (state : RenderState σ) :
    ((View.linked name (before ++ link :: after)).render environment fuel : Render σ String) state =
      .error (.failed (Error.ofCause (.conversion fault))) state := by
  have named : (View.ofName name).data = .ok [] := rfl
  obtain ⟨data, filled, -⟩ := exists_data_of_supplies supplied .nil named
  have failed : (View.linked name (before ++ link :: after)).data =
      .error (Error.ofCause (.conversion fault)) := by
    rw [linked, List.foldl_append, List.foldl_cons]
    exact data_foldl_addTo_of_error (DataLink.data_addTo_of_refuses refuses filled)
  rw [render, failed]
  rfl

end View

end ViewTemplate
