import Mathlib.Logic.Relation
import ViewTemplate.Proofs.HostImages
import ViewTemplate.Proofs.Literals

/-!
Conversion of host data is exact. Nothing is refused but integers that no value holds, keys that are
no names and values of maps that come without their keys, wherever they stand (`converts_iff`); what
is converted is the image of the host data. Values themselves come back as they were. The main
statement is `convertsExactly_and_toValue_toHostData`.
-/

namespace ViewTemplate

namespace HostData

/-! ## What is refused -/

/-- Host data inside other host data at any depth, or that data itself. -/
abbrev IsPart : HostData → HostData → Prop :=
  Relation.ReflTransGen IsChild

/-- What makes a conversion fail, wherever it stands as a value. -/
inductive IsRefused : HostData → Prop
  | unsigned {number : UInt64} :
      Int64.maxValue.toInt < number.toNat → IsRefused (.unsigned number)
  | wide (isSigned : Bool) : IsRefused (.wide isSigned)
  | key {entry : HostEntry} {entries : List HostEntry} {key : HostData} :
      entry ∈ entries → entry.key? = some key → (∀ name, ¬ IsKey key name) →
        IsRefused (.map entries)
  /-- A value that does not come right behind its key. -/
  | value {before after : List HostEntry} {data : HostData} :
      (∀ key, before.getLast? ≠ some (.bare key)) →
        IsRefused (.map (before ++ .unkeyed data :: after))

def Converts (data : HostData) : Prop :=
  ∃ value, toValue data = .ok value

/-- A computation that only makes something of another's result ends well if the other does. -/
theorem exists_bind_ok_iff {ε α β : Type} {computation : Except ε α} {make : α → β} :
    (∃ result, (computation >>= fun middle => .ok (make middle)) = .ok result) ↔
      ∃ middle, computation = .ok middle := by
  cases computation with
  | error error =>
      constructor
      · rintro ⟨result, ⟨⟩⟩
      · rintro ⟨middle, ⟨⟩⟩
  | ok middle => exact ⟨fun _ => ⟨middle, rfl⟩, fun _ => ⟨make middle, rfl⟩⟩

theorem itemsToValues_converts_iff {items : List HostData} :
    (∃ values, itemsToValues items = .ok values) ↔ ∀ item ∈ items, Converts item := by
  induction items with
  | nil => exact ⟨fun _ => nofun, fun _ => ⟨[], rfl⟩⟩
  | cons item items inductionHypothesis =>
      rw [List.forall_mem_cons, ← inductionHypothesis]
      constructor
      · rintro ⟨values, converted⟩
        obtain ⟨value, first, rest⟩ := bind_eq_ok.1 converted
        exact ⟨⟨value, first⟩, exists_bind_ok_iff.1 ⟨values, rest⟩⟩
      · rintro ⟨⟨value, first⟩, values, others⟩
        exact ⟨value :: values, bind_eq_ok.2 ⟨value, first, bind_eq_ok.2 ⟨values, others, rfl⟩⟩⟩

theorem fieldsToPairs_converts_iff {fields : List (String × HostData)} :
    (∃ pairs, fieldsToPairs fields = .ok pairs) ↔ ∀ field ∈ fields, Converts field.2 := by
  induction fields with
  | nil => exact ⟨fun _ => nofun, fun _ => ⟨[], rfl⟩⟩
  | cons field fields inductionHypothesis =>
      obtain ⟨name, data⟩ := field
      rw [List.forall_mem_cons, ← inductionHypothesis]
      constructor
      · rintro ⟨pairs, converted⟩
        obtain ⟨value, first, rest⟩ := bind_eq_ok.1 converted
        exact ⟨⟨value, first⟩, exists_bind_ok_iff.1 ⟨pairs, rest⟩⟩
      · rintro ⟨⟨value, first⟩, pairs, others⟩
        exact ⟨(name, value) :: pairs,
          bind_eq_ok.2 ⟨value, first, bind_eq_ok.2 ⟨pairs, others, rfl⟩⟩⟩

/-- Entries whose keys have texts and whose values convert, as far as they have any. -/
def IsAccepted : HostEntry → Prop
  | .keyed key data => (∃ name, IsKey key name) ∧ Converts data
  | .bare key => ∃ name, IsKey key name
  | .unkeyed data => Converts data

theorem isAccepted_iff {entry : HostEntry} :
    IsAccepted entry ↔
      (∀ key, entry.key? = some key → ∃ name, IsKey key name) ∧
        ∀ content, entry.value? = some content → Converts content := by
  cases entry <;> simp [IsAccepted, HostEntry.key?, HostEntry.value?]

/-- Whether a value behind some entries finds a key: the last of them is a key on its own, or there
are none and a key is pending. -/
def AwaitsValue (pending : Option String) (entries : List HostEntry) : Prop :=
  match entries.getLast? with
  | some entry => ∃ key, entry = .bare key
  | none => pending.isSome

/-- Every value on its own finds a key. -/
def FindKeys (pending : Option String) (entries : List HostEntry) : Prop :=
  ∀ before data after, entries = before ++ .unkeyed data :: after → AwaitsValue pending before

theorem findKeys_cons_iff (pending behind : Option String) {entry : HostEntry}
    {entries : List HostEntry} (isBare : behind.isSome ↔ ∃ key, entry = .bare key) :
    FindKeys pending (entry :: entries) ↔
      (∀ data, entry = .unkeyed data → pending.isSome) ∧ FindKeys behind entries := by
  constructor
  · intro find
    constructor
    · rintro data rfl
      exact find [] data entries rfl
    · intro before data after split
      have awaits := find (entry :: before) data after (congrArg (entry :: ·) split)
      cases before with
      | nil => exact isBare.2 awaits
      | cons first others => exact awaits
  · rintro ⟨first, find⟩ before data after split
    cases before with
    | nil =>
        cases split
        exact first data rfl
    | cons other before =>
        cases split
        have awaits := find before data after rfl
        cases before with
        | nil => exact isBare.1 awaits
        | cons first others => exact awaits

theorem entriesToPairs_converts_iff {entries : List HostEntry} (pending : Option String) :
    (∃ pairs, entriesToPairs pending entries = .ok pairs) ↔
      (∀ entry ∈ entries, IsAccepted entry) ∧ FindKeys pending entries := by
  induction entries generalizing pending with
  | nil => exact ⟨fun _ => ⟨nofun, by simp [FindKeys]⟩, fun _ => ⟨[], rfl⟩⟩
  | cons entry entries inductionHypothesis =>
      rw [List.forall_mem_cons]
      cases entry with
      | keyed key data =>
          rw [findKeys_cons_iff pending none (by simp)]
          constructor
          · rintro ⟨pairs, converted⟩
            obtain ⟨name, named, rest⟩ := bind_eq_ok.1 converted
            obtain ⟨value, first, rest⟩ := bind_eq_ok.1 rest
            obtain ⟨accepted, find⟩ :=
              (inductionHypothesis none).1 (exists_bind_ok_iff.1 ⟨pairs, rest⟩)
            have hasName : ∃ name, IsKey key name := ⟨name, (keyText_eq_ok_iff key name).1 named⟩
            exact ⟨⟨⟨hasName, value, first⟩, accepted⟩, nofun, find⟩
          · rintro ⟨⟨⟨⟨name, isKey⟩, value, first⟩, accepted⟩, -, find⟩
            obtain ⟨pairs, others⟩ := (inductionHypothesis none).2 ⟨accepted, find⟩
            exact ⟨_, bind_eq_ok.2 ⟨name, (keyText_eq_ok_iff key name).2 isKey,
              bind_eq_ok.2 ⟨value, first, bind_eq_ok.2 ⟨pairs, others, rfl⟩⟩⟩⟩
      | bare key =>
          have isBare (name : String) :
              (some name).isSome ↔ ∃ other, HostEntry.bare key = .bare other := by
            simp
          constructor
          · rintro ⟨pairs, converted⟩
            obtain ⟨name, named, rest⟩ := bind_eq_ok.1 converted
            obtain ⟨accepted, find⟩ := (inductionHypothesis (some name)).1 ⟨pairs, rest⟩
            have hasName : ∃ name, IsKey key name := ⟨name, (keyText_eq_ok_iff key name).1 named⟩
            exact ⟨⟨hasName, accepted⟩,
              (findKeys_cons_iff pending (some name) (isBare name)).2 ⟨nofun, find⟩⟩
          · rintro ⟨⟨⟨name, isKey⟩, accepted⟩, find⟩
            have later := ((findKeys_cons_iff pending (some name) (isBare name)).1 find).2
            obtain ⟨pairs, others⟩ := (inductionHypothesis (some name)).2 ⟨accepted, later⟩
            exact ⟨pairs, bind_eq_ok.2 ⟨name, (keyText_eq_ok_iff key name).2 isKey, others⟩⟩
      | unkeyed data =>
          rw [findKeys_cons_iff pending none (by simp)]
          cases pending with
          | none =>
              constructor
              · rintro ⟨pairs, ⟨⟩⟩
              · rintro ⟨-, first, -⟩
                cases first data rfl
          | some name =>
              constructor
              · rintro ⟨pairs, converted⟩
                obtain ⟨value, first, rest⟩ := bind_eq_ok.1 converted
                obtain ⟨accepted, find⟩ :=
                  (inductionHypothesis none).1 (exists_bind_ok_iff.1 ⟨pairs, rest⟩)
                exact ⟨⟨⟨value, first⟩, accepted⟩, fun _ _ => rfl, find⟩
              · rintro ⟨⟨⟨value, first⟩, accepted⟩, -, find⟩
                obtain ⟨pairs, others⟩ := (inductionHypothesis none).2 ⟨accepted, find⟩
                exact ⟨_, bind_eq_ok.2 ⟨value, first, bind_eq_ok.2 ⟨pairs, others, rfl⟩⟩⟩

theorem awaitsValue_none_iff {entries : List HostEntry} :
    AwaitsValue none entries ↔ ∃ key, entries.getLast? = some (.bare key) := by
  unfold AwaitsValue
  cases entries.getLast? <;> simp

theorem not_isRefused_map_iff {entries : List HostEntry} :
    ¬ IsRefused (.map entries) ↔
      (∀ entry ∈ entries, ∀ key, entry.key? = some key → ∃ name, IsKey key name) ∧
        FindKeys none entries := by
  constructor
  · intro fine
    constructor
    · intro entry member key holds
      by_contra unnamed
      exact fine (.key member holds (not_exists.1 unnamed))
    · rintro before data after rfl
      apply awaitsValue_none_iff.2
      by_contra lone
      exact fine (.value (not_exists.1 lone))
  · rintro ⟨named, find⟩ refused
    cases refused with
    | key member holds unnamed =>
        obtain ⟨name, isKey⟩ := named _ member _ holds
        exact unnamed name isKey
    | value lone =>
        obtain ⟨key, last⟩ := awaitsValue_none_iff.1 (find _ _ _ rfl)
        exact lone key last

theorem converts_unsigned_iff {number : UInt64} :
    Converts (.unsigned number) ↔ ¬ IsRefused (.unsigned number) := by
  have greatest : Int64.maxValue.toInt = 2 ^ 63 - 1 := Int64.toInt_maxValue
  constructor
  · rintro ⟨value, converted⟩ ⟨beyond⟩
    obtain ⟨integer, exact, -⟩ := toValue_unsigned_eq_ok_iff.1 converted
    have within := integer.toInt_lt
    omega
  · intro fine
    have within : ¬ Int64.maxValue.toInt < number.toNat := fun beyond => fine (.unsigned beyond)
    have exact : (Int64.ofInt number.toNat).toInt = number.toNat := by
      apply Int64.toInt_ofInt_of_le <;> omega
    exact ⟨_, toValue_unsigned_eq_ok_iff.2 ⟨_, exact, rfl⟩⟩

/-- What is not refused itself converts if what is inside it does. -/
theorem converts_iff_children (data : HostData) :
    Converts data ↔ ¬ IsRefused data ∧ ∀ child, IsChild child data → Converts child := by
  cases data with
  | unsigned number =>
      rw [converts_unsigned_iff]
      exact ⟨fun fine => ⟨fine, nofun⟩, And.left⟩
  | wide isSigned =>
      constructor
      · rintro ⟨value, ⟨⟩⟩
      · rintro ⟨fine, -⟩
        exact absurd (.wide isSigned) fine
  | present content =>
      constructor
      · intro converts
        refine ⟨nofun, fun child isChild => ?_⟩
        cases isChild
        exact converts
      · exact fun parts => parts.2 content (.present content)
  | wrapped content =>
      constructor
      · intro converts
        refine ⟨nofun, fun child isChild => ?_⟩
        cases isChild
        exact converts
      · exact fun parts => parts.2 content (.wrapped content)
  | tagged name content =>
      constructor
      · intro converts
        refine ⟨nofun, fun child isChild => ?_⟩
        cases isChild
        exact exists_bind_ok_iff.1 converts
      · exact fun parts => exists_bind_ok_iff.2 (parts.2 content (.tagged name content))
  | sequence items =>
      constructor
      · intro converts
        have all := itemsToValues_converts_iff.1 (exists_bind_ok_iff.1 converts)
        refine ⟨nofun, fun child isChild => ?_⟩
        cases isChild with
        | item member => exact all child member
      · intro parts
        apply exists_bind_ok_iff.2
        exact itemsToValues_converts_iff.2 fun item member => parts.2 item (.item member)
  | record fields =>
      constructor
      · intro converts
        have all := fieldsToPairs_converts_iff.1 (exists_bind_ok_iff.1 converts)
        refine ⟨nofun, fun child isChild => ?_⟩
        cases isChild with
        | field member => exact all _ member
      · intro parts
        apply exists_bind_ok_iff.2
        exact fieldsToPairs_converts_iff.2 fun field member => parts.2 field.2 (.field member)
  | map entries =>
      rw [not_isRefused_map_iff]
      constructor
      · intro converts
        obtain ⟨accepted, find⟩ :=
          (entriesToPairs_converts_iff none).1 (exists_bind_ok_iff.1 converts)
        have named (entry : HostEntry) (member : entry ∈ entries) :=
          (isAccepted_iff.1 (accepted entry member)).1
        refine ⟨⟨named, find⟩, fun child isChild => ?_⟩
        cases isChild with
        | entry member holds => exact (isAccepted_iff.1 (accepted _ member)).2 child holds
      · rintro ⟨⟨named, find⟩, inside⟩
        apply exists_bind_ok_iff.2
        apply (entriesToPairs_converts_iff none).2
        refine ⟨fun entry member => isAccepted_iff.2 ⟨named entry member, ?_⟩, find⟩
        exact fun content holds => inside content (.entry member holds)
  | _ => exact ⟨fun _ => ⟨nofun, nofun⟩, fun _ => ⟨_, rfl⟩⟩

/-- Host data converts unless something in it is refused. -/
theorem converts_iff (data : HostData) :
    Converts data ↔ ∀ part, IsPart part data → ¬ IsRefused part := by
  constructor
  · intro converts part isPart
    induction isPart with
    | refl => exact ((converts_iff_children _).1 converts).1
    | tail _ isChild inductionHypothesis =>
        exact inductionHypothesis (((converts_iff_children _).1 converts).2 _ isChild)
  · induction data using induction_of_children with
    | step data inductionHypothesis =>
        intro fine
        apply (converts_iff_children data).2
        refine ⟨fine data .refl, fun child isChild => inductionHypothesis child isChild ?_⟩
        exact fun part isPart => fine part (isPart.tail isChild)

end HostData

/-! ## Values as host data -/

namespace Value

theorem itemsToValues_itemsToHostData {items : List Value}
    (same : ∀ item ∈ items, item.toHostData.toValue = .ok item) :
    HostData.itemsToValues (itemsToHostData items) = .ok items := by
  induction items with
  | nil => rfl
  | cons item items inductionHypothesis =>
      obtain ⟨first, others⟩ := List.forall_mem_cons.1 same
      exact bind_eq_ok.2
        ⟨item, first, bind_eq_ok.2 ⟨items, inductionHypothesis others, rfl⟩⟩

theorem entriesToPairs_entriesToHostData {entries : List (String × Value)}
    (same : ∀ entry ∈ entries, entry.2.toHostData.toValue = .ok entry.2) :
    HostData.entriesToPairs Option.none (entriesToHostData entries) = .ok entries := by
  induction entries with
  | nil => rfl
  | cons entry entries inductionHypothesis =>
      obtain ⟨name, value⟩ := entry
      obtain ⟨first, others⟩ := List.forall_mem_cons.1 same
      exact bind_eq_ok.2 ⟨name, rfl, bind_eq_ok.2
        ⟨value, first, bind_eq_ok.2 ⟨entries, inductionHypothesis others, rfl⟩⟩⟩

/-- A value given as host data is converted to itself. -/
theorem toValue_toHostData {value : Value} (ordered : value.IsOrdered) :
    value.toHostData.toValue = .ok value := by
  induction value using Value.inductionOn with
  | list items inductionHypothesis =>
      have ordered := areAllOrdered_iff.1 ordered
      have same := itemsToValues_itemsToHostData fun item member =>
        inductionHypothesis item member (ordered item member)
      exact bind_eq_ok.2 ⟨items, same, rfl⟩
  | map entries inductionHypothesis =>
      have inside := areEntriesOrdered_iff.1 ordered.2
      have same := entriesToPairs_entriesToHostData fun entry member =>
        inductionHypothesis entry member (inside entry member)
      apply bind_eq_ok.2
      exact ⟨entries, same, by rw [Value.ofPairs, Entries.ofPairs_of_ascending ordered.1]⟩
  | _ => rfl

end Value

/-- Host data converts if nothing in it is refused, and then to its image. -/
structure HostData.ConvertsExactly (data : HostData) : Prop where
  succeeds : (∃ value, data.toValue = .ok value) ↔ ∀ part, IsPart part data → ¬ IsRefused part
  image (value : Value) : data.toValue = .ok value ↔ Image data value

/-- Conversion is exact for all host data, and every value is the host data of itself. -/
theorem convertsExactly_and_toValue_toHostData :
    (∀ data : HostData, data.ConvertsExactly) ∧
      ∀ value : Value, value.IsOrdered → value.toHostData.toValue = .ok value :=
  ⟨fun data => ⟨HostData.converts_iff data, HostData.toValue_eq_ok_iff data⟩,
    fun _ ordered => Value.toValue_toHostData ordered⟩

end ViewTemplate
