import Mathlib.Data.List.Forall2
import ViewTemplate.Proofs.ExactIntegers

/-!
Values as images of host data. The value of host data is put together from the values of its parts;
a key and a value of a map may come in one entry or one behind the other. Conversion gives the image
of host data, and nothing if there is none (`toValue_eq_ok_iff`).
-/

namespace ViewTemplate

namespace HostEntry

def key? : HostEntry → Option HostData
  | .keyed key _ => some key
  | .bare key => some key
  | .unkeyed _ => none

def value? : HostEntry → Option HostData
  | .keyed _ value => some value
  | .bare _ => none
  | .unkeyed value => some value

end HostEntry

namespace HostData

/-! ## Images -/

/-- Host data that can be a key, and its text. -/
inductive IsKey : HostData → String → Prop
  | signed (number : Int64) : IsKey (.signed number) (toString number.toInt)
  | unsigned (number : UInt64) : IsKey (.unsigned number) (toString number.toNat)
  | character (letter : Char) : IsKey (.character letter) (String.singleton letter)
  | text (content : String) : IsKey (.text content) content
  | variant (name : String) : IsKey (.variant name) name
  | wrapped {content : HostData} {name : String} :
      IsKey content name → IsKey (.wrapped content) name

/-- The map of pairs in which of several pairs with one name the last counts. -/
structure IsMapOf (pairs : List (String × Value)) (entries : Entries Value) : Prop where
  ascending : entries.Ascending
  lookup (name : String) : entries.lookup name = pairs.reverse.lookup name

/-- The pairs that the fields of a record make when their content is related to host data. -/
inductive FieldsImage (Related : HostData → Value → Prop) :
    List (String × HostData) → List (String × Value) → Prop
  | nil : FieldsImage Related [] []
  | cons {name : String} {data : HostData} {value : Value} {fields : List (String × HostData)}
      {pairs : List (String × Value)} :
      Related data value → FieldsImage Related fields pairs →
        FieldsImage Related ((name, data) :: fields) ((name, value) :: pairs)

/-- The pairs that the entries of a map make when their values are related to host data. A key and a
value that come on their own make a pair if the value comes right behind; a key without a value
makes none. -/
inductive EntriesImage (Related : HostData → Value → Prop) :
    List HostEntry → List (String × Value) → Prop
  | nil : EntriesImage Related [] []
  | keyed {key data : HostData} {name : String} {value : Value} {entries : List HostEntry}
      {pairs : List (String × Value)} :
      IsKey key name → Related data value → EntriesImage Related entries pairs →
        EntriesImage Related (.keyed key data :: entries) ((name, value) :: pairs)
  | joined {key data : HostData} {name : String} {value : Value} {entries : List HostEntry}
      {pairs : List (String × Value)} :
      IsKey key name → Related data value → EntriesImage Related entries pairs →
        EntriesImage Related (.bare key :: .unkeyed data :: entries) ((name, value) :: pairs)
  | dropped {key : HostData} {name : String} {entries : List HostEntry}
      {pairs : List (String × Value)} :
      IsKey key name → EntriesImage Related entries pairs →
        EntriesImage Related (.bare key :: entries) pairs

/-- The value that host data stands for, part by part. -/
inductive Image : HostData → Value → Prop
  | unit : Image .unit .none
  | bool (truth : Bool) : Image (.bool truth) (.bool truth)
  | signed (number : Int64) : Image (.signed number) (.integer number)
  | unsigned {number : UInt64} {integer : Int64} :
      integer.toInt = number.toNat → Image (.unsigned number) (.integer integer)
  | single (number : Float32) : Image (.single number) (.float number.toFloat)
  | double (number : Float) : Image (.double number) (.float number)
  | character (letter : Char) : Image (.character letter) (.string (String.singleton letter))
  | text (content : String) : Image (.text content) (.string content)
  | bytes {content : List UInt8} {integers : List Int64} :
      integers.map Int64.toInt = content.map (fun byte => (byte.toNat : Int)) →
        Image (.bytes content) (.list (integers.map .integer))
  | present {content : HostData} {value : Value} :
      Image content value → Image (.present content) value
  | wrapped {content : HostData} {value : Value} :
      Image content value → Image (.wrapped content) value
  | variant (name : String) : Image (.variant name) (.string name)
  | tagged (name : String) {content : HostData} {value : Value} :
      Image content value → Image (.tagged name content) (.map [(name, value)])
  | sequence {items : List HostData} {values : List Value} :
      List.Forall₂ Image items values → Image (.sequence items) (.list values)
  | record {fields : List (String × HostData)} {pairs entries : List (String × Value)} :
      FieldsImage Image fields pairs → IsMapOf pairs entries → Image (.record fields) (.map entries)
  | map {hostEntries : List HostEntry} {pairs entries : List (String × Value)} :
      EntriesImage Image hostEntries pairs → IsMapOf pairs entries →
        Image (.map hostEntries) (.map entries)

/-! ## Parts -/

/-- Host data that stands right inside other host data, as a value and not as a key. -/
inductive IsChild : HostData → HostData → Prop
  | present (content : HostData) : IsChild content (.present content)
  | wrapped (content : HostData) : IsChild content (.wrapped content)
  | tagged (name : String) (content : HostData) : IsChild content (.tagged name content)
  | item {item : HostData} {items : List HostData} : item ∈ items → IsChild item (.sequence items)
  | field {field : String × HostData} {fields : List (String × HostData)} :
      field ∈ fields → IsChild field.2 (.record fields)
  | entry {entry : HostEntry} {entries : List HostEntry} {content : HostData} :
      entry ∈ entries → entry.value? = some content → IsChild content (.map entries)

theorem sizeOf_lt_of_isChild {child data : HostData} (isChild : IsChild child data) :
    sizeOf child < sizeOf data := by
  cases isChild with
  | present content => simp
  | wrapped content => simp
  | tagged name content =>
      simp only [tagged.sizeOf_spec]
      omega
  | item member =>
      have smaller := List.sizeOf_lt_of_mem member
      simp only [sequence.sizeOf_spec]
      omega
  | @field field fields member =>
      have smaller := List.sizeOf_lt_of_mem member
      have inside : sizeOf field = 1 + sizeOf field.1 + sizeOf field.2 := rfl
      simp only [record.sizeOf_spec]
      omega
  | @entry entry entries content member holds =>
      have smaller := List.sizeOf_lt_of_mem member
      have inside : sizeOf child < sizeOf entry := by
        cases entry with
        | keyed key value =>
            cases holds
            simp only [HostEntry.keyed.sizeOf_spec]
            omega
        | bare key => cases holds
        | unkeyed value =>
            cases holds
            simp only [HostEntry.unkeyed.sizeOf_spec]
            omega
      simp only [map.sizeOf_spec]
      omega

/-- Induction over host data and the values inside it. -/
theorem induction_of_children {motive : HostData → Prop}
    (step : ∀ data, (∀ child, IsChild child data → motive child) → motive data)
    (data : HostData) : motive data :=
  step data fun child _ => induction_of_children step child
termination_by sizeOf data
decreasing_by exact sizeOf_lt_of_isChild (by assumption)

/-! ## What is converted is the image -/

theorem keyText_eq_ok_iff (data : HostData) :
    ∀ name, keyText data = .ok name ↔ IsKey data name := by
  induction data using induction_of_children with
  | step data inductionHypothesis =>
      intro name
      cases data with
      | wrapped content =>
          rw [keyText, inductionHypothesis content (.wrapped content)]
          constructor
          · exact .wrapped
          · rintro ⟨⟩
            assumption
      | signed | unsigned | character | text | variant =>
          constructor
          · rintro ⟨⟩
            constructor
          · rintro ⟨⟩
            rfl
      | _ =>
          constructor
          · rintro ⟨⟩
          · rintro ⟨⟩

theorem isMapOf_ofPairs (pairs : List (String × Value)) :
    IsMapOf pairs (Entries.ofPairs pairs) where
  ascending := Entries.ascending_ofPairs pairs
  lookup := Entries.lookup_ofPairs pairs

theorem IsMapOf.eq_ofPairs {pairs : List (String × Value)} {entries : Entries Value}
    (isMapOf : IsMapOf pairs entries) : entries = Entries.ofPairs pairs := by
  apply Entries.eq_of_lookup isMapOf.ascending (Entries.ascending_ofPairs pairs)
  intro name
  rw [isMapOf.lookup, Entries.lookup_ofPairs]

/-- Converting host data gives its image, and nothing else does. -/
def IsImaged (data : HostData) : Prop :=
  ∀ value, toValue data = .ok value ↔ Image data value

theorem itemsToValues_eq_ok_iff {items : List HostData} (imaged : ∀ item ∈ items, IsImaged item) :
    ∀ values, itemsToValues items = .ok values ↔ List.Forall₂ Image items values := by
  induction items with
  | nil =>
      intro values
      rw [List.forall₂_nil_left_iff, itemsToValues, Except.ok.injEq, eq_comm]
  | cons item items inductionHypothesis =>
      intro values
      obtain ⟨first, others⟩ := List.forall_mem_cons.1 imaged
      rw [itemsToValues, bind_eq_ok, List.forall₂_cons_left_iff]
      constructor
      · rintro ⟨value, converted, rest⟩
        obtain ⟨later, convertedLater, made⟩ := bind_eq_ok.1 rest
        cases made
        exact ⟨value, later, (first value).1 converted,
          (inductionHypothesis others later).1 convertedLater, rfl⟩
      · rintro ⟨value, later, image, images, rfl⟩
        exact ⟨value, (first value).2 image,
          bind_eq_ok.2 ⟨later, (inductionHypothesis others later).2 images, rfl⟩⟩

theorem fieldsToPairs_eq_ok_iff {fields : List (String × HostData)}
    (imaged : ∀ field ∈ fields, IsImaged field.2) :
    ∀ pairs, fieldsToPairs fields = .ok pairs ↔ FieldsImage Image fields pairs := by
  induction fields with
  | nil =>
      intro pairs
      constructor
      · rintro ⟨⟩
        exact .nil
      · rintro ⟨⟩
        rfl
  | cons field fields inductionHypothesis =>
      intro pairs
      obtain ⟨name, data⟩ := field
      obtain ⟨first, others⟩ := List.forall_mem_cons.1 imaged
      rw [fieldsToPairs, bind_eq_ok]
      constructor
      · rintro ⟨value, converted, rest⟩
        obtain ⟨later, convertedLater, made⟩ := bind_eq_ok.1 rest
        cases made
        exact .cons ((first value).1 converted)
          ((inductionHypothesis others later).1 convertedLater)
      · intro images
        cases images with
        | cons image images =>
            exact ⟨_, (first _).2 image,
              bind_eq_ok.2 ⟨_, (inductionHypothesis others _).2 images, rfl⟩⟩

/-- What entries give behind a key that came on its own and is still pending. -/
inductive ImageBehind : Option String → List HostEntry → List (String × Value) → Prop
  | next {pending : Option String} {entries : List HostEntry} {pairs : List (String × Value)} :
      EntriesImage Image entries pairs → ImageBehind pending entries pairs
  | taken {name : String} {data : HostData} {value : Value} {entries : List HostEntry}
      {pairs : List (String × Value)} :
      Image data value → EntriesImage Image entries pairs →
        ImageBehind (some name) (.unkeyed data :: entries) ((name, value) :: pairs)

theorem imageBehind_none_iff {entries : List HostEntry} {pairs : List (String × Value)} :
    ImageBehind none entries pairs ↔ EntriesImage Image entries pairs := by
  constructor
  · rintro ⟨image⟩
    exact image
  · exact .next

theorem entriesToPairs_eq_ok_iff {entries : List HostEntry}
    (imaged : ∀ entry ∈ entries, ∀ content, entry.value? = some content → IsImaged content)
    (pending : Option String) :
    ∀ pairs, entriesToPairs pending entries = .ok pairs ↔ ImageBehind pending entries pairs := by
  induction entries generalizing pending with
  | nil =>
      intro pairs
      constructor
      · rintro ⟨⟩
        exact .next .nil
      · rintro ⟨⟨⟩⟩
        rfl
  | cons entry entries inductionHypothesis =>
      intro pairs
      obtain ⟨first, others⟩ := List.forall_mem_cons.1 imaged
      have later := inductionHypothesis others
      cases entry with
      | keyed key data =>
          rw [entriesToPairs, bind_eq_ok]
          constructor
          · rintro ⟨name, named, rest⟩
            obtain ⟨value, converted, rest⟩ := bind_eq_ok.1 rest
            obtain ⟨others, convertedLater, made⟩ := bind_eq_ok.1 rest
            cases made
            exact .next <| .keyed ((keyText_eq_ok_iff key name).1 named)
              ((first data rfl value).1 converted)
              (imageBehind_none_iff.1 ((later none others).1 convertedLater))
          · rintro ⟨images⟩
            cases images with
            | keyed isKey image images =>
                exact ⟨_, (keyText_eq_ok_iff key _).2 isKey, bind_eq_ok.2
                  ⟨_, (first data rfl _).2 image, bind_eq_ok.2
                    ⟨_, (later none _).2 (.next images), rfl⟩⟩⟩
      | bare key =>
          rw [entriesToPairs, bind_eq_ok]
          constructor
          · rintro ⟨name, named, converted⟩
            have isKey := (keyText_eq_ok_iff key name).1 named
            cases (later (some name) pairs).1 converted with
            | next images => exact .next (.dropped isKey images)
            | taken image images => exact .next (.joined isKey image images)
          · rintro ⟨images⟩
            cases images with
            | joined isKey image images =>
                exact ⟨_, (keyText_eq_ok_iff key _).2 isKey,
                  (later (some _) _).2 (.taken image images)⟩
            | dropped isKey images =>
                exact ⟨_, (keyText_eq_ok_iff key _).2 isKey, (later (some _) _).2 (.next images)⟩
      | unkeyed data =>
          cases pending with
          | none =>
              constructor
              · rintro ⟨⟩
              · rintro ⟨⟨⟩⟩
          | some name =>
              rw [entriesToPairs, bind_eq_ok]
              constructor
              · rintro ⟨value, converted, rest⟩
                obtain ⟨others, convertedLater, made⟩ := bind_eq_ok.1 rest
                cases made
                exact .taken ((first data rfl value).1 converted)
                  (imageBehind_none_iff.1 ((later none others).1 convertedLater))
              · intro behind
                cases behind with
                | next images => cases images
                | taken image images =>
                    exact ⟨_, (first data rfl _).2 image,
                      bind_eq_ok.2 ⟨_, (later none _).2 (.next images), rfl⟩⟩

theorem toValue_unsigned_eq_ok_iff {number : UInt64} {value : Value} :
    toValue (.unsigned number) = .ok value ↔
      ∃ integer : Int64, integer.toInt = number.toNat ∧ value = .integer integer := by
  rw [toValue]
  by_cases within : Value.fits number.toNat = true
  · rw [if_pos within]
    constructor
    · rintro ⟨⟩
      exact ⟨_, Value.toInt_ofInt_of_fits within, rfl⟩
    · rintro ⟨integer, exact, rfl⟩
      rw [← exact, Int64.ofInt_toInt]
  · rw [if_neg within]
    constructor
    · rintro ⟨⟩
    · rintro ⟨integer, exact, -⟩
      exact absurd (exact ▸ Value.fits_toInt integer) within

theorem toInt_ofInt_toNat (byte : UInt8) : (Int64.ofInt byte.toNat).toInt = byte.toNat := by
  have small := byte.toNat_lt
  apply Int64.toInt_ofInt_of_le <;> omega

theorem toValue_bytes_eq_ok_iff {content : List UInt8} {value : Value} :
    toValue (.bytes content) = .ok value ↔
      ∃ integers : List Int64,
        integers.map Int64.toInt = content.map (fun byte => (byte.toNat : Int)) ∧
          value = .list (integers.map .integer) := by
  rw [toValue]
  constructor
  · rintro ⟨⟩
    refine ⟨content.map fun byte => Int64.ofInt byte.toNat, ?_, ?_⟩
    · rw [List.map_map]
      exact List.map_congr_left fun byte _ => toInt_ofInt_toNat byte
    · rw [List.map_map]
      rfl
  · rintro ⟨integers, exact, rfl⟩
    have numbers : content.map (fun byte => Int64.ofInt byte.toNat) = integers := by
      have back := congrArg (List.map Int64.ofInt) exact
      simpa [Function.comp_def] using back.symm
    rw [← numbers, List.map_map]
    rfl

/-- Host data converts to its image, and to nothing if it has none. -/
theorem toValue_eq_ok_iff (data : HostData) : IsImaged data := by
  induction data using induction_of_children with
  | step data inductionHypothesis =>
      intro value
      cases data with
      | unsigned number =>
          rw [toValue_unsigned_eq_ok_iff]
          constructor
          · rintro ⟨integer, exact, rfl⟩
            exact .unsigned exact
          · intro image
            cases image with
            | unsigned exact => exact ⟨_, exact, rfl⟩
      | wide isSigned =>
          constructor
          · rintro ⟨⟩
          · rintro ⟨⟩
      | bytes content =>
          rw [toValue_bytes_eq_ok_iff]
          constructor
          · rintro ⟨integers, exact, rfl⟩
            exact .bytes exact
          · intro image
            cases image with
            | bytes exact => exact ⟨_, exact, rfl⟩
      | present content =>
          rw [toValue, inductionHypothesis content (.present content)]
          constructor
          · exact .present
          · intro image
            cases image with
            | present inner => exact inner
      | wrapped content =>
          rw [toValue, inductionHypothesis content (.wrapped content)]
          constructor
          · exact .wrapped
          · intro image
            cases image with
            | wrapped inner => exact inner
      | tagged name content =>
          have imaged := inductionHypothesis content (.tagged name content)
          rw [toValue, bind_eq_ok]
          constructor
          · rintro ⟨inner, converted, made⟩
            cases made
            exact .tagged name ((imaged inner).1 converted)
          · intro image
            cases image with
            | tagged _ inner => exact ⟨_, (imaged _).2 inner, rfl⟩
      | sequence items =>
          have imaged := itemsToValues_eq_ok_iff fun item member =>
            inductionHypothesis item (.item member)
          rw [toValue, bind_eq_ok]
          constructor
          · rintro ⟨values, converted, made⟩
            cases made
            exact .sequence ((imaged values).1 converted)
          · intro image
            cases image with
            | sequence images => exact ⟨_, (imaged _).2 images, rfl⟩
      | record fields =>
          have imaged := fieldsToPairs_eq_ok_iff fun field member =>
            inductionHypothesis field.2 (.field member)
          rw [toValue, bind_eq_ok]
          constructor
          · rintro ⟨pairs, converted, made⟩
            cases made
            exact .record ((imaged pairs).1 converted) (isMapOf_ofPairs pairs)
          · intro image
            cases image with
            | record images isMapOf =>
                cases isMapOf.eq_ofPairs
                exact ⟨_, (imaged _).2 images, rfl⟩
      | map entries =>
          have imaged := entriesToPairs_eq_ok_iff (fun entry member content holds =>
            inductionHypothesis content (.entry member holds)) none
          rw [toValue, bind_eq_ok]
          constructor
          · rintro ⟨pairs, converted, made⟩
            cases made
            exact .map (imageBehind_none_iff.1 ((imaged pairs).1 converted))
              (isMapOf_ofPairs pairs)
          · intro image
            cases image with
            | map images isMapOf =>
                cases isMapOf.eq_ofPairs
                exact ⟨_, (imaged _).2 (.next images), rfl⟩
      | _ =>
          constructor
          · rintro ⟨⟩
            constructor
          · rintro ⟨⟩
            rfl

end HostData

end ViewTemplate
