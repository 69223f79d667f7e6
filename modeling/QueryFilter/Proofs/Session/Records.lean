import Mathlib.Data.List.Basic
import QueryFilter.Proofs.Session.Effect

/-!
Records as conditions, field by field. A field with a single value asks for equality and one with a
sequence for membership; what holds nothing asks for nothing. The kind of a field is told from its
value when it is compiled, so a single value that is an array passes for the sequence of its items.
All other fields are compiled as their kinds say, whatever the group held before.
-/

namespace QueryFilter
namespace Descriptor

/-- The edit that the kind of a field asks for. -/
def edit? (field : Descriptor) : Option Edit :=
  match field.value with
  | .scalar v => if v.isZero then none else some (.set field.key .eq v)
  | .sequence items => if items.isEmpty then none else some (.set field.key .isIn (.array items))
  | .unsupported => none

/-- A field without the difference between an array and a sequence. -/
def flattened (field : Descriptor) : Descriptor :=
  match field.value with
  | .scalar (.array items) => ⟨field.key, .sequence items⟩
  | _ => field

def HoldsArray (field : Descriptor) : Prop :=
  ∃ items, items ≠ [] ∧ field.value = .scalar (.array items)

theorem edit?_flattened (field : Descriptor) :
    field.flattened.edit? = field.value.contribution?.map fun v =>
      .set field.key (Builder.recordOperator v) v := by
  obtain ⟨key, value⟩ := field
  cases value with
  | scalar v =>
      cases v with
      | array items => cases items <;> rfl
      | _ =>
          simp only [flattened, edit?, FieldValue.contribution?]
          split <;> rfl
  | sequence items => cases items <;> rfl
  | unsupported => rfl

theorem flattened_eq_self {field : Descriptor} (h : ∀ items, field.value ≠ .scalar (.array items)) :
    field.flattened = field := by
  obtain ⟨key, value⟩ := field
  cases value with
  | scalar v =>
      cases v with
      | array items => exact absurd rfl (h items)
      | _ => rfl
  | sequence _ | unsupported => rfl

theorem edit?_flattened_eq_iff (field : Descriptor) :
    field.flattened.edit? = field.edit? ↔ ¬ field.HoldsArray := by
  by_cases h : ∃ items, field.value = .scalar (.array items)
  · obtain ⟨items, hvalue⟩ := h
    cases items with
    | nil => simp [flattened, edit?, HoldsArray, hvalue, Value.isZero]
    | cons item rest => simp [flattened, edit?, HoldsArray, hvalue, Value.isZero]
  · have hother : ∀ items, field.value ≠ .scalar (.array items) := fun items hvalue =>
      h ⟨items, hvalue⟩
    rw [flattened_eq_self hother]
    refine iff_of_true rfl ?_
    rintro ⟨items, _, hvalue⟩
    exact hother items hvalue

end Descriptor

namespace Builder

theorem fromRecord_eq_flattened (b : Builder) (record : List Descriptor) :
    b.fromRecord record =
      { b with
        current :=
          Edit.applyAll b.current (record.filterMap fun field => field.flattened.edit?) } := by
  have hedits : ((produce record).map fun entry =>
        Edit.set entry.1 (recordOperator entry.2) entry.2) =
      record.filterMap fun field => field.flattened.edit? := by
    simp only [produce, List.map_filterMap, Option.map_map, Function.comp_def,
      Descriptor.edit?_flattened]
  rw [fromRecord_eq_edits, hedits]

/-- On every builder, a record of which no field holds a filled array as its single value leaves
what its fields ask for by their kinds, in order: equality with a single value that is not zero,
membership in a sequence that is not empty, and nothing else. Every record is compiled like the
record with its arrays taken for sequences, and the fields with a filled array are the ones that
ask for something else then. -/
theorem record_compiled_by_kind (b : Builder) (record : List Descriptor) :
    ((∀ field ∈ record, ¬ field.HoldsArray) →
      b.fromRecord record =
        { b with current := Edit.applyAll b.current (record.filterMap Descriptor.edit?) }) ∧
      b.fromRecord record =
        { b with
          current :=
            Edit.applyAll b.current (record.filterMap fun field => field.flattened.edit?) } ∧
      ∀ field ∈ record, field.flattened.edit? = field.edit? ↔ ¬ field.HoldsArray := by
  refine ⟨?_, b.fromRecord_eq_flattened record, ?_⟩
  · intro h
    have hedits : (record.filterMap fun field => field.flattened.edit?) =
        record.filterMap Descriptor.edit? := by
      apply List.filterMap_congr
      intro field hmem
      exact (Descriptor.edit?_flattened_eq_iff field).mpr (h field hmem)
    rw [fromRecord_eq_flattened, hedits]
  · intro field _
    exact Descriptor.edit?_flattened_eq_iff field

/-- A single value that is an array asks for equality, and membership in it is compiled. -/
theorem array_compiled_to_membership :
    let record : List Descriptor := [⟨"tags", .scalar (.array [.text "x"])⟩]
    ((empty .standard).fromRecord record).current =
        [("tags", .document [("$in", .array [.text "x"])])] ∧
      (empty .standard).fromRecord record ≠
        { empty .standard with
          current := Edit.applyAll [] (record.filterMap Descriptor.edit?) } := by
  refine ⟨rfl, ?_⟩
  intro h
  have hcurrent := congrArg Builder.current h
  have hequality : Edit.applyAll []
        ([⟨"tags", .scalar (.array [.text "x"])⟩].filterMap Descriptor.edit?) =
      [("tags", .document [("$eq", .array [.text "x"])])] := rfl
  rw [hequality] at hcurrent
  injection hcurrent with hentry
  injection hentry with _ hvalue
  injection hvalue with hdocument
  injection hdocument with hpair
  injection hpair with htag
  exact absurd htag (by decide)

end Builder
end QueryFilter
