import Mathlib.Data.List.Basic
import QueryFilter.Record.FieldType

/-!
A field holds what its value is converted into. The conversion of values follows the type, one
option or list after the other; the field is told from its source, where an option takes over the
kind of what is in it, and a list takes up what its items hold. Both come to the same for every
type. Where a value is held elsewhere, nothing changes, and the items of lists that are not
supported may as well be missing.
-/

namespace QueryFilter
namespace FieldSource

@[elab_as_elim]
theorem induct {motive : FieldSource → Prop} (bool : ∀ b, motive (bool b))
    (number : ∀ n, motive (number n)) (text : ∀ s, motive (text s))
    (instant : ∀ i, motive (instant i)) (identifier : ∀ id, motive (identifier id))
    (absent : motive absent) (present : ∀ inner, motive inner → motive (present inner))
    (indirect : ∀ inner, motive inner → motive (indirect inner))
    (list : ∀ items, (∀ item ∈ items, motive item) → motive (list items))
    (unsupported : motive unsupported) (described : ∀ value, motive (described value))
    (s : FieldSource) : motive s := by
  refine FieldSource.rec (motive_1 := motive)
    (motive_2 := fun items => ∀ item ∈ items, motive item) bool number text instant identifier
    absent present indirect list unsupported described (List.forall_mem_nil _) ?_ s
  intro item rest hitem hrest
  exact List.forall_mem_cons.mpr ⟨hitem, hrest⟩

theorem itemsToField_eq (items : List FieldSource) :
    itemsToField items = items.filterMap fun item => item.toField.toItem? := by
  induction items with
  | nil => rfl
  | cons item rest ih =>
      rw [itemsToField, List.filterMap_cons, ih]
      cases item.toField.toItem? <;> rfl

mutual

/-- A source in which nothing is held elsewhere: what is, is put in its place. -/
def direct : FieldSource → FieldSource
  | present inner => present (direct inner)
  | indirect inner => direct inner
  | list items => list (directItems items)
  | s => s

def directItems : List FieldSource → List FieldSource
  | [] => []
  | item :: rest => direct item :: directItems rest

end

/-- Whether a source is of a kind that no filter can take, be it optional or held elsewhere. -/
def isUnsupported : FieldSource → Bool
  | unsupported | described .unsupported => true
  | present inner | indirect inner => inner.isUnsupported
  | _ => false

mutual

/-- A source without the unsupported items of its lists. -/
def pruned : FieldSource → FieldSource
  | present inner => present (pruned inner)
  | indirect inner => indirect (pruned inner)
  | list items => list (prunedItems items)
  | s => s

def prunedItems : List FieldSource → List FieldSource
  | [] => []
  | item :: rest =>
      if item.isUnsupported then prunedItems rest else pruned item :: prunedItems rest

end

/-- The items of the lists in a source, on every level. -/
inductive ItemOf (item : FieldSource) : FieldSource → Prop
  | here {items : List FieldSource} : item ∈ items → ItemOf item (list items)
  | inside {items : List FieldSource} {other : FieldSource} :
      other ∈ items → ItemOf item other → ItemOf item (list items)
  | present {inner : FieldSource} : ItemOf item inner → ItemOf item (present inner)
  | indirect {inner : FieldSource} : ItemOf item inner → ItemOf item (indirect inner)

theorem directItems_eq (items : List FieldSource) : directItems items = items.map direct := by
  induction items with
  | nil => rfl
  | cons item rest ih => rw [directItems, ih, List.map_cons]

theorem prunedItems_eq (items : List FieldSource) :
    prunedItems items = (items.filter fun item => !item.isUnsupported).map pruned := by
  induction items with
  | nil => rfl
  | cons item rest ih =>
      rw [prunedItems, ih, List.filter_cons]
      cases item.isUnsupported <;> rfl

theorem toField_list (items : List FieldSource) :
    (list items).toField = .sequence (items.filterMap fun item => item.toField.toItem?) := by
  rw [toField, itemsToField_eq]

theorem isUnsupported_iff (s : FieldSource) :
    s.isUnsupported = true ↔ s.toField = .unsupported := by
  induction s using induct with
  | unsupported => exact iff_of_true rfl rfl
  | described value =>
      cases value with
      | unsupported => exact iff_of_true rfl rfl
      | scalar _ | sequence _ => exact iff_of_false nofun nofun
  | present inner ih | indirect inner ih => exact ih
  | bool _ | number _ | text _ | instant _ | identifier _ | absent | list _ _ =>
      exact iff_of_false nofun nofun

theorem toField_direct (s : FieldSource) : s.direct.toField = s.toField := by
  induction s using induct with
  | present inner ih | indirect inner ih => exact ih
  | list items ih =>
      rw [direct, directItems_eq, toField_list, toField_list, List.filterMap_map]
      congr 1
      apply List.filterMap_congr
      intro item hitem
      exact congrArg FieldValue.toItem? (ih item hitem)
  | _ => rfl

theorem toField_pruned (s : FieldSource) : s.pruned.toField = s.toField := by
  induction s using induct with
  | present inner ih | indirect inner ih => exact ih
  | list items ih =>
      rw [pruned, prunedItems_eq, toField_list, toField_list, List.filterMap_map,
        List.filterMap_filter]
      congr 1
      apply List.filterMap_congr
      intro item hitem
      cases h : item.isUnsupported with
      | true =>
          rw [(isUnsupported_iff item).mp h]
          rfl
      | false => exact congrArg FieldValue.toItem? (ih item hitem)
  | _ => rfl

theorem toField_ne_of_itemOf_pruned {s item : FieldSource} (h : ItemOf item s.pruned) :
    item.toField ≠ .unsupported := by
  induction s using induct with
  | present inner ih =>
      cases h with
      | present h => exact ih h
  | indirect inner ih =>
      cases h with
      | indirect h => exact ih h
  | list items ih =>
      rw [pruned, prunedItems_eq] at h
      cases h with
      | here hmem =>
          obtain ⟨kept, hkept, rfl⟩ := List.mem_map.mp hmem
          rw [toField_pruned, Ne, ← isUnsupported_iff]
          simpa using (List.mem_filter.mp hkept).2
      | inside hmem h =>
          obtain ⟨kept, hkept, rfl⟩ := List.mem_map.mp hmem
          exact ih kept (List.mem_filter.mp hkept).1 h
  | _ => cases h

end FieldSource

namespace FieldType

theorem toItem?_toField_source (type : FieldType) (x : type.Carrier) :
    (type.source x).toField.toItem? = some (type.toValue x) := by
  induction type with
  | option inner ih =>
      cases x with
      | none => rfl
      | some x => exact ih x
  | list item ih =>
      have hitems : ∀ xs : List item.Carrier,
          (xs.map item.source).filterMap (fun s => s.toField.toItem?) = xs.map item.toValue := by
        intro xs
        rw [List.filterMap_map, ← List.filterMap_eq_map]
        exact List.filterMap_congr fun x _ => ih x
      rw [source, FieldSource.toField_list]
      exact congrArg (some ∘ Value.array) (hitems x)
  | _ => rfl

end FieldType

/-- A value of a type and the field that it makes come to the same filter value: a single value to
itself, and a sequence to the array of its items. Any source makes the field that it makes with
everything held elsewhere put in its place, and the field that it makes without the unsupported
items of its lists, of which none is left then. So a source that is a value of a type but for such
items, and but for where its parts are held, comes to what that value is converted into. -/
theorem field_agrees_with_conversion :
    (∀ (type : FieldType) (x : type.Carrier),
      (type.source x).toField.toItem? = some (type.toValue x)) ∧
    (∀ s : FieldSource, s.direct.toField = s.toField) ∧
    (∀ s : FieldSource, s.pruned.toField = s.toField ∧
      ∀ item, FieldSource.ItemOf item s.pruned → item.toField ≠ .unsupported) ∧
    ∀ (s : FieldSource) (type : FieldType) (x : type.Carrier),
      s.pruned.direct = type.source x → s.toField.toItem? = some (type.toValue x) := by
  refine ⟨FieldType.toItem?_toField_source, FieldSource.toField_direct, ?_, ?_⟩
  · intro s
    exact ⟨s.toField_pruned, fun _ => FieldSource.toField_ne_of_itemOf_pruned⟩
  · intro s type x h
    rw [← s.toField_pruned, ← s.pruned.toField_direct, h]
    exact type.toItem?_toField_source x

/-- A list of optional lists of small numbers, with unsupported items on both levels. A missing
number and a list without anything in it are items still. -/
theorem field_agrees_with_conversion_nested :
    let type : FieldType := .list (.option (.list (.unsigned .bits8)))
    let x : type.Carrier := ([some [5], none, some []] : List (Option (List (BitVec 8))))
    let s : FieldSource := .list
      [.present (.indirect (.list [.indirect (.number (.unsigned 5)), .unsupported])), .absent,
        .indirect (.described .unsupported), .present (.list [.present .unsupported])]
    s.pruned.direct = type.source x ∧
      s.toField.toItem? = some (.array [.array [.number (.unsigned 5)], .null, .array []]) := by
  intro type x s
  have hsource : s.pruned.direct = type.source x := rfl
  exact ⟨hsource, field_agrees_with_conversion.2.2.2 s type x hsource⟩

end QueryFilter
