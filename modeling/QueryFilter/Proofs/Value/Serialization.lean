import QueryFilter.Builder
import QueryFilter.Proofs.Entries.Overlay
import QueryFilter.Proofs.Value.Decoding

/-!
One text for a value, whichever way it is written: at once, or as the tree that is built of it.
Neither way refuses a value. Building writes the members of an object one after the other into a
map, and finds every key new, because documents have none of their keys twice; so the members stay
in their order. Filters are written as their root documents.
-/

namespace QueryFilter
namespace Value

mutual

/-- No document in the value has one key twice. -/
def distinctKeys : Value → Bool
  | array items => distinctKeysItems items
  | document entries => decide (Entries.keys entries).Nodup && distinctKeysEntries entries
  | _ => true

def distinctKeysItems : List Value → Bool
  | [] => true
  | item :: rest => distinctKeys item && distinctKeysItems rest

def distinctKeysEntries : List (String × Value) → Bool
  | [] => true
  | (_, value) :: rest => distinctKeys value && distinctKeysEntries rest

end

theorem renderEntries_eq_map (entries : List (String × Value)) :
    renderEntries entries = entries.map fun entry => Json.member entry.1 entry.2.render := by
  induction entries with
  | nil => rfl
  | cons entry rest ih => rw [renderEntries, ih, List.map_cons]

/-! The text of the tree. -/

theorem render_toJson_number (n : Number) : n.toJson.render = n.render := by
  cases n with
  | signed n => rfl
  | unsigned n => rfl
  | float x =>
      rw [Number.toJson, Number.render]
      split <;> rfl

mutual

theorem render_toJson : (v : Value) → v.toJson.render = v.render
  | null => rfl
  | bool _ => rfl
  | text _ => rfl
  | number n => render_toJson_number n
  | instant _ => rfl
  | identifier _ => rfl
  | pattern _ => rfl
  | array items => by rw [toJson, Json.render, renderItems_itemsToJson items, render]
  | document entries => by
      rw [toJson, Json.render, renderMembers_entriesToJson entries, render]

theorem renderItems_itemsToJson : (items : List Value) →
    Json.renderItems (itemsToJson items) = renderItems items
  | [] => rfl
  | item :: rest => by
      rw [itemsToJson, Json.renderItems, render_toJson item, renderItems_itemsToJson rest,
        renderItems]

theorem renderMembers_entriesToJson : (entries : List (String × Value)) →
    Json.renderMembers (entriesToJson entries) = renderEntries entries
  | [] => rfl
  | (key, value) :: rest => by
      rw [entriesToJson, Json.renderMembers, render_toJson value,
        renderMembers_entriesToJson rest, renderEntries]

end

/-! The text written at once. -/

theorem serialize_textWriter_number (n : Number) :
    n.serialize Json.textWriter = some n.render := by
  cases n with
  | signed n => rfl
  | unsigned n => rfl
  | float x =>
      cases hfinite : x.isFinite with
      | true => simp [Number.serialize, Number.render, hfinite, Json.textWriter]
      | false =>
          rw [Number.serialize, Number.render, hfinite]
          rfl

mutual

theorem serialize_textWriter : (v : Value) → v.serialize Json.textWriter = some v.render
  | null => rfl
  | bool _ => rfl
  | text _ => rfl
  | number n => serialize_textWriter_number n
  | instant _ => rfl
  | identifier _ => rfl
  | pattern _ => rfl
  | array items => by
      rw [serialize, serializeItems_textWriter items, render]
      rfl
  | document entries => by
      rw [serialize, serializeEntries_textWriter entries, render, renderEntries_eq_map]
      simp [Json.textWriter, Function.comp_def]

theorem serializeItems_textWriter : (items : List Value) →
    serializeItems Json.textWriter items = some (renderItems items)
  | [] => rfl
  | item :: rest => by
      rw [serializeItems, serialize_textWriter item, serializeItems_textWriter rest, renderItems]
      rfl

theorem serializeEntries_textWriter : (entries : List (String × Value)) →
    serializeEntries Json.textWriter entries = some (entries.map (Prod.map id render))
  | [] => rfl
  | (key, value) :: rest => by
      rw [serializeEntries, serialize_textWriter value, serializeEntries_textWriter rest]
      rfl

end

/-! The tree as it is built. -/

theorem serialize_treeBuilder_number (n : Number) :
    n.serialize Json.treeBuilder = some n.toJson := by
  cases n with
  | signed n => rfl
  | unsigned n => rfl
  | float x =>
      cases hfinite : x.isFinite with
      | true => simp [Number.serialize, Number.toJson, hfinite, Json.treeBuilder]
      | false =>
          rw [Number.serialize, Number.toJson, hfinite]
          rfl

theorem object_treeBuilder {entries : Document} (h : (Entries.keys entries).Nodup) :
    Json.treeBuilder.object (entriesToJson entries) = some (.object (entriesToJson entries)) := by
  have hkeys : (entriesToJson entries).map Prod.fst = Entries.keys entries := by
    rw [entriesToJson_eq_map, List.map_map]
    rfl
  rw [← hkeys] at h
  exact congrArg (fun members => some (Json.object members)) (Entries.ofList_of_nodup h)

mutual

theorem serialize_treeBuilder : (v : Value) → v.distinctKeys = true →
    v.serialize Json.treeBuilder = some v.toJson
  | null, _ => rfl
  | bool _, _ => rfl
  | text _, _ => rfl
  | number n, _ => serialize_treeBuilder_number n
  | instant _, _ => rfl
  | identifier _, _ => rfl
  | pattern _, _ => rfl
  | array items, h => by
      rw [distinctKeys] at h
      rw [serialize, serializeItems_treeBuilder items h, toJson]
      rfl
  | document entries, h => by
      rw [distinctKeys, Bool.and_eq_true, decide_eq_true_eq] at h
      rw [serialize, serializeEntries_treeBuilder entries h.2, toJson]
      exact object_treeBuilder h.1

theorem serializeItems_treeBuilder : (items : List Value) → distinctKeysItems items = true →
    serializeItems Json.treeBuilder items = some (itemsToJson items)
  | [], _ => rfl
  | item :: rest, h => by
      rw [distinctKeysItems, Bool.and_eq_true] at h
      rw [serializeItems, serialize_treeBuilder item h.1, serializeItems_treeBuilder rest h.2,
        itemsToJson]
      rfl

theorem serializeEntries_treeBuilder : (entries : List (String × Value)) →
    distinctKeysEntries entries = true →
    serializeEntries Json.treeBuilder entries = some (entriesToJson entries)
  | [], _ => rfl
  | (key, value) :: rest, h => by
      rw [distinctKeysEntries, Bool.and_eq_true] at h
      rw [serializeEntries, serialize_treeBuilder value h.1,
        serializeEntries_treeBuilder rest h.2, entriesToJson]
      rfl

end

theorem serialize_filter {α : Type} (s : Serializer α) (f : Filter) :
    f.serialize s = f.toValue.serialize s := by
  rw [Filter.serialize, Document.serialize, Filter.toValue, serialize]

/-- Serializing a value and printing its tree give the same text, to the character. Building the
tree succeeds, and the tree is null for null alone. A filter, its tree, the value made of it and
its root document have one text as well. -/
theorem serializations_agree :
    (∀ v : Value,
      v.serialize Json.textWriter = some v.render ∧ v.toJson.render = v.render ∧
        (v.distinctKeys → v.serialize Json.treeBuilder = some v.toJson) ∧
        (v.toJson = .null ↔ v = null)) ∧
    ∀ f : Filter,
      f.serialize Json.textWriter = some f.toJson.render ∧
        f.toValue.serialize Json.textWriter = some f.toJson.render ∧
        (document f.root).serialize Json.textWriter = some f.toJson.render ∧
        (f.toValue.distinctKeys → f.serialize Json.treeBuilder = some f.toJson) := by
  refine ⟨?_, ?_⟩
  · intro v
    exact ⟨serialize_textWriter v, render_toJson v, serialize_treeBuilder v, toJson_eq_null⟩
  · intro f
    have htext : f.toValue.serialize Json.textWriter = some f.toJson.render := by
      rw [serialize_textWriter, Filter.toJson, render_toJson, Filter.toValue]
    refine ⟨?_, htext, htext, ?_⟩
    · rw [serialize_filter, htext]
    · intro h
      rw [serialize_filter]
      exact serialize_treeBuilder f.toValue h

/-- Documents that look like tagged objects, next to a float that becomes one. -/
theorem serializations_agree_tagged :
    let v := document
      [("$date", document [("$numberDouble", text "NaN")]),
        ("parts", array [number (.float (Binary64.infinity true)), null, pattern ⟨"\"", "i"⟩])]
    v.distinctKeys = true ∧
      v.serialize Json.treeBuilder = some (.object
        [("$date", .object [("$numberDouble", .string "NaN")]),
          ("parts", .array [.object [("$numberDouble", .string "-Infinity")], .null,
            .object [("$regularExpression",
              .object [("pattern", .string "\""), ("options", .string "i")])]])]) ∧
      v.serialize Json.textWriter = some v.toJson.render := by
  intro v
  have hdistinct : v.distinctKeys = true := by decide
  obtain ⟨htext, htree, hbuilt, -⟩ := serializations_agree.1 v
  refine ⟨hdistinct, (hbuilt hdistinct).trans rfl, ?_⟩
  rw [htext, htree]

end Value
end QueryFilter
