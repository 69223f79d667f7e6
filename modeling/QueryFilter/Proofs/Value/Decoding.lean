import QueryFilter.Proofs.Calendar.Written
import QueryFilter.Proofs.Identifier.Hex
import QueryFilter.Proofs.Value.Numbers

/-!
Extended JSON is undone by one decoder. It takes an object with one tagged member for what the tag
says, if what is under the tag can be read as such, and every other object for a document. A value
comes back as it was, except for what JSON has no room for: whether a whole number was made signed
or unsigned, and which not-a-number a float is. A document that looks like a tagged object would
come back as something else, so none may occur in the value.
-/

namespace QueryFilter

namespace Json

def asString? : Json → Option String
  | string s => some s
  | _ => none

/-- The tree at a path of places in arrays and objects. -/
def child? : Json → Nat → Option Json
  | array items, place => items[place]?
  | object members, place => members[place]?.map Prod.snd
  | _, _ => none

def at? (j : Json) : List Nat → Option Json
  | [] => some j
  | place :: path => (j.child? place).bind (at? · path)

/-- There is no null anywhere in the tree. -/
def NullFree (j : Json) : Prop := ∀ path, j.at? path ≠ some null

theorem nullFree_of_child?_eq_none {j : Json} (hnull : j ≠ null)
    (hchild : ∀ place, j.child? place = none) : j.NullFree := by
  intro path h
  cases path with
  | nil => exact hnull (Option.some.inj h)
  | cons place path =>
      rw [at?, hchild, Option.bind_none] at h
      cases h

theorem nullFree_string (s : String) : (string s).NullFree :=
  nullFree_of_child?_eq_none (by simp) fun _ => rfl

theorem nullFree_integer (n : Int) : (integer n).NullFree :=
  nullFree_of_child?_eq_none (by simp) fun _ => rfl

theorem nullFree_float (x : Binary64) : (float x).NullFree :=
  nullFree_of_child?_eq_none (by simp) fun _ => rfl

theorem nullFree_object {members : List (String × Json)} (h : ∀ m ∈ members, m.2.NullFree) :
    (object members).NullFree := by
  intro path hpath
  cases path with
  | nil => cases hpath
  | cons place path =>
      rw [at?, child?] at hpath
      cases hmember : members[place]? with
      | none =>
          rw [hmember] at hpath
          cases hpath
      | some member =>
          rw [hmember] at hpath
          exact h member (List.mem_of_getElem? hmember) path hpath

theorem nullFree_tagged {content : Json} (tag : String) (h : content.NullFree) :
    (object [(tag, content)]).NullFree := by
  apply nullFree_object
  intro m hm
  rw [List.mem_singleton.mp hm]
  exact h

end Json

def Pattern.ofJson? : Json → Option Pattern
  | .object [(first, .string pattern), (second, .string options)] =>
      if first = "pattern" ∧ second = "options" then some ⟨pattern, options⟩ else none
  | _ => none

theorem Pattern.ofJson?_toJson (p : Pattern) : ofJson? p.toJson = some p := by
  rw [toJson, ofJson?]
  rfl

namespace Value

def tags : List String :=
  [extendedTags.date, extendedTags.identifier, extendedTags.pattern, extendedTags.double]

/-- What an object with one member under a tag stands for. -/
def ofTagged? (tag : String) (content : Json) : Option Value :=
  if tag = extendedTags.date then
    content.asString?.bind fun text =>
      (Calendar.Instant.ofPattern Calendar.Instant.writtenPattern text).toOption.map instant
  else if tag = extendedTags.identifier then
    content.asString?.bind fun text => (Identifier.ofText text).toOption.map identifier
  else if tag = extendedTags.pattern then (Pattern.ofJson? content).map pattern
  else if tag = extendedTags.double then
    content.asString?.bind fun text => (Binary64.ofSpecialName? text).map fun x => number (.float x)
  else none

def ofMembers? : List (String × Json) → Option Value
  | [(tag, content)] => ofTagged? tag content
  | _ => none

mutual

/-- The value that a JSON tree stands for. -/
def ofJson : Json → Value
  | .null => null
  | .bool b => bool b
  | .integer n => number (.ofInteger n)
  | .float x => number (.float x)
  | .string s => text s
  | .array items => array (ofItems items)
  | .object members => (ofMembers? members).getD (document (ofMembers members))

def ofItems : List Json → List Value
  | [] => []
  | item :: rest => ofJson item :: ofItems rest

def ofMembers : List (String × Json) → List (String × Value)
  | [] => []
  | (key, content) :: rest => (key, ofJson content) :: ofMembers rest

end

mutual

/-- A value up to what JSON tells apart: every number in it is taken up to that. -/
def canonical : Value → Value
  | number n => number n.canonical
  | array items => array (canonicalItems items)
  | document entries => document (canonicalEntries entries)
  | v => v

def canonicalItems : List Value → List Value
  | [] => []
  | item :: rest => canonical item :: canonicalItems rest

def canonicalEntries : List (String × Value) → List (String × Value)
  | [] => []
  | (key, value) :: rest => (key, canonical value) :: canonicalEntries rest

end

/-- One entry, under a tag. -/
def looksTagged : List (String × Value) → Bool
  | [(key, _)] => key ∈ tags
  | _ => false

mutual

/-- No document in the value looks like a tagged object. -/
def tagFree : Value → Bool
  | array items => tagFreeItems items
  | document entries => !looksTagged entries && tagFreeEntries entries
  | _ => true

def tagFreeItems : List Value → Bool
  | [] => true
  | item :: rest => tagFree item && tagFreeItems rest

def tagFreeEntries : List (String × Value) → Bool
  | [] => true
  | (_, value) :: rest => tagFree value && tagFreeEntries rest

end

def child? : Value → Nat → Option Value
  | array items, place => items[place]?
  | document entries, place => entries[place]?.map Prod.snd
  | _, _ => none

/-- The value at a path of places in arrays and documents. -/
def at? (v : Value) : List Nat → Option Value
  | [] => some v
  | place :: path => (v.child? place).bind (at? · path)

/-! The values that are written under a tag. -/

theorem ofJson_instant (i : Calendar.Instant) : ofJson (instant i).toJson = instant i := by
  simp only [toJson, ofJson, ofMembers?, ofTagged?, if_true, Json.asString?, Option.bind_some,
    Calendar.Instant.ofPattern_toRfc3339]
  rfl

theorem ofJson_identifier (id : Identifier) : ofJson (identifier id).toJson = identifier id := by
  have hdate : extendedTags.identifier ≠ extendedTags.date := by decide
  simp only [toJson, ofJson, ofMembers?, ofTagged?, hdate, if_false, if_true, Json.asString?,
    Option.bind_some, Identifier.ofText_toHex]
  rfl

theorem ofJson_pattern (p : Pattern) : ofJson (pattern p).toJson = pattern p := by
  have hdate : extendedTags.pattern ≠ extendedTags.date := by decide
  have hid : extendedTags.pattern ≠ extendedTags.identifier := by decide
  simp only [toJson, ofJson, ofMembers?, ofTagged?, hdate, hid, if_false, if_true,
    Pattern.ofJson?_toJson, Option.map_some, Option.getD_some]

theorem ofTagged?_double {x : Binary64} (h : x.isFinite = false) :
    ofTagged? extendedTags.double (.string x.specialName) =
      some (number (Number.canonical (.float x))) := by
  have hdate : extendedTags.double ≠ extendedTags.date := by decide
  have hid : extendedTags.double ≠ extendedTags.identifier := by decide
  have hpattern : extendedTags.double ≠ extendedTags.pattern := by decide
  simp only [ofTagged?, hdate, hid, hpattern, if_false, if_true, Json.asString?, Option.bind_some,
    Binary64.ofSpecialName?_specialName h, Option.map_some, Number.canonical]

theorem ofJson_number (n : Number) : ofJson n.toJson = number n.canonical := by
  cases n with
  | signed n => rfl
  | unsigned n => exact congrArg number (Number.ofInteger_toNat n)
  | float x =>
      rw [Number.toJson]
      cases hfinite : x.isFinite with
      | true =>
          have hnumber : x.isNaN = false := by
            simp [Binary64.isNaN, hfinite]
          rw [Number.canonical, hnumber]
          rfl
      | false =>
          simp only [Bool.false_eq_true, if_false, ofJson, ofMembers?, ofTagged?_double hfinite,
            Option.getD_some]

/-- An object that is a document is not taken for anything else. -/
theorem ofMembers?_entriesToJson {entries : List (String × Value)}
    (h : looksTagged entries = false) : ofMembers? (entriesToJson entries) = none := by
  cases entries with
  | nil => rfl
  | cons entry rest =>
      cases rest with
      | cons next more => rfl
      | nil =>
          have hkey : entry.1 ∉ tags := by
            simpa [looksTagged] using h
          simp only [tags, List.mem_cons, List.not_mem_nil, or_false, not_or] at hkey
          obtain ⟨hdate, hid, hpattern, hdouble⟩ := hkey
          simp only [entriesToJson, ofMembers?, ofTagged?, hdate, hid, hpattern, hdouble, if_false]

mutual

theorem ofJson_toJson : (v : Value) → v.tagFree = true → ofJson v.toJson = v.canonical
  | null, _ => rfl
  | bool _, _ => rfl
  | text _, _ => rfl
  | number n, _ => ofJson_number n
  | instant i, _ => ofJson_instant i
  | identifier id, _ => ofJson_identifier id
  | pattern p, _ => ofJson_pattern p
  | array items, h => by
      rw [tagFree] at h
      rw [toJson, ofJson, ofItems_itemsToJson items h, canonical]
  | document entries, h => by
      rw [tagFree, Bool.and_eq_true, Bool.not_eq_true'] at h
      rw [toJson, ofJson, ofMembers?_entriesToJson h.1, Option.getD_none,
        ofMembers_entriesToJson entries h.2, canonical]

theorem ofItems_itemsToJson : (items : List Value) → tagFreeItems items = true →
    ofItems (itemsToJson items) = canonicalItems items
  | [], _ => rfl
  | item :: rest, h => by
      rw [tagFreeItems, Bool.and_eq_true] at h
      rw [itemsToJson, ofItems, ofJson_toJson item h.1, ofItems_itemsToJson rest h.2,
        canonicalItems]

theorem ofMembers_entriesToJson : (entries : List (String × Value)) →
    tagFreeEntries entries = true → ofMembers (entriesToJson entries) = canonicalEntries entries
  | [], _ => rfl
  | (key, value) :: rest, h => by
      rw [tagFreeEntries, Bool.and_eq_true] at h
      rw [entriesToJson, ofMembers, ofJson_toJson value h.1, ofMembers_entriesToJson rest h.2,
        canonicalEntries]

end

mutual

theorem toJson_canonical : (v : Value) → v.canonical.toJson = v.toJson
  | null => rfl
  | bool _ => rfl
  | text _ => rfl
  | number n => Number.toJson_canonical n
  | instant _ => rfl
  | identifier _ => rfl
  | pattern _ => rfl
  | array items => by
      rw [canonical, toJson, itemsToJson_canonical items, toJson]
  | document entries => by
      rw [canonical, toJson, entriesToJson_canonical entries, toJson]

theorem itemsToJson_canonical : (items : List Value) →
    itemsToJson (canonicalItems items) = itemsToJson items
  | [] => rfl
  | item :: rest => by
      rw [canonicalItems, itemsToJson, toJson_canonical item, itemsToJson_canonical rest,
        itemsToJson]

theorem entriesToJson_canonical : (entries : List (String × Value)) →
    entriesToJson (canonicalEntries entries) = entriesToJson entries
  | [] => rfl
  | (key, value) :: rest => by
      rw [canonicalEntries, entriesToJson, toJson_canonical value, entriesToJson_canonical rest,
        entriesToJson]

end

theorem itemsToJson_eq_map (items : List Value) : itemsToJson items = items.map toJson := by
  induction items with
  | nil => rfl
  | cons item rest ih => rw [itemsToJson, ih, List.map_cons]

theorem entriesToJson_eq_map (entries : List (String × Value)) :
    entriesToJson entries = entries.map (Prod.map id toJson) := by
  induction entries with
  | nil => rfl
  | cons entry rest ih => rw [entriesToJson, ih, List.map_cons, Prod.map_apply, id]

theorem toJson_eq_null {v : Value} : v.toJson = .null ↔ v = null := by
  constructor
  · intro h
    cases v with
    | null => rfl
    | number n =>
        rw [toJson] at h
        cases n with
        | signed n => cases h
        | unsigned n => cases h
        | float x =>
            rw [Number.toJson] at h
            split at h <;> cases h
    | bool _ | text _ | instant _ | identifier _ | pattern _ | array _ | document _ => cases h
  · rintro rfl
    rfl

theorem nullFree_number (n : Number) : n.toJson.NullFree := by
  cases n with
  | signed n => exact Json.nullFree_integer n.toInt
  | unsigned n => exact Json.nullFree_integer n.toNat
  | float x =>
      rw [Number.toJson]
      split
      · exact Json.nullFree_float x
      · exact Json.nullFree_tagged _ (Json.nullFree_string _)

theorem nullFree_pattern (p : Pattern) : p.toJson.NullFree := by
  apply Json.nullFree_object
  intro m hm
  rw [List.mem_cons, List.mem_singleton] at hm
  obtain rfl | rfl := hm
  · exact Json.nullFree_string p.pattern
  · exact Json.nullFree_string p.options

theorem at?_toJson_null (v : Value) (path : List Nat) :
    v.toJson.at? path = some .null ↔ v.at? path = some null := by
  induction path generalizing v with
  | nil => rw [Json.at?, at?, Option.some_inj, Option.some_inj, toJson_eq_null]
  | cons place path ih =>
      -- A value without parts is at no longer path, and neither is a null in its tree.
      have hleaf : v.child? place = none → v.toJson.NullFree →
          (v.toJson.at? (place :: path) = some .null ↔ v.at? (place :: path) = some null) := by
        intro hchild hfree
        rw [at?, hchild]
        exact iff_of_false (hfree _) nofun
      -- A value with parts has the trees of the parts in their places.
      have hparts : v.toJson.child? place = (v.child? place).map toJson →
          (v.toJson.at? (place :: path) = some .null ↔ v.at? (place :: path) = some null) := by
        intro hchild
        rw [Json.at?, at?, hchild]
        cases v.child? place with
        | none => exact iff_of_false nofun nofun
        | some part => exact ih part
      cases v with
      | null => exact iff_of_false nofun nofun
      | bool b => exact iff_of_false nofun nofun
      | text s => exact hleaf rfl (Json.nullFree_string s)
      | number n => exact hleaf rfl (nullFree_number n)
      | instant i => exact hleaf rfl (Json.nullFree_tagged _ (Json.nullFree_string _))
      | identifier id => exact hleaf rfl (Json.nullFree_tagged _ (Json.nullFree_string _))
      | pattern p => exact hleaf rfl (Json.nullFree_tagged _ (nullFree_pattern p))
      | array items =>
          apply hparts
          rw [toJson, Json.child?, child?, itemsToJson_eq_map, List.getElem?_map]
      | document entries =>
          apply hparts
          rw [toJson, Json.child?, child?, entriesToJson_eq_map, List.getElem?_map, Option.map_map,
            Option.map_map]
          rfl

theorem toJson_inj {v w : Value} (hv : v.tagFree = true) (hw : w.tagFree = true) :
    v.toJson = w.toJson ↔ v.canonical = w.canonical := by
  constructor
  · intro h
    rw [← ofJson_toJson v hv, h, ofJson_toJson w hw]
  · intro h
    rw [← toJson_canonical v, h, toJson_canonical w]

/-- The tree of a value is decoded to the value, up to the kind of whole numbers and the form of
floats that are no numbers. So values with one tree differ in nothing else, and the nulls in the
tree are those of the value. -/
theorem extended_json_decoded (v : Value) (h : v.tagFree = true) :
    ofJson v.toJson = v.canonical ∧
      (∀ w : Value, w.tagFree = true → (v.toJson = w.toJson ↔ v.canonical = w.canonical)) ∧
      (∀ path, v.toJson.at? path = some .null ↔ v.at? path = some null) ∧
      ∀ m n : Number, m.canonical = n.canonical ↔ m.Alike n := by
  refine ⟨ofJson_toJson v h, ?_, at?_toJson_null v, Number.canonical_eq_iff⟩
  intro w hw
  exact toJson_inj h hw

/-- A leap second before the common era, a signed whole number, an infinity and a null below a
document with a tag among its keys: only the kind of the whole number is lost. -/
theorem extended_json_decoded_nested :
    let leap : Calendar.Instant :=
      ⟨-62198755201, 1500000000, by decide, by decide, by decide, by decide⟩
    let parts (n : Number) : List Value :=
      [number n, null, instant leap, number (.float (Binary64.infinity true)),
        pattern ⟨"^a", "i"⟩, identifier .zero]
    let nested (n : Number) : Value :=
      document [("$date", text "kept"), ("parts", array (parts n))]
    (nested (.signed 5)).tagFree = true ∧
      ofJson (nested (.signed 5)).toJson = nested (.unsigned 5) ∧
      (nested (.signed 5)).toJson.at? [1, 1] = some .null ∧
      (nested (.signed 5)).toJson = (nested (.unsigned 5)).toJson := by
  intro leap parts nested
  have hfree : (nested (.signed 5)).tagFree = true := by decide
  obtain ⟨hdecoded, hsame, hnull, -⟩ := extended_json_decoded (nested (.signed 5)) hfree
  refine ⟨hfree, hdecoded, (hnull [1, 1]).mpr rfl, ?_⟩
  exact (hsame (nested (.unsigned 5)) (by decide)).mpr rfl

end Value
end QueryFilter
