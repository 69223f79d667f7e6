import QueryFilter.Proofs.Value.Sorted

/-!
Equality of values is lawful. It is symmetric and transitive, a value equals itself unless a float
that is no number is somewhere in it, and equal values are both zero or both not, and have the same
tree, up to the order of the members of objects and the sign of zeros. All of this is drawn from
the sorted values, which are identical exactly when the values are equal.
-/

namespace QueryFilter

namespace Binary64

def zero : Binary64 := ofFields false 0 0

/-- A float up to the sign of zero. -/
def unsignedZero (x : Binary64) : Binary64 := if x.isZero then zero else x

theorem isFinite_of_isZero {x : Binary64} (h : x.isZero = true) : x.isFinite = true := by
  rw [isZero, Bool.and_eq_true, decide_eq_true_eq] at h
  rw [isFinite, h.1]
  rfl

theorem isZero_eq_of_equals {x y : Binary64} (h : x.equals y = true) : x.isZero = y.isZero := by
  obtain ⟨_, _, rfl | ⟨hx, hy⟩⟩ := equals_iff.mp h
  · rfl
  · rw [hx, hy]

end Binary64

namespace Json

mutual

/-- A tree up to the order of the members of objects and the sign of zeros. -/
def normalized : Json → Json
  | float x => float x.unsignedZero
  | array items => array (normalizedItems items)
  | object members => object (Entries.sortKeys (normalizedMembers members))
  | j => j

def normalizedItems : List Json → List Json
  | [] => []
  | item :: rest => normalized item :: normalizedItems rest

def normalizedMembers : List (String × Json) → List (String × Json)
  | [] => []
  | (key, content) :: rest => (key, normalized content) :: normalizedMembers rest

end

theorem normalized_array (items : List Json) :
    (array items).normalized = array (items.map normalized) := by
  rw [normalized]
  congr 1
  induction items with
  | nil => rfl
  | cons item rest ih => rw [normalizedItems, ih, List.map_cons]

theorem normalized_object (members : List (String × Json)) :
    (object members).normalized =
      object (Entries.sortKeys (members.map (Prod.map id normalized))) := by
  rw [normalized]
  congr 2
  induction members with
  | nil => rfl
  | cons m rest ih => rw [normalizedMembers, ih, List.map_cons, Prod.map_apply, id]

end Json

namespace Value

/-! Trees. -/

theorem normalized_toJson_array (items : List Value) :
    (array items).toJson.normalized = .array (items.map fun v => v.toJson.normalized) := by
  rw [toJson, Json.normalized_array, itemsToJson_eq_map, List.map_map]
  rfl

theorem normalized_toJson_document (entries : List (String × Value)) :
    (document entries).toJson.normalized =
      .object (Entries.sortKeys (entries.map (Prod.map id fun v => v.toJson.normalized))) := by
  rw [toJson, Json.normalized_object, entriesToJson_eq_map, List.map_map]
  rfl

theorem normalized_toJson_float {x y : Binary64} (h : x.equals y = true) :
    (Number.float x).toJson.normalized = (Number.float y).toJson.normalized := by
  obtain ⟨_, _, rfl | ⟨hx, hy⟩⟩ := Binary64.equals_iff.mp h
  · rfl
  · rw [Number.toJson, Number.toJson, if_pos (Binary64.isFinite_of_isZero hx),
      if_pos (Binary64.isFinite_of_isZero hy), Json.normalized, Json.normalized,
      Binary64.unsignedZero, Binary64.unsignedZero, if_pos hx, if_pos hy]

theorem map_eq_of_forall₂ {α β : Type} (f : α → β) {xs ys : List α}
    (h : List.Forall₂ (fun x y => f x = f y) xs ys) : xs.map f = ys.map f := by
  rw [← List.forall₂_map_right_iff, ← List.forall₂_map_left_iff, List.forall₂_eq_eq_eq] at h
  exact h

theorem Identical.normalized_toJson {v w : Value} (h : Identical v w) :
    v.toJson.normalized = w.toJson.normalized := by
  induction v using induct generalizing w with
  | null | bool _ | text _ | instant _ | identifier _ | pattern _ =>
      cases h
      rfl
  | number n =>
      cases h with
      | signed n | unsigned n => rfl
      | float h => exact normalized_toJson_float h
  | array items ih =>
      cases h with
      | array h =>
          rw [normalized_toJson_array, normalized_toJson_array,
            map_eq_of_forall₂ _ (forall₂_of_mem h ih)]
  | document entries ih =>
      cases h with
      | @document _ others hkeys h =>
          have hvalues : ∀ v ∈ Entries.values entries, ∀ {w}, Identical v w →
              v.toJson.normalized = w.toJson.normalized := List.forall_mem_map.mpr ih
          have hmembers : entries.map (Prod.map id fun v => v.toJson.normalized) =
              others.map (Prod.map id fun v => v.toJson.normalized) := by
            apply Entries.ext_keys_values
            · rw [Entries.keys_map, Entries.keys_map, hkeys]
            · rw [Entries.values_map, Entries.values_map]
              exact map_eq_of_forall₂ _ (forall₂_of_mem h hvalues)
          rw [normalized_toJson_document, normalized_toJson_document, hmembers]

theorem normalized_toJson_sorted (v : Value) :
    v.sorted.toJson.normalized = v.toJson.normalized := by
  induction v using induct with
  | null | bool _ | number _ | text _ | instant _ | identifier _ | pattern _ => rfl
  | array items ih =>
      rw [sorted_array, normalized_toJson_array, normalized_toJson_array, List.map_map]
      congr 1
      exact List.map_congr_left ih
  | document entries ih =>
      have hmembers : (entries.map (Prod.map id sorted)).map
            (Prod.map id fun v => v.toJson.normalized) =
          entries.map (Prod.map id fun v => v.toJson.normalized) := by
        rw [List.map_map]
        apply List.map_congr_left
        intro entry hentry
        exact congrArg (entry.1, ·) (ih entry hentry)
      rw [sorted_document, normalized_toJson_document, normalized_toJson_document,
        ← Entries.sortKeys_map, Entries.sortKeys_sortKeys, hmembers]

/-! Zero values. -/

theorem isEmpty_eq_of_length_eq {α β : Type} {xs : List α} {ys : List β}
    (h : xs.length = ys.length) : xs.isEmpty = ys.isEmpty := by
  rw [Bool.eq_iff_iff, List.isEmpty_iff_length_eq_zero, List.isEmpty_iff_length_eq_zero, h]

theorem Identical.isZero_eq {v w : Value} (h : Identical v w) : v.isZero = w.isZero := by
  cases h with
  | float h => exact Binary64.isZero_eq_of_equals h
  | array h => exact isEmpty_eq_of_length_eq h.length_eq
  | document hkeys _ =>
      have hlength := congrArg List.length hkeys
      rw [Entries.keys, Entries.keys, List.length_map, List.length_map] at hlength
      exact isEmpty_eq_of_length_eq hlength
  | null | bool _ | signed _ | unsigned _ | text _ | instant _ | identifier _ | pattern _ => rfl

theorem isZero_sorted (v : Value) : v.sorted.isZero = v.isZero := by
  cases v with
  | array items =>
      rw [sorted_array]
      exact isEmpty_eq_of_length_eq (List.length_map _)
  | document entries =>
      have hlength := (Entries.perm_sortKeys (entries.map (Prod.map id sorted))).length_eq
      rw [sorted_document]
      exact isEmpty_eq_of_length_eq (hlength.trans (List.length_map _))
  | null | bool _ | number _ | text _ | instant _ | identifier _ | pattern _ => rfl

/-! Floats that are no numbers. -/

/-- No float anywhere in the value is a not-a-number. -/
def NaNFree (v : Value) : Prop :=
  ∀ path x, v.at? path = some (number (.float x)) → x.isNaN = false

theorem nanFree_iff {v : Value} :
    v.NaNFree ↔
      (∀ x, v = number (.float x) → x.isNaN = false) ∧
        ∀ place part, v.child? place = some part → part.NaNFree := by
  constructor
  · intro h
    refine ⟨fun x hx => h [] x (congrArg some hx), ?_⟩
    intro place part hpart path x hx
    apply h (place :: path) x
    rw [at?, hpart]
    exact hx
  · rintro ⟨hself, hparts⟩ path x hx
    cases path with
    | nil => exact hself x (Option.some.inj hx)
    | cons place path =>
        obtain ⟨part, hpart, hx⟩ := Option.bind_eq_some_iff.mp hx
        exact hparts place part hpart path x hx

theorem nanFree_of_child?_eq_none {v : Value} (hfloat : ∀ x, v ≠ number (.float x))
    (hchild : ∀ place, v.child? place = none) : v.NaNFree := by
  refine nanFree_iff.mpr ⟨fun x hx => absurd hx (hfloat x), ?_⟩
  intro place part hpart
  rw [hchild] at hpart
  cases hpart

theorem nanFree_float {x : Binary64} : (number (.float x)).NaNFree ↔ x.isNaN = false := by
  rw [nanFree_iff, and_iff_left nofun]
  constructor
  · intro h
    exact h x rfl
  · rintro h _ ⟨⟩
    exact h

theorem nanFree_array {items : List Value} :
    (array items).NaNFree ↔ ∀ v ∈ items, v.NaNFree := by
  rw [nanFree_iff, and_iff_right nofun, forall_comm]
  apply forall_congr'
  intro v
  rw [List.mem_iff_getElem?, forall_exists_index]
  rfl

theorem nanFree_document {entries : List (String × Value)} :
    (document entries).NaNFree ↔ ∀ entry ∈ entries, entry.2.NaNFree := by
  rw [nanFree_iff, and_iff_right nofun]
  constructor
  · intro h entry hentry
    obtain ⟨place, hplace⟩ := List.mem_iff_getElem?.mp hentry
    exact h place entry.2 (congrArg (Option.map Prod.snd) hplace)
  · intro h place part hpart
    obtain ⟨entry, hplace, rfl⟩ := Option.map_eq_some_iff.mp hpart
    exact h entry (List.mem_of_getElem? hplace)

/-- A value without a repeated key equals itself unless it holds a not-a-number. -/
theorem equals_self_iff {v : Value} (hv : v.distinctKeys = true) :
    v.equals v = true ↔ v.NaNFree := by
  induction v using induct with
  | null | bool _ | text _ | instant _ | identifier _ | pattern _ =>
      refine iff_of_true ?_ (nanFree_of_child?_eq_none ?_ fun _ => rfl)
      · simp [equals]
      · rintro x ⟨⟩
  | number n =>
      cases n with
      | signed n | unsigned n =>
          refine iff_of_true (beq_self_eq_true n) (nanFree_of_child?_eq_none ?_ fun _ => rfl)
          rintro x ⟨⟩
      | float x =>
          rw [nanFree_float, ← Bool.not_eq_true', ← Binary64.equals_self]
          rfl
  | array items ih =>
      rw [distinctKeys_array] at hv
      rw [equals, equalItems_iff, List.forall₂_same, nanFree_array]
      exact forall₂_congr fun v hmem => ih v hmem (hv v hmem)
  | document entries ih =>
      obtain ⟨hkeys, hparts⟩ := distinctKeys_document.mp hv
      rw [equals, Bool.and_eq_true, and_iff_right (beq_self_eq_true _), heldBy_iff,
        nanFree_document, Prod.forall]
      apply forall₂_congr
      intro key value
      apply forall_congr'
      intro hmem
      rw [← ih (key, value) hmem (hparts _ hmem), Entries.get?_of_mem hkeys hmem]
      simp

/-- Equality of values without repeated keys is symmetric and transitive, and a value equals itself
exactly when no float in it is a not-a-number. Two values are equal exactly when sorting the keys of
every document in them, and nothing else, makes them the same place by place, floats compared as
floats. Equal values are both zero or both not, and their trees are the same up to the order of the
members of objects and the sign of zeros. -/
theorem equality_lawful {a b : Value} (ha : a.distinctKeys) (hb : b.distinctKeys) :
    (a == b) = (b == a) ∧
      (∀ c : Value, c.distinctKeys → a == b → b == c → a == c) ∧
      (a == a ↔ a.NaNFree) ∧
      (a == b ↔ Identical a.sorted b.sorted) ∧
      (a == b → a.isZero = b.isZero ∧ a.toJson.normalized = b.toJson.normalized) := by
  refine ⟨?_, ?_, equals_self_iff ha, equals_iff_identical ha hb, ?_⟩
  · rw [Bool.eq_iff_iff]
    refine (equals_iff_identical ha hb).trans (Iff.trans ?_ (equals_iff_identical hb ha).symm)
    exact ⟨Identical.symm, Identical.symm⟩
  · intro c hc hab hbc
    have hfirst := (equals_iff_identical ha hb).mp hab
    have hlast := (equals_iff_identical hb hc).mp hbc
    exact (equals_iff_identical ha hc).mpr (hfirst.trans hlast)
  · intro hab
    have hsame := (equals_iff_identical ha hb).mp hab
    refine ⟨?_, ?_⟩
    · rw [← isZero_sorted a, hsame.isZero_eq, isZero_sorted]
    · rw [← normalized_toJson_sorted a, hsame.normalized_toJson, normalized_toJson_sorted]

/-- Keys in another order on two levels, and zeros of both signs. Beside a not-a-number, nothing
helps. -/
theorem equality_lawful_reordered :
    let inner : List (String × Value) := [("p", number (.signed 1)), ("q", null)]
    let a := document [("x", number (.float .zero)), ("y", array [document inner])]
    let b := document
      [("y", array [document inner.reverse]), ("x", number (.float ⟨0x8000000000000000⟩))]
    let c := array [a, number (.float .notANumber)]
    (a.distinctKeys ∧ b.distinctKeys ∧ c.distinctKeys) ∧ a == b ∧ b == a ∧
      Identical a.sorted b.sorted ∧ a.toJson.normalized = b.toJson.normalized ∧ ¬ c == c := by
  intro inner a b c
  have ha : a.distinctKeys = true := by decide
  have hb : b.distinctKeys = true := by decide
  have hc : c.distinctKeys = true := by decide
  have hab : (a == b) = true := by decide
  obtain ⟨hsymm, -, -, hidentical, hagree⟩ := equality_lawful ha hb
  have hnan : ¬ c.NaNFree := fun h => absurd (h [1] .notANumber rfl) (by decide)
  refine ⟨⟨ha, hb, hc⟩, hab, hsymm ▸ hab, hidentical.mp hab, (hagree hab).2, ?_⟩
  exact mt (equality_lawful hc hc).2.2.1.mp hnan

end Value
end QueryFilter
