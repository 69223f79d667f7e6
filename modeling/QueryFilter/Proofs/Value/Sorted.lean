import Mathlib.Data.List.Forall2
import QueryFilter.Proofs.Entries.Sorting
import QueryFilter.Proofs.Value.Serialization

/-!
Values with the keys of their documents in order. Comparing two values looks the keys of one up in
the other, document by document; as long as no document has one key twice, that is the same as
sorting the keys of every document in both and comparing place by place, with floats compared as
floats. Identity of sorted values is symmetric and transitive, and the comparison with it.
-/

namespace QueryFilter

namespace Binary64

theorem equals_iff {x y : Binary64} :
    x.equals y = true ↔
      x.isNaN = false ∧ y.isNaN = false ∧ (x = y ∨ x.isZero = true ∧ y.isZero = true) := by
  simp [equals, and_assoc]

theorem equals_trans {x y z : Binary64} (h : x.equals y = true) (h' : y.equals z = true) :
    x.equals z = true := by
  obtain ⟨hx, _, hxy⟩ := equals_iff.mp h
  obtain ⟨_, hz, hyz⟩ := equals_iff.mp h'
  refine equals_iff.mpr ⟨hx, hz, ?_⟩
  rcases hxy with rfl | ⟨hx, hy⟩
  · exact hyz
  · rcases hyz with rfl | ⟨_, hz⟩
    · exact .inr ⟨hx, hy⟩
    · exact .inr ⟨hx, hz⟩

end Binary64

namespace Value

/-- What holds of arrays and documents if it holds of their parts, and of all values without parts,
holds of every value. -/
@[elab_as_elim]
theorem induct {motive : Value → Prop} (null : motive null) (bool : ∀ b, motive (bool b))
    (number : ∀ n, motive (number n)) (text : ∀ s, motive (text s))
    (instant : ∀ i, motive (instant i)) (identifier : ∀ id, motive (identifier id))
    (pattern : ∀ p, motive (pattern p))
    (array : ∀ items, (∀ v ∈ items, motive v) → motive (array items))
    (document : ∀ entries, (∀ entry ∈ entries, motive entry.2) → motive (document entries))
    (v : Value) : motive v := by
  refine Value.rec (motive_1 := motive) (motive_2 := fun items => ∀ v ∈ items, motive v)
    (motive_3 := fun entries => ∀ entry ∈ entries, motive entry.2)
    (motive_4 := fun entry => motive entry.2) null bool number text instant identifier pattern array
    document (List.forall_mem_nil _) ?_ (List.forall_mem_nil _) ?_ (fun _ _ h => h) v
  · intro item rest hitem hrest
    exact List.forall_mem_cons.mpr ⟨hitem, hrest⟩
  · intro entry rest hentry hrest
    exact List.forall_mem_cons.mpr ⟨hentry, hrest⟩

theorem distinctKeys_array {items : List Value} :
    (array items).distinctKeys = true ↔ ∀ v ∈ items, v.distinctKeys = true := by
  rw [distinctKeys]
  induction items with
  | nil => simp [distinctKeysItems]
  | cons item rest ih => rw [distinctKeysItems, Bool.and_eq_true, ih, List.forall_mem_cons]

theorem distinctKeys_document {entries : List (String × Value)} :
    (document entries).distinctKeys = true ↔
      (Entries.keys entries).Nodup ∧ ∀ entry ∈ entries, entry.2.distinctKeys = true := by
  rw [distinctKeys, Bool.and_eq_true, decide_eq_true_eq]
  apply and_congr_right
  intro _
  clear * -
  induction entries with
  | nil => simp [distinctKeysEntries]
  | cons entry rest ih => rw [distinctKeysEntries, Bool.and_eq_true, ih, List.forall_mem_cons]

mutual

/-- A value with the keys of every document in it in order. Arrays keep the order of their items. -/
def sorted : Value → Value
  | array items => array (sortedItems items)
  | document entries => document (Entries.sortKeys (sortedEntries entries))
  | v => v

def sortedItems : List Value → List Value
  | [] => []
  | item :: rest => sorted item :: sortedItems rest

def sortedEntries : List (String × Value) → List (String × Value)
  | [] => []
  | (key, value) :: rest => (key, sorted value) :: sortedEntries rest

end

theorem sorted_array (items : List Value) : (array items).sorted = array (items.map sorted) := by
  rw [sorted]
  congr 1
  induction items with
  | nil => rfl
  | cons item rest ih => rw [sortedItems, ih, List.map_cons]

theorem sorted_document (entries : List (String × Value)) :
    (document entries).sorted =
      document (Entries.sortKeys (entries.map (Prod.map id sorted))) := by
  rw [sorted]
  congr 2
  induction entries with
  | nil => rfl
  | cons entry rest ih => rw [sortedEntries, ih, List.map_cons, Prod.map_apply, id]

/-- The same values place by place: the same kinds, the same keys in the same places, and the same
in every part. Only floats need no more than to be equal as floats. -/
@[mk_iff]
inductive Identical : Value → Value → Prop
  | null : Identical null null
  | bool (b : Bool) : Identical (bool b) (bool b)
  | signed (n : Int64) : Identical (number (.signed n)) (number (.signed n))
  | unsigned (n : UInt64) : Identical (number (.unsigned n)) (number (.unsigned n))
  | float {x y : Binary64} :
      x.equals y = true → Identical (number (.float x)) (number (.float y))
  | text (s : String) : Identical (text s) (text s)
  | instant (i : Calendar.Instant) : Identical (instant i) (instant i)
  | identifier (id : Identifier) : Identical (identifier id) (identifier id)
  | pattern (p : Pattern) : Identical (pattern p) (pattern p)
  | array {xs ys : List Value} : List.Forall₂ Identical xs ys → Identical (array xs) (array ys)
  | document {xs ys : List (String × Value)} :
      Entries.keys xs = Entries.keys ys →
      List.Forall₂ Identical (Entries.values xs) (Entries.values ys) →
      Identical (document xs) (document ys)

theorem identical_number_iff {m n : Number} :
    Identical (number m) (number n) ↔ m.equals n = true := by
  constructor
  · intro h
    cases h with
    | signed n | unsigned n => exact beq_self_eq_true n
    | float h => exact h
  · intro h
    match m, n, h with
    | .signed m, .signed n, h => exact eq_of_beq h ▸ .signed m
    | .unsigned m, .unsigned n, h => exact eq_of_beq h ▸ .unsigned m
    | .float x, .float y, h => exact .float h

theorem identical_array_iff {xs ys : List Value} :
    Identical (array xs) (array ys) ↔ List.Forall₂ Identical xs ys := by
  constructor
  · rintro ⟨⟩
    assumption
  · exact .array

theorem identical_document_iff {xs ys : List (String × Value)} :
    Identical (document xs) (document ys) ↔
      Entries.keys xs = Entries.keys ys ∧
        List.Forall₂ Identical (Entries.values xs) (Entries.values ys) := by
  constructor
  · rintro ⟨⟩
    exact ⟨‹_›, ‹_›⟩
  · rintro ⟨hkeys, hvalues⟩
    exact .document hkeys hvalues

/-- What follows for the items of a list holds place by place. -/
theorem forall₂_of_mem {first second : Value → Value → Prop} {xs ys : List Value}
    (h : List.Forall₂ first xs ys) (himp : ∀ v ∈ xs, ∀ {w}, first v w → second v w) :
    List.Forall₂ second xs ys := by
  have hboth := (List.forall₂_and_left _ _).mpr ⟨himp, h⟩
  exact hboth.imp fun _ _ hplace => hplace.1 hplace.2

theorem Identical.symm {v w : Value} (h : Identical v w) : Identical w v := by
  induction v using induct generalizing w with
  | null | bool _ | text _ | instant _ | identifier _ | pattern _ =>
      cases h
      constructor
  | number n =>
      cases h with
      | signed n => exact .signed n
      | unsigned n => exact .unsigned n
      | @float x y h => exact .float (x.equals_comm y ▸ h)
  | array items ih =>
      cases h with
      | array h => exact .array (forall₂_of_mem h ih).flip
  | document entries ih =>
      cases h with
      | document hkeys h =>
          have hvalues : ∀ v ∈ Entries.values entries, ∀ {w}, Identical v w → Identical w v :=
            List.forall_mem_map.mpr ih
          exact .document hkeys.symm (forall₂_of_mem h hvalues).flip

theorem forall₂_trans {xs ys zs : List Value}
    (htrans : ∀ u ∈ xs, ∀ {v w}, Identical u v → Identical v w → Identical u w)
    (h : List.Forall₂ Identical xs ys) (h' : List.Forall₂ Identical ys zs) :
    List.Forall₂ Identical xs zs := by
  induction h generalizing zs with
  | nil => exact h'
  | cons hfirst _ ih =>
      cases h' with
      | cons hnext hrest =>
          obtain ⟨hhead, htail⟩ := List.forall_mem_cons.mp htrans
          exact .cons (hhead hfirst hnext) (ih htail hrest)

theorem Identical.trans {u v w : Value} (h : Identical u v) (h' : Identical v w) :
    Identical u w := by
  induction u using induct generalizing v w with
  | null | bool _ | text _ | instant _ | identifier _ | pattern _ =>
      cases h
      exact h'
  | number n =>
      cases h with
      | signed n | unsigned n => exact h'
      | float h =>
          cases h' with
          | float h' => exact .float (Binary64.equals_trans h h')
  | array items ih =>
      cases h with
      | array h =>
          cases h' with
          | array h' => exact .array (forall₂_trans ih h h')
  | document entries ih =>
      cases h with
      | document hkeys h =>
          cases h' with
          | document hkeys' h' =>
              have hvalues : ∀ u ∈ Entries.values entries, ∀ {v w}, Identical u v →
                  Identical v w → Identical u w := List.forall_mem_map.mpr ih
              exact .document (hkeys.trans hkeys') (forall₂_trans hvalues h h')

theorem equalItems_iff {xs ys : List Value} :
    equalItems xs ys = true ↔ List.Forall₂ (fun v w => v.equals w = true) xs ys := by
  induction xs generalizing ys with
  | nil => cases ys <;> simp [equalItems]
  | cons x xs ih =>
      cases ys with
      | nil => simp [equalItems]
      | cons y ys => rw [equalItems, Bool.and_eq_true, ih, List.forall₂_cons]

theorem heldBy_iff {entries : List (String × Value)} {other : Document} :
    heldBy entries other = true ↔
      ∀ key v, (key, v) ∈ entries → ∃ w, Entries.get? other key = some w ∧ v.equals w = true := by
  induction entries with
  | nil => simp [heldBy]
  | cons entry rest ih =>
      rw [heldBy, Bool.and_eq_true, ih]
      constructor
      · rintro ⟨hfirst, hrest⟩ key v hmem
        rcases List.mem_cons.mp hmem with rfl | hmem
        · cases hfound : Entries.get? other key with
          | none => simp [hfound] at hfirst
          | some w => exact ⟨w, rfl, by simpa [hfound] using hfirst⟩
        · exact hrest key v hmem
      · intro h
        refine ⟨?_, fun key v hmem => h key v (List.mem_cons_of_mem entry hmem)⟩
        obtain ⟨w, hfound, hequal⟩ := h entry.1 entry.2 List.mem_cons_self
        simpa [hfound] using hequal

/-- Values without a repeated key are equal exactly when they are the same place by place once the
keys of their documents are in order. -/
theorem equals_iff_identical {v w : Value} (hv : v.distinctKeys = true)
    (hw : w.distinctKeys = true) : v.equals w = true ↔ Identical v.sorted w.sorted := by
  induction v using induct generalizing w with
  | null | bool _ | text _ | instant _ | identifier _ | pattern _ =>
      cases w <;> simp [equals, sorted, identical_iff] <;> exact eq_comm
  | number n =>
      cases w with
      | number m => exact identical_number_iff.symm
      | _ => simp [equals, sorted, identical_iff]
  | array items ih =>
      cases w with
      | array others =>
          rw [distinctKeys_array] at hv hw
          rw [equals, equalItems_iff, sorted_array, sorted_array, identical_array_iff,
            List.forall₂_map_left_iff, List.forall₂_map_right_iff, List.forall₂_iff_zip,
            List.forall₂_iff_zip]
          apply and_congr_right
          intro _
          apply forall₂_congr
          intro item other
          apply forall_congr'
          intro hmem
          obtain ⟨hitem, hother⟩ := List.of_mem_zip hmem
          exact ih item hitem (hv item hitem) (hw other hother)
      | _ => simp [equals, sorted, identical_iff]
  | document entries ih =>
      cases w with
      | document others =>
          obtain ⟨hkeys, hparts⟩ := distinctKeys_document.mp hv
          obtain ⟨hkeys', hparts'⟩ := distinctKeys_document.mp hw
          rw [← Entries.keys_map sorted] at hkeys hkeys'
          rw [equals, Bool.and_eq_true, beq_iff_eq, heldBy_iff, sorted_document, sorted_document,
            identical_document_iff, Entries.sortKeys_related_iff hkeys hkeys', List.length_map,
            List.length_map, Entries.held_map_iff]
          apply and_congr_right
          intro _
          apply forall₂_congr
          intro key value
          apply forall_congr'
          intro hmem
          apply exists_congr
          intro other
          apply and_congr_right
          intro hfound
          exact ih (key, value) hmem (hparts _ hmem) (hparts' _ (Entries.mem_of_get? hfound))
      | _ => simp [equals, sorted, identical_iff]

end Value
end QueryFilter
