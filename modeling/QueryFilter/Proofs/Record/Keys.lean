import Mathlib.Data.List.Induction
import Mathlib.Data.List.Nodup
import QueryFilter.Record.Schema

/-!
Keys of declared fields. A field offends against those declared before it when its attributes are
at fault, when its key or the constant of its key is taken, or when that constant cannot be
declared. The fields of which none offends are those with readable attributes, distinct keys and
distinct constants that can be declared.
-/

namespace QueryFilter
namespace Record

/-- The key that a field is described under, unless it is left out or its attributes are at
fault. -/
def FieldDeclaration.key? (field : FieldDeclaration) : Option String :=
  match FieldOptions.ofAttributes field.attributes with
  | .ok options => if options.skip then none else some (field.key options)
  | .error _ => none

def FieldDeclaration.entry? (field : FieldDeclaration) : Option SchemaEntry :=
  field.key?.map fun key => ⟨key, constantOf key, field.name⟩

def keysOf (fields : List FieldDeclaration) : List String :=
  fields.filterMap FieldDeclaration.key?

def described (fields : List FieldDeclaration) : Schema :=
  fields.filterMap FieldDeclaration.entry?

/-- What is wrong with a field that is declared after others. A field whose attributes are at fault
has no key, one whose key is taken is not asked for its constant, and only a new constant is asked
whether it can be declared. -/
inductive Offends (earlier : List FieldDeclaration) (field : FieldDeclaration) :
    DeclarationFault → Prop
  | badAttribute {fault : AttributeFault} :
      FieldOptions.ofAttributes field.attributes = .error fault →
      Offends earlier field (.badAttribute fault)
  | repeatedKey {key : String} :
      field.key? = some key → key ∈ keysOf earlier → Offends earlier field (.repeatedKey key)
  | sharedConstant {key other : String} :
      field.key? = some key → key ∉ keysOf earlier → other ∈ keysOf earlier →
      constantOf other = constantOf key →
      Offends earlier field (.sharedConstant key other (constantOf key))
  | badConstant {key : String} :
      field.key? = some key → constantOf key ∉ (keysOf earlier).map constantOf →
      isConstant (constantOf key) = false → Offends earlier field (.badConstant (constantOf key))

/-- The fault of the first field that offends against those before it. -/
def FirstOffence (fields : List FieldDeclaration) (fault : DeclarationFault) : Prop :=
  ∃ before field after, fields = before ++ field :: after ∧
    (∀ first earlier rest, before = first ++ earlier :: rest → ∀ f, ¬ Offends first earlier f) ∧
    Offends before field fault

structure WellKeyed (fields : List FieldDeclaration) : Prop where
  readable : ∀ field ∈ fields, ∃ options, FieldOptions.ofAttributes field.attributes = .ok options
  keys : (keysOf fields).Nodup
  constants : ((keysOf fields).map constantOf).Nodup
  declarable : ∀ key ∈ keysOf fields, isConstant (constantOf key) = true

section Fields

theorem keysOf_snoc (fields : List FieldDeclaration) (field : FieldDeclaration) :
    keysOf (fields ++ [field]) = keysOf fields ++ field.key?.toList := by
  rw [keysOf, List.filterMap_append, keysOf]
  cases h : field.key? <;> simp [h]

theorem described_snoc (fields : List FieldDeclaration) (field : FieldDeclaration) :
    described (fields ++ [field]) = described fields ++ field.entry?.toList := by
  rw [described, List.filterMap_append, described]
  cases h : field.entry? <;> simp [h]

theorem keys_described (fields : List FieldDeclaration) :
    (described fields).map SchemaEntry.key = keysOf fields := by
  rw [described, List.map_filterMap, keysOf]
  congr 1
  funext field
  simp [FieldDeclaration.entry?, Option.map_map, Function.comp_def]

theorem constant_of_mem_described {fields : List FieldDeclaration} {entry : SchemaEntry}
    (h : entry ∈ described fields) : entry.constant = constantOf entry.key := by
  obtain ⟨field, _, hentry⟩ := List.mem_filterMap.mp h
  obtain ⟨key, _, rfl⟩ := Option.map_eq_some_iff.mp hentry
  rfl

end Fields

section Keys

variable {fields : List FieldDeclaration} {field : FieldDeclaration}

theorem wellKeyed_nil : WellKeyed [] where
  readable := by
    intro field hmem
    cases hmem
  keys := List.nodup_nil
  constants := List.nodup_nil
  declarable := by
    intro key hmem
    cases hmem

theorem nodup_append_toList {α : Type} {xs : List α} {last : Option α} :
    (xs ++ last.toList).Nodup ↔ xs.Nodup ∧ ∀ x, last = some x → x ∉ xs := by
  cases last with
  | none => simp
  | some x =>
      rw [List.nodup_append_comm]
      simp [List.nodup_cons, and_comm]

theorem nodup_keysOf_snoc :
    (keysOf (fields ++ [field])).Nodup ↔
      (keysOf fields).Nodup ∧ ∀ key, field.key? = some key → key ∉ keysOf fields := by
  rw [keysOf_snoc]
  exact nodup_append_toList

theorem nodup_constants_snoc :
    ((keysOf (fields ++ [field])).map constantOf).Nodup ↔
      ((keysOf fields).map constantOf).Nodup ∧
        ∀ key, field.key? = some key → constantOf key ∉ (keysOf fields).map constantOf := by
  rw [keysOf_snoc, List.map_append, ← Option.toList_map, nodup_append_toList]
  simp

/-- The keys and constants stay distinct exactly when the next field does not offend. -/
theorem wellKeyed_snoc :
    WellKeyed (fields ++ [field]) ↔ WellKeyed fields ∧ ∀ fault, ¬ Offends fields field fault := by
  constructor
  · intro h
    obtain ⟨hkeys, hkeyNew⟩ := nodup_keysOf_snoc.mp h.keys
    obtain ⟨hconstants, hconstantNew⟩ := nodup_constants_snoc.mp h.constants
    have hdeclarable := h.declarable
    simp only [keysOf_snoc, List.mem_append] at hdeclarable
    refine ⟨⟨?_, hkeys, hconstants, fun key hmem => hdeclarable key (.inl hmem)⟩, ?_⟩
    · intro earlier hmem
      exact h.readable earlier (List.mem_append_left _ hmem)
    · intro fault hoffends
      cases hoffends with
      | badAttribute hfault =>
          obtain ⟨options, hok⟩ := h.readable field (List.mem_append_right _ List.mem_cons_self)
          rw [hok] at hfault
          cases hfault
      | repeatedKey hkey hmem => exact hkeyNew _ hkey hmem
      | sharedConstant hkey _ hother hsame =>
          exact hconstantNew _ hkey (List.mem_map.mpr ⟨_, hother, hsame⟩)
      | badConstant hkey _ hbad =>
          have hgood := hdeclarable _ (.inr (Option.mem_toList.mpr hkey))
          rw [hbad] at hgood
          cases hgood
  · rintro ⟨h, hsound⟩
    have hconstantNew : ∀ key, field.key? = some key →
        constantOf key ∉ (keysOf fields).map constantOf := by
      intro key hkey hmem
      obtain ⟨other, hother, hsame⟩ := List.mem_map.mp hmem
      by_cases htaken : key ∈ keysOf fields
      · exact hsound _ (.repeatedKey hkey htaken)
      · exact hsound _ (.sharedConstant hkey htaken hother hsame)
    refine ⟨?_, nodup_keysOf_snoc.mpr ⟨h.keys, ?_⟩,
      nodup_constants_snoc.mpr ⟨h.constants, hconstantNew⟩, ?_⟩
    · intro earlier hmem
      rcases List.mem_append.mp hmem with hmem | hmem
      · exact h.readable earlier hmem
      · rw [List.mem_singleton.mp hmem]
        cases hread : FieldOptions.ofAttributes field.attributes with
        | ok options => exact ⟨options, rfl⟩
        | error fault => exact absurd (.badAttribute hread) (hsound _)
    · intro key hkey hmem
      exact hsound _ (.repeatedKey hkey hmem)
    · intro key hmem
      rw [keysOf_snoc] at hmem
      rcases List.mem_append.mp hmem with hmem | hmem
      · exact h.declarable key hmem
      · have hkey := Option.mem_toList.mp hmem
        by_contra hbad
        exact hsound _ (.badConstant hkey (hconstantNew key hkey) ((Bool.not_eq_true _).mp hbad))

theorem WellKeyed.of_append {fields more : List FieldDeclaration}
    (h : WellKeyed (fields ++ more)) : WellKeyed fields := by
  induction more using List.reverseRecOn with
  | nil => simpa using h
  | append_singleton more field ih =>
      rw [← List.append_assoc] at h
      exact ih (wellKeyed_snoc.mp h).1

theorem wellKeyed_iff :
    WellKeyed fields ↔ ∀ before field after, fields = before ++ field :: after →
      ∀ fault, ¬ Offends before field fault := by
  constructor
  · rintro h before field after rfl
    rw [← List.singleton_append, ← List.append_assoc] at h
    exact (wellKeyed_snoc.mp h.of_append).2
  · intro h
    induction fields using List.reverseRecOn with
    | nil => exact wellKeyed_nil
    | append_singleton fields field ih =>
        refine wellKeyed_snoc.mpr ⟨ih ?_, h fields field [] rfl⟩
        rintro before earlier after rfl
        exact h before earlier (after ++ [field]) (by simp)

end Keys

end Record
end QueryFilter
