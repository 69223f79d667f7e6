import QueryFilter.Proofs.Record.Keys

/-!
Which declarations have a schema. The fields of a record are checked in the order in which they
are declared, each against those before it. A record has a schema if none of them offends, and
then it is the list of the described fields; otherwise the fault is that of the first field that
does. Fields that are left out take no part.
-/

namespace QueryFilter
namespace Record

section Schemas

variable {fields : List FieldDeclaration} {field : FieldDeclaration} {options : FieldOptions}

theorem addField_of_skip (schema : Schema)
    (h : FieldOptions.ofAttributes field.attributes = .ok options)
    (hskip : options.skip = true) : schema.addField field = .ok schema := by
  simp only [Schema.addField, h, hskip, if_true]

theorem addField_of_key? (schema : Schema) {key : String} (h : field.key? = some key) :
    schema.addField field = schema.addEntry key field.name := by
  simp only [FieldDeclaration.key?] at h
  split at h
  · next options hread =>
    split at h
    · cases h
    · next hskip =>
      cases h
      simp only [Schema.addField, hread, if_neg hskip]
  · cases h

theorem any_key_described (fields : List FieldDeclaration) (key : String) :
    ((described fields).any fun entry => entry.key = key) = decide (key ∈ keysOf fields) := by
  rw [Bool.eq_iff_iff, List.any_eq_true, decide_eq_true_iff, ← keys_described, List.mem_map]
  simp only [decide_eq_true_iff]

theorem find?_constant_eq_none {constant : String}
    (h : constant ∉ (keysOf fields).map constantOf) :
    (described fields).find? (fun entry => entry.constant = constant) = none := by
  rw [List.find?_eq_none]
  intro entry hentry hsame
  rw [decide_eq_true_iff, constant_of_mem_described hentry] at hsame
  rw [← keys_described, List.map_map] at h
  exact h (hsame ▸ List.mem_map_of_mem hentry)

theorem addField_ok (hsound : ∀ fault, ¬ Offends fields field fault) :
    (described fields).addField field = .ok (described (fields ++ [field])) := by
  rw [described_snoc]
  cases hkey : field.key? with
  | none =>
      cases hread : FieldOptions.ofAttributes field.attributes with
      | error fault => exact absurd (.badAttribute hread) (hsound _)
      | ok options =>
          cases hskip : options.skip with
          | false => simp [FieldDeclaration.key?, hread, hskip] at hkey
          | true => simp [addField_of_skip _ hread hskip, FieldDeclaration.entry?, hkey]
  | some key =>
      have hnew : key ∉ keysOf fields := fun hmem => hsound _ (.repeatedKey hkey hmem)
      have hfree : constantOf key ∉ (keysOf fields).map constantOf := by
        intro hmem
        obtain ⟨other, hother, hsame⟩ := List.mem_map.mp hmem
        exact hsound _ (.sharedConstant hkey hnew hother hsame)
      have hconstant : isConstant (constantOf key) = true := by
        by_contra hbad
        exact hsound _ (.badConstant hkey hfree ((Bool.not_eq_true _).mp hbad))
      rw [addField_of_key? _ hkey, Schema.addEntry, any_key_described, decide_eq_false hnew]
      simp [find?_constant_eq_none hfree, hconstant, FieldDeclaration.entry?, hkey]

theorem addField_error (h : WellKeyed fields) {fault : DeclarationFault}
    (hoffends : Offends fields field fault) : (described fields).addField field = .error fault := by
  cases hoffends with
  | badAttribute hread => simp only [Schema.addField, hread]
  | repeatedKey hkey hmem =>
      rw [addField_of_key? _ hkey, Schema.addEntry, any_key_described, decide_eq_true hmem]
      rfl
  | @sharedConstant key other hkey hnew hmem hsame =>
      rw [addField_of_key? _ hkey, Schema.addEntry, any_key_described, decide_eq_false hnew]
      cases hfind : (described fields).find? fun entry => entry.constant = constantOf key with
      | none =>
          rw [← keys_described] at hmem
          obtain ⟨entry, hentry, rfl⟩ := List.mem_map.mp hmem
          have hapart := List.find?_eq_none.mp hfind entry hentry
          rw [decide_eq_true_iff, constant_of_mem_described hentry] at hapart
          exact absurd hsame hapart
      | some found =>
          -- The constants so far are distinct, so the field found is the one in question.
          have hentry := List.mem_of_find?_eq_some hfind
          have hconstant := List.find?_some hfind
          rw [decide_eq_true_iff, constant_of_mem_described hentry] at hconstant
          have hfound : found.key ∈ keysOf fields :=
            keys_described fields ▸ List.mem_map_of_mem hentry
          have hkeys := List.inj_on_of_nodup_map h.constants hfound hmem
            (hconstant.trans hsame.symm)
          simp [hfind, hkeys]
  | @badConstant key hkey hfree hbad =>
      have hnew : key ∉ keysOf fields := fun hmem => hfree (List.mem_map_of_mem hmem)
      rw [addField_of_key? _ hkey, Schema.addEntry, any_key_described, decide_eq_false hnew]
      simp [find?_constant_eq_none hfree, hbad]

theorem foldlM_addField (h : WellKeyed fields) :
    fields.foldlM Schema.addField [] = .ok (described fields) := by
  induction fields using List.reverseRecOn with
  | nil => rfl
  | append_singleton fields field ih =>
      obtain ⟨hfields, hsound⟩ := wellKeyed_snoc.mp h
      rw [List.foldlM_append, ih hfields]
      simp only [bind, Except.bind, List.foldlM_cons, addField_ok hsound, List.foldlM_nil]
      rfl

theorem foldlM_addField_of_firstOffence {fault : DeclarationFault} (h : FirstOffence fields fault) :
    fields.foldlM Schema.addField [] = .error fault := by
  obtain ⟨before, field, after, rfl, hsound, hoffends⟩ := h
  have hbefore := wellKeyed_iff.mpr hsound
  rw [List.foldlM_append, foldlM_addField hbefore]
  simp only [bind, Except.bind, List.foldlM_cons, addField_error hbefore hoffends]

theorem wellKeyed_or_firstOffence (fields : List FieldDeclaration) :
    WellKeyed fields ∨ ∃ fault, FirstOffence fields fault := by
  induction fields using List.reverseRecOn with
  | nil => exact .inl wellKeyed_nil
  | append_singleton fields field ih =>
      rcases ih with h | ⟨fault, before, offender, after, rfl, hsound, hoffends⟩
      · by_cases hlast : ∃ fault, Offends fields field fault
        · obtain ⟨fault, hoffends⟩ := hlast
          exact .inr ⟨fault, fields, field, [], rfl, wellKeyed_iff.mp h, hoffends⟩
        · exact .inl (wellKeyed_snoc.mpr ⟨h, not_exists.mp hlast⟩)
      · exact .inr ⟨fault, before, offender, after ++ [field], by simp, hsound, hoffends⟩

end Schemas

namespace Declaration

theorem schema_eq_ok_iff (d : Declaration) (schema : Schema) :
    d.schema = .ok schema ↔
      d.shape = .named ∧ WellKeyed d.fields ∧ schema = described d.fields := by
  obtain ⟨shape, fields⟩ := d
  cases shape with
  | named =>
      rcases wellKeyed_or_firstOffence fields with hkeyed | ⟨fault, hfirst⟩
      · simp [Declaration.schema, foldlM_addField hkeyed, hkeyed, eq_comm]
      · have hnot : ¬ WellKeyed fields := by
          intro hkeyed
          obtain ⟨before, field, after, hfields, _, hoffends⟩ := hfirst
          exact wellKeyed_iff.mp hkeyed before field after hfields fault hoffends
        simp [Declaration.schema, foldlM_addField_of_firstOffence hfirst, hnot]
  | tuple | unit | enumeration | union => simp [Declaration.schema]

theorem schema_eq_error_iff {d : Declaration} (h : d.shape = .named) (fault : DeclarationFault) :
    d.schema = .error fault ↔ FirstOffence d.fields fault := by
  obtain ⟨shape, fields⟩ := d
  cases h
  constructor
  · intro herror
    rcases wellKeyed_or_firstOffence fields with hkeyed | ⟨first, hfirst⟩
    · have hschema := (schema_eq_ok_iff ⟨.named, fields⟩ _).mpr ⟨rfl, hkeyed, rfl⟩
      rw [hschema] at herror
      cases herror
    · have hsame := foldlM_addField_of_firstOffence hfirst
      rw [Declaration.schema, hsame] at herror
      cases herror
      exact hfirst
  · intro hfirst
    exact foldlM_addField_of_firstOffence hfirst

end Declaration

/-- Where every key has a constant that can be declared, the types with a schema are the records
with named fields whose attributes are in order and whose keys and constants are distinct. The
schema has one entry for each field that is not left out, in the order of the declaration, with the
key, its constant and that field; further fields that are left out change nothing. Any other
record with named fields has the fault of the first field that offends. -/
theorem declaration_schema_iff (d : Declaration)
    (hlegal : ∀ field ∈ d.fields, ∀ key, field.key? = some key →
      isConstant (constantOf key) = true) :
    (∀ schema, d.schema = .ok schema ↔
      d.shape = .named ∧
        (∀ field ∈ d.fields, ∃ options, FieldOptions.ofAttributes field.attributes = .ok options) ∧
        (keysOf d.fields).Nodup ∧ ((keysOf d.fields).map constantOf).Nodup ∧
        schema = d.fields.filterMap fun field =>
          field.key?.map fun key => ⟨key, constantOf key, field.name⟩) ∧
      (∀ schema value, d.schema = .ok schema →
        Schema.describe schema value = d.fields.filterMap fun field =>
          field.key?.map fun key => ⟨key, value field.name⟩) ∧
      (∀ before after skipped options, d.fields = before ++ after →
        FieldOptions.ofAttributes skipped.attributes = .ok options → options.skip = true →
        Declaration.schema ⟨d.shape, before ++ skipped :: after⟩ = d.schema) ∧
      ∀ fault, d.shape = .named → (d.schema = .error fault ↔ FirstOffence d.fields fault) := by
  have hdeclarable : ∀ key ∈ keysOf d.fields, isConstant (constantOf key) = true := by
    intro key hmem
    obtain ⟨field, hfield, hkey⟩ := List.mem_filterMap.mp hmem
    exact hlegal field hfield key hkey
  refine ⟨?_, ?_, ?_, ?_⟩
  · intro schema
    rw [d.schema_eq_ok_iff]
    constructor
    · rintro ⟨hshape, hkeyed, hschema⟩
      exact ⟨hshape, hkeyed.readable, hkeyed.keys, hkeyed.constants, hschema⟩
    · rintro ⟨hshape, hreadable, hkeys, hconstants, hschema⟩
      exact ⟨hshape, ⟨hreadable, hkeys, hconstants, hdeclarable⟩, hschema⟩
  · intro schema value h
    obtain ⟨_, _, rfl⟩ := (d.schema_eq_ok_iff schema).mp h
    rw [Schema.describe, described, List.map_filterMap]
    congr 1
    funext field
    simp [FieldDeclaration.entry?, Option.map_map, Function.comp_def]
  · intro before after skipped options hfields hread hskip
    have hdrop := fun schema => addField_of_skip schema hread hskip
    obtain ⟨shape, fields⟩ := d
    change fields = before ++ after at hfields
    subst hfields
    cases shape with
    | named =>
        simp only [Declaration.schema, List.foldlM_append, List.foldlM_cons, hdrop, bind,
          Except.bind]
    | tuple | unit | enumeration | union => rfl
  · intro fault hshape
    exact Declaration.schema_eq_error_iff hshape fault

/-- A name that is a keyword, a field that is left out, and one with a key of its own. -/
theorem declaration_schema_iff_skipped :
    let fields : List FieldDeclaration :=
      [⟨"r#type", []⟩, ⟨"page", [⟨"serde", .none⟩, ⟨"filter", .list [.path "skip"] false⟩]⟩,
        ⟨"cap_name", [⟨"filter", .list [.assigned "rename" (.text "capName")] true⟩]⟩]
    (∀ field ∈ fields, ∀ key, field.key? = some key → isConstant (constantOf key) = true) ∧
      Declaration.schema ⟨.named, fields⟩ =
        .ok [⟨"type", "TYPE", "r#type"⟩, ⟨"capName", "CAP_NAME", "cap_name"⟩] := by
  intro fields
  have hlegal : ∀ field ∈ fields, ∀ key ∈ field.key?, isConstant (constantOf key) = true := by
    decide
  refine ⟨hlegal, ?_⟩
  apply ((declaration_schema_iff ⟨.named, fields⟩ hlegal).1 _).mpr
  refine ⟨rfl, ?_, by decide, by decide, by decide⟩
  intro field hmem
  cases hread : FieldOptions.ofAttributes field.attributes with
  | ok options => exact ⟨options, rfl⟩
  | error fault =>
      have hreads : ∀ field ∈ fields,
          (FieldOptions.ofAttributes field.attributes).isOk = true := by
        decide
      have hok := hreads field hmem
      rw [hread] at hok
      cases hok

end Record
end QueryFilter
