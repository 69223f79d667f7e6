import QueryFilter.Session
import QueryFilter.Proofs.Session.Edit

/-!
What a call does to a builder. A call edits the current group, closes it, removes a key from
every group or starts over, and nothing else: the settings stay, and which of these a call does
depends on the settings alone. The theorems on sessions rest on this account of a call.
-/

namespace QueryFilter

/-- What a call does to a builder. -/
inductive Effect where
  | edit (edits : List Edit)
  | close
  | removeAll (key : String)
  | restart

/-- The effect of a call under given settings. A call whose text is at fault edits nothing. -/
def Step.effect (config : Config) (step : Step) : Effect :=
  match (Builder.empty config).writesOf step with
  | some (key, .ok writes) => .edit (writes.map fun w => .set key w.1 w.2)
  | some (_, .error _) => .edit []
  | none =>
      match step with
      | .raw key value => .edit [.put key value]
      | .record fields =>
          .edit ((produce fields).map fun entry =>
            .set entry.1 (Builder.recordOperator entry.2) entry.2)
      | .close => .close
      | .remove key => .edit [.drop key]
      | .removeAll key => .removeAll key
      | .reset | .build => .restart
      | _ => .edit []

/-- The edits that an effect makes to the current group while that stays open. -/
def Effect.edits : Effect → List Edit
  | .edit edits => edits
  | .removeAll key => [.drop key]
  | .close | .restart => []

/-- Whether a call edits the current group and does nothing else. -/
def Step.isEdit : Step → Bool
  | .close | .removeAll _ | .reset | .build => false
  | _ => true

theorem Step.effect_of_isEdit {step : Step} (h : step.isEdit) (config : Config) :
    step.effect config = .edit (step.effect config).edits := by
  simp only [effect]
  cases hcall : (Builder.empty config).writesOf step with
  | some call => obtain ⟨key, fault | writes⟩ := call <;> rfl
  | none =>
      cases step with
      | close | removeAll _ | reset | build => cases h
      | _ => rfl

/-- Where an edit of a call comes from: an operator set by a test or through a condition, a field of
a record, a value put under a key, or a removal. -/
theorem Step.mem_edits_effect {config : Config} {step : Step} {e : Edit}
    (h : e ∈ (step.effect config).edits) :
    (∃ key writes op value, (Builder.empty config).writesOf step = some (key, .ok writes) ∧
        (op, value) ∈ writes ∧ e = .set key op value) ∨
      (∃ fields key value, step = .record fields ∧ (key, value) ∈ produce fields ∧
        e = .set key (Builder.recordOperator value) value) ∨
      (∃ key value, step = .raw key value ∧ e = .put key value) ∨
      ∃ key, (step = .remove key ∨ step = .removeAll key) ∧ e = .drop key := by
  simp only [effect] at h
  cases hcall : (Builder.empty config).writesOf step with
  | some call =>
      rw [hcall] at h
      obtain ⟨key, fault | writes⟩ := call
      · cases h
      · obtain ⟨⟨op, value⟩, hw, rfl⟩ := List.mem_map.mp h
        exact .inl ⟨key, writes, op, value, rfl, hw, rfl⟩
  | none =>
      rw [hcall] at h
      cases step with
      | record fields =>
          obtain ⟨⟨key, value⟩, hentry, rfl⟩ := List.mem_map.mp h
          exact .inr (.inl ⟨fields, key, value, rfl, hentry, rfl⟩)
      | raw key value => exact .inr (.inr (.inl ⟨key, value, rfl, List.mem_singleton.mp h⟩))
      | remove key =>
          exact .inr (.inr (.inr ⟨key, .inl rfl, List.mem_singleton.mp h⟩))
      | removeAll key =>
          exact .inr (.inr (.inr ⟨key, .inr rfl, List.mem_singleton.mp h⟩))
      | _ => cases h

namespace Builder

def perform (b : Builder) : Effect → Builder
  | .edit edits => { b with current := Edit.applyAll b.current edits }
  | .close => b.close
  | .removeAll key => b.removeAll key
  | .restart => b.reset

theorem fromRecord_eq_edits (b : Builder) (record : List Descriptor) :
    b.fromRecord record =
      { b with
        current := Edit.applyAll b.current ((produce record).map fun entry =>
          .set entry.1 (recordOperator entry.2) entry.2) } := by
  simp only [fromRecord]
  induction produce record generalizing b with
  | nil => rfl
  | cons entry rest ih =>
      simp only [List.foldl_cons]
      rw [ih, write_eq_edits]
      rfl

/-- The operators that a call sets depend on the settings alone. -/
theorem writesOf_eq (b : Builder) (step : Step) :
    b.writesOf step = (empty b.config).writesOf step := by
  cases step <;> rfl

theorem apply_eq_perform (b : Builder) (step : Step) :
    b.apply step = b.perform (step.effect b.config) := by
  simp only [apply, Step.effect, b.writesOf_eq step]
  cases hcall : (empty b.config).writesOf step with
  | some call =>
      obtain ⟨key, fault | writes⟩ := call
      · rfl
      · exact b.write_eq_edits key writes
  | none =>
      cases step with
      | record fields => exact b.fromRecord_eq_edits fields
      | _ => rfl

theorem apply_eq_of_isEdit (b : Builder) {step : Step} (h : step.isEdit) :
    b.apply step =
      { b with current := Edit.applyAll b.current (step.effect b.config).edits } := by
  rw [apply_eq_perform, Step.effect_of_isEdit h]
  rfl

@[simp] theorem config_perform (b : Builder) (effect : Effect) :
    (b.perform effect).config = b.config := by
  cases effect with
  | close =>
      simp only [perform, close]
      split <;> rfl
  | _ => rfl

@[simp] theorem config_apply (b : Builder) (step : Step) : (b.apply step).config = b.config := by
  rw [apply_eq_perform, config_perform]

@[simp] theorem run_nil (b : Builder) : b.run [] = b := rfl

@[simp] theorem run_cons (b : Builder) (step : Step) (rest : List Step) :
    b.run (step :: rest) = (b.apply step).run rest := rfl

theorem run_append (b : Builder) (first second : List Step) :
    b.run (first ++ second) = (b.run first).run second := List.foldl_append

@[simp] theorem config_run (b : Builder) (steps : List Step) : (b.run steps).config = b.config := by
  induction steps generalizing b with
  | nil => rfl
  | cons step rest ih => rw [run_cons, ih, config_apply]

end Builder
end QueryFilter
