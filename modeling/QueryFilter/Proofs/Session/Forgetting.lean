import QueryFilter.Proofs.Session.Groups

/-!
Removing a key from every group erases it from history: the builder is the one that the same
session leaves when the key was removed before it and never written in it. The two runs do not
go in step. A group that held nothing but the key is closed in one of them and was never there
in the other, so the groups differ in number until the key is removed.
-/

namespace QueryFilter

/-- The key that a call writes, for a call that writes one key. -/
def Step.target? (config : Config) : Step → Option String
  | .text key _ | .number key _ | .any key _ | .date key _ _ | .condition key _
  | .raw key _ => some key
  | .identifier key _ => some (key.getD config.idKey)
  | _ => none

/-- What is left of a call when all that it writes under a key is left out. -/
def Step.without (config : Config) (key : String) : Step → Option Step
  | .record fields => some (.record (fields.filter fun field => field.key ≠ key))
  | step => if step.target? config = some key then none else some step

def Effect.without (key : String) : Effect → Effect
  | .edit edits => .edit (edits.filter fun e => !e.writesTo key)
  | effect => effect

private theorem produce_filter (fields : List Descriptor) (key : String) :
    produce (fields.filter fun field => field.key ≠ key) =
      (produce fields).filter fun entry => entry.1 ≠ key := by
  simp only [produce, List.filterMap_filter, List.filter_filterMap]
  congr 1
  funext field
  by_cases h : field.key = key
  · cases field.value.contribution? <;> simp [h, Option.filter]
  · cases field.value.contribution? <;> simp [h, Option.filter]

private theorem filter_sets (target key : String) (writes : List (Operator × Value)) :
    (writes.map fun w => Edit.set target w.1 w.2).filter (fun e => !e.writesTo key) =
      if target = key then [] else writes.map fun w => Edit.set target w.1 w.2 := by
  by_cases h : target = key
  · simp [List.filter_map, Function.comp_def, h]
  · rw [if_neg h, List.filter_eq_self]
    intro e he
    obtain ⟨w, _, rfl⟩ := List.mem_map.mp he
    simp [h]

private theorem without_of_writesOf {config : Config} {step : Step} {target : String}
    {result : Except InputFault (List (Operator × Value))}
    (h : (Builder.empty config).writesOf step = some (target, result)) (key : String) :
    step.without config key = if target = key then none else some step := by
  cases step <;> simp_all [Builder.writesOf, Step.without, Step.target?, Builder.empty]

theorem Step.effect_without (config : Config) (key : String) (step : Step) :
    ((step.without config key).map (Step.effect config)).getD (.edit []) =
      (step.effect config).without key := by
  cases hcall : (Builder.empty config).writesOf step with
  | some call =>
      obtain ⟨target, fault | writes⟩ := call
      · rw [without_of_writesOf hcall]
        split <;> simp [effect, hcall, Effect.without]
      · rw [without_of_writesOf hcall]
        simp only [effect, hcall, Effect.without, filter_sets]
        split <;> simp [effect, hcall]
  | none =>
      cases step with
      | raw target value =>
          by_cases h : target = key <;>
            simp [without, target?, effect, Builder.writesOf, Effect.without, h]
      | record fields =>
          simp only [without, effect, Builder.writesOf, Effect.without, produce_filter,
            List.filter_map, Option.map_some, Option.getD_some, Function.comp_def,
            Edit.writesTo_set]
          simp only [ne_eq, decide_not]
      | remove target => simp [without, target?, effect, Builder.writesOf, Effect.without]
      | close | removeAll _ | reset | build => rfl
      | _ => simp [Builder.writesOf] at hcall

namespace Builder

def groupsWithout (groups : List Document) (key : String) : List Document :=
  nonEmpty (groups.map fun group => Entries.erase group key)

theorem removeAll_eq (b : Builder) (key : String) :
    b.removeAll key =
      ⟨b.config, groupsWithout b.closed key, Entries.erase b.current key⟩ := rfl

theorem groupsWithout_append (first second : List Document) (key : String) :
    groupsWithout (first ++ second) key =
      groupsWithout first key ++ groupsWithout second key := by
  rw [groupsWithout, List.map_append, nonEmpty_append]
  rfl

/-- An empty group stays empty, so it may be left out before the key is removed or after. -/
theorem groupsWithout_nonEmpty (groups : List Document) (key : String) :
    groupsWithout (nonEmpty groups) key = groupsWithout groups key := by
  induction groups with
  | nil => rfl
  | cons group rest ih =>
      cases group with
      | nil => exact ih
      | cons entry more =>
          have hkeep : nonEmpty ((entry :: more) :: rest) = [entry :: more] ++ nonEmpty rest := rfl
          rw [hkeep, groupsWithout_append, ih, ← groupsWithout_append]
          rfl

theorem groupsWithout_comm (groups : List Document) (key other : String) :
    groupsWithout (groupsWithout groups key) other =
      groupsWithout (groupsWithout groups other) key := by
  have htwice : ∀ first second : String, groupsWithout (groupsWithout groups first) second =
      nonEmpty (groups.map fun group => Entries.erase (Entries.erase group first) second) := by
    intro first second
    rw [groupsWithout.eq_def groups, groupsWithout_nonEmpty, groupsWithout, List.map_map]
    rfl
  rw [htwice, htwice]
  simp only [Entries.erase_erase_comm _ key other]

/-- Closing a group and then removing a key from it is removing the key and then closing what is
left, if anything is. -/
theorem removeAll_close (b : Builder) (key : String) :
    b.close.removeAll key = (b.removeAll key).close := by
  have hgroups : (b.removeAll key).groups = groupsWithout b.groups key := by
    rw [groups_eq, groups_eq, groupsWithout_append, groupsWithout_nonEmpty]
    rfl
  rw [close_eq, close_eq, hgroups]
  rfl

theorem removeAll_perform (b : Builder) (effect : Effect) (key : String) :
    (b.perform effect).removeAll key = (b.removeAll key).perform (effect.without key) := by
  cases effect with
  | edit edits => simp only [perform, Effect.without, removeAll_eq, Edit.erase_applyAll]
  | close => exact b.removeAll_close key
  | removeAll other =>
      simp only [perform, Effect.without, removeAll_eq, groupsWithout_comm b.closed key other,
        Entries.erase_erase_comm b.current key other]
  | restart => rfl

theorem removeAll_run (b : Builder) (key : String) (steps : List Step) :
    (b.run steps).removeAll key =
      (b.removeAll key).run (steps.filterMap (Step.without b.config key)) := by
  induction steps generalizing b with
  | nil => rfl
  | cons step rest ih =>
      have hrest := ih (b.apply step)
      rw [config_apply, apply_eq_perform, removeAll_perform] at hrest
      have hleft := Step.effect_without b.config key step
      rw [run_cons, apply_eq_perform, hrest, ← hleft, List.filterMap_cons]
      cases step.without b.config key with
      | none => rfl
      | some left =>
          have hperform := (b.removeAll key).apply_eq_perform left
          rw [run_cons, hperform]
          rfl

/-- Removing a key from every group erases it from history: a session that ends so leaves the
builder that it leaves when it begins so and then never writes the key. -/
theorem run_removeAll_forgets (b : Builder) (key : String) (steps : List Step) :
    b.run (steps ++ [.removeAll key]) =
      b.run (.removeAll key :: steps.filterMap (Step.without b.config key)) := by
  rw [run_append]
  exact b.removeAll_run key steps

-- Before the removal the first run has a group that the second never had.
example :
    let steps := [.raw "k" .null, .close, .any "a" (.op .eq .null), .raw "k" .null]
    ((empty .standard).run steps).groupCount = 2 ∧
      ((empty .standard).run (steps.filterMap (Step.without .standard "k"))).groupCount = 1 := by
  decide

end Builder
end QueryFilter
