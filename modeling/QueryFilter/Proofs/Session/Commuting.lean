import QueryFilter.Proofs.Session.LastWrite

/-!
Writes to different operators commute. What calls leave that only set operators depends on the
values set under each operator of each key, in order, and not on how the calls on different
operators follow one another. The order in which keys and operators stand may differ, and nothing
else: this holds over whatever the group held before, and so for two callers whose calls meet in
any order.
-/

namespace QueryFilter

/-- Whether a call sets operators and does nothing else. -/
def Step.setsOperators : Step → Bool
  | .text _ _ | .number _ _ | .any _ _ | .date _ _ _ | .identifier _ _ | .condition _ _
  | .record _ => true
  | _ => false

namespace Edit

def isSet : Edit → Bool
  | set _ _ _ => true
  | _ => false

def valueUnder? (key : String) (op : Operator) : Edit → Option Value
  | set target o value => if target = key ∧ o = op then some value else none
  | _ => none

/-- The operator that an edit sets on a key, with its value. -/
def settingOn? (key : String) : Edit → Option (String × Value)
  | set target op value => if target = key then some (op.tag, value) else none
  | _ => none

/-- An entry with operators set on it one after the other. -/
def withSettings (entry : Option Value) : List (String × Value) → Option Value
  | [] => entry
  | written => some (.document (Entries.insertAll (documentOf entry) written))

theorem get?_applyAll_of_isSet (group : Document) {edits : List Edit}
    (h : ∀ e ∈ edits, e.isSet) (key : String) :
    (applyAll group edits).get? key =
      withSettings (group.get? key) (edits.filterMap (settingOn? key)) := by
  induction edits generalizing group with
  | nil => rfl
  | cons e rest ih =>
      have hrest := ih (e.apply group) fun later hlater => h later (List.mem_cons_of_mem e hlater)
      rw [applyAll_cons, hrest, List.filterMap_cons]
      cases e with
      | set target op value =>
          by_cases htarget : target = key
          · subst htarget
            simp only [settingOn?, if_true, apply, Entries.get?_insert_self]
            cases rest.filterMap (settingOn? target) <;> rfl
          · simp only [settingOn?, if_neg htarget, apply, Entries.get?_insert_of_ne _ _ htarget]
      | put _ _ | drop _ => cases h _ List.mem_cons_self

theorem count_keys_applyAll_of_isSet (group : Document) {edits : List Edit}
    (h : ∀ e ∈ edits, e.isSet) (key : String) :
    (Entries.keys (applyAll group edits)).count key =
      max ((Entries.keys group).count key)
        (if edits.filterMap (settingOn? key) = [] then 0 else 1) := by
  induction edits generalizing group with
  | nil => exact (Nat.max_zero _).symm
  | cons e rest ih =>
      have hrest := ih (e.apply group) fun later hlater => h later (List.mem_cons_of_mem e hlater)
      rw [applyAll_cons, hrest, List.filterMap_cons]
      cases e with
      | set target op value =>
          simp only [apply, Entries.count_keys_insert, Nat.max_assoc, settingOn?]
          by_cases htarget : target = key
          · simp only [htarget, if_true]
            split <;> simp
          · simp [htarget]
      | put _ _ | drop _ => cases h _ List.mem_cons_self

theorem lastValue_settingOn (edits : List Edit) (key : String) (op : Operator) :
    Entries.lastValue (edits.filterMap (settingOn? key)) op.tag =
      (edits.filterMap (valueUnder? key op)).getLast? := by
  induction edits with
  | nil => rfl
  | cons e rest ih =>
      rw [List.filterMap_cons, List.filterMap_cons]
      cases e with
      | set target o value =>
          by_cases htarget : target = key
          · by_cases hop : o = op
            · simp only [settingOn?, valueUnder?, htarget, hop, if_true, true_and,
                Entries.lastValue_cons, ih, List.getLast?_cons]
              cases (rest.filterMap (valueUnder? key op)).getLast? <;> rfl
            · have htag : o.tag ≠ op.tag := fun h => hop (Operator.tag_injective h)
              simp [settingOn?, valueUnder?, htarget, hop, Entries.lastValue_cons, htag, ih]
          · simp [settingOn?, valueUnder?, htarget, ih]
      | put _ _ | drop _ => exact ih

theorem lastValue_settingOn_eq_none (edits : List Edit) (key : String) {tag : String}
    (h : ∀ op : Operator, op.tag ≠ tag) :
    Entries.lastValue (edits.filterMap (settingOn? key)) tag = none := by
  rw [← Option.not_isSome_iff_eq_none, Entries.lastValue_isSome_iff, List.mem_map]
  rintro ⟨_, hmem, rfl⟩
  obtain ⟨e, _, hset⟩ := List.mem_filterMap.mp hmem
  cases e with
  | set target op value =>
      simp only [settingOn?, Option.ite_none_right_eq_some, Option.some.injEq] at hset
      obtain ⟨_, rfl⟩ := hset
      exact h op rfl
  | put _ _ | drop _ => cases hset

end Edit

/-- The same entry of two groups, but for the order of the operators on it. -/
def SameOperators (first second : Option Value) : Prop :=
  first = second ∨ ∃ entries others, first = some (.document entries) ∧
    second = some (.document others) ∧ Entries.Rearranged entries others

namespace Edit

theorem sameOperators_withSettings (entry : Option Value) {written others : List (String × Value)}
    (h : ∀ tag, Entries.lastValue written tag = Entries.lastValue others tag) :
    SameOperators (withSettings entry written) (withSettings entry others) := by
  have hnil := Entries.eq_nil_iff_of_lastValue h
  cases written with
  | nil =>
      cases hnil.mp rfl
      exact .inl rfl
  | cons first more =>
      cases others with
      | nil => cases hnil.mpr rfl
      | cons first' more' =>
          exact .inr ⟨_, _, rfl, rfl, Entries.rearranged_insertAll (documentOf entry) h⟩

end Edit

namespace Builder

/-- The values that calls set under an operator of a key, in order. -/
def valuesSet (config : Config) (calls : List Step) (key : String) (op : Operator) : List Value :=
  (history config calls).filterMap (Edit.valueUnder? key op)

/-- The same builder, but for the order of the keys of the current group and of the operators on
each of them. -/
structure Reordered (b other : Builder) : Prop where
  config : b.config = other.config
  closed : b.closed = other.closed
  keys : (Entries.keys b.current).Perm (Entries.keys other.current)
  entries : ∀ key, SameOperators (b.current.get? key) (other.current.get? key)

/-- The calls of two callers in one order, those of each caller in its own. -/
inductive Interleaved : List Step → List Step → List Step → Prop
  | nil : Interleaved [] [] []
  | left {one other whole} (step : Step) (h : Interleaved one other whole) :
      Interleaved (step :: one) other (step :: whole)
  | right {one other whole} (step : Step) (h : Interleaved one other whole) :
      Interleaved one (step :: other) (step :: whole)

variable (b : Builder) {config : Config} {one other whole first second : List Step}

theorem isEdit_of_setsOperators {step : Step} (h : step.setsOperators) : step.isEdit := by
  cases step with
  | close | removeAll _ | reset | build => cases h
  | _ => rfl

theorem isSet_of_mem_history (h : ∀ step ∈ first, step.setsOperators) :
    ∀ e ∈ history config first, e.isSet := by
  intro e hmem
  obtain ⟨step, hstep, he⟩ := List.mem_flatMap.mp hmem
  have hsets := h step hstep
  rcases Step.mem_edits_effect he with ⟨_, _, _, _, _, _, rfl⟩ | ⟨_, _, _, _, _, rfl⟩ |
    ⟨_, _, rfl, _⟩ | ⟨_, rfl | rfl, _⟩
  · rfl
  · rfl
  · cases hsets
  · cases hsets
  · cases hsets

theorem reordered_run (hfirst : ∀ step ∈ first, step.setsOperators)
    (hsecond : ∀ step ∈ second, step.setsOperators)
    (h : ∀ key op, valuesSet b.config first key op = valuesSet b.config second key op) :
    (b.run first).Reordered (b.run second) := by
  have hlast : ∀ key tag,
      Entries.lastValue ((history b.config first).filterMap (Edit.settingOn? key)) tag =
        Entries.lastValue ((history b.config second).filterMap (Edit.settingOn? key)) tag := by
    intro key tag
    by_cases htag : ∃ op : Operator, op.tag = tag
    · obtain ⟨op, rfl⟩ := htag
      rw [Edit.lastValue_settingOn, Edit.lastValue_settingOn]
      exact congrArg List.getLast? (h key op)
    · have hnone : ∀ op : Operator, op.tag ≠ tag := fun op hop => htag ⟨op, hop⟩
      rw [Edit.lastValue_settingOn_eq_none _ key hnone,
        Edit.lastValue_settingOn_eq_none _ key hnone]
  have hsets : ∀ e ∈ history b.config first, e.isSet := isSet_of_mem_history hfirst
  have hsets' : ∀ e ∈ history b.config second, e.isSet := isSet_of_mem_history hsecond
  rw [run_of_isEdit b fun step hstep => isEdit_of_setsOperators (hfirst step hstep),
    run_of_isEdit b fun step hstep => isEdit_of_setsOperators (hsecond step hstep)]
  refine ⟨rfl, rfl, ?_, ?_⟩
  · rw [List.perm_iff_count]
    intro key
    simp only [Edit.count_keys_applyAll_of_isSet _ hsets,
      Edit.count_keys_applyAll_of_isSet _ hsets', Entries.eq_nil_iff_of_lastValue (hlast key)]
  · intro key
    simp only [Edit.get?_applyAll_of_isSet _ hsets, Edit.get?_applyAll_of_isSet _ hsets']
    exact Edit.sameOperators_withSettings (b.current.get? key) (hlast key)

theorem valuesSet_cons (step : Step) (rest : List Step) (key : String) (op : Operator) :
    valuesSet config (step :: rest) key op =
      valuesSet config [step] key op ++ valuesSet config rest key op := by
  simp only [valuesSet, history, List.flatMap_cons, List.flatMap_nil, List.append_nil,
    List.filterMap_append]

namespace Interleaved

theorem symm (h : Interleaved one other whole) : Interleaved other one whole := by
  induction h with
  | nil => exact .nil
  | left step _ ih => exact .right step ih
  | right step _ ih => exact .left step ih

theorem mem_append (h : Interleaved one other whole) {step : Step} (hmem : step ∈ whole) :
    step ∈ one ++ other := by
  induction h with
  | nil => cases hmem
  | left first _ ih =>
      rcases List.mem_cons.mp hmem with rfl | hrest
      · exact List.mem_cons_self
      · exact List.mem_cons_of_mem first (ih hrest)
  | right first _ ih =>
      rw [List.mem_append, List.mem_cons]
      rcases List.mem_cons.mp hmem with rfl | hrest
      · exact .inr (.inl rfl)
      · rcases List.mem_append.mp (ih hrest) with hone | hother
        · exact .inl hone
        · exact .inr (.inr hother)

/-- Where one caller sets nothing, the values set are those of the other. -/
theorem valuesSet_eq (h : Interleaved one other whole) {key : String} {op : Operator}
    (hnone : valuesSet config other key op = []) :
    valuesSet config whole key op = valuesSet config one key op := by
  induction h with
  | nil => rfl
  | left step _ ih => rw [valuesSet_cons, ih hnone, ← valuesSet_cons]
  | right step _ ih =>
      rw [valuesSet_cons, List.append_eq_nil_iff] at hnone
      rw [valuesSet_cons, hnone.1, ih hnone.2, List.nil_append]

end Interleaved

/-- Writes to different operators commute, on every builder. Two sequences of calls that set the
same values in the same order under each operator of each key leave the same builder, but for the
order of keys and operators in the current group. So do any two orders in which two callers make
their calls, if no operator of a key is set by both. -/
theorem writes_commute (b : Builder) :
    (∀ first second : List Step, (∀ step ∈ first ++ second, step.setsOperators) →
      (∀ key op, valuesSet b.config first key op = valuesSet b.config second key op) →
      (b.run first).Reordered (b.run second)) ∧
    ∀ one other : List Step, (∀ step ∈ one ++ other, step.setsOperators) →
      (∀ key op, valuesSet b.config one key op = [] ∨ valuesSet b.config other key op = []) →
      ∀ first second, Interleaved one other first → Interleaved one other second →
        (b.run first).Reordered (b.run second) := by
  refine ⟨?_, ?_⟩
  · intro first second hsets hvalues
    rw [List.forall_mem_append] at hsets
    exact b.reordered_run hsets.1 hsets.2 hvalues
  · intro one other hsets hdisjoint first second hfirst hsecond
    apply b.reordered_run
    · exact fun step hmem => hsets step (hfirst.mem_append hmem)
    · exact fun step hmem => hsets step (hsecond.mem_append hmem)
    · intro key op
      rcases hdisjoint key op with hone | hother
      · rw [hfirst.symm.valuesSet_eq hone, hsecond.symm.valuesSet_eq hone]
      · rw [hfirst.valuesSet_eq hother, hsecond.valuesSet_eq hother]

/-- Either end of the range may be the one that replaces what was under the key before. -/
theorem writes_commute_range :
    let b := (empty .standard).run [.raw "age" .null]
    let first := [.number "age" (.between (.bool false) (.bool true)), .text "name" (.eq "a")]
    let second := [.text "name" (.eq "a"), .number "age" (.compare .lte (.bool true)),
      .number "age" (.compare .gte (.bool false))]
    (b.run first).Reordered (b.run second) ∧
      (b.run first).current.get? "age" =
        some (.document [("$gte", .bool false), ("$lte", .bool true)]) ∧
      (b.run second).current.get? "age" =
        some (.document [("$lte", .bool true), ("$gte", .bool false)]) := by
  intro b first second
  have hsets : ∀ step ∈ first ++ second, step.setsOperators := by
    simp [first, second, Step.setsOperators]
  have hfirst : history b.config first =
      [.set "age" .gte (.bool false), .set "age" .lte (.bool true), .set "name" .eq (.text "a")] :=
    rfl
  have hsecond : history b.config second =
      [.set "name" .eq (.text "a"), .set "age" .lte (.bool true), .set "age" .gte (.bool false)] :=
    rfl
  have hvalues : ∀ key op,
      valuesSet b.config first key op = valuesSet b.config second key op := by
    intro key op
    rw [valuesSet, valuesSet, hfirst, hsecond]
    by_cases hage : "age" = key
    · subst hage
      cases op <;> rfl
    · simp [List.filterMap_cons, Edit.valueUnder?, hage]
  exact ⟨(writes_commute b).1 first second hsets hvalues, rfl, rfl⟩

end Builder
end QueryFilter
