import QueryFilter.Proofs.Session.Commuting

/-!
Writes made a second time. On the way through the second run the group is not what it was in the
first: its keys are all there, values put under a key meet the operators set on it later, and
conditions find entries to add to. At the end it is the same again. Under every key the writes
leave a value that depends on what was there before only where operators were set on it, and
setting those again changes nothing; and a write that finds its key keeps the place of it.
-/

namespace QueryFilter

/-- Whether a call sets operators or puts values under keys, and does nothing else. -/
def Step.isWrite : Step → Bool
  | .raw _ _ => true
  | step => step.setsOperators

namespace Edit

theorem documentOf_withSettings (entry : Option Value) (written : List (String × Value)) :
    documentOf (withSettings entry written) = Entries.insertAll (documentOf entry) written := by
  cases written <;> rfl

theorem withSettings_snoc (entry : Option Value) (written : List (String × Value)) (tag : String)
    (value : Value) :
    withSettings entry (written ++ [(tag, value)]) =
      some (.document ((documentOf (withSettings entry written)).insert tag value)) := by
  rw [documentOf_withSettings]
  cases written with
  | nil => rfl
  | cons first rest =>
      simp only [List.cons_append, withSettings, Entries.insertAll, List.foldl_cons,
        List.foldl_append, List.foldl_nil]

/-- Setting the same operators again changes nothing. -/
theorem withSettings_withSettings (entry : Option Value) (written : List (String × Value)) :
    withSettings (withSettings entry written) written = withSettings entry written := by
  cases written with
  | nil => rfl
  | cons first rest =>
      simp only [withSettings, documentOf, Entries.insertAll_insertAll]

theorem applyAll_eq_insertAll (group : Document) {edits : List Edit}
    (h : ∀ e ∈ edits, e.isDrop = false) :
    ∃ written, applyAll group edits = Entries.insertAll group written := by
  induction edits generalizing group with
  | nil => exact ⟨[], rfl⟩
  | cons e rest ih =>
      obtain ⟨written, hwritten⟩ := ih (e.apply group) fun later hlater =>
        h later (List.mem_cons_of_mem e hlater)
      rw [applyAll_cons, hwritten]
      cases e with
      | set key op value => exact ⟨(key, _) :: written, rfl⟩
      | put key value => exact ⟨(key, value) :: written, rfl⟩
      | drop key => cases h _ List.mem_cons_self

/-- What writes leave under a key of a group: the last value put there, or else what the group
holds, with the operators set since. -/
theorem get?_applyAll_of_not_isDrop (group : Document) {edits : List Edit}
    (h : ∀ e ∈ edits, e.isDrop = false) (key : String) :
    (applyAll group edits).get? key =
      withSettings ((base edits key).or (group.get? key)) (settings edits key) := by
  induction edits using List.reverseRecOn with
  | nil => rfl
  | append_singleton edits e ih =>
      have hedits := ih fun earlier hearlier => h earlier (List.mem_append_left [e] hearlier)
      rw [applyAll_snoc, base_snoc, settings_snoc]
      by_cases hkey : e.key = key
      · subst hkey
        cases e with
        | set key op value =>
            simp only [Edit.key] at hedits
            simp [apply, Edit.key, setting?, Entries.get?_insert_self, hedits, withSettings_snoc]
        | put key value =>
            simp [apply, Edit.key, setting?, replacement?, Entries.get?_insert_self, withSettings]
        | drop key => cases h _ (List.mem_append_right edits List.mem_cons_self)
      · rw [get?_apply_of_ne _ e hkey, hedits]
        simp [hkey]

/-- Writes made again on what they left leave it as it is. -/
theorem applyAll_applyAll (group : Document) {edits : List Edit}
    (h : ∀ e ∈ edits, e.isDrop = false) :
    applyAll (applyAll group edits) edits = applyAll group edits := by
  have hvalue : ∀ key,
      (applyAll (applyAll group edits) edits).get? key = (applyAll group edits).get? key := by
    intro key
    rw [get?_applyAll_of_not_isDrop _ h, get?_applyAll_of_not_isDrop group h]
    cases base edits key with
    | some value => rfl
    | none =>
        simp only [Option.none_or]
        exact withSettings_withSettings (group.get? key) (settings edits key)
  -- The second run makes writes of its own, with values that differ on the way.
  obtain ⟨written, hwritten⟩ := applyAll_eq_insertAll (applyAll group edits) h
  rw [hwritten] at hvalue ⊢
  exact Entries.insertAll_eq_self hvalue

end Edit

namespace Builder

theorem isEdit_of_isWrite {step : Step} (h : step.isWrite) : step.isEdit := by
  cases step with
  | raw _ _ => rfl
  | _ => exact isEdit_of_setsOperators h

theorem not_isDrop_of_mem_history {config : Config} {steps : List Step}
    (h : ∀ step ∈ steps, step.isWrite) : ∀ e ∈ history config steps, e.isDrop = false := by
  intro e hmem
  obtain ⟨step, hstep, he⟩ := List.mem_flatMap.mp hmem
  have hwrite := h step hstep
  rcases Step.mem_edits_effect he with ⟨_, _, _, _, _, _, rfl⟩ | ⟨_, _, _, _, _, rfl⟩ |
    ⟨_, _, _, rfl⟩ | ⟨_, rfl | rfl, _⟩
  · rfl
  · rfl
  · rfl
  · cases hwrite
  · cases hwrite

/-- Replaying writes is idempotent, on every builder. Calls that set operators or put values leave
the same builder when all of them are made again in the same order, any number of times: the same
groups with the same keys and operators in the same places. So does a record that is added again,
whatever its fields. -/
theorem replay_idempotent (b : Builder) :
    (∀ steps : List Step, (∀ step ∈ steps, step.isWrite) →
      b.run (steps ++ steps) = b.run steps ∧
        ∀ n, b.run (List.replicate (n + 1) steps).flatten = b.run steps) ∧
    ∀ record, (b.fromRecord record).fromRecord record = b.fromRecord record := by
  have htwice : ∀ steps : List Step, (∀ step ∈ steps, step.isWrite) →
      (b.run steps).run steps = b.run steps := by
    intro steps h
    have hedit : ∀ step ∈ steps, step.isEdit := fun step hstep => isEdit_of_isWrite (h step hstep)
    rw [run_of_isEdit b hedit, run_of_isEdit _ hedit,
      Edit.applyAll_applyAll b.current (not_isDrop_of_mem_history h)]
  refine ⟨?_, ?_⟩
  · intro steps h
    refine ⟨(b.run_append steps steps).trans (htwice steps h), ?_⟩
    intro n
    induction n with
    | zero => simp
    | succ n ih =>
        rw [List.replicate_succ', List.flatten_concat, run_append, ih]
        exact htwice steps h
  · intro record
    exact htwice [.record record] (by simp [Step.isWrite, Step.setsOperators])

/-- Two fields have one key, and a value is put under a key that gets an operator later. -/
theorem replay_idempotent_overwritten :
    let b := (empty .standard).raw "b" (.document [("x", .null), ("$eq", .null)])
    let record : List Descriptor :=
      [⟨"b", .scalar (.bool true)⟩, ⟨"c", .unsupported⟩, ⟨"b", .sequence [.null]⟩]
    let steps := [.record record, .raw "a" (.bool true), .any "a" (.op .gt .null)]
    (∀ step ∈ steps, step.isWrite) ∧
      ((b.run steps).run (steps.take 2)).current.get? "a" = some (.bool true) ∧
      (b.run (steps ++ steps)).current =
        [("b", .document [("x", .null), ("$eq", .bool true), ("$in", .array [.null])]),
          ("a", .document [("$gt", .null)])] := by
  intro b record steps
  have hwrites : ∀ step ∈ steps, step.isWrite := by simp [steps, Step.isWrite, Step.setsOperators]
  refine ⟨hwrites, rfl, ?_⟩
  rw [((replay_idempotent b).1 steps hwrites).1]
  rfl

end Builder
end QueryFilter
