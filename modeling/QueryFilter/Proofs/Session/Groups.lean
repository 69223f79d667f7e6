import QueryFilter.Proofs.Session.Effect

/-!
The groups of a builder: the closed ones and, unless it is empty, the one being written. Closing
moves the border between the two and nothing more. In every state that a session reaches, no
closed group is empty; an empty one would be an alternative that matches everything. So a filter
matches everything only if nothing was set, and each of its alternatives restricts something.
-/

namespace QueryFilter

theorem Filter.isEmpty_ofGroups {groups : List Document} (h : ∀ group ∈ groups, group ≠ []) :
    (ofGroups groups).isEmpty = true ↔ groups = [] := by
  match groups with
  | [] => exact iff_of_true rfl rfl
  | [group] =>
      have hgroup : group ≠ [] := h group List.mem_cons_self
      simpa [isEmpty, ofGroups] using hgroup
  | first :: second :: more => simp [isEmpty, ofGroups]

theorem Filter.root_ofGroups {groups : List Document} (h : 2 ≤ groups.length) :
    (ofGroups groups).root = [(orTag, .array (groups.map .document))] := by
  match groups with
  | [] | [_] => simp at h
  | first :: second :: more => rfl

namespace Builder

def nonEmpty (groups : List Document) : List Document := groups.filter fun group => !group.isEmpty

/-- The closed groups followed by the current one, unless that is empty. -/
def alternatives (b : Builder) : List Document :=
  b.closed ++ if b.current.isEmpty then [] else [b.current]

theorem nonEmpty_append (first second : List Document) :
    nonEmpty (first ++ second) = nonEmpty first ++ nonEmpty second := List.filter_append ..

theorem close_eq (b : Builder) : b.close = ⟨b.config, b.groups, []⟩ := by
  obtain ⟨config, closed, current⟩ := b
  cases current <;> rfl

theorem groups_eq_alternatives (b : Builder) : b.groups = b.alternatives := by
  obtain ⟨config, closed, current⟩ := b
  cases current with
  | nil => exact (List.append_nil closed).symm
  | cons entry rest => rfl

theorem groups_eq (b : Builder) : b.groups = b.closed ++ nonEmpty [b.current] := by
  rw [groups_eq_alternatives, alternatives, nonEmpty, List.filter_cons]
  cases List.isEmpty b.current <;> rfl

theorem groups_close (b : Builder) : b.close.groups = b.groups := by
  rw [close_eq, groups_eq]
  exact List.append_nil b.groups

theorem close_close (b : Builder) : b.close.close = b.close := by
  rw [close_eq b.close, groups_close, close_eq b]

theorem run_close_close (b : Builder) (rest : List Step) :
    b.run (.close :: .close :: rest) = b.run (.close :: rest) := by
  have hclose : (b.apply .close).apply .close = b.apply .close := b.close_close
  rw [run_cons, run_cons, hclose, run_cons]

theorem groupCount_eq (b : Builder) : b.groupCount = b.groups.length := by
  rw [groups_eq_alternatives, alternatives, List.length_append, groupCount]
  split <;> rfl

/-- The states that sessions lead to from a new builder. -/
def Reachable (b : Builder) : Prop := ∃ config steps, (empty config).run steps = b

def ClosedNonEmpty (b : Builder) : Prop := ∀ group ∈ b.closed, group ≠ []

theorem closedNonEmpty_groups {b : Builder} (h : b.ClosedNonEmpty) :
    ∀ group ∈ b.groups, group ≠ [] := by
  intro group hmem
  rw [groups_eq, List.mem_append] at hmem
  cases hmem with
  | inl hclosed => exact h group hclosed
  | inr hcurrent => simpa using (List.mem_filter.mp hcurrent).2

theorem closedNonEmpty_apply {b : Builder} (h : b.ClosedNonEmpty) (step : Step) :
    (b.apply step).ClosedNonEmpty := by
  rw [apply_eq_perform]
  cases step.effect b.config with
  | edit edits => exact h
  | close => exact closedNonEmpty_groups h
  | removeAll key =>
      intro group hmem
      simpa using (List.mem_filter.mp hmem).2
  | restart =>
      intro group hmem
      cases hmem

theorem closedNonEmpty_run {b : Builder} (h : b.ClosedNonEmpty) (steps : List Step) :
    (b.run steps).ClosedNonEmpty := by
  induction steps generalizing b with
  | nil => exact h
  | cons step rest ih => exact ih (closedNonEmpty_apply h step)

theorem Reachable.closedNonEmpty {b : Builder} (h : b.Reachable) : b.ClosedNonEmpty := by
  obtain ⟨config, steps, rfl⟩ := h
  apply closedNonEmpty_run
  intro group hmem
  cases hmem

theorem isEmpty_iff_groups (b : Builder) : b.isEmpty = true ↔ b.groups = [] := by
  rw [groups_eq_alternatives, alternatives, isEmpty, List.append_eq_nil_iff, Bool.and_eq_true,
    List.isEmpty_iff]
  cases List.isEmpty b.current <;> simp

/-- Whatever a session did, no closed group is empty. The filter it builds is empty exactly when
no condition is left, which is when no group is counted; the groups counted are those compiled;
and where there are several, each of them restricts something. -/
theorem build_never_vacuous (config : Config) (steps : List Step) :
    let b := (empty config).run steps
    (∀ group ∈ b.closed, group ≠ []) ∧
      b.answer .build = .built b.compile ∧
      (b.compile.isEmpty = true ↔ b.isEmpty = true) ∧
      (b.isEmpty = true ↔ b.groupCount = 0) ∧
      b.log .build = [.compiling b.groupCount, .cleared] ∧
      b.groupCount = b.alternatives.length ∧
      b.compile.root = (match b.alternatives with
        | [] => []
        | [group] => group
        | groups => [("$or", .array (groups.map .document))]) ∧
      (2 ≤ b.groupCount → ∃ items, b.compile.root = [("$or", .array items)] ∧
        items.length = b.groupCount ∧ ∀ item ∈ items, ∃ group, item = .document group ∧
          group ≠ []) := by
  intro b
  have hclosed : b.ClosedNonEmpty := Reachable.closedNonEmpty ⟨config, steps, rfl⟩
  have hgroups : ∀ group ∈ b.groups, group ≠ [] := closedNonEmpty_groups hclosed
  have hcount : b.groupCount = b.groups.length := b.groupCount_eq
  refine ⟨hclosed, rfl, ?_, ?_, ?_, ?_, ?_, ?_⟩
  · rw [isEmpty_iff_groups]
    exact Filter.isEmpty_ofGroups hgroups
  · rw [isEmpty_iff_groups, hcount, List.length_eq_zero_iff]
  · rw [hcount]
    rfl
  · rw [hcount, groups_eq_alternatives]
  · rw [compile, groups_eq_alternatives]
    rcases b.alternatives with _ | ⟨group, _ | ⟨next, more⟩⟩ <;> rfl
  · intro hmany
    rw [hcount] at hmany ⊢
    refine ⟨b.groups.map .document, Filter.root_ofGroups hmany, List.length_map .., ?_⟩
    intro item hitem
    obtain ⟨group, hmem, rfl⟩ := List.mem_map.mp hitem
    exact ⟨group, rfl, hgroups group hmem⟩

/-- Removing a key from every group drops the closed group that held nothing else, and closing after
the last condition was removed closes nothing. -/
theorem build_never_vacuous_removed :
    let b := (empty .standard).run
      [.any "a" (.op .eq .null), .close, .raw "k" .null, .close, .any "b" (.op .gt .null), .close,
        .raw "c" .null, .remove "c", .close, .removeAll "k"]
    2 ≤ b.groupCount ∧
      ∃ items, b.compile.root = [("$or", .array items)] ∧ items.length = 2 := by
  intro b
  have hcount : b.groupCount = 2 := by decide
  have hmany : 2 ≤ b.groupCount := Nat.le_of_eq hcount.symm
  obtain ⟨_, _, _, _, _, _, _, hitems⟩ := build_never_vacuous .standard
    [.any "a" (.op .eq .null), .close, .raw "k" .null, .close, .any "b" (.op .gt .null), .close,
      .raw "c" .null, .remove "c", .close, .removeAll "k"]
  obtain ⟨items, hroot, hlength, _⟩ := hitems hmany
  exact ⟨hmany, items, hroot, hlength.trans hcount⟩

end Builder
end QueryFilter
