import QueryFilter.Proofs.Calendar.Stated
import QueryFilter.Proofs.Session.Groups

/-!
The grammar of filters. A session that keeps to the tests for texts, numbers, dates and identifiers
and to records, and sets nothing by other means, only ever holds groups in which every key has
operators, at least one, each with a value that it takes. Its filters are such a group, or several
of them as alternatives.
-/

namespace QueryFilter

open Calendar (exists_of_bind_eq_ok)

/-- The values that an operator takes: a list for membership, a pattern for matching text, and any
value for a comparison. -/
def Operator.Takes : Operator → Value → Prop
  | .isIn, value | .notIn, value => ∃ items, value = .array items
  | .regex, value | .not, value => ∃ p, value = .pattern p
  | .eq, _ | .ne, _ | .gt, _ | .gte, _ | .lt, _ | .lte, _ => True

/-- Operators by their tags, each with a value that it takes. -/
def Document.HoldsOperators (entries : Document) : Prop :=
  ∀ tag value, (tag, value) ∈ entries → ∃ op : Operator, tag = op.tag ∧ op.Takes value

/-- A group in which every key has operators, at least one. -/
def Document.IsGroup (group : Document) : Prop :=
  ∀ key value, (key, value) ∈ group →
    ∃ entries : Document, value = .document entries ∧ entries ≠ [] ∧ entries.HoldsOperators

/-- A filter is one group, which may be empty, or two or more alternatives of which none is. -/
inductive Filter.Grammatical : Filter → Prop
  | group {group : Document} (h : group.IsGroup) : Grammatical ⟨group⟩
  | alternatives {groups : List Document} (hmany : 2 ≤ groups.length)
      (h : ∀ group ∈ groups, group ≠ [] ∧ Document.IsGroup group) :
      Grammatical ⟨[("$or", .array (groups.map .document))]⟩

/-- An edit that keeps to the grammar: no entry is replaced, and an operator takes its value. -/
def Edit.KeepsGrammar : Edit → Prop
  | .set _ op value => op.Takes value
  | .put _ _ => False
  | .drop _ => True

namespace Document

theorem isGroup_nil : IsGroup [] := by
  intro key value hmem
  cases hmem

theorem IsGroup.holdsOperators_documentOf {group : Document} (h : group.IsGroup) (key : String) :
    (documentOf (group.get? key)).HoldsOperators := by
  cases hget : group.get? key with
  | none =>
      intro tag value hmem
      cases hmem
  | some found =>
      obtain ⟨entries, rfl, _, hops⟩ := h key found (Entries.mem_of_get? hget)
      exact hops

theorem HoldsOperators.insert {entries : Document} (h : entries.HoldsOperators) {op : Operator}
    {value : Value} (htakes : op.Takes value) :
    HoldsOperators (Entries.insert entries op.tag value) := by
  intro tag held hmem
  rcases Entries.mem_or_eq_of_mem_insert hmem with hold | hnew
  · exact h tag held hold
  · cases hnew
    exact ⟨op, rfl, htakes⟩

theorem IsGroup.erase {group : Document} (h : group.IsGroup) (key : String) :
    IsGroup (Entries.erase group key) := fun other value hmem =>
  h other value (List.mem_filter.mp hmem).1

theorem IsGroup.apply {group : Document} (h : group.IsGroup) {e : Edit} (he : e.KeepsGrammar) :
    IsGroup (e.apply group) := by
  cases e with
  | set key op value =>
      intro other held hmem
      rcases Entries.mem_or_eq_of_mem_insert hmem with hold | hnew
      · exact h other held hold
      · cases hnew
        exact ⟨_, rfl, Entries.insert_ne_nil _ _ _, (h.holdsOperators_documentOf key).insert he⟩
  | put key value => exact he.elim
  | drop key => exact h.erase key

theorem IsGroup.applyAll {group : Document} (h : group.IsGroup) {edits : List Edit}
    (hedits : ∀ e ∈ edits, e.KeepsGrammar) : IsGroup (Edit.applyAll group edits) := by
  induction edits generalizing group with
  | nil => exact h
  | cons e rest ih =>
      exact ih (h.apply (hedits e List.mem_cons_self)) fun later hlater =>
        hedits later (List.mem_cons_of_mem e hlater)

end Document

theorem Filter.isGroup_root_ofGroups {groups : List Document}
    (h : ∀ group ∈ groups, Document.IsGroup group) (hfew : groups.length ≤ 1) :
    Document.IsGroup (ofGroups groups).root := by
  match groups with
  | [] => exact Document.isGroup_nil
  | [group] => exact h group List.mem_cons_self
  | first :: second :: more => simp at hfew

/-- Whether a call keeps to the tests on fields of a known kind, to records and to groups as a
whole. -/
def Step.isTyped : Step → Bool
  | .any _ _ | .condition _ _ | .raw _ _ => false
  | _ => true

section Tests

variable {op : Operator} {value : Value}

theorem Comparison.operator_takes (c : Comparison) (value : Value) : c.operator.Takes value := by
  cases c <;> trivial

theorem takes_of_mem_rangeWrites {least greatest : Value}
    (h : (op, value) ∈ rangeWrites least greatest) : op.Takes value := by
  simp only [rangeWrites, List.mem_cons, List.not_mem_nil, or_false] at h
  rcases h with h | h <;> cases h <;> trivial

theorem TextTest.takes_of_mem_writes {test : TextTest} (h : (op, value) ∈ test.writes) :
    op.Takes value := by
  cases test with
  | eq _ | ne _ =>
      cases List.mem_singleton.mp h
      trivial
  | regex p | not p =>
      cases List.mem_singleton.mp h
      exact ⟨p, rfl⟩
  | isIn _ | notIn _ =>
      cases List.mem_singleton.mp h
      exact ⟨_, rfl⟩

theorem NumberTest.takes_of_mem_writes {test : NumberTest} (h : (op, value) ∈ test.writes) :
    op.Takes value := by
  cases test with
  | compare c v =>
      cases List.mem_singleton.mp h
      exact c.operator_takes _
  | between least greatest => exact takes_of_mem_rangeWrites h
  | isIn items | notIn items =>
      cases List.mem_singleton.mp h
      exact ⟨items, rfl⟩

/-- What a test on a date sets, if its texts can be read: a comparison, a range or a list. -/
theorem DateTest.writes_eq_ok {format : DateFormat} {test : DateTest}
    {writes : List (Operator × Value)} (h : test.writes format = .ok writes) :
    (∃ (c : Comparison) (i : Calendar.Instant), writes = [(c.operator, .instant i)]) ∨
      (∃ first last : Calendar.Instant, writes = rangeWrites (.instant first) (.instant last)) ∨
      ∃ items, writes = [(.isIn, .array items)] := by
  cases test with
  | compare c i =>
      cases h
      exact .inl ⟨c, i, rfl⟩
  | compareText c s =>
      obtain ⟨i, _, hwrites⟩ := exists_of_bind_eq_ok h
      cases hwrites
      exact .inl ⟨c, i, rfl⟩
  | between first last =>
      cases h
      exact .inr (.inl ⟨first, last, rfl⟩)
  | betweenText first last =>
      obtain ⟨i, _, hlast⟩ := exists_of_bind_eq_ok h
      obtain ⟨j, _, hwrites⟩ := exists_of_bind_eq_ok hlast
      cases hwrites
      exact .inr (.inl ⟨i, j, rfl⟩)
  | isIn items =>
      cases h
      exact .inr (.inr ⟨_, rfl⟩)

theorem DateTest.takes_of_mem_writes {format : DateFormat} {test : DateTest}
    {writes : List (Operator × Value)} (hwrites : test.writes format = .ok writes)
    (h : (op, value) ∈ writes) : op.Takes value := by
  rcases writes_eq_ok hwrites with ⟨c, i, rfl⟩ | ⟨first, last, rfl⟩ | ⟨items, rfl⟩
  · cases List.mem_singleton.mp h
    exact c.operator_takes _
  · exact takes_of_mem_rangeWrites h
  · cases List.mem_singleton.mp h
    exact ⟨items, rfl⟩

theorem takes_of_mem_identifierWrites {s : String} {writes : List (Operator × Value)}
    (hwrites : identifierWrites s = .ok writes) (h : (op, value) ∈ writes) : op.Takes value := by
  obtain ⟨_, _, hset⟩ := exists_of_bind_eq_ok hwrites
  cases hset
  cases List.mem_singleton.mp h
  trivial

theorem recordOperator_takes (value : Value) : (Builder.recordOperator value).Takes value := by
  cases value with
  | array items => exact ⟨items, rfl⟩
  | _ => trivial

end Tests

theorem Step.takes_of_writesOf {config : Config} {step : Step} (htyped : step.isTyped)
    {key : String} {writes : List (Operator × Value)}
    (h : (Builder.empty config).writesOf step = some (key, .ok writes)) {op : Operator}
    {value : Value} (hmem : (op, value) ∈ writes) : op.Takes value := by
  cases step with
  | text target test =>
      cases h
      exact TextTest.takes_of_mem_writes hmem
  | number target test =>
      cases h
      exact NumberTest.takes_of_mem_writes hmem
  | date target format test =>
      simp only [Builder.writesOf, Option.some.injEq, Prod.mk.injEq] at h
      exact DateTest.takes_of_mem_writes h.2 hmem
  | identifier target input =>
      simp only [Builder.writesOf, Option.some.injEq, Prod.mk.injEq] at h
      exact takes_of_mem_identifierWrites h.2 hmem
  | any _ _ | condition _ _ => cases htyped
  | raw _ _ | record _ | close | remove _ | removeAll _ | reset | build => cases h

/-- A call that keeps to typed tests and records makes only edits that keep to the grammar. -/
theorem Step.keepsGrammar_effect {config : Config} {step : Step} (htyped : step.isTyped) :
    ∀ e ∈ (step.effect config).edits, e.KeepsGrammar := by
  intro e hmem
  rcases mem_edits_effect hmem with ⟨_, _, _, _, hcall, hw, rfl⟩ | ⟨_, _, value, _, _, rfl⟩ |
    ⟨_, _, rfl, _⟩ | ⟨_, _, rfl⟩
  · exact takes_of_writesOf htyped hcall hw
  · exact recordOperator_takes value
  · cases htyped
  · trivial

namespace Builder

/-- Every group, closed or current, has operators on every key. -/
structure Typed (b : Builder) : Prop where
  closed : ∀ group ∈ b.closed, Document.IsGroup group
  current : Document.IsGroup b.current

theorem typed_empty (config : Config) : (empty config).Typed where
  closed := by
    intro group hmem
    cases hmem
  current := Document.isGroup_nil

theorem Typed.groups {b : Builder} (h : b.Typed) : ∀ group ∈ b.groups, Document.IsGroup group := by
  intro group hmem
  rw [groups_eq, List.mem_append] at hmem
  rcases hmem with hclosed | hcurrent
  · exact h.closed group hclosed
  · cases List.mem_singleton.mp (List.mem_filter.mp hcurrent).1
    exact h.current

theorem Typed.perform {b : Builder} (h : b.Typed) {effect : Effect}
    (hedits : ∀ e ∈ effect.edits, e.KeepsGrammar) : (b.perform effect).Typed := by
  cases effect with
  | edit edits => exact ⟨h.closed, h.current.applyAll hedits⟩
  | close =>
      simp only [Builder.perform, close_eq]
      exact ⟨h.groups, Document.isGroup_nil⟩
  | removeAll key =>
      refine ⟨?_, h.current.erase key⟩
      intro group hmem
      obtain ⟨former, hformer, rfl⟩ := List.mem_map.mp (List.mem_filter.mp hmem).1
      exact (h.closed former hformer).erase key
  | restart => exact typed_empty b.config

theorem Typed.apply {b : Builder} (h : b.Typed) {step : Step} (htyped : step.isTyped) :
    (b.apply step).Typed := by
  rw [apply_eq_perform]
  exact h.perform (Step.keepsGrammar_effect htyped)

theorem Typed.run {b : Builder} (h : b.Typed) {steps : List Step}
    (htyped : ∀ step ∈ steps, step.isTyped) : (b.run steps).Typed := by
  induction steps generalizing b with
  | nil => exact h
  | cons step rest ih =>
      exact ih (h.apply (htyped step List.mem_cons_self)) fun later hlater =>
        htyped later (List.mem_cons_of_mem step hlater)

theorem eq_build_of_answer {b : Builder} {step : Step} {f : Filter}
    (h : b.answer step = .built f) : step = .build ∧ f = b.compile := by
  unfold answer at h
  split at h
  · cases h
  · split at h
    · cases h
      exact ⟨rfl, rfl⟩
    · cases h

/-- A filter that a session builds on its way is compiled from the builder at that point. -/
theorem exists_prefix_of_built {b : Builder} {steps : List Step} {f : Filter}
    (h : .built f ∈ b.answers steps) :
    ∃ before after, steps = before ++ .build :: after ∧ f = (b.run before).compile := by
  induction steps generalizing b with
  | nil => cases h
  | cons step rest ih =>
      rcases List.mem_cons.mp h with hanswer | hrest
      · obtain ⟨rfl, hcompiled⟩ := eq_build_of_answer hanswer.symm
        exact ⟨[], rest, rfl, hcompiled⟩
      · obtain ⟨before, after, hsteps, hcompiled⟩ := ih hrest
        exact ⟨step :: before, after, congrArg (step :: ·) hsteps, hcompiled⟩

theorem Typed.compile {b : Builder} (h : b.Typed) (hclosed : b.ClosedNonEmpty) :
    b.compile.Grammatical := by
  rcases Nat.lt_or_ge b.groups.length 2 with hfew | hmany
  · exact .group (Filter.isGroup_root_ofGroups h.groups (Nat.le_of_lt_succ hfew))
  · have hcompiled : b.compile = ⟨[(orTag, .array (b.groups.map .document))]⟩ :=
      congrArg Filter.mk (Filter.root_ofGroups hmany)
    rw [hcompiled]
    exact .alternatives hmany fun group hmem =>
      ⟨closedNonEmpty_groups hclosed group hmem, h.groups group hmem⟩

/-- A session of typed tests, records and operations on groups only holds groups in which every key
has operators, at least one, each with a value that it takes. What it builds is such a group as
long as there is one at most, and otherwise all of them, none empty, as alternatives; and so is
every filter that it built on its way. -/
theorem typed_session_grammatical (config : Config) (steps : List Step)
    (htyped : ∀ step ∈ steps, step.isTyped) :
    let b := (empty config).run steps
    (∀ group ∈ b.closed ++ [b.current], Document.IsGroup group) ∧
      (b.groupCount ≤ 1 → Document.IsGroup b.compile.root) ∧
      (2 ≤ b.groupCount → ∃ groups : List Document, groups.length = b.groupCount ∧
        b.compile.root = [("$or", .array (groups.map .document))] ∧
        ∀ group ∈ groups, group ≠ [] ∧ Document.IsGroup group) ∧
      ∀ f, .built f ∈ (empty config).answers steps → f.Grammatical := by
  intro b
  have hrun : b.Typed := (typed_empty config).run htyped
  have hclosed : b.ClosedNonEmpty := Reachable.closedNonEmpty ⟨config, steps, rfl⟩
  refine ⟨?_, ?_, ?_, ?_⟩
  · intro group hmem
    rcases List.mem_append.mp hmem with hold | hcurrent
    · exact hrun.closed group hold
    · cases List.mem_singleton.mp hcurrent
      exact hrun.current
  · intro hfew
    rw [groupCount_eq] at hfew
    exact Filter.isGroup_root_ofGroups hrun.groups hfew
  · intro hmany
    rw [groupCount_eq] at hmany ⊢
    refine ⟨b.groups, rfl, Filter.root_ofGroups hmany, ?_⟩
    intro group hmem
    exact ⟨closedNonEmpty_groups hclosed group hmem, hrun.groups group hmem⟩
  · intro f hbuilt
    obtain ⟨before, after, hsteps, rfl⟩ := exists_prefix_of_built hbuilt
    have hbefore : ∀ step ∈ before, step.isTyped := fun step hmem =>
      htyped step (hsteps ▸ List.mem_append_left _ hmem)
    exact ((typed_empty config).run hbefore).compile
      (Reachable.closedNonEmpty ⟨config, before, rfl⟩)

/-- Tests of two kinds meet on one key, and removing a key everywhere leaves no empty group. -/
theorem typed_session_grammatical_mixed :
    let steps : List Step := [.text "tag" (.isIn ["a"]), .number "tag" (.between .null .null),
      .close, .date "at" .configured (.isIn []), .close,
      .record [⟨"codes", .sequence [.bool true]⟩], .text "tag" (.notIn []),
      .text "tag" (.not (.plain "^a")), .removeAll "at"]
    let b := (empty .standard).run steps
    (∀ step ∈ steps, step.isTyped) ∧ b.groupCount = 2 ∧
      (∀ group ∈ b.closed ++ [b.current], Document.IsGroup group) ∧
      ∃ groups : List Document, b.compile.root = [("$or", .array (groups.map .document))] ∧
        ∀ group ∈ groups, group ≠ [] ∧ Document.IsGroup group := by
  intro steps b
  have htyped : ∀ step ∈ steps, step.isTyped := by decide
  have hcount : b.groupCount = 2 := rfl
  obtain ⟨hgroups, _, halternatives, _⟩ := typed_session_grammatical .standard steps htyped
  obtain ⟨groups, _, hroot, hall⟩ := halternatives (Nat.le_of_eq hcount.symm)
  exact ⟨htyped, hcount, hgroups, groups, hroot, hall⟩

end Builder
end QueryFilter
