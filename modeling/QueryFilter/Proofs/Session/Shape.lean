import Mathlib.Data.List.Forall2
import QueryFilter.Proofs.Calendar.Stated
import QueryFilter.Proofs.Session.Ledger
import QueryFilter.Proofs.Session.Refusal

/-!
Values never shape a filter. Two sessions that make the same calls, with other values for the
operators, go the same way: whether an entry is a document of operators, whether a group is empty
and which keys and operators there are, none of it depends on a value. Their groups and filters are
alike in all but the values under the operators, and those are the values last set.
-/

namespace QueryFilter

open Calendar (exists_of_bind_eq_ok)

/-- Values of a group's entries that are the same, or hold the same operators in the same order. -/
inductive Value.Alike : Value → Value → Prop
  | same (v : Value) : Alike v v
  | operators {entries others : Document} (h : Entries.keys entries = Entries.keys others) :
      Alike (.document entries) (.document others)

/-- Operators are set on entries that are alike in the same places. -/
theorem keys_documentOf_of_rel {found other : Option Value}
    (h : Option.Rel Value.Alike found other) :
    Entries.keys (documentOf found) = Entries.keys (documentOf other) := by
  cases h with
  | none => rfl
  | some hvalue =>
      cases hvalue with
      | same _ => rfl
      | operators hkeys => exact hkeys

/-- The same keys in the same order, over entries that are alike. -/
def Document.Alike (group other : Document) : Prop :=
  List.Forall₂ (fun entry other => entry.1 = other.1 ∧ Value.Alike entry.2 other.2) group other

namespace Document

variable {group other : Document}

theorem Alike.keys_eq (h : Alike group other) : Entries.keys group = Entries.keys other := by
  induction h with
  | nil => rfl
  | cons hentry _ ih =>
      simp only [Entries.keys] at ih
      simp only [Entries.keys, List.map_cons, hentry.1, ih]

theorem Alike.isEmpty_eq (h : Alike group other) : group.isEmpty = other.isEmpty := by
  cases h <;> rfl

theorem Alike.get? (h : Alike group other) (key : String) :
    Option.Rel Value.Alike (Entries.get? group key) (Entries.get? other key) := by
  induction h with
  | nil => exact .none
  | cons hentry _ ih =>
      simp only [Entries.get?, hentry.1]
      split
      · exact .some hentry.2
      · exact ih

theorem Alike.insert (h : Alike group other) (key : String) {v w : Value} (hvalue : v.Alike w) :
    Alike (Entries.insert group key v) (Entries.insert other key w) := by
  induction h with
  | nil => exact .cons ⟨rfl, hvalue⟩ .nil
  | cons hentry hrest ih =>
      simp only [Entries.insert, hentry.1]
      split
      · exact .cons ⟨rfl, hvalue⟩ hrest
      · exact .cons ⟨rfl, hentry.2⟩ ih

theorem Alike.erase (h : Alike group other) (key : String) :
    Alike (Entries.erase group key) (Entries.erase other key) := by
  induction h with
  | nil => exact .nil
  | cons hentry _ ih =>
      rw [Entries.erase_cons, Entries.erase_cons, hentry.1]
      split
      · exact ih
      · exact .cons hentry ih

end Document

/-- The same edit, but for the value of an operator. -/
inductive Edit.Alike : Edit → Edit → Prop
  | set (key : String) (op : Operator) (v w : Value) : Alike (.set key op v) (.set key op w)
  | put (key : String) (v : Value) : Alike (.put key v) (.put key v)
  | drop (key : String) : Alike (.drop key) (.drop key)

theorem Edit.Alike.refl (e : Edit) : Alike e e := by
  cases e with
  | set key op v => exact .set key op v v
  | put key v => exact .put key v
  | drop key => exact .drop key

theorem Edit.Alike.apply {e e' : Edit} (he : e.Alike e') {group other : Document}
    (h : Document.Alike group other) : Document.Alike (e.apply group) (e'.apply other) := by
  cases he with
  | set key op v w =>
      apply h.insert key
      apply Value.Alike.operators
      rw [Entries.keys_insert, Entries.keys_insert, keys_documentOf_of_rel (h.get? key)]
  | put key v => exact h.insert key (.same v)
  | drop key => exact h.erase key

theorem Document.Alike.applyAll {group other : Document} (h : Alike group other)
    {edits others : List Edit} (hedits : List.Forall₂ Edit.Alike edits others) :
    Alike (Edit.applyAll group edits) (Edit.applyAll other others) := by
  induction hedits generalizing group other with
  | nil => exact h
  | cons he _ ih => exact ih (he.apply h)

/-- The same effect, but for the values of operators. -/
inductive Effect.Alike : Effect → Effect → Prop
  | edit {edits others : List Edit} (h : List.Forall₂ Edit.Alike edits others) :
      Alike (.edit edits) (.edit others)
  | close : Alike .close .close
  | removeAll (key : String) : Alike (.removeAll key) (.removeAll key)
  | restart : Alike .restart .restart

theorem Effect.Alike.refl (effect : Effect) : Alike effect effect := by
  cases effect with
  | edit edits => exact .edit (List.forall₂_same.mpr fun e _ => Edit.Alike.refl e)
  | close => exact .close
  | removeAll key => exact .removeAll key
  | restart => exact .restart

/-- Filters with the same keys, alternatives and operators: one group each, or several alternatives
that are alike in turn. -/
inductive Filter.Alike : Filter → Filter → Prop
  | single {group other : Document} (h : Document.Alike group other) : Alike ⟨group⟩ ⟨other⟩
  | several {groups others : List Document} (h : List.Forall₂ Document.Alike groups others) :
      Alike ⟨[(orTag, .array (groups.map .document))]⟩ ⟨[(orTag, .array (others.map .document))]⟩

theorem Filter.alike_ofGroups {groups others : List Document}
    (h : List.Forall₂ Document.Alike groups others) :
    Filter.Alike (ofGroups groups) (ofGroups others) := by
  cases h with
  | nil => exact .single .nil
  | cons hfirst hrest =>
      cases hrest with
      | nil => exact .single hfirst
      | cons hsecond hmore => exact .several (.cons hfirst (.cons hsecond hmore))

inductive Answer.Alike : Answer → Answer → Prop
  | done : Alike .done .done
  | refused (fault other : InputFault) : Alike (.refused fault) (.refused other)
  | built {f g : Filter} (h : f.Alike g) : Alike (.built f) (.built g)

/-- Under the same settings the same groups in the same order, each alike. -/
structure Builder.Alike (b other : Builder) : Prop where
  config : b.config = other.config
  closed : List.Forall₂ Document.Alike b.closed other.closed
  current : Document.Alike b.current other.current

/-- The same call, but for the values of the operators that it sets. A call that is refused does
not set any. -/
inductive Step.SameButValues (config : Config) : Step → Step → Prop
  | same (step : Step) : SameButValues config step step
  | writes {step other : Step} {key : String} {writes others : List (Operator × Value)}
      (hstep : (Builder.empty config).writesOf step = some (key, .ok writes))
      (hother : (Builder.empty config).writesOf other = some (key, .ok others))
      (hops : writes.map Prod.fst = others.map Prod.fst) : SameButValues config step other
  | refused {step other : Step} {key : String} {fault fault' : InputFault}
      (hstep : (Builder.empty config).writesOf step = some (key, .error fault))
      (hother : (Builder.empty config).writesOf other = some (key, .error fault')) :
      SameButValues config step other

theorem Edit.alike_sets (key : String) {writes others : List (Operator × Value)}
    (h : writes.map Prod.fst = others.map Prod.fst) :
    List.Forall₂ Edit.Alike (writes.map fun w => .set key w.1 w.2)
      (others.map fun w => .set key w.1 w.2) := by
  induction writes generalizing others with
  | nil =>
      cases List.map_eq_nil_iff.mp h.symm
      exact .nil
  | cons w rest ih =>
      cases others with
      | nil => cases h
      | cons w' rest' =>
          obtain ⟨op, v⟩ := w
          obtain ⟨op', v'⟩ := w'
          obtain ⟨rfl, hrest⟩ := List.cons.inj h
          exact .cons (.set key op v v') (ih hrest)

theorem Step.SameButValues.effect {config : Config} {step other : Step}
    (h : step.SameButValues config other) : (step.effect config).Alike (other.effect config) := by
  cases h with
  | same => exact .refl _
  | writes hstep hother hops =>
      simp only [Step.effect, hstep, hother]
      exact .edit (Edit.alike_sets _ hops)
  | refused hstep hother =>
      simp only [Step.effect, hstep, hother]
      exact .edit .nil

namespace Builder

variable {b other : Builder}

theorem alike_nonEmpty {groups others : List Document}
    (h : List.Forall₂ Document.Alike groups others) :
    List.Forall₂ Document.Alike (nonEmpty groups) (nonEmpty others) := by
  induction h with
  | nil => exact .nil
  | cons hgroup _ ih =>
      simp only [nonEmpty, List.filter_cons, hgroup.isEmpty_eq]
      split
      · exact .cons hgroup ih
      · exact ih

theorem Alike.groups (h : b.Alike other) :
    List.Forall₂ Document.Alike b.groups other.groups := by
  rw [groups_eq, groups_eq]
  exact List.rel_append h.closed (alike_nonEmpty (.cons h.current .nil))

theorem Alike.perform (h : b.Alike other) {effect effect' : Effect}
    (heffect : effect.Alike effect') : (b.perform effect).Alike (other.perform effect') := by
  cases heffect with
  | edit hedits => exact ⟨h.config, h.closed, h.current.applyAll hedits⟩
  | close =>
      simp only [Builder.perform, close_eq]
      exact ⟨h.config, h.groups, .nil⟩
  | removeAll key =>
      have herase : List.Forall₂ Document.Alike (b.closed.map fun group => Entries.erase group key)
          (other.closed.map fun group => Entries.erase group key) := by
        rw [List.forall₂_map_left_iff, List.forall₂_map_right_iff]
        exact h.closed.imp fun _ _ hgroup => hgroup.erase key
      exact ⟨h.config, alike_nonEmpty herase, h.current.erase key⟩
  | restart => exact ⟨h.config, .nil, .nil⟩

theorem Alike.apply (h : b.Alike other) {step step' : Step}
    (hstep : step.SameButValues b.config step') : (b.apply step).Alike (other.apply step') := by
  rw [apply_eq_perform, apply_eq_perform, ← h.config]
  exact h.perform hstep.effect

theorem Alike.run (h : b.Alike other) {steps others : List Step}
    (hsteps : List.Forall₂ (Step.SameButValues b.config) steps others) :
    (b.run steps).Alike (other.run others) := by
  induction steps generalizing b other others with
  | nil =>
      cases hsteps
      exact h
  | cons step rest ih =>
      cases hsteps with
      | cons hstep hrest =>
          rw [← config_apply b step] at hrest
          exact ih (h.apply hstep) hrest

theorem Alike.compile (h : b.Alike other) : b.compile.Alike other.compile :=
  Filter.alike_ofGroups h.groups

theorem Alike.answer (h : b.Alike other) {step step' : Step}
    (hstep : step.SameButValues b.config step') :
    (b.answer step).Alike (other.answer step') := by
  cases hstep with
  | same =>
      have hwrites : other.writesOf step = b.writesOf step := by
        rw [other.writesOf_eq, b.writesOf_eq, h.config]
      cases hcall : b.writesOf step with
      | some call =>
          rw [hcall] at hwrites
          obtain ⟨key, fault | writes⟩ := call
          · rw [b.answer_of_fault hcall, other.answer_of_fault hwrites]
            exact .refused fault fault
          · rw [b.answer_of_writes hcall, other.answer_of_writes hwrites]
            exact .done
      | none =>
          simp only [Builder.answer, hcall, hwrites]
          cases step with
          | build => exact .built h.compile
          | _ => exact .done
  | writes hstep hother _ =>
      rw [← writesOf_eq] at hstep
      rw [h.config, ← writesOf_eq] at hother
      rw [b.answer_of_writes hstep, other.answer_of_writes hother]
      exact .done
  | refused hstep hother =>
      rw [← writesOf_eq] at hstep
      rw [h.config, ← writesOf_eq] at hother
      rw [b.answer_of_fault hstep, other.answer_of_fault hother]
      exact .refused _ _

theorem Alike.answers (h : b.Alike other) {steps others : List Step}
    (hsteps : List.Forall₂ (Step.SameButValues b.config) steps others) :
    List.Forall₂ Answer.Alike (b.answers steps) (other.answers others) := by
  induction steps generalizing b other others with
  | nil =>
      cases hsteps
      exact .nil
  | cons step rest ih =>
      cases hsteps with
      | cons hstep hrest =>
          rw [← config_apply b step] at hrest
          exact .cons (h.answer hstep) (ih (h.apply hstep) hrest)

theorem alike_empty (config : Config) : (empty config).Alike (empty config) :=
  ⟨rfl, .nil, .nil⟩

end Builder

/-- The operator that a test on a text sets, whatever the text. -/
def TextTest.operator : TextTest → Operator
  | eq _ => .eq
  | ne _ => .ne
  | regex _ => .regex
  | not _ => .not
  | isIn _ => .isIn
  | notIn _ => .notIn

theorem TextTest.operators_writes (test : TextTest) :
    test.writes.map Prod.fst = [test.operator] := by
  cases test <;> rfl

/-- The operators that a test on a number sets, whatever the numbers. -/
def NumberTest.operators : NumberTest → List Operator
  | compare c _ => [c.operator]
  | between _ _ => [.gte, .lte]
  | isIn _ => [.isIn]
  | notIn _ => [.notIn]

theorem NumberTest.operators_writes (test : NumberTest) :
    test.writes.map Prod.fst = test.operators := by
  cases test <;> rfl

/-- The operator that a test of any kind sets, whatever the value. -/
def AnyTest.operator : AnyTest → Operator
  | op o _ => o
  | compare c _ => c.operator
  | isIn _ => .isIn
  | notIn _ => .notIn
  | regex _ => .regex
  | not _ => .not

theorem AnyTest.operators_writes (test : AnyTest) :
    test.writes.map Prod.fst = [test.operator] := by
  cases test <;> rfl

/-- The operators that a test on a date sets, if its texts can be read. -/
def DateTest.operators : DateTest → List Operator
  | compare c _ | compareText c _ => [c.operator]
  | between _ _ | betweenText _ _ => [.gte, .lte]
  | isIn _ => [.isIn]

theorem DateTest.operators_writes {format : DateFormat} {test : DateTest}
    {writes : List (Operator × Value)} (h : test.writes format = .ok writes) :
    writes.map Prod.fst = test.operators := by
  cases test with
  | compare _ _ | between _ _ | isIn _ =>
      cases h
      rfl
  | compareText c s =>
      obtain ⟨_, _, hwrites⟩ := exists_of_bind_eq_ok h
      cases hwrites
      rfl
  | betweenText first last =>
      obtain ⟨_, _, hlast⟩ := exists_of_bind_eq_ok h
      obtain ⟨_, _, hwrites⟩ := exists_of_bind_eq_ok hlast
      cases hwrites
      rfl

theorem operators_identifierWrites {s : String} {writes : List (Operator × Value)}
    (h : identifierWrites s = .ok writes) : writes.map Prod.fst = [.eq] := by
  obtain ⟨_, _, hwrites⟩ := exists_of_bind_eq_ok h
  cases hwrites
  rfl

section Steps

variable (config : Config) (key : String)

theorem Step.sameButValues_text {test other : TextTest} (h : test.operator = other.operator) :
    (Step.text key test).SameButValues config (.text key other) := by
  refine .writes rfl rfl ?_
  rw [test.operators_writes, other.operators_writes, h]

theorem Step.sameButValues_number {test other : NumberTest}
    (h : test.operators = other.operators) :
    (Step.number key test).SameButValues config (.number key other) := by
  refine .writes rfl rfl ?_
  rw [test.operators_writes, other.operators_writes, h]

theorem Step.sameButValues_any {test other : AnyTest} (h : test.operator = other.operator) :
    (Step.any key test).SameButValues config (.any key other) := by
  refine .writes rfl rfl ?_
  rw [test.operators_writes, other.operators_writes, h]

theorem Step.sameButValues_condition {writes others : List (Operator × Value)}
    (h : writes.map Prod.fst = others.map Prod.fst) :
    (Step.condition key writes).SameButValues config (.condition key others) :=
  .writes rfl rfl h

/-- Calls that may be refused for their text are the same but for values if both are or neither is,
and any writes of theirs have the same operators. -/
theorem Step.SameButValues.of_read {step other : Step}
    {read read' : Except InputFault (List (Operator × Value))} {operators : List Operator}
    (hstep : (Builder.empty config).writesOf step = some (key, read))
    (hother : (Builder.empty config).writesOf other = some (key, read'))
    (hread : ∀ writes, read = .ok writes → writes.map Prod.fst = operators)
    (hread' : ∀ writes, read' = .ok writes → writes.map Prod.fst = operators)
    (h : read.isOk = read'.isOk) : step.SameButValues config other := by
  cases read with
  | ok writes =>
      cases read' with
      | ok others => exact .writes hstep hother ((hread writes rfl).trans (hread' others rfl).symm)
      | error _ => cases h
  | error _ =>
      cases read' with
      | ok _ => cases h
      | error _ => exact .refused hstep hother

theorem Step.sameButValues_date {format format' : FormatChoice} {test other : DateTest}
    (h : test.operators = other.operators)
    (hread : (test.writes (format.resolve config.dateFormat)).isOk =
      (other.writes (format'.resolve config.dateFormat)).isOk) :
    (Step.date key format test).SameButValues config (.date key format' other) :=
  .of_read config key rfl rfl (fun _ => DateTest.operators_writes)
    (fun _ hwrites => (DateTest.operators_writes hwrites).trans h.symm) hread

theorem Step.sameButValues_identifier (key : Option String) {input other : String}
    (h : (identifierWrites input).isOk = (identifierWrites other).isOk) :
    (Step.identifier key input).SameButValues config (.identifier key other) :=
  .of_read config _ rfl rfl (fun _ => operators_identifierWrites)
    (fun _ => operators_identifierWrites) h

end Steps

namespace Builder

/-- Two sessions with the same calls, but for the values of operators, are alike after every call:
in their groups, in the keys of each, in the operators on each key and in what they answer, filters
included. In every group the value under an operator is the one last set there. So no text given to
a test, whatever it contains, changes a key, an operator or an alternative. -/
theorem values_never_shape (config : Config) :
    (∀ steps others : List Step, List.Forall₂ (Step.SameButValues config) steps others →
      (∀ n, ((empty config).run (steps.take n)).Alike ((empty config).run (others.take n)) ∧
        ((empty config).run (steps.take n)).compile.Alike
          ((empty config).run (others.take n)).compile) ∧
      List.Forall₂ Answer.Alike ((empty config).answers steps) ((empty config).answers others)) ∧
    (∀ steps : List Step,
      (empty config).run steps = (Ledger.ofSession config steps).toBuilder config ∧
      ∀ history ∈ (Ledger.ofSession config steps).histories, ∀ key op value,
        Edit.lastSet? history key op = some value →
          ∃ entries : Document, (Edit.applyAll [] history).get? key = some (.document entries) ∧
            entries.get? op.tag = some value) ∧
    ∀ (key : String) (test other : TextTest) (before after : List Step),
      test.operator = other.operator →
        ((empty config).run (before ++ .text key test :: after)).Alike
          ((empty config).run (before ++ .text key other :: after)) := by
  refine ⟨?_, ?_, ?_⟩
  · intro steps others h
    refine ⟨?_, (alike_empty config).answers h⟩
    intro n
    have halike := (alike_empty config).run (List.forall₂_take n h)
    exact ⟨halike, halike.compile⟩
  · intro steps
    exact ⟨Ledger.run_eq_toBuilder config steps, fun _ _ _ _ _ => Edit.get?_of_lastSet?⟩
  · intro key test other before after hoperator
    apply (alike_empty config).run
    have hsame : ∀ steps : List Step, List.Forall₂ (Step.SameButValues config) steps steps :=
      fun steps => List.forall₂_same.mpr fun step _ => .same step
    exact List.rel_append (hsame before)
      (.cons (Step.sameButValues_text config key hoperator) (hsame after))

/-- Texts that look like tags or like the end of a document stay values, and so do documents that
look like conditions; lists may grow, and texts that cannot be read may be others of that kind. -/
theorem values_never_shape_tags :
    let steps : List Step := [.raw "age" (.document [("$exists", .bool true)]),
      .number "age" (.isIn []), .date "at" .configured (.compareText .gt "soon"),
      .identifier none "x", .any "flag" (.compare .eq (.bool true)), .close,
      .text "name" (.eq "a"), .text "name" (.notIn ["b"]), .condition "flag" [(.ne, .null)],
      .remove "age", .build]
    let others : List Step := [.raw "age" (.document [("$exists", .bool true)]),
      .number "age" (.isIn [.null, .array []]), .date "at" .configured (.compareText .gt ""),
      .identifier none "", .any "flag" (.op .eq (.document [("$or", .null)])), .close,
      .text "name" (.eq "$or"), .text "name" (.notIn ["\x7d]", "$ne"]),
      .condition "flag" [(.ne, .document [])], .remove "age", .build]
    List.Forall₂ (Step.SameButValues .standard) steps others ∧
      List.Forall₂ Answer.Alike ((empty .standard).answers steps)
        ((empty .standard).answers others) ∧
      ((empty .standard).run (others.take 10)).closed.length = 1 ∧
      Entries.keys ((empty .standard).run (others.take 10)).current = ["name", "flag"] ∧
      ((empty .standard).run (others.take 10)).current.get? "name" =
        some (.document [("$eq", .text "$or"), ("$nin", .array [.text "\x7d]", .text "$ne"])]) := by
  intro steps others
  have hsame : List.Forall₂ (Step.SameButValues .standard) steps others :=
    .cons (.same _) <| .cons (Step.sameButValues_number _ _ rfl) <|
      .cons (Step.sameButValues_date _ _ rfl rfl) <|
      .cons (Step.sameButValues_identifier _ _ rfl) <|
      .cons (Step.sameButValues_any _ _ rfl) <| .cons (.same _) <|
      .cons (Step.sameButValues_text _ _ rfl) <| .cons (Step.sameButValues_text _ _ rfl) <|
      .cons (Step.sameButValues_condition _ _ rfl) <| .cons (.same _) <| .cons (.same _) .nil
  obtain ⟨halike, hanswers⟩ := (values_never_shape .standard).1 steps others hsame
  have hclosed := (halike 10).1.closed.length_eq
  have hkeys := (halike 10).1.current.keys_eq
  exact ⟨hsame, hanswers, hclosed.symm.trans rfl, hkeys.symm.trans rfl, rfl⟩

end Builder
end QueryFilter
