import QueryFilter.Proofs.Entries.Overlay
import QueryFilter.Proofs.Session.Effect

/-!
A condition that is kept while operators are set through it, and a fresh one for each of them. The
kept one merges everything that was set before into the group again, after every set. Nothing comes
of it: the group holds all of this already, each operator in its place and with its last value, so
the builder is at any time the one that fresh conditions leave.
-/

namespace QueryFilter

theorem Condition.get?_tagged (c : Condition) (op : Operator) :
    Entries.get? c.tagged op.tag = c.ops.get? op := by
  obtain ⟨key, ops⟩ := c
  simp only [tagged]
  induction ops with
  | nil => rfl
  | cons entry rest ih =>
      by_cases h : entry.1 = op
      · simp [Entries.get?, h]
      · have htag : entry.1.tag ≠ op.tag := fun ht => h (Operator.tag_injective ht)
        simp [Entries.get?, h, htag, ih]

namespace Builder

/-- Sets operators on a field, each through a condition of its own. -/
def setEach (b : Builder) (key : String) (writes : List (Operator × Value)) : Builder :=
  writes.foldl (fun b w => (b.set (.on key) w.1 w.2).2) b

theorem setAll_append (b : Builder) (c : Condition) (first second : List (Operator × Value)) :
    b.setAll c (first ++ second) = (b.setAll c first).2.setAll (b.setAll c first).1 second := by
  induction first generalizing b c with
  | nil => rfl
  | cons w rest ih => exact ih _ _

theorem key_setAll (b : Builder) (c : Condition) (writes : List (Operator × Value)) :
    (b.setAll c writes).1.key = c.key := by
  induction writes generalizing b c with
  | nil => rfl
  | cons w rest ih => exact ih _ _

theorem ops_setAll (b : Builder) (c : Condition) (writes : List (Operator × Value)) :
    (b.setAll c writes).1.ops = Entries.insertAll c.ops writes := by
  induction writes generalizing b c with
  | nil => rfl
  | cons w rest ih => exact ih _ _

theorem merged_setAll (b : Builder) {c : Condition} (h : c.Merged b.current)
    (writes : List (Operator × Value)) :
    (b.setAll c writes).1.Merged (b.setAll c writes).2.current := by
  induction writes generalizing b c with
  | nil => exact h
  | cons w rest ih => exact ih _ (Condition.merged_set h w.1 w.2)

theorem setEach_eq_edits (b : Builder) (key : String) (writes : List (Operator × Value)) :
    b.setEach key writes =
      { b with current := Edit.applyAll b.current (writes.map fun w => .set key w.1 w.2) } := by
  induction writes generalizing b with
  | nil => rfl
  | cons w rest ih =>
      have hfirst : (b.set (.on key) w.1 w.2).2 =
          { b with current := Edit.applyAll b.current [.set key w.1 w.2] } :=
        b.write_eq_edits key [w]
      have hrest := ih (b.set (.on key) w.1 w.2).2
      rw [hfirst] at hrest
      rw [setEach, List.foldl_cons, hfirst]
      exact hrest

theorem write_eq_setEach (b : Builder) (key : String) (writes : List (Operator × Value)) :
    b.write key writes = b.setEach key writes := by
  rw [write_eq_edits, setEach_eq_edits]

/-- What was set through a kept condition stands under its tag in the group. -/
theorem get?_of_get?_ops (b : Builder) (key : String) (writes : List (Operator × Value))
    {op : Operator} {value : Value}
    (h : (b.setAll (.on key) writes).1.ops.get? op = some value) :
    ∃ entries : Document,
      (b.setAll (.on key) writes).2.current.get? key = some (.document entries) ∧
        entries.get? op.tag = some value := by
  have hmerged := b.merged_setAll (Condition.merged_on key b.current) writes
  have htag := (Condition.get?_tagged _ op).trans h
  have hset : (b.setAll (.on key) writes).1.tagged ≠ [] := by
    intro hnil
    rw [hnil] at htag
    cases htag
  obtain ⟨entries, hentries, hheld⟩ := hmerged.held hset
  rw [key_setAll] at hentries
  exact ⟨entries, hentries, hheld op.tag value htag⟩

/-- Operators set through one condition leave, after each of them, the builder that a fresh
condition for each would leave. The condition keeps every operator once, in the order in which they
were first set and with the last value, and each is in the group under its tag. So a range is its
two ends, set one after the other. -/
theorem kept_condition_eq_fresh (b : Builder) (key : String) :
    (∀ (writes : List (Operator × Value)) (n : Nat),
      let kept := b.setAll (.on key) (writes.take n)
      b.setAll (.on key) writes = kept.2.setAll kept.1 (writes.drop n) ∧
        kept.2 = b.setEach key (writes.take n) ∧
        Entries.keys kept.1.ops = ((writes.take n).map Prod.fst).eraseDups ∧
        (Entries.keys kept.1.ops).Nodup ∧
        (∀ op, kept.1.ops.get? op = Entries.lastValue (writes.take n) op) ∧
        ∀ op value, kept.1.ops.get? op = some value → ∃ entries : Document,
          kept.2.current.get? key = some (.document entries) ∧
            entries.get? op.tag = some value) ∧
    (∀ least greatest : Value, b.apply (.number key (.between least greatest)) =
      b.run [.number key (.compare .gte least), .number key (.compare .lte greatest)]) ∧
    ∀ format first last, b.apply (.date key format (.between first last)) =
      b.run [.date key format (.compare .gte first), .date key format (.compare .lte last)] := by
  refine ⟨?_, ?_, ?_⟩
  · intro writes n kept
    have hops : kept.1.ops = Entries.insertAll [] (writes.take n) :=
      b.ops_setAll (.on key) (writes.take n)
    refine ⟨?_, b.write_eq_setEach key _, ?_, ?_, ?_, ?_⟩
    · rw [← setAll_append, List.take_append_drop]
    · rw [hops, Entries.insertAll_nil_left, Entries.keys_latest]
    · have hnone : (Entries.keys ([] : Entries Operator Value)).Nodup := List.nodup_nil
      rw [hops]
      exact Entries.nodup_keys_insertAll hnone _
    · intro op
      rw [hops, Entries.get?_insertAll, Entries.get?_nil, Option.or_none]
    · intro op value hop
      exact b.get?_of_get?_ops key _ hop
  · intro least greatest
    exact b.write_eq_setEach key (rangeWrites least greatest)
  · intro format first last
    exact b.write_eq_setEach key (rangeWrites (.instant first) (.instant last))

/-- The operator set first is set again last, over an entry that holds it already and one more. -/
theorem kept_condition_eq_fresh_repeated :
    let b := (empty .standard).raw "k" (.document [("x", .null), ("$eq", .null)])
    let writes : List (Operator × Value) :=
      [(.gt, .null), (.eq, .bool true), (.gt, .bool false)]
    let kept := b.setAll (.on "k") (writes.take 3)
    kept.1.ops = [(.gt, .bool false), (.eq, .bool true)] ∧
      ∃ entries : Document, kept.2.current.get? "k" = some (.document entries) ∧
        entries.get? Operator.gt.tag = some (.bool false) := by
  intro b writes kept
  exact ⟨rfl, ((kept_condition_eq_fresh b "k").1 writes 3).2.2.2.2.2 .gt (.bool false) rfl⟩

end Builder
end QueryFilter
