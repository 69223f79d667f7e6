import QueryFilter.Builder
import QueryFilter.Proofs.Entries.Laws

/-!
Edits of one entry of a group. Every write of a builder comes down to them: setting operators
through one condition, which merges all of them again after each set, does no more than setting
them one by one.
-/

namespace QueryFilter

/-- An edit of the entry of a group under one key: it sets an operator, replaces the entry or
removes it. -/
inductive Edit where
  | set (key : String) (op : Operator) (value : Value)
  | put (key : String) (value : Value)
  | drop (key : String)

/-- The entries that operators set on a field are added to: those of a document, and none where
there is something else or nothing. -/
def documentOf : Option Value → Document
  | some (.document entries) => entries
  | _ => []

namespace Edit

def key : Edit → String
  | set key _ _ | put key _ | drop key => key

def isDrop : Edit → Bool
  | drop _ => true
  | _ => false

def writesTo (key : String) (e : Edit) : Bool := e.key = key && !e.isDrop

@[simp] theorem writesTo_set (target key : String) (op : Operator) (value : Value) :
    (set target op value).writesTo key = decide (target = key) := Bool.and_true _

@[simp] theorem writesTo_put (target key : String) (value : Value) :
    (put target value).writesTo key = decide (target = key) := Bool.and_true _

@[simp] theorem writesTo_drop (target key : String) : (drop target).writesTo key = false :=
  Bool.and_false _

def apply (group : Document) : Edit → Document
  | set key op value =>
      group.insert key (.document ((documentOf (group.get? key)).insert op.tag value))
  | put key value => group.insert key value
  | drop key => Entries.erase group key

def applyAll (group : Document) (edits : List Edit) : Document := edits.foldl apply group

theorem applyAll_cons (group : Document) (e : Edit) (rest : List Edit) :
    applyAll group (e :: rest) = applyAll (e.apply group) rest := rfl

theorem get?_apply_of_ne (group : Document) (e : Edit) {other : String} (h : e.key ≠ other) :
    (e.apply group).get? other = group.get? other := by
  cases e with
  | set key op value => exact Entries.get?_insert_of_ne group _ h
  | put key value => exact Entries.get?_insert_of_ne group value h
  | drop key => exact Entries.get?_erase_of_ne group h

theorem erase_apply_self (group : Document) (e : Edit) :
    Entries.erase (e.apply group) e.key = Entries.erase group e.key := by
  cases e with
  | set key op value => exact Entries.erase_insert_self group key _
  | put key value => exact Entries.erase_insert_self group key value
  | drop key => exact Entries.erase_erase_self group key

theorem erase_apply_of_ne (group : Document) (e : Edit) {key : String} (h : e.key ≠ key) :
    Entries.erase (e.apply group) key = e.apply (Entries.erase group key) := by
  cases e with
  | set other op value =>
      have hget : Entries.get? (Entries.erase group key) other = group.get? other :=
        Entries.get?_erase_of_ne group (Ne.symm h)
      simp only [apply, hget]
      exact Entries.erase_insert_of_ne group _ h
  | put other value => exact Entries.erase_insert_of_ne group value h
  | drop other => exact Entries.erase_erase_comm group other key

/-- Without one key, a group is what the edits that do not write that key make of it. -/
theorem erase_applyAll (group : Document) (edits : List Edit) (key : String) :
    Entries.erase (applyAll group edits) key =
      applyAll (Entries.erase group key) (edits.filter fun e => !e.writesTo key) := by
  induction edits generalizing group with
  | nil => rfl
  | cons e rest ih =>
      rw [applyAll_cons, ih, List.filter_cons]
      by_cases h : e.key = key
      · subst h
        rw [erase_apply_self]
        cases e with
        | set target op value | put target value => simp [key]
        | drop target => simp [applyAll, apply, key, Entries.erase_erase_self]
      · rw [erase_apply_of_ne group e h]
        simp [writesTo, h, applyAll]

end Edit

namespace Condition

theorem tagged_set (c : Condition) (op : Operator) (value : Value) :
    (c.set op value).tagged = Entries.insert c.tagged op.tag value := by
  obtain ⟨key, ops⟩ := c
  simp only [tagged, set]
  induction ops with
  | nil => rfl
  | cons entry rest ih =>
      by_cases h : entry.1 = op
      · simp [Entries.insert, h]
      · have htag : entry.1.tag ≠ op.tag := fun ht => h (Operator.tag_injective ht)
        simp [Entries.insert, h, htag, ih]

/-- The operators set through a condition so far are in the group, each with its last value. -/
structure Merged (c : Condition) (group : Document) : Prop where
  distinct : (Entries.keys c.tagged).Nodup
  held : c.tagged ≠ [] → ∃ entries, group.get? c.key = some (.document entries) ∧
    ∀ tag value, Entries.get? c.tagged tag = some value → Entries.get? entries tag = some value

theorem merged_on (key : String) (group : Document) : (on key).Merged group :=
  ⟨List.nodup_nil, fun h => absurd rfl h⟩

/-- Merging everything that was set adds the last set alone. -/
theorem mergeInto_set {c : Condition} {group : Document} (h : c.Merged group) (op : Operator)
    (value : Value) :
    (c.set op value).mergeInto group = (Edit.set c.key op value).apply group := by
  have hkey : (c.set op value).key = c.key := rfl
  by_cases hnil : c.tagged = []
  · have htagged : (c.set op value).tagged = [(op.tag, value)] := by
      rw [tagged_set, hnil, Entries.insert]
    simp only [mergeInto, Edit.apply, hkey, htagged]
    cases hget : group.get? c.key with
    | none => rfl
    | some found => cases found <;> rfl
  · obtain ⟨entries, hget, hheld⟩ := h.held hnil
    have hall : Entries.insertAll entries (c.set op value).tagged =
        Entries.insert entries op.tag value := by
      rw [tagged_set]
      exact Entries.insertAll_insert value h.distinct fun tag v _ => hheld tag v
    simp only [mergeInto, Edit.apply, hkey, hget, hall, documentOf]

theorem merged_set {c : Condition} {group : Document} (h : c.Merged group) (op : Operator)
    (value : Value) : (c.set op value).Merged ((c.set op value).mergeInto group) := by
  refine ⟨?_, fun _ => ?_⟩
  · rw [tagged_set]
    exact Entries.nodup_keys_insert h.distinct op.tag value
  · rw [mergeInto_set h]
    refine ⟨_, Entries.get?_insert_self group c.key _, ?_⟩
    intro tag v hget
    rw [tagged_set, Entries.get?_insert] at hget
    rw [Entries.get?_insert]
    split
    · next ht => simpa [ht] using hget
    · next ht =>
      rw [if_neg ht] at hget
      have hnil : c.tagged ≠ [] := by
        intro hnil
        simp [hnil] at hget
      obtain ⟨entries, hentries, hheld⟩ := h.held hnil
      simpa [hentries, documentOf] using hheld tag v hget

end Condition

namespace Builder

theorem setAll_eq_edits (b : Builder) {c : Condition} (h : c.Merged b.current)
    (writes : List (Operator × Value)) :
    (b.setAll c writes).2 =
      { b with
        current := Edit.applyAll b.current (writes.map fun w => .set c.key w.1 w.2) } := by
  induction writes generalizing b c with
  | nil => rfl
  | cons w rest ih =>
      obtain ⟨op, value⟩ := w
      have hrest := ih { b with current := (c.set op value).mergeInto b.current }
        (Condition.merged_set h op value)
      simp only [setAll, set]
      rw [hrest, Condition.mergeInto_set h]
      rfl

theorem write_eq_edits (b : Builder) (key : String) (writes : List (Operator × Value)) :
    b.write key writes =
      { b with current := Edit.applyAll b.current (writes.map fun w => .set key w.1 w.2) } :=
  b.setAll_eq_edits (Condition.merged_on key b.current) writes

end Builder
end QueryFilter
