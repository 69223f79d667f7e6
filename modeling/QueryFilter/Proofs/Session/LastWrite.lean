import Mathlib.Data.List.DropRight
import Mathlib.Data.List.Induction
import QueryFilter.Proofs.Entries.Overlay
import QueryFilter.Proofs.Session.Effect

/-!
The current group, told from the calls since it was started. The last replacement or removal of
an entry gives its base, and every operator set after that has its last value over the base.
Keys stand in the order of their first write since they were last absent. Both accounts look at
the history as a whole; the proofs add one edit at a time at its end.
-/

namespace QueryFilter
namespace Edit

def setting? : Edit → Option (String × Value)
  | set _ op value => some (op.tag, value)
  | _ => none

def replacement? : Edit → Option Value
  | put _ value => some value
  | _ => none

/-- The value of the last replacement of an entry, unless it was removed later. -/
def base (history : List Edit) (key : String) : Option Value :=
  (history.filter fun e => e.key = key && e.setting?.isNone).getLast?.bind replacement?

/-- The operators set on a key since its entry was last replaced or removed. -/
def settings (history : List Edit) (key : String) : List (String × Value) :=
  ((history.filter fun e => e.key = key).rtakeWhile fun e => e.setting?.isSome).filterMap setting?

/-- The entry that a history leaves under a key. -/
def entry (history : List Edit) (key : String) : Option Value :=
  match settings history key with
  | [] => base history key
  | written => some (.document (Entries.overlay (documentOf (base history key)) written))

/-- The keys of the writes that no later removal takes back, in order. -/
def standing : List Edit → List String
  | [] => []
  | e :: rest =>
      if e.isDrop || rest.any (fun later => later.isDrop && later.key = e.key) then standing rest
      else e.key :: standing rest

/-- The keys that a history leaves, in the order of the first write of each that stands. -/
def keyOrder (history : List Edit) : List String := (standing history).eraseDups

theorem base_snoc (history : List Edit) (e : Edit) (key : String) :
    base (history ++ [e]) key =
      if e.key = key && e.setting?.isNone then e.replacement? else base history key := by
  simp only [base, List.filter_append, List.filter_cons, List.filter_nil]
  split
  · rw [List.getLast?_concat]
    rfl
  · rw [List.append_nil]

theorem settings_snoc (history : List Edit) (e : Edit) (key : String) :
    settings (history ++ [e]) key =
      if e.key = key then
        match e.setting? with
        | some written => settings history key ++ [written]
        | none => []
      else settings history key := by
  simp only [settings, List.filter_append, List.filter_cons, List.filter_nil]
  by_cases h : e.key = key
  · simp only [h, decide_true, if_true]
    cases hs : e.setting? with
    | some written =>
        rw [List.rtakeWhile_concat_pos _ _ _ (by simp [hs])]
        simp [hs]
    | none =>
        rw [List.rtakeWhile_concat_neg _ _ _ (by simp [hs])]
        rfl
  · simp [h]

theorem documentOf_entry (history : List Edit) (key : String) :
    documentOf (entry history key) =
      Entries.overlay (documentOf (base history key)) (settings history key) := by
  simp only [entry]
  split
  · next h => rw [h, Entries.overlay_nil]
  · rfl

theorem applyAll_snoc (group : Document) (history : List Edit) (e : Edit) :
    applyAll group (history ++ [e]) = e.apply (applyAll group history) := by
  simp only [applyAll, List.foldl_append, List.foldl_cons, List.foldl_nil]

theorem entry_snoc_of_ne (history : List Edit) (e : Edit) {key : String} (h : e.key ≠ key) :
    entry (history ++ [e]) key = entry history key := by
  simp [entry, settings_snoc, base_snoc, h]

theorem entry_snoc_self (history : List Edit) (e : Edit) :
    entry (history ++ [e]) e.key =
      match e.setting? with
      | some written =>
          some (.document ((documentOf (entry history e.key)).insert written.1 written.2))
      | none => e.replacement? := by
  cases hs : e.setting? with
  | some written =>
      obtain ⟨tag, value⟩ := written
      have hsettings : settings (history ++ [e]) e.key =
          settings history e.key ++ [(tag, value)] := by simp [settings_snoc, hs]
      have hbase : base (history ++ [e]) e.key = base history e.key := by
        simp [base_snoc, hs]
      simp only [documentOf_entry, ← Entries.overlay_snoc]
      simp only [entry, hsettings, hbase]
      cases settings history e.key <;> rfl
  | none =>
      have hsettings : settings (history ++ [e]) e.key = [] := by simp [settings_snoc, hs]
      simp [entry, hsettings, base_snoc, hs]

theorem get?_applyAll (history : List Edit) (key : String) :
    (applyAll [] history).get? key = entry history key := by
  induction history using List.reverseRecOn with
  | nil => rfl
  | append_singleton history e ih =>
      rw [applyAll_snoc]
      by_cases h : e.key = key
      · subst h
        rw [entry_snoc_self]
        cases e with
        | set key op value =>
            simp only [Edit.key] at ih
            simp only [apply, Edit.key, setting?, Entries.get?_insert_self, ih]
        | put key value => exact Entries.get?_insert_self _ key value
        | drop key => exact Entries.get?_erase_self _ key
      · rw [entry_snoc_of_ne history e h, get?_apply_of_ne _ e h, ih]

-- An operator that the replaced entry has already keeps its place, and a new one is added.
example :
    entry [.put "a" (.document [("x", .null), ("$eq", .null)]), .set "a" .gt (.bool true),
      .set "a" .eq (.bool false), .set "b" .eq .null, .set "a" .gt .null] "a" =
      some (.document [("x", .null), ("$eq", .bool false), ("$gt", .null)]) := rfl

private theorem eraseDups_filter (keys : List String) (p : String → Bool) :
    (keys.filter p).eraseDups = keys.eraseDups.filter p := by
  match keys with
  | [] => rfl
  | key :: rest =>
      have ih := eraseDups_filter (rest.filter fun other => !other == key) p
      rw [List.eraseDups_cons, List.filter_cons]
      cases hp : p key with
      | true =>
          rw [if_pos rfl, List.filter_cons_of_pos hp, List.eraseDups_cons, ← ih,
            List.filter_filter, List.filter_filter]
          simp only [Bool.and_comm]
      | false =>
          rw [if_neg (by simp), List.filter_cons_of_neg (by simp [hp]), ← ih, List.filter_filter]
          congr 1
          apply List.filter_congr
          intro other _
          by_cases h : other = key
          · simp [h, hp]
          · simp [h]
termination_by keys.length
decreasing_by exact Nat.lt_succ_of_le (List.length_filter_le _ rest)

private theorem eraseDups_snoc (keys : List String) (key : String) :
    (keys ++ [key]).eraseDups =
      if key ∈ keys then keys.eraseDups else keys.eraseDups ++ [key] := by
  rw [List.eraseDups_append]
  by_cases h : key ∈ keys
  · simp [List.removeAll, h]
  · simp [List.removeAll, h, List.eraseDups_cons]

theorem standing_snoc (history : List Edit) (e : Edit) :
    standing (history ++ [e]) =
      if e.isDrop then (standing history).filter fun key => key ≠ e.key
      else standing history ++ [e.key] := by
  induction history with
  | nil => cases e <;> rfl
  | cons first rest ih =>
      -- A write taken back before the end is gone either way; one that stands goes with its key.
      simp only [List.cons_append, standing, List.any_append, List.any_cons, List.any_nil,
        Bool.or_false, ih, ← Bool.or_assoc]
      cases hgone : first.isDrop || rest.any fun later => later.isDrop && later.key = first.key with
      | true => simp
      | false =>
          cases hdrop : e.isDrop with
          | false => simp
          | true =>
              by_cases hkey : e.key = first.key
              · simp [hkey]
              · simp [hkey, Ne.symm hkey]

theorem keys_applyAll (history : List Edit) :
    Entries.keys (applyAll [] history) = keyOrder history := by
  induction history using List.reverseRecOn with
  | nil => rfl
  | append_singleton history e ih =>
      have hmem : ∀ key, key ∈ Entries.keys (applyAll [] history) ↔ key ∈ standing history := by
        intro key
        rw [ih, keyOrder, List.mem_eraseDups]
      rw [applyAll_snoc, keyOrder, standing_snoc]
      cases e with
      | set key op value | put key value =>
          simp only [apply, Entries.keys_insert, hmem, isDrop, Bool.false_eq_true, if_false,
            eraseDups_snoc, Edit.key]
          rw [ih, keyOrder]
      | drop key =>
          simp only [apply, isDrop, if_true, eraseDups_filter, Edit.key]
          rw [Entries.keys_erase, ih, keyOrder]
          rfl

end Edit

namespace Builder

/-- Whether a call starts a new group. Closing an empty group does nothing. -/
def startsGroup (b : Builder) : Step → Bool
  | .close => !b.current.isEmpty
  | .reset | .build => true
  | _ => false

/-- The calls of a session since its current group was started, after those already made. -/
def sinceStart (b : Builder) (made : List Step) : List Step → List Step
  | [] => made
  | step :: rest =>
      sinceStart (b.apply step) (if b.startsGroup step then [] else made ++ [step]) rest

/-- The edits that calls make to the group that is open throughout. -/
def history (config : Config) (calls : List Step) : List Edit :=
  calls.flatMap fun step => (step.effect config).edits

/-- Calls that only edit the current group leave it as their edits do, and the rest as it was. -/
theorem run_of_isEdit (b : Builder) {steps : List Step} (h : ∀ step ∈ steps, step.isEdit) :
    b.run steps =
      { b with current := Edit.applyAll b.current (history b.config steps) } := by
  induction steps generalizing b with
  | nil => rfl
  | cons step rest ih =>
      have hstep := apply_eq_of_isEdit b (h step List.mem_cons_self)
      rw [run_cons, ih _ fun later hlater => h later (List.mem_cons_of_mem step hlater), hstep]
      simp only [history, List.flatMap_cons, Edit.applyAll, List.foldl_append]

theorem current_apply (b : Builder) (step : Step) :
    (b.apply step).current =
      if b.startsGroup step then [] else Edit.applyAll b.current (step.effect b.config).edits := by
  rw [apply_eq_perform]
  cases hedit : step.isEdit with
  | true =>
      have hstart : b.startsGroup step = false := by cases step <;> first | rfl | cases hedit
      rw [hstart, Step.effect_of_isEdit hedit]
      rfl
  | false =>
      cases step with
      | close =>
          obtain ⟨config, closed, current⟩ := b
          cases current <;> rfl
      | removeAll _ | reset | build => rfl
      | _ => cases hedit

theorem current_run (b : Builder) (made steps : List Step)
    (h : b.current = Edit.applyAll [] (history b.config made)) :
    (b.run steps).current = Edit.applyAll [] (history b.config (b.sinceStart made steps)) := by
  induction steps generalizing b made with
  | nil => exact h
  | cons step rest ih =>
      rw [run_cons, sinceStart, ← config_apply b step]
      apply ih
      rw [current_apply, config_apply]
      split
      · rfl
      · rw [h]
        simp only [history, List.flatMap_append, List.flatMap_cons, List.flatMap_nil,
          List.append_nil, Edit.applyAll, List.foldl_append]

/-- In every session the entries of the current group and the order of its keys are those of the
calls since it was started: the last replacement or removal of each entry under the last value of
each operator set after it. -/
theorem current_last_write_wins (config : Config) (steps : List Step) :
    let edits := history config ((empty config).sinceStart [] steps)
    (∀ key, ((empty config).run steps).current.get? key = Edit.entry edits key) ∧
      Entries.keys ((empty config).run steps).current = Edit.keyOrder edits := by
  intro edits
  have hcurrent : ((empty config).run steps).current = Edit.applyAll [] edits :=
    current_run (empty config) [] steps rfl
  rw [hcurrent]
  exact ⟨Edit.get?_applyAll edits, Edit.keys_applyAll edits⟩

/-- Every kind of call that writes, after a group that does not count. The record replaces the value
of one operator and leaves out a field with nothing in it, a raw value replaces an entry, the
condition adds to one, and the key that was removed comes last when it is written again. -/
theorem current_last_write_wins_views :
    let steps : List Step := [.text "old" (.eq "x"), .close,
      .text "name" (.eq "a"), .date "at" .configured (.compareText .gt "2024-01-29T10:20:30Z"),
      .number "age" (.between (.number (.signed 18)) (.number (.signed 30))),
      .any "done" (.compare .ne .null), .identifier none "5f1a2b3c4d5e6f7a8b9c0d1e",
      .raw "done" (.bool true),
      .record [⟨"name", .scalar (.text "b")⟩, ⟨"page", .scalar (.text "")⟩,
        ⟨"codes", .sequence [.bool false]⟩],
      .remove "at", .condition "age" [(.lte, .number (.signed 40)), (.ne, .null)],
      .text "name" (.like "^b"),
      .date "at" (.replaced (.given (.pattern "%Y")) .rfc3339)
        (.compareText .lt "2024-01-29T00:00:00Z")]
    let current := ((empty .standard).run steps).current
    Entries.keys current = ["name", "age", "done", "_id", "codes", "at"] ∧
      current.get? "name" =
        some (.document [("$eq", .text "b"), ("$regex", .pattern (.plain "^b"))]) ∧
      current.get? "age" =
        some (.document [("$gte", .number (.signed 18)), ("$lte", .number (.signed 40)),
          ("$ne", .null)]) ∧
      current.get? "done" = some (.bool true) ∧
      current.get? "_id" =
        some (.document [("$eq", .identifier ⟨[0x5f, 0x1a, 0x2b, 0x3c, 0x4d, 0x5e, 0x6f, 0x7a,
          0x8b, 0x9c, 0x0d, 0x1e], by decide⟩)]) ∧
      current.get? "codes" = some (.document [("$in", .array [.bool false])]) ∧
      current.get? "at" =
        some (.document [("$lt", .instant ⟨1706486400, 0, by decide, by decide, by decide,
          by decide⟩)]) := by
  intro steps current
  obtain ⟨hentries, hkeys⟩ := current_last_write_wins .standard steps
  exact ⟨hkeys.trans rfl, (hentries "name").trans rfl, (hentries "age").trans rfl,
    (hentries "done").trans rfl, (hentries "_id").trans rfl, (hentries "codes").trans rfl,
    (hentries "at").trans rfl⟩

end Builder
end QueryFilter
