import QueryFilter.Entries

/-!
How writing and erasing go together. Erasing a key forgets the writes under it and commutes
with writes under other keys, in content and in order; writing a value that is already there
changes nothing. No statement here needs the keys to be distinct unless it says so.
-/

namespace QueryFilter.Entries

variable {κ α : Type} [DecidableEq κ]

theorem insertAll_cons_right (entries : Entries κ α) (entry : κ × α) (rest : List (κ × α)) :
    insertAll entries (entry :: rest) = insertAll (insert entries entry.1 entry.2) rest := rfl

theorem erase_insert_self (entries : Entries κ α) (key : κ) (value : α) :
    erase (insert entries key value) key = erase entries key := by
  induction entries with
  | nil => simp [insert, erase]
  | cons entry rest ih =>
      simp only [insert]
      split
      · next he => simp [erase_cons, he]
      · next he => simp only [erase_cons, he, if_false, ih]

theorem erase_insert_of_ne (entries : Entries κ α) {key other : κ} (value : α)
    (h : other ≠ key) :
    erase (insert entries other value) key = insert (erase entries key) other value := by
  induction entries with
  | nil => simp [insert, erase, h]
  | cons entry rest ih =>
      by_cases he : entry.1 = other
      · simp [insert, erase_cons, he, h]
      · by_cases hk : entry.1 = key
        · simp [insert, erase_cons, hk, h.symm, ih]
        · simp [insert, erase_cons, he, hk, ih]

theorem erase_erase_comm (entries : Entries κ α) (key other : κ) :
    erase (erase entries key) other = erase (erase entries other) key := by
  simp only [erase, List.filter_filter, Bool.and_comm]

theorem erase_erase_self (entries : Entries κ α) (key : κ) :
    erase (erase entries key) key = erase entries key := by
  simp only [erase, List.filter_filter, Bool.and_self]

theorem get?_insert (entries : Entries κ α) (key other : κ) (value : α) :
    get? (insert entries key value) other =
      if key = other then some value else get? entries other := by
  split
  · next h => exact h ▸ get?_insert_self entries key value
  · next h => exact get?_insert_of_ne entries value h

theorem get?_eq_none_iff (entries : Entries κ α) (key : κ) :
    get? entries key = none ↔ key ∉ keys entries := by
  induction entries with
  | nil => simp [keys]
  | cons entry rest ih =>
      by_cases h : entry.1 = key
      · simp [get?, keys, h]
      · simp only [keys] at ih
        simp [get?, keys, h, ih, Ne.symm h]

theorem mem_of_get? {entries : Entries κ α} {key : κ} {value : α}
    (h : get? entries key = some value) : (key, value) ∈ entries := by
  induction entries with
  | nil => cases h
  | cons entry rest ih =>
      by_cases he : entry.1 = key
      · simp only [get?, he, if_true, Option.some.injEq] at h
        rw [← he, ← h]
        exact List.mem_cons_self
      · simp only [get?, he, if_false] at h
        exact List.mem_cons_of_mem entry (ih h)

theorem mem_or_eq_of_mem_insert {entries : Entries κ α} {key : κ} {value : α} {entry : κ × α}
    (h : entry ∈ insert entries key value) : entry ∈ entries ∨ entry = (key, value) := by
  induction entries with
  | nil => exact .inr (List.mem_singleton.mp h)
  | cons first rest ih =>
      simp only [insert] at h
      split at h
      · next he =>
        rcases List.mem_cons.mp h with rfl | hrest
        · exact .inr (by rw [he])
        · exact .inl (List.mem_cons_of_mem first hrest)
      · rcases List.mem_cons.mp h with rfl | hrest
        · exact .inl List.mem_cons_self
        · exact (ih hrest).imp_left (List.mem_cons_of_mem first)

theorem insert_ne_nil (entries : Entries κ α) (key : κ) (value : α) :
    insert entries key value ≠ [] := by
  cases entries with
  | nil => exact List.cons_ne_nil _ _
  | cons entry rest =>
      simp only [insert]
      split <;> exact List.cons_ne_nil _ _

/-- Writing the value that a key already has changes nothing. -/
theorem insert_of_get? {entries : Entries κ α} {key : κ} {value : α}
    (h : get? entries key = some value) : insert entries key value = entries := by
  induction entries with
  | nil => simp at h
  | cons entry rest ih =>
      by_cases he : entry.1 = key
      · simp only [get?, he, if_true, Option.some.injEq] at h
        simp [insert, ← he, ← h]
      · simp only [get?, he, if_false] at h
        simp [insert, he, ih h]

/-- Writing pairs that are all there already changes nothing. -/
theorem insertAll_of_get? {entries written : Entries κ α}
    (distinct : (keys written).Nodup)
    (held : ∀ key value, get? written key = some value → get? entries key = some value) :
    insertAll entries written = entries := by
  induction written with
  | nil => rfl
  | cons entry rest ih =>
      obtain ⟨hfresh, hrest⟩ := List.nodup_cons.mp distinct
      have hentry : insert entries entry.1 entry.2 = entries :=
        insert_of_get? (held entry.1 entry.2 (by simp [get?]))
      have hheld : ∀ key value, get? rest key = some value → get? entries key = some value := by
        intro key value hget
        have hne : entry.1 ≠ key := by
          rintro rfl
          rw [(get?_eq_none_iff rest entry.1).mpr hfresh] at hget
          cases hget
        exact held key value (by simpa [get?, hne] using hget)
      simpa only [insertAll, List.foldl_cons, hentry] using ih hrest hheld

/-- Writing everything again after one more write only adds that write. -/
theorem insertAll_insert {entries written : Entries κ α} {key : κ} (value : α)
    (distinct : (keys written).Nodup)
    (held : ∀ other v, other ≠ key → get? written other = some v →
      get? entries other = some v) :
    insertAll entries (insert written key value) = insert entries key value := by
  induction written with
  | nil => rfl
  | cons entry rest ih =>
      obtain ⟨hfresh, hrest⟩ := List.nodup_cons.mp distinct
      have habsent : get? rest entry.1 = none := (get?_eq_none_iff rest entry.1).mpr hfresh
      have hlater : ∀ other v, get? rest other = some v →
          entry.1 ≠ other ∧ get? (entry :: rest) other = some v := by
        intro other v hget
        have hne : entry.1 ≠ other := by
          rintro rfl
          rw [habsent] at hget
          cases hget
        exact ⟨hne, by simpa [get?, hne] using hget⟩
      by_cases he : entry.1 = key
      · subst he
        simp only [insert, if_true, insertAll, List.foldl_cons]
        apply insertAll_of_get? hrest
        intro other v hget
        obtain ⟨hne, hfull⟩ := hlater other v hget
        rw [get?_insert_of_ne _ _ hne]
        exact held other v hne.symm hfull
      · have hentry : insert entries entry.1 entry.2 = entries :=
          insert_of_get? (held entry.1 entry.2 he (by simp [get?]))
        simp only [insert, if_neg he, insertAll, List.foldl_cons, hentry]
        exact ih hrest fun other v hne hget => held other v hne (hlater other v hget).2

end QueryFilter.Entries
