import Mathlib.Data.List.Basic
import QueryFilter.Proofs.Entries.Laws

/-!
What a sequence of writes leaves, told from the sequence as a whole. A key that was there keeps
its place and takes the last value written under it; the new keys follow in the order of their
first write, each with its last value. Up to order, the last values are all that matters.
-/

namespace QueryFilter.Entries

variable {κ α : Type} [DecidableEq κ]

/-- The value of the last write under a key. -/
def lastValue (written : List (κ × α)) (key : κ) : Option α :=
  (written.filter fun entry => entry.1 = key).getLast?.map Prod.snd

/-- The keys written, in the order of their first write, each with its last value. -/
def latest (written : List (κ × α)) : Entries κ α :=
  (written.map Prod.fst).eraseDups.filterMap fun key => (lastValue written key).map (key, ·)

/-- Entries under a sequence of writes. The writes under a key that is there are used up by
its first entry. -/
def overlay : Entries κ α → List (κ × α) → Entries κ α
  | [], written => latest written
  | (key, value) :: rest, written =>
      (key, (lastValue written key).getD value) ::
        overlay rest (written.filter fun entry => entry.1 ≠ key)

theorem lastValue_cons (entry : κ × α) (rest : List (κ × α)) (key : κ) :
    lastValue (entry :: rest) key =
      (lastValue rest key).or (if entry.1 = key then some entry.2 else none) := by
  by_cases h : entry.1 = key
  · simp only [lastValue, List.filter_cons, h, decide_true, if_true, List.getLast?_cons]
    cases (rest.filter fun entry => entry.1 = key).getLast? <;> rfl
  · simp [lastValue, h]

theorem lastValue_filter_ne (written : List (κ × α)) {key other : κ} (h : other ≠ key) :
    lastValue (written.filter fun entry => entry.1 ≠ key) other = lastValue written other := by
  simp only [lastValue, List.filter_filter]
  congr 2
  apply List.filter_congr
  intro entry _
  by_cases he : entry.1 = other <;> simp [he, h]

theorem lastValue_filter_self (written : List (κ × α)) (key : κ) :
    lastValue (written.filter fun entry => entry.1 ≠ key) key = none := by
  rw [lastValue, List.filter_filter]
  simp

theorem latest_cons (key : κ) (value : α) (rest : List (κ × α)) :
    latest ((key, value) :: rest) =
      (key, (lastValue rest key).getD value) ::
        latest (rest.filter fun entry => entry.1 ≠ key) := by
  have hself : lastValue ((key, value) :: rest) key =
      some ((lastValue rest key).getD value) := by
    rw [lastValue_cons]
    cases lastValue rest key <;> simp
  have hkeys : (rest.map Prod.fst).filter (fun other => !other == key) =
      (rest.filter fun entry => entry.1 ≠ key).map Prod.fst := by
    rw [List.filter_map]
    congr 2
    funext entry
    simp [Bool.beq_eq_decide_eq]
  simp only [latest, List.map_cons, List.eraseDups_cons, List.filterMap_cons, hself,
    Option.map_some, hkeys]
  congr 1
  apply List.filterMap_congr
  intro other hother
  have hne : other ≠ key := by
    obtain ⟨entry, hentry, rfl⟩ := List.mem_map.mp (List.mem_eraseDups.mp hother)
    simpa using (List.mem_filter.mp hentry).2
  rw [lastValue_filter_ne rest hne, lastValue_cons, if_neg hne.symm, Option.or_none]

/-- The first entry takes the writes under its key and the rest of the entries the others. -/
theorem insertAll_cons (key : κ) (value : α) (rest : Entries κ α) (written : List (κ × α)) :
    insertAll ((key, value) :: rest) written =
      (key, (lastValue written key).getD value) ::
        insertAll rest (written.filter fun entry => entry.1 ≠ key) := by
  induction written generalizing value rest with
  | nil => rfl
  | cons entry more ih =>
      by_cases h : key = entry.1
      · have hstep : insertAll ((key, value) :: rest) (entry :: more) =
            insertAll ((key, entry.2) :: rest) more := by simp [insertAll, insert, h]
        rw [hstep, ih, lastValue_cons, List.filter_cons]
        cases lastValue more key <;> simp [h]
      · have hstep : insertAll ((key, value) :: rest) (entry :: more) =
            insertAll ((key, value) :: insert rest entry.1 entry.2) more := by
          simp [insertAll, insert, h]
        rw [hstep, ih, lastValue_cons, List.filter_cons]
        simp [Ne.symm h, insertAll]

theorem insertAll_nil_left (written : List (κ × α)) : insertAll [] written = latest written := by
  match written with
  | [] => rfl
  | (key, value) :: rest =>
      rw [insertAll_cons_right, insert, insertAll_cons, insertAll_nil_left, latest_cons]
termination_by written.length
decreasing_by exact Nat.lt_succ_of_le (List.length_filter_le _ rest)

/-- Writing one pair after the other leaves what the sequence as a whole says. -/
theorem insertAll_eq_overlay (entries : Entries κ α) (written : List (κ × α)) :
    insertAll entries written = overlay entries written := by
  induction entries generalizing written with
  | nil => exact insertAll_nil_left written
  | cons entry rest ih =>
      obtain ⟨key, value⟩ := entry
      rw [insertAll_cons, ih, overlay]

theorem overlay_nil (entries : Entries κ α) : overlay entries [] = entries :=
  (insertAll_eq_overlay entries []).symm

theorem overlay_snoc (entries : Entries κ α) (written : List (κ × α)) (key : κ) (value : α) :
    overlay entries (written ++ [(key, value)]) =
      insert (overlay entries written) key value := by
  simp only [← insertAll_eq_overlay, insertAll, List.foldl_append, List.foldl_cons,
    List.foldl_nil]

theorem get?_insertAll (entries : Entries κ α) (written : List (κ × α)) (key : κ) :
    get? (insertAll entries written) key = (lastValue written key).or (get? entries key) := by
  induction written generalizing entries with
  | nil => rfl
  | cons entry rest ih =>
      rw [insertAll_cons_right, ih, lastValue_cons, get?_insert]
      cases lastValue rest key <;> by_cases h : entry.1 = key <;> simp [h]

theorem count_keys_insert (entries : Entries κ α) (key other : κ) (value : α) :
    (keys (insert entries key value)).count other =
      max ((keys entries).count other) (if key = other then 1 else 0) := by
  rw [keys_insert]
  by_cases hkey : key = other
  · subst hkey
    by_cases hmem : key ∈ keys entries
    · have hpos : 0 < (keys entries).count key := List.count_pos_iff.mpr hmem
      rw [if_pos hmem, if_pos rfl]
      omega
    · have hzero : (keys entries).count key = 0 := List.count_eq_zero.mpr hmem
      rw [if_neg hmem, List.count_append, hzero]
      simp
  · split <;> simp [List.count_append, hkey]

theorem count_keys_insertAll (entries : Entries κ α) (written : List (κ × α)) (key : κ) :
    (keys (insertAll entries written)).count key =
      max ((keys entries).count key) (if (lastValue written key).isSome then 1 else 0) := by
  induction written generalizing entries with
  | nil => exact (Nat.max_zero _).symm
  | cons entry rest ih =>
      rw [insertAll_cons_right, ih, count_keys_insert, lastValue_cons, Nat.max_assoc]
      cases lastValue rest key <;> by_cases h : entry.1 = key <;> simp [h]

theorem lastValue_isSome_iff (written : List (κ × α)) (key : κ) :
    (lastValue written key).isSome ↔ key ∈ written.map Prod.fst := by
  induction written with
  | nil => simp [lastValue]
  | cons entry rest ih =>
      rw [lastValue_cons, Option.isSome_or, Bool.or_eq_true, ih]
      by_cases h : entry.1 = key
      · simp [h]
      · simp [h, Ne.symm h]

theorem keys_latest (written : List (κ × α)) :
    keys (latest written) = (written.map Prod.fst).eraseDups := by
  rw [keys, latest, List.map_filterMap]
  have hsome : ∀ key ∈ (written.map Prod.fst).eraseDups,
      ((lastValue written key).map (key, ·)).map Prod.fst = some key := by
    intro key hkey
    have hwritten := (lastValue_isSome_iff written key).mpr (List.mem_eraseDups.mp hkey)
    obtain ⟨value, hvalue⟩ := Option.isSome_iff_exists.mp hwritten
    rw [hvalue]
    rfl
  rw [List.filterMap_congr hsome, List.filterMap_some]

/-- Pairs with different keys are entries as they stand. -/
theorem ofList_of_nodup {written : List (κ × α)} (h : (written.map Prod.fst).Nodup) :
    ofList written = written := by
  rw [ofList, insertAll_nil_left]
  induction written with
  | nil => rfl
  | cons entry rest ih =>
      obtain ⟨key, value⟩ := entry
      obtain ⟨hfresh, hrest⟩ := List.nodup_cons.mp h
      have hlast : lastValue rest key = none := by
        rwa [← Option.not_isSome_iff_eq_none, lastValue_isSome_iff]
      have hothers : rest.filter (fun entry => entry.1 ≠ key) = rest := by
        rw [List.filter_eq_self]
        intro other hother
        have hmem : other.1 ∈ rest.map Prod.fst := List.mem_map_of_mem hother
        exact decide_eq_true fun hkey => hfresh (hkey ▸ hmem)
      rw [latest_cons, hlast, hothers, ih hrest, Option.getD_none]

theorem nodup_keys_insertAll {entries : Entries κ α} (h : (keys entries).Nodup)
    (written : List (κ × α)) : (keys (insertAll entries written)).Nodup := by
  induction written generalizing entries with
  | nil => exact h
  | cons entry rest ih => exact ih (nodup_keys_insert h entry.1 entry.2)

theorem eq_nil_iff_of_lastValue {written others : List (κ × α)}
    (h : ∀ key, lastValue written key = lastValue others key) : written = [] ↔ others = [] := by
  have hmem : ∀ key, key ∈ written.map Prod.fst ↔ key ∈ others.map Prod.fst := by
    intro key
    rw [← lastValue_isSome_iff, ← lastValue_isSome_iff, h]
  rw [← List.map_eq_nil_iff (f := Prod.fst), ← List.map_eq_nil_iff (l := others) (f := Prod.fst),
    List.eq_nil_iff_forall_not_mem, List.eq_nil_iff_forall_not_mem]
  simp only [hmem]

/-- Writes that change no value change no place either. -/
theorem insertAll_eq_self {entries : Entries κ α} {written : List (κ × α)}
    (h : ∀ key, get? (insertAll entries written) key = get? entries key) :
    insertAll entries written = entries := by
  simp only [get?_insertAll] at h
  induction entries generalizing written with
  | nil =>
      have hnone : ∀ key, lastValue written key = lastValue [] key := by
        intro key
        rw [← Option.or_none (o := lastValue written key)]
        exact h key
      rw [(eq_nil_iff_of_lastValue hnone).mpr rfl]
      rfl
  | cons entry rest ih =>
      obtain ⟨key, value⟩ := entry
      rw [insertAll_cons, ih]
      · have hkey := h key
        simp only [get?, if_true] at hkey
        cases hlast : lastValue written key with
        | none => rfl
        | some last =>
            rw [hlast, Option.some_or, Option.some.injEq] at hkey
            rw [hkey, Option.getD_some]
      · intro other
        by_cases hother : other = key
        · rw [hother, lastValue_filter_self, Option.none_or]
        · have hrest := h other
          simp only [get?, if_neg (Ne.symm hother)] at hrest
          rw [lastValue_filter_ne written hother, hrest]

/-- Writing everything again changes nothing. -/
theorem insertAll_insertAll (entries : Entries κ α) (written : List (κ × α)) :
    insertAll (insertAll entries written) written = insertAll entries written := by
  apply insertAll_eq_self
  intro key
  simp only [get?_insertAll]
  cases lastValue written key <;> rfl

/-- The same keys with the same value under each, in whatever order. -/
structure Rearranged (entries others : Entries κ α) : Prop where
  keys : (keys entries).Perm (keys others)
  values : ∀ key, get? entries key = get? others key

/-- Two sequences of writes with the same last value under every key leave the same entries up to
their order. -/
theorem rearranged_insertAll (entries : Entries κ α) {written others : List (κ × α)}
    (h : ∀ key, lastValue written key = lastValue others key) :
    Rearranged (insertAll entries written) (insertAll entries others) where
  keys := by
    rw [List.perm_iff_count]
    intro key
    rw [count_keys_insertAll, count_keys_insertAll, h]
  values key := by rw [get?_insertAll, get?_insertAll, h]

end QueryFilter.Entries
