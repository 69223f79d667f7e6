/-!
Entries kept in insertion order. Writing under a key that is present keeps its place,
writing under a new key appends, and erasing keeps the order of the rest. Documents, groups
and the operators of a condition are all entries.
-/

namespace QueryFilter

/-- Pairs of a key and a value, in the order in which the keys were first written. -/
abbrev Entries (κ α : Type) := List (κ × α)

namespace Entries

variable {κ α β : Type} [DecidableEq κ]

def get? : Entries κ α → κ → Option α
  | [], _ => none
  | (k, v) :: rest, key => if k = key then some v else get? rest key

/-- Writes a value under a key: in place if the key is present, at the end if not. -/
def insert : Entries κ α → κ → α → Entries κ α
  | [], key, value => [(key, value)]
  | (k, v) :: rest, key, value =>
      if k = key then (k, value) :: rest else (k, v) :: insert rest key value

def erase (entries : Entries κ α) (key : κ) : Entries κ α :=
  entries.filter fun entry => entry.1 ≠ key

/-- Writes every pair of the second argument, in order. -/
def insertAll (entries : Entries κ α) (written : List (κ × α)) : Entries κ α :=
  written.foldl (fun acc entry => insert acc entry.1 entry.2) entries

/-- The entries that writing the pairs in order leaves. -/
def ofList (written : List (κ × α)) : Entries κ α := insertAll [] written

def keys (entries : Entries κ α) : List κ := entries.map Prod.fst

def hasKey (entries : Entries κ α) (key : κ) : Bool := (get? entries key).isSome

@[simp] theorem get?_nil (key : κ) : get? ([] : Entries κ α) key = none := rfl

theorem get?_insert_self (entries : Entries κ α) (key : κ) (value : α) :
    get? (insert entries key value) key = some value := by
  induction entries with
  | nil => simp [insert, get?]
  | cons entry rest ih =>
      simp only [insert]
      split <;> simp_all [get?]

theorem get?_insert_of_ne (entries : Entries κ α) {key other : κ} (value : α)
    (h : key ≠ other) : get? (insert entries key value) other = get? entries other := by
  induction entries with
  | nil => simp [insert, get?, h]
  | cons entry rest ih =>
      simp only [insert]
      split
      · next he => simp [get?, he, h]
      · simp only [get?, ih]

theorem erase_cons (entry : κ × α) (rest : Entries κ α) (key : κ) :
    erase (entry :: rest) key =
      if entry.1 = key then erase rest key else entry :: erase rest key := by
  by_cases h : entry.1 = key <;> simp [erase, h]

theorem get?_erase_self (entries : Entries κ α) (key : κ) :
    get? (erase entries key) key = none := by
  induction entries with
  | nil => rfl
  | cons entry rest ih =>
      rw [erase_cons]
      split
      · exact ih
      · next he => simpa [get?, he] using ih

theorem get?_erase_of_ne (entries : Entries κ α) {key other : κ} (h : key ≠ other) :
    get? (erase entries key) other = get? entries other := by
  induction entries with
  | nil => rfl
  | cons entry rest ih =>
      rw [erase_cons]
      split
      · next he => simpa [get?, he, h] using ih
      · simp only [get?, ih]

/-- A new key is appended and a present one leaves the keys as they were. -/
theorem keys_insert (entries : Entries κ α) (key : κ) (value : α) :
    keys (insert entries key value) =
      if key ∈ keys entries then keys entries else keys entries ++ [key] := by
  induction entries with
  | nil => simp [insert, keys]
  | cons entry rest ih =>
      simp only [insert]
      split
      · next he => simp [keys, he]
      · next he =>
        have hne : key ≠ entry.1 := fun h => he h.symm
        simp only [keys, List.map_cons, List.mem_cons, hne, false_or] at ih ⊢
        rw [ih]
        by_cases hk : key ∈ List.map Prod.fst rest <;> simp [hk]

theorem keys_erase (entries : Entries κ α) (key : κ) :
    keys (erase entries key) = (keys entries).filter fun k => k ≠ key := by
  induction entries with
  | nil => rfl
  | cons entry rest ih =>
      simp only [keys] at ih
      rw [erase_cons]
      by_cases h : entry.1 = key <;> simp [keys, h, ih]

theorem nodup_keys_insert {entries : Entries κ α} (h : (keys entries).Nodup) (key : κ)
    (value : α) : (keys (insert entries key value)).Nodup := by
  rw [keys_insert]
  split
  · exact h
  · next hk =>
    rw [List.nodup_append]
    exact ⟨h, by simp, fun a ha b hb => by
      rw [List.mem_singleton] at hb
      subst hb
      exact fun hab => hk (hab ▸ ha)⟩

end Entries
end QueryFilter
