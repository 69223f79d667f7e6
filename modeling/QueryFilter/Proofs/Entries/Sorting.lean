import Mathlib.Data.List.Sort
import Mathlib.Data.String.Basic
import QueryFilter.Proofs.Entries.Laws

/-!
Entries in the order of their keys. Sorting keeps the entries and changes their places only, and
entries whose keys are rearrangements of each other have their keys in the same places afterwards.
Two lists of entries with distinct keys have the same number of entries, and every key of the first
is in the second with a related value, exactly when they have the same keys once they are sorted and
related values in the same places. So looking the keys of one up in the other, which asks nothing
about the keys of the other, is enough to compare them.
-/

namespace QueryFilter.Entries

variable {α β : Type}

def values (entries : Entries String α) : List α := entries.map Prod.snd

/-- The entries in the order of their keys. -/
def sortKeys (entries : Entries String α) : Entries String α :=
  entries.insertionSort fun a b => a.1 ≤ b.1

theorem perm_sortKeys (entries : Entries String α) : (sortKeys entries).Perm entries :=
  List.perm_insertionSort _ entries

theorem mem_sortKeys {entries : Entries String α} {entry : String × α} :
    entry ∈ sortKeys entries ↔ entry ∈ entries :=
  (perm_sortKeys entries).mem_iff

theorem sortKeys_map (f : α → β) (entries : Entries String α) :
    sortKeys (entries.map (Prod.map id f)) = (sortKeys entries).map (Prod.map id f) := by
  symm
  exact List.map_insertionSort _ _ (Prod.map id f) entries fun _ _ _ _ => Iff.rfl

theorem sortKeys_sortKeys (entries : Entries String α) :
    sortKeys (sortKeys entries) = sortKeys entries :=
  (List.pairwise_insertionSort _ entries).insertionSort_eq

theorem keys_sortKeys (entries : Entries String α) :
    keys (sortKeys entries) = (keys entries).insertionSort (· ≤ ·) :=
  List.map_insertionSort _ _ _ _ fun _ _ _ _ => Iff.rfl

theorem keys_sortKeys_of_perm {xs : Entries String α} {ys : Entries String β}
    (h : (keys xs).Perm (keys ys)) : keys (sortKeys xs) = keys (sortKeys ys) := by
  have hsorted : ((keys xs).insertionSort (· ≤ ·)).Perm ((keys ys).insertionSort (· ≤ ·)) :=
    (List.perm_insertionSort _ _).trans (h.trans (List.perm_insertionSort _ _).symm)
  rw [keys_sortKeys, keys_sortKeys]
  exact hsorted.eq_of_pairwise' (List.pairwise_insertionSort _ _) (List.pairwise_insertionSort _ _)

theorem keys_map (f : α → β) (entries : Entries String α) :
    keys (entries.map (Prod.map id f)) = keys entries := by
  rw [keys, keys, List.map_map]
  rfl

theorem values_map (f : α → β) (entries : Entries String α) :
    values (entries.map (Prod.map id f)) = (values entries).map f := by
  rw [values, values, List.map_map, List.map_map]
  rfl

theorem get?_map (f : α → β) (entries : Entries String α) (key : String) :
    get? (entries.map (Prod.map id f)) key = (get? entries key).map f := by
  induction entries with
  | nil => rfl
  | cons entry rest ih =>
      by_cases h : entry.1 = key
      · simp [get?, h]
      · simp [get?, h, ih]

theorem ext_keys_values {xs ys : Entries String α} (hkeys : keys xs = keys ys)
    (hvalues : values xs = values ys) : xs = ys := by
  rw [← List.zip_unzip xs, ← List.zip_unzip ys, List.unzip_eq_map, List.unzip_eq_map]
  exact congrArg₂ List.zip hkeys hvalues

theorem get?_of_mem {entries : Entries String α} (h : (keys entries).Nodup) {key : String}
    {value : α} (hmem : (key, value) ∈ entries) : get? entries key = some value := by
  induction entries with
  | nil => cases hmem
  | cons entry rest ih =>
      obtain ⟨hfresh, hrest⟩ := List.nodup_cons.mp h
      rw [get?]
      rcases List.mem_cons.mp hmem with rfl | hmem
      · rw [if_pos rfl]
      · have hne : entry.1 ≠ key := by
          rintro rfl
          exact hfresh (List.mem_map.mpr ⟨_, hmem, rfl⟩)
        rw [if_neg hne, ih hrest hmem]

section Comparing

variable {related : α → β → Prop} {xs : Entries String α} {ys : Entries String β}

/-- Where the keys are in the same places, the values under a key are related if all are. -/
theorem exists_of_forall₂_values (hkeys : keys xs = keys ys)
    (h : List.Forall₂ related (values xs) (values ys)) {key : String} {value : α}
    (hmem : (key, value) ∈ xs) : ∃ other, (key, other) ∈ ys ∧ related value other := by
  induction xs generalizing ys with
  | nil => cases hmem
  | cons x xs ih =>
      cases ys with
      | nil => cases hkeys
      | cons y ys =>
          obtain ⟨hkey, hkeys⟩ := List.cons_eq_cons.mp hkeys
          obtain ⟨hvalue, hvalues⟩ := List.forall₂_cons.mp h
          rcases List.mem_cons.mp hmem with rfl | hmem
          · exact ⟨y.2, List.mem_cons.mpr (.inl (Prod.ext hkey rfl)), hvalue⟩
          · obtain ⟨other, hother, hrelated⟩ := ih hkeys hvalues hmem
            exact ⟨other, List.mem_cons_of_mem y hother, hrelated⟩

theorem forall₂_values (hkeys : keys xs = keys ys)
    (h : ∀ key value other, (key, value) ∈ xs → (key, other) ∈ ys → related value other) :
    List.Forall₂ related (values xs) (values ys) := by
  induction xs generalizing ys with
  | nil =>
      cases ys with
      | nil => exact .nil
      | cons y ys => cases hkeys
  | cons x xs ih =>
      cases ys with
      | nil => cases hkeys
      | cons y ys =>
          obtain ⟨hkey, hkeys⟩ := List.cons_eq_cons.mp hkeys
          refine .cons (h x.1 x.2 y.2 List.mem_cons_self ?_) (ih hkeys ?_)
          · rw [hkey]
            exact List.mem_cons_self
          · intro key value other hvalue hother
            exact h key value other (List.mem_cons_of_mem x hvalue) (List.mem_cons_of_mem y hother)

/-- Entries of the same number are rearranged in their keys if every key of the first is in the
second. -/
theorem perm_keys_of_subset (hxs : (keys xs).Nodup) (hlength : xs.length = ys.length)
    (h : keys xs ⊆ keys ys) : (keys xs).Perm (keys ys) := by
  apply (List.subperm_of_subset hxs h).perm_of_length_le
  rw [keys, keys, List.length_map, List.length_map, hlength]

theorem sortKeys_related_iff (hxs : (keys xs).Nodup) (hys : (keys ys).Nodup) :
    (keys (sortKeys xs) = keys (sortKeys ys) ∧
        List.Forall₂ related (values (sortKeys xs)) (values (sortKeys ys))) ↔
      xs.length = ys.length ∧
        ∀ key value, (key, value) ∈ xs →
          ∃ other, get? ys key = some other ∧ related value other := by
  constructor
  · rintro ⟨hkeys, hvalues⟩
    refine ⟨?_, ?_⟩
    · have hlength := congrArg List.length hkeys
      rwa [keys, keys, List.length_map, List.length_map, (perm_sortKeys xs).length_eq,
        (perm_sortKeys ys).length_eq] at hlength
    · intro key value hmem
      obtain ⟨other, hother, hrelated⟩ :=
        exists_of_forall₂_values hkeys hvalues (mem_sortKeys.mpr hmem)
      exact ⟨other, get?_of_mem hys (mem_sortKeys.mp hother), hrelated⟩
  · rintro ⟨hlength, hheld⟩
    have hsubset : keys xs ⊆ keys ys := by
      intro key hkey
      obtain ⟨entry, hentry, rfl⟩ := List.mem_map.mp hkey
      obtain ⟨other, hother, _⟩ := hheld entry.1 entry.2 hentry
      exact List.mem_map_of_mem (mem_of_get? hother)
    have hkeys := keys_sortKeys_of_perm (perm_keys_of_subset hxs hlength hsubset)
    refine ⟨hkeys, forall₂_values hkeys ?_⟩
    intro key value other hvalue hother
    obtain ⟨found, hfound, hrelated⟩ := hheld key value (mem_sortKeys.mp hvalue)
    rw [get?_of_mem hys (mem_sortKeys.mp hother)] at hfound
    cases hfound
    exact hrelated

/-- Entries whose values are changed are looked up where they were looked up before. -/
theorem held_map_iff {γ δ : Type} {related : γ → δ → Prop} (f : α → γ) (g : β → δ) :
    (∀ key value, (key, value) ∈ xs.map (Prod.map id f) →
        ∃ other, get? (ys.map (Prod.map id g)) key = some other ∧ related value other) ↔
      ∀ key value, (key, value) ∈ xs →
        ∃ other, get? ys key = some other ∧ related (f value) (g other) := by
  constructor
  · intro h key value hmem
    obtain ⟨found, hfound, hrelated⟩ := h key (f value) (List.mem_map.mpr ⟨_, hmem, rfl⟩)
    rw [get?_map] at hfound
    obtain ⟨other, hother, rfl⟩ := Option.map_eq_some_iff.mp hfound
    exact ⟨other, hother, hrelated⟩
  · intro h key value hmem
    obtain ⟨entry, hentry, hchanged⟩ := List.mem_map.mp hmem
    cases hchanged
    obtain ⟨other, hother, hrelated⟩ := h entry.1 entry.2 hentry
    refine ⟨g other, ?_, hrelated⟩
    rw [get?_map]
    exact congrArg (Option.map g) hother

end Comparing
end QueryFilter.Entries
