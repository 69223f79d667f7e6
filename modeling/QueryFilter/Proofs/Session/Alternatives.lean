import QueryFilter.Proofs.Session.Groups

/-!
What a compiled filter says. A filter is read by its root: an array under the tag of alternatives
is the disjunction of the documents in it, and any other document is the conjunction of its
entries. As long as no group uses that tag as a key, a filter means the disjunction of the groups
it was compiled from and gives them back. For this no group may be empty: an empty group alone
would compile to the filter of no group at all.
-/

namespace QueryFilter

def Document.holds (truth : String → Value → Bool) (document : Document) : Bool :=
  document.all fun entry => truth entry.1 entry.2

namespace Filter

/-- The reading of a filter, given which entries hold. -/
def holds (truth : String → Value → Bool) (f : Filter) : Bool :=
  match f.root.get? orTag with
  | some (.array items) =>
      items.any fun item =>
        match item with
        | .document group => Document.holds truth group
        | _ => false
  | _ => Document.holds truth f.root

def Untagged (groups : List Document) : Prop :=
  ∀ group ∈ groups, Entries.hasKey group orTag = false

instance (groups : List Document) : Decidable (Untagged groups) :=
  inferInstanceAs (Decidable (∀ group ∈ groups, Entries.hasKey group orTag = false))

theorem Untagged.get?_orTag {groups : List Document} (h : Untagged groups) {group : Document}
    (hmem : group ∈ groups) : Entries.get? group orTag = none := by
  simpa [Entries.hasKey] using h group hmem

theorem hasKey_ofGroups {groups : List Document} (h : Untagged groups) :
    Entries.hasKey (ofGroups groups).root orTag = true ↔ 2 ≤ groups.length := by
  match groups with
  | [] => decide
  | [group] =>
      have hkey : Entries.hasKey (ofGroups [group]).root orTag = false :=
        h group List.mem_cons_self
      simp [hkey]
  | first :: second :: more => simp [ofGroups, Entries.hasKey, Entries.get?]

/-- The groups can be read off the filter they compile to. -/
theorem ofGroups_injective {groups others : List Document}
    (hgroups : ∀ group ∈ groups, group ≠ []) (hothers : ∀ group ∈ others, group ≠ [])
    (htags : Untagged groups) (hothertags : Untagged others)
    (h : (ofGroups groups).root = (ofGroups others).root) : groups = others := by
  have hcount : 2 ≤ groups.length ↔ 2 ≤ others.length := by
    rw [← hasKey_ofGroups htags, ← hasKey_ofGroups hothertags, h]
  match groups, others with
  | [], [] => rfl
  | [], [other] => exact absurd h.symm (hothers other List.mem_cons_self)
  | [group], [] => exact absurd h (hgroups group List.mem_cons_self)
  | [group], [other] => exact congrArg (fun g => [g]) h
  | first :: second :: more, first' :: second' :: more' =>
      have hmap : (first :: second :: more).map Value.document =
          (first' :: second' :: more').map Value.document := by
        simpa [ofGroups] using h
      exact (List.map_inj_right fun _ _ => Value.document.inj).mp hmap
  | [], _ :: _ :: _ | [_], _ :: _ :: _ | _ :: _ :: _, [] | _ :: _ :: _, [_] =>
      simp at hcount

theorem holds_ofGroups {groups : List Document} (h : Untagged groups)
    (truth : String → Value → Bool) :
    (ofGroups groups).holds truth = (groups.isEmpty || groups.any (Document.holds truth)) := by
  match groups with
  | [] => rfl
  | [group] =>
      have hget : Entries.get? group orTag = none := h.get?_orTag List.mem_cons_self
      simp [holds, ofGroups, hget]
  | first :: second :: more =>
      simp [holds, ofGroups, Entries.get?, List.any_map, Function.comp_def]

end Filter

namespace Builder

theorem untagged_groups {b : Builder} (h : Filter.Untagged (b.current :: b.closed)) :
    Filter.Untagged b.groups := by
  intro group hmem
  apply h
  rw [groups_eq_alternatives, alternatives, List.mem_append] at hmem
  cases hmem with
  | inl hclosed => exact List.mem_cons_of_mem b.current hclosed
  | inr hcurrent =>
      split at hcurrent
      · cases hcurrent
      · exact List.mem_singleton.mp hcurrent ▸ List.mem_cons_self

/-- In states that sessions reach, with no group that uses the tag of alternatives as a key: the
root of the compiled filter has the tag when there are two groups or more, filters are the same
when their groups are, and a filter means that there is no group or that one of them holds. -/
theorem compile_alternatives {b other : Builder} (hb : b.Reachable) (hother : other.Reachable)
    (htags : Filter.Untagged (b.current :: b.closed))
    (hothertags : Filter.Untagged (other.current :: other.closed)) :
    (Entries.hasKey b.compile.root orTag = true ↔ 2 ≤ b.alternatives.length) ∧
      (b.compile.root = other.compile.root ↔ b.alternatives = other.alternatives) ∧
      ∀ truth, b.compile.holds truth =
        (b.alternatives.isEmpty || b.alternatives.any (Document.holds truth)) := by
  simp only [← groups_eq_alternatives, compile]
  have hgroups := untagged_groups htags
  have hothers := untagged_groups hothertags
  refine ⟨Filter.hasKey_ofGroups hgroups, ⟨?_, ?_⟩, Filter.holds_ofGroups hgroups⟩
  · exact Filter.ofGroups_injective (closedNonEmpty_groups hb.closedNonEmpty)
      (closedNonEmpty_groups hother.closedNonEmpty) hgroups hothers
  · intro h
    rw [h]

/-- Two groups under the tag, and one that is the root itself. -/
theorem compile_alternatives_two :
    let b := (empty .standard).run [.any "a" (.op .eq .null), .close, .any "b" (.op .gt .null)]
    let other := (empty .standard).run [.raw "a" .null]
    (b.Reachable ∧ other.Reachable ∧ Filter.Untagged (b.current :: b.closed) ∧
      Filter.Untagged (other.current :: other.closed)) ∧
      Entries.hasKey b.compile.root orTag = true ∧ b.compile.root ≠ other.compile.root := by
  intro b other
  have hb : b.Reachable := ⟨_, _, rfl⟩
  have hother : other.Reachable := ⟨_, _, rfl⟩
  have htags : Filter.Untagged (b.current :: b.closed) := by decide
  have hothertags : Filter.Untagged (other.current :: other.closed) := by decide
  obtain ⟨htag, hsame, _⟩ := compile_alternatives hb hother htags hothertags
  refine ⟨⟨hb, hother, htags, hothertags⟩, htag.mpr (by decide), fun hroot => ?_⟩
  have hlength := congrArg List.length (hsame.mp hroot)
  revert hlength
  decide

end Builder
end QueryFilter
