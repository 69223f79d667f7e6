import QueryFilter.Proofs.Session.Groups

/-!
A session as a list of alternatives. Cut at the closes, each part of a session makes one group on
its own, and the parts that leave nothing make none. What the builder holds, counts and compiles
are these groups in order, so where a group is still being written does not matter, and no call
reaches into a group that was closed before it.
-/

namespace QueryFilter

def Step.isClose : Step → Bool
  | .close => true
  | _ => false

theorem Step.eq_close {step : Step} (h : step.isClose) : step = .close := by
  cases step with
  | close => rfl
  | _ => cases h

namespace Builder

/-- The groups of a session part by part: its calls are cut at the closes and each part is made
alone on a new builder. -/
def segmentGroups (config : Config) (steps : List Step) : List Document :=
  nonEmpty ((steps.splitOnP Step.isClose).map fun part => ((empty config).run part).current)

/-- The first part goes on with the group that is open, and every later one starts anew. -/
theorem groups_run (b : Builder) {steps : List Step}
    (h : ∀ step ∈ steps, step.isEdit ∨ step.isClose) {part : List Step}
    {parts : List (List Step)} (hparts : steps.splitOnP Step.isClose = part :: parts) :
    (b.run steps).groups =
      b.closed ++ nonEmpty (({ b with closed := [] }.run part).current ::
        parts.map fun p => ((empty b.config).run p).current) := by
  induction steps generalizing b part parts with
  | nil =>
      cases hparts
      exact b.groups_eq
  | cons step rest ih =>
      have hrest : ∀ step ∈ rest, step.isEdit ∨ step.isClose := fun s hs =>
        h s (List.mem_cons_of_mem step hs)
      obtain ⟨first, more, hsplit⟩ :=
        List.exists_cons_of_ne_nil (List.splitOnP_ne_nil Step.isClose rest)
      rw [List.splitOnP_cons_eq_if_modifyHead, hsplit] at hparts
      cases hclose : step.isClose with
      | true =>
          cases Step.eq_close hclose
          rw [if_pos hclose] at hparts
          cases hparts
          have hfresh : { b.close with closed := [] } = empty b.config := by
            rw [close_eq]
            rfl
          have hlater := ih b.close hrest hsplit
          have hclosed : b.close.closed = b.closed ++ nonEmpty [b.current] := b.groups_eq
          have hconfig : b.close.config = b.config := b.config_perform .close
          rw [hfresh, hclosed, hconfig, List.append_assoc, ← nonEmpty_append] at hlater
          exact hlater
      | false =>
          have hedit : step.isEdit := by
            cases h step List.mem_cons_self with
            | inl hedit => exact hedit
            | inr hyes => rw [hclose] at hyes; cases hyes
          rw [if_neg (by simp [hclose]), List.modifyHead_cons] at hparts
          cases hparts
          have hlater := ih (b.apply step) hrest hsplit
          rw [config_apply, apply_eq_of_isEdit b hedit] at hlater
          rw [run_cons, run_cons, apply_eq_of_isEdit b hedit, apply_eq_of_isEdit _ hedit]
          exact hlater

theorem groups_run_empty (config : Config) {steps : List Step}
    (h : ∀ step ∈ steps, step.isEdit ∨ step.isClose) :
    ((empty config).run steps).groups = segmentGroups config steps := by
  obtain ⟨part, parts, hparts⟩ :=
    List.exists_cons_of_ne_nil (List.splitOnP_ne_nil Step.isClose steps)
  rw [groups_run (empty config) h hparts, segmentGroups, hparts]
  rfl

/-- Closed groups stay as they are while calls write, remove in the current group and close. -/
theorem closed_prefix_run (b : Builder) {steps : List Step}
    (h : ∀ step ∈ steps, step.isEdit ∨ step.isClose) : b.closed <+: (b.run steps).closed := by
  induction steps generalizing b with
  | nil => exact List.prefix_rfl
  | cons step rest ih =>
      have hrest := ih (b.apply step) fun s hs => h s (List.mem_cons_of_mem step hs)
      refine List.IsPrefix.trans ?_ hrest
      cases h step List.mem_cons_self with
      | inl hedit =>
          have hclosed : (b.apply step).closed = b.closed := by rw [apply_eq_of_isEdit b hedit]
          exact hclosed ▸ List.prefix_rfl
      | inr hclose =>
          have hclosed : (b.apply step).closed = b.closed ++ nonEmpty [b.current] :=
            Step.eq_close hclose ▸ b.groups_eq
          exact hclosed ▸ List.prefix_append _ _

/-- What a session of writes, removals from the current group and closes holds and compiles are
the groups of its parts. A close at the start, at the end or after another changes none of it, and
a group that is closed at some point is there at the end. -/
theorem session_eq_segments (config : Config) (steps : List Step)
    (h : ∀ step ∈ steps, step.isEdit ∨ step.isClose) :
    let b := (empty config).run steps
    let groups := segmentGroups config steps
    b.alternatives = groups ∧
      b.groupCount = groups.length ∧
      b.answer .build = .built ⟨match groups with
        | [] => []
        | [group] => group
        | _ => [("$or", .array (groups.map .document))]⟩ ∧
      (empty config).run (.close :: steps) = b ∧
      ((empty config).run (steps ++ [.close])).compile = b.compile ∧
      ∀ before after, steps = before ++ after →
        (empty config).run (before ++ .close :: .close :: after) =
          (empty config).run (before ++ .close :: after) ∧
        ((empty config).run before).closed <+: b.closed := by
  intro b groups
  have hgroups : b.groups = groups := groups_run_empty config h
  refine ⟨b.groups_eq_alternatives.symm.trans hgroups, ?_, ?_, rfl, ?_, ?_⟩
  · rw [groupCount_eq, hgroups]
  · have hbuilt : b.answer .build = .built (.ofGroups groups) := by
      rw [← hgroups]
      rfl
    rw [hbuilt]
    rcases groups with _ | ⟨group, _ | ⟨next, more⟩⟩ <;> rfl
  · have hclose : (empty config).run (steps ++ [.close]) = b.close := run_append _ steps [.close]
    rw [hclose, compile, groups_close]
    rfl
  · intro before after hsteps
    refine ⟨?_, ?_⟩
    · rw [run_append, run_append, run_close_close]
    · have hafter : ∀ step ∈ after, step.isEdit ∨ step.isClose := fun step hstep =>
        h step (hsteps ▸ List.mem_append_right before hstep)
      have hrun : b = ((empty config).run before).run after := by
        rw [← run_append, ← hsteps]
      rw [hrun]
      exact closed_prefix_run _ hafter

/-- Of four segments one has no calls, and one holds nothing any more when it is closed. -/
theorem session_eq_segments_emptied :
    let steps := [.any "a" (.op .eq .null), .close, .close, .raw "b" .null, .remove "b", .close,
      .raw "c" .null]
    (∀ step ∈ steps, step.isEdit ∨ step.isClose) ∧
      ((empty .standard).run steps).groupCount = 2 :=
  ⟨by decide, (session_eq_segments .standard _ (by decide)).2.1.trans (by decide)⟩

end Builder
end QueryFilter
