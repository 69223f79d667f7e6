import QueryFilter.Proofs.Session.Groups
import QueryFilter.Proofs.Session.LastWrite

/-!
The groups of a builder, each with its own history. A ledger holds the edits that were made to each
group, closed or current; a key that is removed from all groups is removed in every history. A
builder is at any time what its ledger tells, so each group holds under an operator what was last
set there, whether it was closed since or not.
-/

namespace QueryFilter

/-- The last value set under an operator of a key, if the entry was not replaced or removed
since. -/
def Edit.lastSet? (history : List Edit) (key : String) (op : Operator) : Option Value :=
  Entries.lastValue (settings history key) op.tag

theorem Edit.get?_of_lastSet? {history : List Edit} {key : String} {op : Operator} {value : Value}
    (h : lastSet? history key op = some value) :
    ∃ entries : Document, (applyAll [] history).get? key = some (.document entries) ∧
      entries.get? op.tag = some value := by
  have hget : Entries.get? (Entries.overlay (documentOf (base history key)) (settings history key))
      op.tag = some value := by
    unfold lastSet? at h
    rw [← Entries.insertAll_eq_overlay, Entries.get?_insertAll, h]
    rfl
  refine ⟨_, ?_, hget⟩
  rw [get?_applyAll, entry]
  cases hsettings : settings history key with
  | nil =>
      rw [lastSet?, hsettings] at h
      cases h
  | cons first more => rfl

/-- The histories of the groups of a builder. -/
structure Ledger where
  closed : List (List Edit)
  current : List Edit

namespace Ledger

def empty : Ledger := ⟨[], []⟩

/-- The histories that leave a group with entries. -/
def standing (histories : List (List Edit)) : List (List Edit) :=
  histories.filter fun history => !(Edit.applyAll [] history).isEmpty

def perform (l : Ledger) : Effect → Ledger
  | .edit edits => { l with current := l.current ++ edits }
  | .close => ⟨l.closed ++ standing [l.current], []⟩
  | .removeAll key =>
      ⟨standing (l.closed.map fun history => history ++ [.drop key]), l.current ++ [.drop key]⟩
  | .restart => empty

/-- The histories that a session leaves, its groups in order. -/
def ofSession (config : Config) (steps : List Step) : Ledger :=
  steps.foldl (fun l step => l.perform (step.effect config)) empty

def histories (l : Ledger) : List (List Edit) := l.closed ++ [l.current]

def toBuilder (config : Config) (l : Ledger) : Builder :=
  ⟨config, l.closed.map (Edit.applyAll []), Edit.applyAll [] l.current⟩

theorem map_standing (histories : List (List Edit)) :
    (standing histories).map (Edit.applyAll []) =
      Builder.nonEmpty (histories.map (Edit.applyAll [])) := by
  rw [standing, Builder.nonEmpty, List.filter_map]
  rfl

theorem perform_toBuilder (config : Config) (l : Ledger) (effect : Effect) :
    (l.toBuilder config).perform effect = (l.perform effect).toBuilder config := by
  cases effect with
  | edit edits => simp only [Builder.perform, perform, toBuilder, Edit.applyAll, List.foldl_append]
  | close =>
      simp only [Builder.perform, perform, Builder.close_eq, Builder.groups_eq, toBuilder,
        List.map_append, map_standing]
      rfl
  | removeAll key =>
      have hdrop : ∀ history, Edit.applyAll [] (history ++ [.drop key]) =
          Entries.erase (Edit.applyAll [] history) key := fun history =>
        Edit.applyAll_snoc [] history (.drop key)
      simp only [Builder.perform, perform, Builder.removeAll, Builder.remove, toBuilder,
        map_standing, List.map_map, Function.comp_def, hdrop]
      rfl
  | restart => rfl

theorem ofSession_snoc (config : Config) (steps : List Step) (step : Step) :
    ofSession config (steps ++ [step]) =
      (ofSession config steps).perform (step.effect config) := by
  simp only [ofSession, List.foldl_append, List.foldl_cons, List.foldl_nil]

/-- A builder is what the ledger of its session tells. -/
theorem run_eq_toBuilder (config : Config) (steps : List Step) :
    (Builder.empty config).run steps = (ofSession config steps).toBuilder config := by
  induction steps using List.reverseRecOn with
  | nil => rfl
  | append_singleton steps step ih =>
      have hconfig : ((Builder.empty config).run steps).config = config :=
        Builder.config_run _ steps
      rw [Builder.run_append, ofSession_snoc, ← perform_toBuilder, ← ih]
      have hstep := ((Builder.empty config).run steps).apply_eq_perform step
      rw [hconfig] at hstep
      exact hstep

end Ledger
end QueryFilter
