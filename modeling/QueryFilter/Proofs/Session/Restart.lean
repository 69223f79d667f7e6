import QueryFilter.Proofs.Session.Effect

/-!
Sessions on one builder, one after the other. Building a filter and resetting leave a new builder
with the settings that were there from the start. So a session that follows can be observed to do
nothing but what it does on a new builder, and a run of many sessions falls apart into the sessions
on their own. What is observed of a call is everything that can be asked: its answer, the lines it
logs, and after it the settings, the groups and what is counted of them.
-/

namespace QueryFilter

/-- Whether a call ends a session, by building its filter or by giving it up. -/
def Step.endsSession : Step → Bool
  | .reset | .build => true
  | _ => false

/-- What can be seen of one call: its answer and its log, and the builder after it. -/
structure Observation where
  answer : Answer
  log : List LogLine
  idKey : String
  dateFormat : DateFormat
  closed : List Document
  current : Document
  count : Nat
  isEmpty : Bool

namespace Builder

def observe (b : Builder) (step : Step) : Observation where
  answer := b.answer step
  log := b.log step
  idKey := (b.apply step).config.idKey
  dateFormat := (b.apply step).config.dateFormat
  closed := (b.apply step).closed
  current := (b.apply step).current
  count := (b.apply step).groupCount
  isEmpty := (b.apply step).isEmpty

/-- What is seen of a session, call by call. -/
def transcript : Builder → List Step → List Observation
  | _, [] => []
  | b, step :: rest => b.observe step :: (b.apply step).transcript rest

/-- Whether the last call of a session ends it. -/
def finishes (session : List Step) : Bool := session.getLast?.any Step.endsSession

theorem transcript_append (b : Builder) (first second : List Step) :
    b.transcript (first ++ second) = b.transcript first ++ (b.run first).transcript second := by
  induction first generalizing b with
  | nil => rfl
  | cons step rest ih =>
      rw [List.cons_append, transcript, ih, transcript, run_cons, List.cons_append]

theorem apply_of_endsSession (b : Builder) {step : Step} (h : step.endsSession) :
    b.apply step = empty b.config := by
  cases step with
  | reset | build => rfl
  | _ => cases h

/-- Whatever a session did before, its end leaves a new builder with the settings of the first. -/
theorem run_of_endsSession (b : Builder) (calls : List Step) {ending : Step}
    (h : ending.endsSession) : b.run (calls ++ [ending]) = empty b.config := by
  rw [run_append, run_cons, run_nil, apply_of_endsSession _ h, config_run]

theorem run_of_finishes (b : Builder) {session : List Step} (h : finishes session) :
    b.run session = empty b.config := by
  cases hlast : session.getLast? with
  | none => simp [finishes, hlast] at h
  | some ending =>
      obtain ⟨calls, rfl⟩ := List.getLast?_eq_some_iff.mp hlast
      exact b.run_of_endsSession calls (by simpa [finishes] using h)

/-- In a run of finished sessions and one that may go on, each is seen as on a new builder. -/
theorem transcript_sessions (config : Config) {sessions : List (List Step)}
    (h : ∀ session ∈ sessions, finishes session) (last : List Step) :
    (empty config).transcript (sessions.flatten ++ last) =
      sessions.flatMap (empty config).transcript ++ (empty config).transcript last := by
  induction sessions with
  | nil => rfl
  | cons session rest ih =>
      have hrest : ∀ later ∈ rest, finishes later := fun later hlater =>
        h later (List.mem_cons_of_mem session hlater)
      have hend : (empty config).run session = empty config :=
        run_of_finishes _ (h session List.mem_cons_self)
      rw [List.flatten_cons, List.append_assoc, transcript_append, hend, ih hrest,
        List.flatMap_cons, List.append_assoc]

/-- Sessions on one builder are independent. Once a session has been ended on a builder, in
whatever state, all that is seen of the next one is what is seen of it on a new builder with the
same settings; so any number of sessions in a row is seen as each of them alone. The settings
never change, and with them neither the format of dates nor the key and the operators that a call
sets. -/
theorem sessions_independent :
    (∀ (b : Builder) (first : List Step) (ending : Step), ending.endsSession →
      ∀ second, (b.run (first ++ [ending])).transcript second =
        (empty b.config).transcript second) ∧
    (∀ (config : Config) (sessions : List (List Step)),
      (∀ session ∈ sessions, finishes session) →
      ∀ last, (empty config).transcript (sessions.flatten ++ last) =
        sessions.flatMap (empty config).transcript ++ (empty config).transcript last) ∧
    ∀ (b : Builder) (steps : List Step), (b.run steps).config = b.config ∧
      (∀ format, (b.run steps).formatFor format = b.formatFor format) ∧
      ∀ step, (b.run steps).writesOf step = b.writesOf step := by
  refine ⟨?_, ?_, ?_⟩
  · intro b first ending hending second
    rw [b.run_of_endsSession first hending]
  · intro config sessions hsessions last
    exact transcript_sessions config hsessions last
  · intro b steps
    have hconfig : (b.run steps).config = b.config := b.config_run steps
    refine ⟨hconfig, ?_, ?_⟩
    · intro format
      rw [formatFor, hconfig, formatFor]
    · intro step
      rw [writesOf_eq, hconfig, ← writesOf_eq]

/-- A session that is given up half-way, with a refused call in it, under settings of its own. -/
theorem sessions_independent_given_up :
    let b := empty ⟨"uid", .pattern "%Y"⟩
    let first := [.any "uid" (.op .gt .null), .close, .identifier none "x", .raw "uid" .null]
    let second := [.identifier none "x", .condition "uid" [(.eq, .null)], .close, .raw "a" .null,
      .build]
    Step.endsSession .reset ∧ (b.run first).groupCount = 2 ∧
      ((b.run (first ++ [.reset])).transcript second).map (fun seen => seen.count) =
        [0, 1, 1, 2, 0] := by
  intro b first second
  refine ⟨rfl, by decide, ?_⟩
  rw [sessions_independent.1 b first .reset rfl second]
  decide

end Builder
end QueryFilter
