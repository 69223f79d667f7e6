import QueryFilter.Proofs.Session.Effect

/-!
Refused calls. A call is refused when it is given text that names no date or no identifier, and
then it is as if it had never been made: text is read before anything is written. A call whose
text can be read does what the call with the value itself does.
-/

namespace QueryFilter

def Answer.isRefusal : Answer → Bool
  | .refused _ => true
  | _ => false

namespace Builder

/-- A session without the calls that are refused when it is run. -/
def accepted (b : Builder) : List Step → List Step
  | [] => []
  | step :: rest =>
      if (b.answer step).isRefusal then (b.apply step).accepted rest
      else step :: (b.apply step).accepted rest

theorem apply_of_isRefusal (b : Builder) {step : Step} (h : (b.answer step).isRefusal) :
    b.apply step = b := by
  cases hcall : b.writesOf step with
  | none =>
      simp only [answer, hcall] at h
      cases step <;> cases h
  | some call =>
      obtain ⟨key, fault | writes⟩ := call
      · simp only [apply, hcall]
      · simp only [answer, hcall] at h
        cases step <;> cases h

theorem run_accepted (b : Builder) (steps : List Step) :
    b.run (b.accepted steps) = b.run steps := by
  induction steps generalizing b with
  | nil => rfl
  | cons step rest ih =>
      rw [accepted, run_cons, ← ih (b.apply step)]
      split
      · next h => rw [apply_of_isRefusal b h]
      · rfl

theorem answers_accepted (b : Builder) (steps : List Step) :
    b.answers (b.accepted steps) = (b.answers steps).filter fun answer => !answer.isRefusal := by
  induction steps generalizing b with
  | nil => rfl
  | cons step rest ih =>
      rw [accepted, answers, List.filter_cons]
      cases h : (b.answer step).isRefusal with
      | true =>
          have hsame := apply_of_isRefusal b h
          simpa [hsame] using ih b
      | false => simpa [answers] using ih (b.apply step)

section Calls

variable (b : Builder) {step : Step} {key : String}

theorem apply_of_writes {writes : List (Operator × Value)}
    (h : b.writesOf step = some (key, .ok writes)) : b.apply step = b.write key writes := by
  simp only [apply, h]

theorem answer_of_writes {writes : List (Operator × Value)}
    (h : b.writesOf step = some (key, .ok writes)) : b.answer step = .done := by
  simp only [answer, h]
  cases step with
  | build => cases h
  | _ => rfl

theorem answer_of_fault {fault : InputFault} (h : b.writesOf step = some (key, .error fault)) :
    b.answer step = .refused fault := by
  simp only [answer, h]

/-- Calls that set the same operators are answered and do the same. -/
theorem call_congr {other : Step} {writes : List (Operator × Value)}
    (h : b.writesOf step = some (key, .ok writes))
    (hother : b.writesOf other = some (key, .ok writes)) :
    b.answer step = .done ∧ b.apply step = b.apply other := by
  refine ⟨b.answer_of_writes h, ?_⟩
  rw [b.apply_of_writes h, b.apply_of_writes hother]

end Calls

section Texts

variable (b : Builder)

theorem compareText_call (key : String) (format : FormatChoice) (c : Comparison) (s : String) :
    match (b.formatFor format).parse s with
    | .ok i =>
        b.answer (.date key format (.compareText c s)) = .done ∧
          b.apply (.date key format (.compareText c s)) = b.apply (.date key format (.compare c i))
    | .error fault => b.answer (.date key format (.compareText c s)) = .refused fault := by
  cases h : (b.formatFor format).parse s with
  | ok i =>
      have hwrites : b.writesOf (.date key format (.compareText c s)) =
          some (key, .ok [(c.operator, .instant i)]) := by
        simp only [writesOf, DateTest.writes, h]
        rfl
      exact b.call_congr hwrites rfl
  | error fault =>
      have hfault : b.writesOf (.date key format (.compareText c s)) =
          some (key, .error fault) := by
        simp only [writesOf, DateTest.writes, h]
        rfl
      exact b.answer_of_fault hfault

/-- The first text is read first, so its fault is the one that counts. -/
theorem betweenText_call (key : String) (format : FormatChoice) (first last : String) :
    match (b.formatFor format).parse first, (b.formatFor format).parse last with
    | .ok i, .ok j =>
        b.answer (.date key format (.betweenText first last)) = .done ∧
          b.apply (.date key format (.betweenText first last)) =
            b.apply (.date key format (.between i j))
    | .error fault, _ => b.answer (.date key format (.betweenText first last)) = .refused fault
    | .ok _, .error fault =>
        b.answer (.date key format (.betweenText first last)) = .refused fault := by
  cases hfirst : (b.formatFor format).parse first with
  | error fault =>
      have hfault : b.writesOf (.date key format (.betweenText first last)) =
          some (key, .error fault) := by
        simp only [writesOf, DateTest.writes, hfirst]
        rfl
      exact b.answer_of_fault hfault
  | ok i =>
      cases hlast : (b.formatFor format).parse last with
      | ok j =>
          have hwrites : b.writesOf (.date key format (.betweenText first last)) =
              some (key, .ok (rangeWrites (.instant i) (.instant j))) := by
            simp only [writesOf, DateTest.writes, hfirst, hlast]
            rfl
          exact b.call_congr hwrites rfl
      | error fault =>
          have hfault : b.writesOf (.date key format (.betweenText first last)) =
              some (key, .error fault) := by
            simp only [writesOf, DateTest.writes, hfirst, hlast]
            rfl
          exact b.answer_of_fault hfault

theorem identifier_call (key : Option String) (s : String) :
    match Identifier.parse s with
    | .ok id =>
        b.answer (.identifier key s) = .done ∧
          b.apply (.identifier key s) =
            b.apply (.any (key.getD b.config.idKey) (.compare .eq (.identifier id)))
    | .error fault => b.answer (.identifier key s) = .refused fault := by
  cases h : Identifier.parse s with
  | ok id =>
      have hwrites : b.writesOf (.identifier key s) =
          some (key.getD b.config.idKey, .ok [(.eq, .identifier id)]) := by
        simp only [writesOf, identifierWrites, h]
        rfl
      exact b.call_congr hwrites rfl
  | error fault =>
      have hfault : b.writesOf (.identifier key s) =
          some (key.getD b.config.idKey, .error fault) := by
        simp only [writesOf, identifierWrites, h]
        rfl
      exact b.answer_of_fault hfault

end Texts

/-- Leaving out the refused calls of a session changes neither the builder it ends with nor what
the other calls answer, filters included. On every builder, a date given as text that can be read
is compared like the instant it names, a range of two texts is set when both can be read and
refused for the first one that cannot, and an identifier is an equality on its key. -/
theorem refused_calls_leave_no_trace (b : Builder) (steps : List Step) :
    b.run (b.accepted steps) = b.run steps ∧
      b.answers (b.accepted steps) = (b.answers steps).filter (fun answer => !answer.isRefusal) ∧
      (∀ key format c s,
        match (b.formatFor format).parse s with
        | .ok i =>
            b.answer (.date key format (.compareText c s)) = .done ∧
              b.apply (.date key format (.compareText c s)) =
                b.apply (.date key format (.compare c i))
        | .error fault => b.answer (.date key format (.compareText c s)) = .refused fault) ∧
      (∀ key format first last,
        match (b.formatFor format).parse first, (b.formatFor format).parse last with
        | .ok i, .ok j =>
            b.answer (.date key format (.betweenText first last)) = .done ∧
              b.apply (.date key format (.betweenText first last)) =
                b.apply (.date key format (.between i j))
        | .error fault, _ => b.answer (.date key format (.betweenText first last)) = .refused fault
        | .ok _, .error fault =>
            b.answer (.date key format (.betweenText first last)) = .refused fault) ∧
      ∀ key s,
        match Identifier.parse s with
        | .ok id =>
            b.answer (.identifier key s) = .done ∧
              b.apply (.identifier key s) =
                b.apply (.any (key.getD b.config.idKey) (.compare .eq (.identifier id)))
        | .error fault => b.answer (.identifier key s) = .refused fault := by
  exact ⟨b.run_accepted steps, b.answers_accepted steps, b.compareText_call, b.betweenText_call,
    b.identifier_call⟩

end Builder
end QueryFilter
