import QueryFilter.Builder
import QueryFilter.View

/-!
Sessions with a builder. A step is one call; it changes the builder, has an answer, and logs
lines. A step whose text is at fault changes nothing.
-/

namespace QueryFilter

inductive Step where
  | text (key : String) (test : TextTest)
  | number (key : String) (test : NumberTest)
  | any (key : String) (test : AnyTest)
  | date (key : String) (format : FormatChoice) (test : DateTest)
  /-- Equality with an identifier; without a key the configured one is used. -/
  | identifier (key : Option String) (input : String)
  /-- Operators set through one condition. -/
  | condition (key : String) (writes : List (Operator × Value))
  | raw (key : String) (value : Value)
  | record (fields : List Descriptor)
  | close
  | remove (key : String)
  | removeAll (key : String)
  | reset
  | build

inductive Answer where
  | done
  | refused (fault : InputFault)
  | built (filter : Filter)

inductive LogLine where
  | closed (count : Nat)
  | removed (key : String)
  | removedEverywhere (key : String)
  | compiling (count : Nat)
  | cleared
  | skipped (key : String)
deriving DecidableEq

def LogLine.toText : LogLine → String
  | closed count => "DEBUG sealed group " ++ toString count
  | removed key => "DEBUG removed " ++ key ++ " from current group"
  | removedEverywhere key => "DEBUG removed " ++ key ++ " from all groups"
  | compiling count => "DEBUG compiling " ++ toString count ++ " group(s)"
  | cleared => "DEBUG builder reset"
  | skipped key => "TRACE skipping field " ++ key

namespace Builder

def formatFor (b : Builder) (format : FormatChoice) : DateFormat :=
  format.resolve b.config.dateFormat

/-- The operators that a call sets on one field, if it is a call of that kind. -/
def writesOf (b : Builder) : Step → Option (String × Except InputFault (List (Operator × Value)))
  | .text key test => some (key, .ok test.writes)
  | .number key test => some (key, .ok test.writes)
  | .any key test => some (key, .ok test.writes)
  | .date key format test => some (key, test.writes (b.formatFor format))
  | .identifier key input => some (key.getD b.config.idKey, identifierWrites input)
  | .condition key writes => some (key, .ok writes)
  | _ => none

def apply (b : Builder) (step : Step) : Builder :=
  match b.writesOf step with
  | some (key, .ok writes) => b.write key writes
  | some (_, .error _) => b
  | none =>
      match step with
      | .raw key value => b.raw key value
      | .record fields => b.fromRecord fields
      | .close => b.close
      | .remove key => b.remove key
      | .removeAll key => b.removeAll key
      | .reset | .build => b.reset
      | _ => b

def answer (b : Builder) (step : Step) : Answer :=
  match b.writesOf step with
  | some (_, .error fault) => .refused fault
  | _ =>
      match step with
      | .build => .built b.compile
      | _ => .done

/-- The lines that a call logs, the operators it sets aside. -/
def log (b : Builder) : Step → List LogLine
  | .record fields => (skippedKeys fields).map .skipped
  | .close => if b.current.isEmpty then [] else [.closed (b.closed.length + 1)]
  | .remove key => if Entries.hasKey b.current key then [.removed key] else []
  | .removeAll key =>
      (if Entries.hasKey b.current key then [.removed key] else []) ++ [.removedEverywhere key]
  | .reset => [.cleared]
  | .build => [.compiling b.groups.length, .cleared]
  | _ => []

def run (b : Builder) (steps : List Step) : Builder := steps.foldl apply b

def answers : Builder → List Step → List Answer
  | _, [] => []
  | b, step :: rest => b.answer step :: answers (b.apply step) rest

end Builder
end QueryFilter
