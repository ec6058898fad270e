import HostBridge.Scenario.Steps

/-!
Runs of scenarios: the steps one after another, each with its answer and what happened during it. A
panic ends a step and not the scenario; a halt ends both.
-/
namespace HostBridge.Scenario

variable {B : Backend}

/-- How deep calls of foreign code may nest. -/
def nestingLimit : Nat := 100000

/-- How a step came out. -/
structure StepResult (B : Backend) where
  outcome : Outcome Answer
  happenings : List (Happening (platform B))

/-- Runs one step. -/
def runStep (S : System (platform B)) (D : Bench B) (step : Step) (s : State (platform B)) :
    StepResult B × State (platform B) :=
  let (outcome, s) := S.exec nestingLimit (step.run D) { s with record := [] }
  (⟨outcome, s.history⟩, s)

/-- Runs steps up to a halt. -/
def run (S : System (platform B)) (D : Bench B) : List Step → State (platform B) →
    List (StepResult B)
  | [], _ => []
  | step :: rest, s =>
    let (r, s) := runStep S D step s
    match r.outcome with
    | .halt _ => [r]
    | _ => r :: run S D rest s

end HostBridge.Scenario
