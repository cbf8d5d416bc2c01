import Evalynx.SoloWargameConfig

/-! `app/runners/stub.py` and the registry of `app/runners/__init__.py`. -/

namespace Evalynx

open Posix

def reprFloat : PyFloat → List Char
  | .nan => ['n', 'a', 'n']
  | .infinity negative => Json.writeSign negative ++ ['i', 'n', 'f']
  | .finite value => Json.writeFloat (.finite value)

section Repr

variable (isPrintable : Char → Bool)

mutual

/-- `repr` of a value `json.loads` can have made. -/
def reprValue : Json → List Char
  | .null => ['N', 'o', 'n', 'e']
  | .bool true => ['T', 'r', 'u', 'e']
  | .bool false => ['F', 'a', 'l', 's', 'e']
  | .int value => Json.writeInt value
  | .float value => reprFloat value
  | .str value => (PyText.repr isPrintable value).toList
  | .arr items => '[' :: reprItems [] items ++ [']']
  | .obj members => '\x7b' :: reprMembers [] members ++ ['\x7d']
termination_by structural value => value

def reprItems (separator : List Char) : List Json → List Char
  | [] => []
  | item :: items => separator ++ reprValue item ++ reprItems [',', ' '] items
termination_by structural items => items

def reprMembers (separator : List Char) : List (String × Json) → List Char
  | [] => []
  | (key, value) :: members =>
      separator ++ (PyText.repr isPrintable key).toList ++ ':' :: ' ' :: reprValue value ++
        reprMembers [',', ' '] members
termination_by structural members => members

end

def strValue : Json → String
  | .str value => value
  | value => String.ofList (reprValue isPrintable value)

end Repr

namespace StubRunner

def runnerType : String := "stub"

def normalizeConfig (config : JsonObject) : Except ConfigError JsonObject := .ok config

def execute (isPrintable : Char → Bool) (run : Run) (_attempt : RunAttempt) : Outcome :=
  if SoloWargame.truthy (run.normalizedConfig.get "should_fail") then
    let message := (run.normalizedConfig.lookup "failure_message").getD
      (.str "Stub runner configured to fail.")
    .raised { message := strValue isPrintable message }
  else
    .returned {
      summary := some [
        ("message", .str "Stub runner completed successfully."),
        ("runner_type", .str runnerType),
        ("project_id", .int run.projectId),
        ("config_echo", .obj run.normalizedConfig)] }

def runner (isPrintable : Char → Bool) : Runner where
  normalizeConfig := normalizeConfig
  execute := execute isPrintable

end StubRunner

def buildRunnerRegistry (soloWargame : SoloWargameRunner) (fs : FileSystem) : RunnerRegistry :=
  [(SoloWargame.runnerType, soloWargame.runner (soloWargame.normalizeConfig fs)),
    (StubRunner.runnerType, StubRunner.runner soloWargame.isPrintable)]

theorem registered_cases {soloWargame : SoloWargameRunner} {fs : FileSystem} {runnerType : String}
    {runner : Runner}
    (registered : (buildRunnerRegistry soloWargame fs).lookup runnerType = some runner) :
    (runnerType = SoloWargame.runnerType ∧
        runner = soloWargame.runner (soloWargame.normalizeConfig fs)) ∨
      (runnerType = StubRunner.runnerType ∧ runner = StubRunner.runner soloWargame.isPrintable) := by
  unfold buildRunnerRegistry at registered
  rw [List.lookup_cons] at registered
  split at registered
  · rename_i same
    exact Or.inl ⟨eq_of_beq same, (Option.some.inj registered).symm⟩
  · rw [List.lookup_cons] at registered
    split at registered
    · rename_i same
      exact Or.inr ⟨eq_of_beq same, (Option.some.inj registered).symm⟩
    · cases registered

end Evalynx
