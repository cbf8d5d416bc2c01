import Evalynx.Models

/-! The runner contract of `app/runners/base.py`. -/

namespace Evalynx

inductive ResultStatus where
  | succeeded
  | failed
  deriving DecidableEq, Repr

structure RunnerResult where
  status : ResultStatus := .succeeded
  summary : Option JsonObject := none
  failureMessage : Option String := none
  resultMetrics : Option JsonObject := none
  resultExecution : Option JsonObject := none
  resultArtifacts : List JsonObject := []
  resultWarnings : List String := []
  resultError : Option JsonObject := none

structure RunnerExecutionError where
  message : String
  summary : Option JsonObject := none
  resultMetrics : Option JsonObject := none
  resultExecution : Option JsonObject := none
  resultArtifacts : List JsonObject := []
  resultWarnings : List String := []
  resultError : Option JsonObject := none

/-- How a call of `runner.execute` ends. -/
inductive Outcome where
  | returned (result : RunnerResult)
  | raised (error : RunnerExecutionError)
  | crashed (message : String)

inductive ConfigError where
  | validation (message : String)
  | crashed (message : String)

structure Runner where
  normalizeConfig : JsonObject → Except ConfigError JsonObject
  execute : Run → RunAttempt → Outcome

abbrev RunnerRegistry := List (String × Runner)

def errorObject (kind message : String) (details : JsonObject) : JsonObject :=
  ("kind", .str kind) :: ("message", .str message) :: details

end Evalynx
