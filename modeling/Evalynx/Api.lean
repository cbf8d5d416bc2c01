import Evalynx.BookedCalls
import Evalynx.Columns
import Evalynx.Listing

/-! The routes of `app/api/routes` on PostgreSQL, one request after the other. -/

namespace Evalynx

open Relational Relation

structure ProjectCreate where
  name : String
  description : Option String

structure ProjectRead where
  id : Nat
  name : String
  description : Option String
  createdAt : Timestamp

def Project.read (project : Project) : ProjectRead where
  id := project.id
  name := project.name
  description := project.description
  createdAt := project.createdAt

def listProjects (db : Database) : List Project :=
  db.projects.rows.insertionSort (fun a b => a.id ≤ b.id)

inductive ApiRequest where
  | healthCheck
  | createProject (payload : ProjectCreate)
  | listProjects
  | createRun (payload : RunCreate)
  | retryRun (runId : Nat)
  | listRuns
  | getRun (runId : Nat)
  | listProjectRuns (projectId : Nat)

inductive Body where
  | health (service environment : String)
  | project (read : ProjectRead)
  | projects (reads : List ProjectRead)
  | run (read : RunRead)
  | runs (reads : List RunSummaryRead)
  | detail (message : String)
  /-- What the server answers to an exception no route catches. -/
  | internalServerError

structure Response where
  statusCode : Nat
  body : Body

structure ApiEnv extends ServiceEnv where
  driver : Driver
  projectCreatedAt : Timestamp
  appName : String
  environment : String
  order : SelectOrder

structure Answer where
  db : Database
  enqueued : List Nat
  response : Response

def uncaught : Response := ⟨500, .internalServerError⟩

def runResponse (statusCode : Nat) (loaded : Option LoadedRun) : Response :=
  match loaded.map RunRead.modelValidate with
  | some (.ok read) => ⟨statusCode, .run read⟩
  | _ => uncaught

def readResponse {α : Type} (body : α → Body) : Except ReadError α → Response
  | .ok read => ⟨200, body read⟩
  | .error (.notFound detail) => ⟨404, .detail detail⟩
  | .error .validation => uncaught

def createRunFailed : ServiceError → Response
  | .projectNotFound message => ⟨404, .detail message⟩
  | .runConfig message | .unsupportedRunner message => ⟨422, .detail message⟩
  | .runNotFound _ | .retryNotAllowed _ | .crashed _ => uncaught

def retryRunFailed : ServiceError → Response
  | .runNotFound message => ⟨404, .detail message⟩
  | .retryNotAllowed message => ⟨409, .detail message⟩
  | .projectNotFound _ | .runConfig _ | .unsupportedRunner _ | .crashed _ => uncaught

/-- The end of both POST routes for runs: what the service has returned or raised. The run is
read as its transaction left it; in the code the job is in the queue before the body is made. -/
def Served.answer (served : Served) (statusCode : Nat) (failed : ServiceError → Response) :
    Answer :=
  match served.outcome with
  | .ok runId => ⟨served.db, served.enqueued, runResponse statusCode (loadRun served.db runId)⟩
  | .error error => ⟨served.db, served.enqueued, failed error⟩

def ApiEnv.select (env : ApiEnv) (db : Database) (response : Response) : Answer :=
  match env.raises .select with
  | some _ => ⟨db, [], uncaught⟩
  | none => ⟨db, [], response⟩

def ApiEnv.columns (env : ApiEnv) : Columns := .postgres env.driver

/-- A SELECT by this id does not fail: it finds a row, or the type of the key holds the id. -/
def ApiEnv.selects {ρ : Type} [Row ρ] (env : ApiEnv) (table : Table ρ) (id : Nat) : Bool :=
  (table.get? id).isSome || env.columns.key id

/-- The database refuses a statement of the request for the value bound to it: an id, a text or a
config its column has no room for. -/
def ApiRequest.refused (env : ApiEnv) (db : Database) : ApiRequest → Bool
  | .healthCheck | .listProjects | .listRuns => false
  | .createProject payload =>
      !((env.columns.name payload.name).isSome && payload.description.all env.columns.text)
  | .createRun payload =>
      !env.selects db.projects payload.projectId ||
        match prepareRun env.toServiceEnv db payload with
        | .ok new =>
            !(env.columns.json (.obj new.submittedConfig) &&
              env.columns.json (.obj new.normalizedConfig))
        | .error _ => false
  | .retryRun runId | .getRun runId => !env.selects db.runs runId
  | .listProjectRuns projectId => !env.selects db.projects projectId

def ApiRequest.serve (env : ApiEnv) (db : Database) : ApiRequest → Answer
  | .healthCheck => ⟨db, [], ⟨200, .health env.appName env.environment⟩⟩
  | .createProject payload =>
      let name := (env.columns.name payload.name).getD payload.name
      let project : Project := ⟨db.projects.next, name, payload.description, env.projectCreatedAt⟩
      let written := insertProject db name payload.description env.projectCreatedAt
      match env.raises .commit, env.raises .refresh with
      | some _, _ => ⟨db, [], uncaught⟩
      | none, some _ => ⟨written, [], uncaught⟩
      | none, none => ⟨written, [], ⟨201, .project project.read⟩⟩
  | .listProjects =>
      env.select db ⟨200, .projects ((Evalynx.listProjects db).map Project.read)⟩
  | .createRun payload => (Evalynx.createRun env.toServiceEnv db payload).answer 201 createRunFailed
  | .retryRun runId => (Evalynx.retryRun env.toServiceEnv db db runId).answer 200 retryRunFailed
  | .listRuns =>
      env.select db
        (readResponse .runs (Evalynx.listRuns env.order db (fun _ => db) (fun _ => db)))
  | .getRun runId => env.select db (readResponse .run (Evalynx.getRun env.order db db db runId))
  | .listProjectRuns projectId =>
      env.select db (readResponse .runs
        (Evalynx.listProjectRuns env.order db db (fun _ => db) (fun _ => db) projectId))

/-- No route catches what the database raises. -/
def ApiRequest.handle (env : ApiEnv) (db : Database) (request : ApiRequest) : Answer :=
  if request.refused env db then ⟨db, [], uncaught⟩ else request.serve env db

section Handle

variable {env : ApiEnv} {db : Database} {request : ApiRequest}

theorem ApiRequest.handle_served (taken : request.refused env db = false) :
    request.handle env db = request.serve env db := by
  rw [handle, taken]
  rfl

theorem ApiRequest.handle_refused (refused : request.refused env db = true) :
    request.handle env db = ⟨db, [], uncaught⟩ := by
  rw [handle, if_pos refused]

theorem ApiEnv.selects_found {ρ : Type} [Row ρ] {table : Table ρ} {id : Nat} {row : ρ}
    (found : table.get? id = some row) : env.selects table id = true := by
  rw [selects, found]
  rfl

end Handle

theorem ApiRequest.serve_call (accepts : TerminalValues → Bool) (env : ApiEnv) (db : Database)
    (request : ApiRequest) :
    (request.serve env db).db = db ∨ Call accepts db (request.serve env db).db := by
  have select : ∀ response, (env.select db response).db = db := by
    intro response
    unfold ApiEnv.select
    split <;> rfl
  have answer : ∀ (served : Served) statusCode failed,
      (served.answer statusCode failed).db = served.db := by
    intro served statusCode failed
    unfold Served.answer
    split <;> rfl
  cases request with
  | healthCheck => exact Or.inl rfl
  | createProject payload =>
      rw [serve]
      cases env.raises .commit with
      | some text => exact Or.inl rfl
      | none =>
          right
          cases env.raises .refresh <;> exact .createProject _ _ _
  | listProjects | listRuns | getRun runId | listProjectRuns projectId => exact Or.inl (select _)
  | createRun payload =>
      right
      rw [serve, answer]
      exact .createRun env.toServiceEnv payload
  | retryRun runId =>
      right
      rw [serve, answer]
      exact .retryRun env.toServiceEnv runId

/-- A request is a call of the service, or it leaves the tables alone. -/
theorem ApiRequest.call (accepts : TerminalValues → Bool) (env : ApiEnv) (db : Database)
    (request : ApiRequest) :
    (request.handle env db).db = db ∨ Call accepts db (request.handle env db).db := by
  cases refused : request.refused env db with
  | true =>
      left
      rw [handle_refused refused]
  | false =>
      rw [handle_served refused]
      exact request.serve_call accepts env db

end Evalynx
