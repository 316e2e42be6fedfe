import Workstream.Store.Project

/-!
# Actions on a session

A session is a store together with what the store knows about its client: the current
user and the structure version of new projects. An action reads and changes the
session step by step and reports events on the way. When a step fails, the action
ends; what the steps before it have changed stays changed, so an action that must
leave the store alone when it fails has to do its checks before its changes.
-/

namespace Workstream

/-- A store and what it knows about its client. -/
structure Session where
  /-- The user who owns the workspaces that name no owner. -/
  currentUser : Option String
  /-- The structure version that new projects are given. -/
  structureVersion : Nat
  store : Store
deriving DecidableEq

namespace Session

/-- The structure version that new projects are given unless another is chosen. -/
def defaultStructureVersion : Nat := 13

/-- A session with an empty store. -/
def start (currentUser : Option String) (structureVersion : Nat) : Session :=
  { currentUser, structureVersion, store := .empty }

/-- Who makes the commits of a session without a current user. -/
def defaultAuthor : String := "sdlc"

/-- Who makes the commits of a session. -/
def author (session : Session) : String := session.currentUser.getD defaultAuthor

/-- The name of the branch of a workspace, and the specification that the name stands
for, in which no user is left open. -/
def locate (session : Session) (specification : Specification) :
    Except Failure (String × Specification) :=
  match BranchName.encode session.currentUser specification with
  | .error cause => .error (.unnamed cause)
  | .ok name =>
    match BranchName.decode name with
    | .error _ => .error (.undecodable name specification)
    | .ok resolved => .ok (name, resolved)

end Session

/-- What an action leaves behind. -/
structure Outcome (Result : Type) where
  result : Except Failure Result
  session : Session
  /-- What was reported on the way, oldest first. -/
  events : List LogEvent

/-- A step by step change of a session. -/
def Action (Result : Type) : Type := Session → Outcome Result

namespace Action

variable {Result Next : Type}

/-- The outcome of an action on a session. -/
def run (action : Action Result) (session : Session) : Outcome Result := action session

/-- Do one action after another; if the first fails, the second is not done. -/
def andThen (first : Action Result) (second : Result → Action Next) : Action Next :=
  fun session =>
    let outcome := first session
    match outcome.result with
    | .ok result =>
      let rest := second result outcome.session
      { rest with events := outcome.events ++ rest.events }
    | .error failure =>
      { result := .error failure, session := outcome.session, events := outcome.events }

/-- Do nothing. -/
def done (result : Result) : Action Result :=
  fun session => { result := .ok result, session, events := [] }

instance : Monad Action where
  pure := done
  bind := andThen

/-- End with a failure. -/
def fail (failure : Failure) : Action Result :=
  fun session => { result := .error failure, session, events := [] }

/-- End with a failure if a condition holds. -/
def refuseIf (condition : Bool) (failure : Failure) : Action Unit :=
  if condition then fail failure else done ()

/-- Go on with a result that may be missing. -/
def ofExcept : Except Failure Result → Action Result
  | .ok result => done result
  | .error failure => fail failure

/-- Read the session. -/
def read (query : Session → Except Failure Result) : Action Result :=
  fun session => { result := query session, session, events := [] }

/-- The session itself. -/
def current : Action Session := read .ok

/-- Become another user. -/
def becomeUser (user : String) : Action Unit :=
  fun session =>
    { result := .ok (), session := { session with currentUser := some user }, events := [] }

/-- Change the store. -/
def modifyStore (change : Store → Store) : Action Unit :=
  fun session =>
    { result := .ok (), session := { session with store := change session.store }, events := [] }

/-- Report an event. -/
def report (event : LogEvent) : Action Unit :=
  fun session => { result := .ok (), session, events := [event] }

/-- Report that something was done to a project. -/
def inform (message project : String) (details : List (String × LogValue)) : Action Unit :=
  report { level := .info, source := .store, message,
           fields := ("project", .quoted project) :: details }

/-- The project with a given name. -/
def project (name : String) : Action Project :=
  read fun session => session.store.project name

/-- Change a project. -/
def modifyProject (name : String) (change : Project → Project) : Action Unit := do
  let state ← project name
  modifyStore fun store => { store with projects := store.projects.insert name (change state) }

/-- The name of the branch of a workspace and the specification without an open user. -/
def locate (specification : Specification) : Action (String × Specification) :=
  read fun session => session.locate specification

/-- Make a revision. It takes the next number of the store, and it is in the hands of the
caller to put it into a history. -/
def commit (parent : Option Snapshot) (message : String) (contents : Contents) :
    Action Snapshot :=
  fun session =>
    let sequence := session.store.sequence + 1
    let parentId := parent.map (·.revision.id)
    let id := RevisionId.ofPreimage
      (RevisionId.preimage parentId sequence message contents.entities)
    { result := .ok { revision := { id, message, author := session.author }, contents }
      session := { session with store := { session.store with sequence } }
      events := [] }

end Action

end Workstream
