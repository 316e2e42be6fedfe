import Workstream.Store.Workspaces

/-!
# Configurations of projects

The configuration is part of every revision, so it is looked up like one: at the head
or at some revision of a stream or a workspace, or at a released version.
-/

namespace Workstream.Configurations

/-- The configuration at the head of a stream. -/
def ofStream (project : String) (stream : DevelopmentStream) (session : Session) :
    Except Failure Configuration := do
  let state ← session.store.project project
  let head ← state.head project stream
  return head.contents.configuration

/-- The configuration at a revision of a stream. -/
def ofStreamRevision (project : String) (stream : DevelopmentStream) (revision : String)
    (session : Session) : Except Failure Configuration := do
  let state ← session.store.project project
  let history ← state.history project stream
  match history.find? (·.revision.id.text = revision) with
  | some snapshot => return snapshot.contents.configuration
  | none => .error (.unknownRevision revision (.history stream project))

/-- The configuration at the head of a workspace. -/
def ofWorkspace (project : String) (specification : Specification) (session : Session) :
    Except Failure Configuration := do
  let found ← Workspaces.find project specification session
  return found.branch.head.contents.configuration

/-- The configuration at a revision of a workspace. -/
def ofWorkspaceRevision (project : String) (specification : Specification)
    (revision : String) (session : Session) : Except Failure Configuration := do
  let found ← Workspaces.find project specification session
  match found.branch.find? revision with
  | some snapshot => return snapshot.contents.configuration
  | none => .error (.unknownRevision revision (.branch specification))

/-- The configuration of a released version. -/
def ofVersion (project : String) (version : Version) (session : Session) :
    Except Failure Configuration := do
  let state ← session.store.project project
  let released ← state.release project version
  return released.contents.configuration

end Workstream.Configurations
