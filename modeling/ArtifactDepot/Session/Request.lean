import ArtifactDepot.Session.Basic

/-!
# Requests

An operation on a path can be asked for in two ways: of a backend that the
session holds, or by a shortcut that finds the backend itself.  Either way
the answer is a reply.
-/

namespace ArtifactDepot

/-- An operation, for a backend or for the shortcut of the same name. -/
inductive Request where
  | isPresent (path : Text)
  | isDirectory (path : Text)
  | modified (path : Text)
  | contents (path : Text)
  | subdirectories (path : Text)
  | files (path : Text) (skipHidden : Bool)
  | readBytes (path : Text)
  | readText (path : Text)
  | writeText (path : Text) (text : String)
  | writeBytes (path : Text) (content : ByteArray)
  | makeDirectory (path : Text) (recursive : Bool)
  | makeTemporary (kind : Kind)
  | deleteTree (path : Text)
  | localize (path : Text) (name : Option Text)
  | probe (path : Text)
  | normalize (path : Text)
  | kindOfPath (path : Text)
  | kindName (kind : Kind)
  | close

/-- What a step of a session answers. -/
inductive Reply where
  | nothing
  | flag (value : Bool)
  | flags (first second : Bool)
  | number (value : Int)
  | text (value : Text)
  | optionalText (value : Option Text)
  | bytes (value : ByteArray)
  | names (value : Names)
  | kind (value : Kind)
  | mode (value : Nat)
  /-- Everything below a directory by its path; files have a content. -/
  | tree (entries : Option (List (Text × Option ByteArray)))
  | loading (value : Keyring.Loading)
  | credential (value : Credential)
  | grants (value : List Grant)
  | keyring (cached : Bool) (config : Option Text)
  | backend (name : Option Text) (value : Backend)
  | directory (value : LocalDirectory) (released : Bool)
  | spans (value : List Span)

namespace SessionAction

/-- A backend with the name that it goes by from now on. -/
def introduce (name : Option Text) (backend : Backend) : SessionAction Reply := do
  modify fun session => { session with backends := Session.register name backend session.backends }
  return .backend (Session.nameOf backend (← get).backends) backend

/-- A local directory under a name. -/
def keep (name : Option Text) (directory : LocalDirectory) : SessionAction Reply := do
  let released := directory.isReleased (← get).site
  modify fun session =>
    { session with directories := Session.register name directory session.directories }
  return .directory directory released

/-- Run an action on the site and answer with its value. -/
def answer {α : Type} (reply : α → Reply) (action : Action α) : SessionAction Reply :=
  reply <$> onSite action

/-- Run an action on the site that has nothing to answer. -/
def done (action : Action Unit) : SessionAction Reply := answer (fun _ => .nothing) action

/-- The reply that shows a text. -/
def shown (text : String) : Reply := .text text.toList

/-- Answer a request of a backend. -/
def answerBackend (backend : Backend) (request : Request) : SessionAction Reply :=
  let kind := backend.kind
  match request with
  | .isPresent path => answer .flag (Backend.isPresent kind path)
  | .isDirectory path => answer .flag (Backend.isDirectory kind path)
  | .modified path => answer .number (Backend.modified kind path)
  | .contents path => answer .names (Backend.contents kind path)
  | .subdirectories path => answer .names (Backend.subdirectories kind path)
  | .files path _ => answer .names (Backend.files kind path)
  | .readBytes path => answer .bytes (Backend.readBytes kind path)
  | .readText path => answer shown (Backend.readText kind path)
  | .writeText path text => done (Backend.writeText kind path text)
  | .writeBytes path content => done (Backend.writeBytes kind path content)
  | .makeDirectory path recursive => done (Backend.makeDirectory kind path recursive)
  | .makeTemporary _ => answer .text (Backend.makeTemporary kind)
  | .deleteTree path => done (Backend.deleteTree kind path)
  | .localize path name => do keep name (← onSite (Backend.localize kind path))
  | .probe path => done (backend.probe path)
  | .normalize path => answer .text (Action.ofRule (Backend.normalize kind path))
  | .kindOfPath path => answer .kind (Action.ofRule (Kind.ofPath path))
  | .kindName wanted => return shown wanted.name
  | .close => done backend.close

/-- Answer a request by a shortcut. -/
def answerShortcut (request : Request) : SessionAction Reply :=
  let serve {α : Type} (path : Text) (reply : α → Reply) (operation : Kind → Action α) :=
    answer reply (Shortcuts.serving path operation)
  match request with
  | .isPresent path => serve path .flag (Backend.isPresent · path)
  | .isDirectory path => serve path .flag (Backend.isDirectory · path)
  | .modified path => serve path .number (Backend.modified · path)
  | .contents path => serve path .names (Backend.contents · path)
  | .subdirectories path => serve path .names (Backend.subdirectories · path)
  | .files path skipHidden => answer .names (Shortcuts.files path skipHidden)
  | .readBytes path => serve path .bytes (Backend.readBytes · path)
  | .readText path => serve path shown (Backend.readText · path)
  | .writeText path text => done (Shortcuts.serving path (Backend.writeText · path text))
  | .writeBytes path content => done (Shortcuts.serving path (Backend.writeBytes · path content))
  | .makeDirectory path recursive =>
      done (Shortcuts.serving path (Backend.makeDirectory · path recursive))
  | .makeTemporary kind => answer .text (Shortcuts.makeTemporary kind)
  | .deleteTree path => done (Shortcuts.serving path (Backend.deleteTree · path))
  | .localize path name => do keep name (← onSite (Shortcuts.localize path))
  | .kindOfPath path => answer .kind (Action.ofRule (Kind.ofPath path))
  | .kindName wanted => return shown wanted.name
  | .probe _ | .normalize _ | .close => return .nothing

end SessionAction

end ArtifactDepot
