import ArtifactDepot.Shortcuts

/-!
# Sessions

A session is a site together with the names that have been given to keyrings,
pools, backends and local directories.  An object keeps the first name that
it is given, and a name goes to the last object that it was given to.
-/

namespace ArtifactDepot

/-- The site and the names that objects have been given. -/
structure Session where
  site : Site
  keyrings : List (Text × Nat) := []
  pools : List (Text × Pool) := []
  backends : List (Text × Backend) := []
  directories : List (Text × LocalDirectory) := []

namespace Session

/-- The name of an object, if it has one. -/
def nameOf {α : Type} [BEq α] (object : α) (named : List (Text × α)) : Option Text :=
  (named.find? (fun entry => entry.2 == object)).map Prod.fst

/-- Name an object unless it has a name. -/
def register {α : Type} [BEq α] (name : Option Text) (object : α) (named : List (Text × α)) :
    List (Text × α) :=
  match name, nameOf object named with
  | some name, none => Entries.put name object named
  | _, _ => named

end Session

/-- An operation on a session. -/
abbrev SessionAction := EStateM Failure Session

namespace SessionAction

/-- Run an action on the site of a session. -/
def onSite {α : Type} (action : Action α) : SessionAction α := fun session =>
  match action session.site with
  | .ok value site => .ok value { session with site }
  | .error failure site => .error failure { session with site }

/-- An object by its name. -/
def named {α : Type} (objects : Session → List (Text × α)) (name : Text) : SessionAction α := do
  match (objects (← get)).lookup name with
  | some object => return object
  | none => throw (.incident (.unnamed name))

/-- Give a keyring a name. -/
def nameKeyring (name : Text) (keyring : Nat) : SessionAction Unit :=
  modify fun session => { session with keyrings := Entries.put name keyring session.keyrings }

/-- Give a pool a name. -/
def namePool (name : Text) (pool : Pool) : SessionAction Unit :=
  modify fun session => { session with pools := Entries.put name pool session.pools }

end SessionAction

end ArtifactDepot
