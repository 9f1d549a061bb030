import ArtifactDepot.Entries
import ArtifactDepot.Text.Basic

/-!
# The environment

Named settings that the surroundings provide.  A setting may be changed
between any two operations, so every operation looks it up anew.
-/

namespace ArtifactDepot

/-- Settings by name; the first entry of a name counts. -/
abbrev Environment := List (Text × Text)

namespace Environment

/-- The value of a setting. -/
def get? (environment : Environment) (name : String) : Option Text :=
  environment.lookup name.toList

/-- The environment without a setting. -/
def unset (environment : Environment) (name : Text) : Environment := Entries.drop name environment

/-- The environment with a setting. -/
def set (environment : Environment) (name value : Text) : Environment :=
  Entries.put name value environment

/-- Is the setting switched on?  Outer blanks and the case of its letters do not matter. -/
def flag (environment : Environment) (name : String) : Bool :=
  let value := (Text.stripBlanks ((environment.get? name).getD [])).map Char.toLower
  value = ['1'] || value = ['t', 'r', 'u', 'e'] || value = ['y', 'e', 's']

/-- The value of a setting without outer blanks, or a default. -/
def setting (environment : Environment) (name default : String) : Text :=
  Text.stripBlanks ((environment.get? name).getD default.toList)

/-- Setting a variable changes its value and no other. -/
theorem get?_set (environment : Environment) (name : Text) (other : String) (value : Text) :
    (environment.set name value).get? other =
      if other.toList = name then some value else environment.get? other := by
  simpa [get?, set] using Entries.lookup_put name other.toList value environment

/-- An unset variable has no value, and no other changes. -/
theorem get?_unset (environment : Environment) (name : Text) (other : String) :
    (environment.unset name).get? other =
      if other.toList = name then none else environment.get? other := by
  simpa [get?, unset] using Entries.lookup_drop name other.toList environment

end Environment

end ArtifactDepot
