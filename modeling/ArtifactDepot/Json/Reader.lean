import ArtifactDepot.Json.Token

/-!
# Reading JSON documents

A pushdown reader over the tokens of a document.  It keeps the containers
that are still open, innermost first, and what may come next.  It accepts the
usual grammar, three literals for numbers that are not finite, and repeated
members, the last of which wins in the place of the first.
-/

namespace ArtifactDepot.Json

/-- Why a document is refused. -/
inductive Flaw where
  | malformed
  | numberTooLong
  /-- A container would be one too many that are open. -/
  | nestedTooDeep (container : Container)
  deriving DecidableEq, Repr

/-- A container that is still open. -/
inductive Frame where
  /-- The items so far, last first. -/
  | list (items : List Json)
  /-- The members so far and the name of the one being read. -/
  | record (members : List (Text × Json)) (name : Text)

/-- What the reader accepts next. -/
inductive Expectation where
  | value
  | valueOrClose
  | name (members : List (Text × Json))
  | nameOrClose
  | colon (members : List (Text × Json)) (name : Text)
  | more
  | finished (value : Json)

/-- Hand a complete value to the innermost open container. -/
def settle (value : Json) : List Frame → Expectation × List Frame
  | [] => (.finished value, [])
  | .list items :: outer => (.more, .list (value :: items) :: outer)
  | .record members name :: outer =>
      (.more, .record (Entries.put name value members) name :: outer)

/-- Open a container unless as many are open as can be. -/
def descend (nesting : Nat) (container : Container) (frames : List Frame) :
    Except Flaw (Expectation × List Frame) :=
  if nesting ≤ frames.length then .error (.nestedTooDeep container)
  else
    match container with
    | .list => .ok (.valueOrClose, .list [] :: frames)
    | .record => .ok (.nameOrClose, .record [] [] :: frames)

/-- Read one value. -/
def readValue (nesting : Nat) (frames : List Frame) :
    Token → Except Flaw (Expectation × List Frame)
  | .atom value => .ok (settle value frames)
  | .text value => .ok (settle (.text value) frames)
  | .openList => descend nesting .list frames
  | .openRecord => descend nesting .record frames
  | .longNumber => .error .numberTooLong
  | _ => .error .malformed

/-- Read one token. -/
def advance (nesting : Nat) :
    Expectation → List Frame → Token → Except Flaw (Expectation × List Frame)
  | .value, frames, token => readValue nesting frames token
  | .valueOrClose, _ :: outer, .closeList => .ok (settle (.list []) outer)
  | .valueOrClose, frames, token => readValue nesting frames token
  | .nameOrClose, _ :: outer, .closeRecord => .ok (settle (.record []) outer)
  | .nameOrClose, frames, .text name => .ok (.colon [] name, frames.drop 1)
  | .name members, frames, .text name => .ok (.colon members name, frames)
  | .colon members name, frames, .colon => .ok (.value, .record members name :: frames)
  | .more, .list items :: outer, .comma => .ok (.value, .list items :: outer)
  | .more, .list items :: outer, .closeList => .ok (settle (.list items.reverse) outer)
  | .more, .record members _ :: outer, .comma => .ok (.name members, outer)
  | .more, .record members _ :: outer, .closeRecord => .ok (settle (.record members) outer)
  | _, _, _ => .error .malformed

/-- Read all tokens from a given state. -/
def readTokens (nesting : Nat) : Expectation → List Frame → List Token → Except Flaw Json
  | .finished value, _, [] => .ok value
  | _, _, [] => .error .malformed
  | expectation, frames, token :: rest =>
      match advance nesting expectation frames token with
      | .error flaw => .error flaw
      | .ok (expectation', frames') => readTokens nesting expectation' frames' rest

/-- Read a whole document, in which no more than so many containers may be open at once. -/
def parse (nesting : Nat) (input : Text) : Except Flaw Json :=
  readTokens nesting .value [] (tokens input)

end ArtifactDepot.Json
