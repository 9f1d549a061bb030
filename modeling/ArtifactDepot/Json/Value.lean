import ArtifactDepot.Entries
import ArtifactDepot.Text.Basic

/-!
# JSON values

The values of a JSON document.  The members of a record keep the order of the
document, and whole numbers are told apart from those written with a fraction
or an exponent.
-/

namespace ArtifactDepot

/-- A JSON value. -/
inductive Json where
  | null
  | truth (value : Bool)
  | whole (value : Int)
  /-- A number written with a fraction or an exponent: `mantissa * 10 ^ exponent`. -/
  | decimal (mantissa : Int) (exponent : Int)
  /-- One of the three literals that stand for no finite number. -/
  | notFinite
  | text (value : Text)
  | list (items : List Json)
  | record (members : List (Text × Json))
  deriving Inhabited

namespace Json

/-- The kinds of values that hold others. -/
inductive Container where
  | list
  | record
  deriving DecidableEq, Repr

/-- The usual name of a kind of container. -/
def Container.name : Container → String
  | .list => "array"
  | .record => "object"

/-! ## Numbers -/

/-- The number `mantissa * 10 ^ exponent`. -/
structure Decimal where
  mantissa : Int
  exponent : Int

namespace Decimal

/-- The mantissa that a number has at a smaller exponent. -/
def mantissaAt (number : Decimal) (exponent : Int) : Int :=
  number.mantissa * Int.ofNat (Nat.pow 10 (number.exponent - exponent).toNat)

/-- Are two numbers the same, whatever their exponents? -/
def same (left right : Decimal) : Bool :=
  let exponent := min left.exponent right.exponent
  left.mantissaAt exponent == right.mantissaAt exponent

end Decimal

/-- The number that a value counts as; the truth values count as one and zero. -/
def number? : Json → Option Decimal
  | .truth value => some ⟨if value then 1 else 0, 0⟩
  | .whole value => some ⟨value, 0⟩
  | .decimal mantissa exponent => some ⟨mantissa, exponent⟩
  | _ => none

/-- Do two values count as the same number? -/
def sameNumber (left right : Json) : Bool :=
  match left.number?, right.number? with
  | some left, some right => left.same right
  | _, _ => false

/-- Is the value the number `n`, whichever way it is written? -/
def isNumber (n : Int) (value : Json) : Bool := sameNumber value (.whole n)

/-! ## Values that say the same -/

mutual

/--
Do two values say the same, whatever the order of record members and however
their numbers are written?
-/
def alike : Json → Json → Bool
  | .null, .null => true
  | .text a, .text b => a == b
  | .list as, .list bs => alikeItems as bs
  | .record ms, .record ns => ms.length == ns.length && alikeMembers ms ns
  | a, b => sameNumber a b

/-- Are two lists alike item by item? -/
def alikeItems : List Json → List Json → Bool
  | [], [] => true
  | a :: as, b :: bs => alike a b && alikeItems as bs
  | _, _ => false

/-- Has every member of the first record an alike one in the second? -/
def alikeMembers : List (Text × Json) → List (Text × Json) → Bool
  | [], _ => true
  | (name, a) :: ms, ns =>
      (match ns.lookup name with
        | some b => alike a b
        | none => false) && alikeMembers ms ns

end

/-- Is the first list alike to the front of the second? -/
def alikeFront : List Json → List Json → Bool
  | [], _ => true
  | a :: as, b :: bs => alike a b && alikeFront as bs
  | _ :: _, [] => false

end Json

end ArtifactDepot
