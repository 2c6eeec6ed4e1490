import PropertyMangling.Decimal.Binary64
/-!
# Data of option files

A number without fraction and exponent that fits 64 bits stays a whole number;
every other number is a double with a sign. Members of an object are kept in the
order in which they were written, repeated names included.
-/
namespace PropertyMangling.Json

/-- A value of an option file. -/
inductive Value where
  | null
  | boolean (value : Bool)
  | integer (value : Int)
  | real (negative : Bool) (magnitude : Binary64)
  | string (value : String)
  | list (items : List Value)
  | object (members : List (String × Value))
deriving Inhabited

/-- Members with each name once, at the place of its last occurrence. -/
def lastMembers {α : Type} : List (String × α) → List (String × α)
  | [] => []
  | (name, value) :: rest =>
    if rest.any fun other => other.1 == name then lastMembers rest
    else (name, value) :: lastMembers rest

end PropertyMangling.Json
