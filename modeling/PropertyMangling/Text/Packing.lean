/-!
# Packing statements into lines

Statements are put behind each other as long as a line stays within its limit,
and the first one that would pass it opens the next line. A statement that is
longer than the limit has a line of its own. Lengths are those of the encoded text.
-/
namespace PropertyMangling.Text

/-- Groups statements, given the group under way and its length. -/
def groupsFrom (limit : Nat) (group : List String) (length : Nat) : List String → List (List String)
  | [] => [group]
  | statement :: rest =>
    if length + statement.utf8ByteSize ≤ limit then
      groupsFrom limit (group ++ [statement]) (length + statement.utf8ByteSize) rest
    else group :: groupsFrom limit [statement] statement.utf8ByteSize rest

/-- Statements in groups that fit a line each. -/
def groups (limit : Nat) : List String → List (List String)
  | [] => []
  | statement :: rest => groupsFrom limit [statement] statement.utf8ByteSize rest

/-- Statements packed into lines. -/
def packLines (limit : Nat) (statements : List String) : String :=
  String.intercalate "\n" ((groups limit statements).map String.join)

end PropertyMangling.Text
