import PropertyMangling.Reserved
import PropertyMangling.TokenFile
/-!
# Which tokens may be renamed

A token stays as it is when it is reserved, when it is no plain identifier, or
when it is too short to gain anything; the first reason that applies is the one
that its line gives.
-/
namespace PropertyMangling

/-- Tokens shorter than this are left alone unless a person says otherwise. -/
def defaultMinLength : Nat := 2

/-- The first reason against renaming a token. -/
def exclusionReason? (reserved : Reserved.Index) (minLength : Nat) (token : String) :
    Option String :=
  if reserved.isReserved token then
    some ("used in " ++ String.intercalate ", "
      ((reserved.categories token).map Reserved.Category.label))
  else if !Identifier.isPlain token then some "not identifier"
  else if token.length < minLength then
    some ("length of token is less than " ++ toString minLength)
  else none

/-- The entry of one token. -/
def classifyToken (reserved : Reserved.Index) (minLength : Nat) (token : String) :
    TokenFile.Entry :=
  match exclusionReason? reserved minLength token with
  | some reason => .excluded token reason
  | none => .eligible token

/-- The entries of tokens, in their order. -/
def classifyTokens (reserved : Reserved.Index) (minLength : Nat) (tokens : List String) :
    List TokenFile.Entry :=
  tokens.map (classifyToken reserved minLength)

end PropertyMangling
