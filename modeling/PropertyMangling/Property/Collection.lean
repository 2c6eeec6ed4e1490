import PropertyMangling.Property.Embedded
import PropertyMangling.Property.Site
import PropertyMangling.Script.Parsing
/-!
# The tokens of a program

A token is a property name of the program, however it is written. Inside
embedded code every variable is a token as well, because nothing else sees it
there. Embedded code that is no program contributes nothing. Tokens are listed in
the order of the walk, each at its first occurrence.
-/
namespace PropertyMangling

open Script

/-- The tokens of one site. Variables count inside embedded code only; the last argument gives the
tokens of code. -/
def Site.tokens (marker : String) (countsVariables : Bool) (codeTokens : String → List String) :
    Site → List String
  | name text => [text]
  | shorthand text => [text]
  | subscript value =>
    if Embedded.isMarked marker value then codeTokens (Embedded.codeOf marker value) else [value]
  | key value => [value]
  | literal value =>
    if Embedded.isMarked marker value then codeTokens (Embedded.codeOf marker value) else []
  | imported value =>
    if Embedded.isMarked marker value then codeTokens (Embedded.codeOf marker value) else []
  | .variable text => if countsVariables then [text] else []

/-- The tokens of embedded code, repetitions included, down to a number of levels of code inside
code. -/
def codeTokensWithin (marker : String) : Nat → String → List String
  | 0, _ => []
  | levels + 1, code =>
    match Program.parse code with
    | .ok program => program.sites.flatMap (Site.tokens marker true (codeTokensWithin marker levels))
    | .error _ => []

/-- The tokens of embedded code, repetitions included. Code inside code is shorter than what it
stands in by the marker at least, so there are no more levels than characters. -/
def codeTokens (marker code : String) : List String :=
  codeTokensWithin marker (code.length + 1) code

/-- The tokens of a program, each of them once. -/
def Script.Program.tokens (program : Program) (marker : String) : List String :=
  (program.sites.flatMap (Site.tokens marker false (codeTokens marker))).eraseDups

end PropertyMangling
