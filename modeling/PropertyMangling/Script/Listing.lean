import PropertyMangling.Script.Printing
import PropertyMangling.Text.Quoted
/-!
# Listings of syntax trees

A listing shows a tree with one field or element on a line, each level four
spaces further in and a comma behind every entry. It shows the spans, names and
literals of declarations, assignments, calls, members, objects and their patterns. Listings are
not defined for the other kinds of nodes (functions, classes, templates, loops, imports and so
on, and members and calls behind a question mark): such a node is shown by its compact text, which
keeps a listing total, and nothing is claimed of that part of it.
-/
namespace PropertyMangling.Script

/-- A tree of named values. -/
inductive Listing where
  | leaf (text : String)
  /-- A span of a node, which counts from the first token. -/
  | span (placed : Span)
  | field (name : String) (value : Listing)
  | record (name : String) (fields : List Listing)
  | variant (name : String) (value : Listing)
  | list (items : List Listing)
deriving Inhabited

namespace Listing

/-- Puts a text in front of the first line. -/
def onFirst (lead : String) : List String → List String
  | [] => [lead]
  | line :: rest => (lead ++ line) :: rest

/-- Puts a text behind the last line. -/
def onLast (tail : String) : List String → List String
  | [] => [tail]
  | [line] => [line ++ tail]
  | line :: rest => line :: onLast tail rest

/-- Lines one level further in. -/
def inward (lines : List String) : List String := lines.map fun line => "    " ++ line

/-- A span as a listing shows it, with so many bytes in front of where it counts from. -/
def spanText (lead : Nat) (span : Span) : String :=
  toString (lead + span.lo) ++ ".." ++ toString (lead + span.hi)

mutual

/-- The lines of a listing, with so many bytes in front of the first token. -/
def lines (lead : Nat) : Listing → List String
  | .leaf text => [text]
  | .span placed => [spanText lead placed]
  | .field name value => onFirst (name ++ ": ") (value.lines lead)
  | .record name fields => (name ++ " \x7b") :: (inward (entries lead fields) ++ ["\x7d"])
  | .variant name value => (name ++ "(") :: (inward (onLast "," (value.lines lead)) ++ [")"])
  | .list [] => ["[]"]
  | .list (item :: rest) =>
    "[" :: (inward (onLast "," (item.lines lead) ++ entries lead rest) ++ ["]"])

/-- The lines of entries, a comma behind each entry. -/
def entries (lead : Nat) : List Listing → List String
  | [] => []
  | item :: rest => onLast "," (item.lines lead) ++ entries lead rest

end

/-- A value that may be missing. -/
def optional : Option Listing → Listing
  | none => .leaf "None"
  | some value => .variant "Some" value

/-- A text in quotes. -/
def text (text : String) : Listing := .leaf (Text.quoted text)

/-- A truth value. -/
def flag (value : Bool) : Listing := .leaf (if value then "true" else "false")

/-- The mark of a scope that has not been resolved. -/
def scope : Listing := .leaf "#0"

end Listing

/-- From this power of ten on a number is listed with an exponent. -/
def listedExponentFrom : Int := 16

/-- Below this power of ten a number is listed with an exponent. -/
def listedExponentBelow : Int := -4

/-- A number as a listing shows it: its shortest digits, with a place behind the point at least, and
with an exponent when it is very large or very small. -/
def listedNumber : Binary64 → String
  | .infinite => "inf"
  | .finite mantissa exponent =>
    let decimal := Decimal.shortest mantissa exponent
    let digits := Nat.toDigits 10 decimal.coefficient
    let power := digits.length - 1 + decimal.exponent
    if decimal.coefficient ≠ 0 && (power ≥ listedExponentFrom || power < listedExponentBelow) then
      let places := digits.drop 1
      String.ofList (digits.take 1 ++ (if places.isEmpty then [] else '.' :: places)) ++ "e" ++
        toString power
    else
      let text := decimal.positional
      String.ofList (if text.contains '.' then text else text ++ ['.', '0'])

/-- A name with its span. -/
def Name.listing (name : Name) : Listing :=
  .record "IdentName" [.field "span" (.span name.span), .field "sym" (.text name.text)]

/-- A variable with its span. -/
def Name.variableListing (name : Name) : Listing :=
  .record "Ident" [
    .field "span" (.span name.span), .field "ctxt" .scope, .field "sym" (.text name.text),
    .field "optional" (.flag false)]

/-- A variable that a declaration or an assignment gives a value to. -/
def Name.targetListing (name : Name) : Listing :=
  .record "BindingIdent" [
    .field "id" name.variableListing, .field "type_ann" (.leaf "None")]

/-- A string with its span and its source. -/
def Quoted.listing (literal : Quoted) : Listing :=
  .variant "Str" (.record "Str" [
    .field "span" (.span literal.span), .field "value" (.text literal.value),
    .field "raw" (.optional (literal.source?.map Listing.text))])

/-- The part that a node plays. -/
inductive Part where
  | expression
  | target
  | argument
  | property
  | targetProperty
  | key
  | declarator
  | item
deriving DecidableEq, Repr

/-- What an assignment's target is listed as: a name or member, or a pattern. -/
def assignedListing (target : Node) (listing : Listing) : Listing :=
  match target with
  | .arrayPattern _ | .objectPattern .. => .variant "Pat" listing
  | _ => .variant "Simple" listing

/-- A node of a kind for which no listing is defined, by its compact text. -/
def plainListing (node : Node) : Listing := .leaf (render (node.marks .compact false))

/-- A value that stands where an argument can stand. -/
def argumentListing (part : Part) (listing : Listing) : Listing :=
  if part = .argument then
    .record "ExprOrSpread" [.field "spread" (.leaf "None"), .field "expr" listing]
  else listing

/-- A variable in the part that it plays. -/
def variableListing (part : Part) (name : Name) : Listing :=
  .variant "Ident" (if part = .target then name.targetListing else name.variableListing)

mutual

/-- The listing of a node that plays some part. -/
def Node.listing (part : Part) : Node → Listing
  | .identifier name => argumentListing part (variableListing part name)
  | .number span value source =>
    argumentListing part (.variant "Lit" (.variant "Num" (.record "Number" [
      .field "span" (.span span), .field "value" (.leaf (listedNumber value)),
      .field "raw" (.optional (some (.text source)))])))
  | .string literal => argumentListing part (.variant "Lit" literal.listing)
  | .member span host name optional =>
    let node := Node.member span host name optional
    if node.isOptionalChain then plainListing node
    else
      argumentListing part (.variant "Member" (.record "MemberExpr" [
        .field "span" (.span span), .field "obj" (host.listing .expression),
        .field "prop" (.variant "Ident" name.listing)]))
  | .subscript span host bracket index optional =>
    let node := Node.subscript span host bracket index optional
    if node.isOptionalChain then plainListing node
    else
      argumentListing part (.variant "Member" (.record "MemberExpr" [
        .field "span" (.span span), .field "obj" (host.listing .expression),
        .field "prop" (.variant "Computed" (.record "ComputedPropName" [
          .field "span" (.span bracket), .field "expr" (index.listing .expression)]))]))
  | .call span callee items optional =>
    let node := Node.call span callee items optional
    if node.isOptionalChain then plainListing node
    else
      argumentListing part (.variant "Call" (.record "CallExpr" [
        .field "span" (.span span), .field "ctxt" .scope,
        .field "callee" (.variant "Expr" (callee.listing .expression)),
        .field "args" (.list (listingsOf .argument items)), .field "type_args" (.leaf "None")]))
  | .paren span inner =>
    argumentListing part (.variant "Paren" (.record "ParenExpr" [
      .field "span" (.span span), .field "expr" (inner.listing .expression)]))
  | .assign span op? target value =>
    argumentListing part (.variant "Assign" (.record "AssignExpr" [
      .field "span" (.span span), .field "op" (.text ((op?.elim "" BinaryOp.text) ++ "=")),
      .field "left" (assignedListing target (target.listing .target)),
      .field "right" (value.listing .expression)]))
  | .object span properties _ =>
    argumentListing part (.variant "Object" (.record "ObjectLit" [
      .field "span" (.span span), .field "props" (.list (listingsOf .property properties))]))
  | .property key value =>
    if part = .targetProperty then
      .variant "KeyValue" (.record "KeyValuePatProp" [
        .field "key" (key.listing .key), .field "value" (value.listing .target)])
    else
      .variant "Prop" (.variant "KeyValue" (.record "KeyValueProp" [
        .field "key" (key.listing .key), .field "value" (value.listing .expression)]))
  | .shorthand span name default? =>
    if part = .targetProperty then
      .variant "Assign" (.record "AssignPatProp" [
        .field "span" (.span span), .field "key" name.targetListing,
        .field "value" (someListing .expression default?)])
    else .variant "Prop" (.variant "Shorthand" name.variableListing)
  | .defaulted span name value =>
    .variant "Prop" (.variant "Assign" (.record "AssignProp" [
      .field "span" (.span span), .field "key" name.variableListing,
      .field "value" (value.listing .expression)]))
  | .keyName name => .variant "Ident" name.listing
  | .keyString literal => literal.listing
  | .computed span expression =>
    .variant "Computed" (.record "ComputedPropName" [
      .field "span" (.span span), .field "expr" (expression.listing .expression)])
  | .objectPattern span properties =>
    .variant "Object" (.record "ObjectPat" [
      .field "span" (.span span), .field "props" (.list (listingsOf .targetProperty properties)),
      .field "optional" (.flag false), .field "type_ann" (.leaf "None")])
  | .defaultPattern span target value =>
    .variant "Assign" (.record "AssignPat" [
      .field "span" (.span span), .field "left" (target.listing .target),
      .field "right" (value.listing .expression)])
  | .expressionStatement span expression =>
    .variant "Stmt" (.variant "Expr" (.record "ExprStmt" [
      .field "span" (.span span), .field "expr" (expression.listing .expression)]))
  | .variables span kind declarators =>
    .variant "Stmt" (.variant "Decl" (.variant "Var" (.record "VarDecl" [
      .field "span" (.span span), .field "ctxt" .scope, .field "kind" (.text kind.text),
      .field "declare" (.flag false),
      .field "decls" (.list (listingsOf .declarator declarators))])))
  | .declarator span target value? =>
    .record "VarDeclarator" [
      .field "span" (.span span), .field "name" (target.listing .target),
      .field "init" (someListing .expression value?), .field "definite" (.flag false)]
  | node => argumentListing part (plainListing node)

/-- The listings of nodes that play the same part. -/
def listingsOf (part : Part) : List Node → List Listing
  | [] => []
  | node :: rest => node.listing part :: listingsOf part rest

/-- The listing of a node that may be left out. -/
def someListing (part : Part) : Option Node → Listing
  | none => .leaf "None"
  | some node => .variant "Some" (node.listing part)

end

/-- The listing of a program. -/
def Program.listing (program : Program) : Listing :=
  .record "Module" [
    .field "span" (.leaf (Listing.spanText 0 program.span)), .field "body" (.list (listingsOf .item program.items)),
    .field "shebang" (.optional (program.interpreter?.map Listing.text))]

/-- The text of a program's listing. -/
def Program.listed (program : Program) : String :=
  String.intercalate "\n" (program.listing.lines program.lead)

end PropertyMangling.Script
