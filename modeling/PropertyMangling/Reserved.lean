import PropertyMangling.Identifier
/-!
# Reserved tokens

Some property names must keep their spelling: words of the language, names that
the engine or the document gives to its own objects, and names that a person set
aside. The index keeps for each token the categories it is reserved under, in
the order in which they were registered and each of them once.
-/
namespace PropertyMangling.Reserved

/-- Why a token is reserved. -/
inductive Category where
  | keyword
  | reservedWord
  | atom
  | globalObject
  | objectProperty
  | arrayProperty
  | stringProperty
  | functionProperty
  | document
  | custom
deriving DecidableEq, Repr

/-- The wording of a category. -/
def Category.label : Category → String
  | keyword => "keyword"
  | reservedWord => "reserved word"
  | atom => "atom"
  | globalObject => "global object"
  | objectProperty => "object property"
  | arrayProperty => "array property"
  | stringProperty => "string property"
  | functionProperty => "function property"
  | document => "dom"
  | custom => "custom reserved"

/-- Names of the global object. -/
def globalObjects : List String := [
  "Array", "Boolean", "Date", "Error", "EvalError", "Function", "Infinity", "JSON", "Math",
  "NaN", "Number", "Object", "RangeError", "ReferenceError", "RegExp", "String", "SyntaxError",
  "TypeError", "URIError", "arguments", "clearInterval", "clearTimeout", "console",
  "decodeURI", "decodeURIComponent", "encodeURI", "encodeURIComponent", "escape", "eval",
  "isFinite", "isNaN", "parseFloat", "parseInt", "setInterval", "setTimeout", "unescape"]

/-- Properties that every object inherits. -/
def objectProperties : List String := [
  "__defineGetter__", "__defineSetter__", "__lookupGetter__", "__lookupSetter__", "__proto__",
  "constructor", "hasOwnProperty", "isPrototypeOf", "propertyIsEnumerable", "toLocaleString",
  "toString", "valueOf"]

/-- Properties of arrays. -/
def arrayProperties : List String := [
  "concat", "every", "filter", "forEach", "indexOf", "join", "lastIndexOf", "length", "map",
  "pop", "push", "reduce", "reduceRight", "reverse", "shift", "slice", "some", "sort",
  "splice", "unshift"]

/-- Properties of strings. -/
def stringProperties : List String := [
  "charAt", "charCodeAt", "fromCharCode", "indexOf", "lastIndexOf", "length", "localeCompare",
  "match", "replace", "search", "slice", "split", "substr", "substring", "toLowerCase",
  "toUpperCase", "trim"]

/-- Properties of functions. -/
def functionProperties : List String := [
  "apply", "bind", "call", "caller", "length", "name", "prototype"]

/-- Names of documents and their elements. -/
def documentProperties : List String := [
  "addEventListener", "appendChild", "body", "createElement", "document", "getElementById",
  "getElementsByTagName", "innerHTML", "location", "navigator", "removeChild",
  "removeEventListener", "setAttribute", "getAttribute", "style", "window"]

/-- The engine's tables in registration order. -/
def engineTables : List (Category × List String) := [
  (.keyword, Identifier.keywords),
  (.reservedWord, Identifier.reservedWords),
  (.atom, Identifier.atoms),
  (.globalObject, globalObjects),
  (.objectProperty, objectProperties),
  (.arrayProperty, arrayProperties),
  (.stringProperty, stringProperties),
  (.functionProperty, functionProperties),
  (.document, documentProperties)]

/-- The categories of every reserved token. -/
structure Index where
  entries : List (String × List Category) := []
deriving DecidableEq, Repr

namespace Index

/-- The index without any token. -/
def empty : Index := {}

/-- The categories a token is reserved under; a token that may be renamed has none. -/
def categories (index : Index) (token : String) : List Category :=
  (index.entries.lookup token).getD []

/-- Whether a token must keep its spelling. -/
def isReserved (index : Index) (token : String) : Bool := !(index.categories token).isEmpty

/-- Adds a category to a token, behind those it has, unless it has it already. -/
def registerIn (category : Category) (token : String) :
    List (String × List Category) → List (String × List Category)
  | [] => [(token, [category])]
  | (other, known) :: rest =>
    if token = other then
      (other, if category ∈ known then known else known ++ [category]) :: rest
    else (other, known) :: registerIn category token rest

/-- Reserves a token under a category. -/
def register (index : Index) (category : Category) (token : String) : Index :=
  ⟨registerIn category token index.entries⟩

/-- Reserves every token of a table. -/
def registerAll (index : Index) (table : Category × List String) : Index :=
  table.2.foldl (fun index token => index.register table.1 token) index

/-- The engine's reserved tokens and those that a person set aside. A token is listed only with a
category: one that is listed under none would be answered like one that is not listed, so no such
tokens are put in first. -/
def ofCustom (custom : List String) : Index :=
  (engineTables ++ [(Category.custom, custom)]).foldl registerAll empty

end Index

end PropertyMangling.Reserved
