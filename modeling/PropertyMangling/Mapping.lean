import PropertyMangling.Fault
import PropertyMangling.Text.Blank
import PropertyMangling.Text.Order
/-!
# Mappings from tokens to names

A mapping gives each of its tokens one name and each name one token, and both
facts are part of the type. `insert` refuses a pair that would break them and
accepts a pair that is already there. A mapping is written as entries
`token:name`, one a token, in token order.
-/
namespace PropertyMangling

/-- Pairs of a token and its name; no token and no name occurs twice. -/
structure Mapping where
  pairs : List (String × String) := []
  tokens_nodup : (pairs.map Prod.fst).Nodup := by simp
  names_nodup : (pairs.map Prod.snd).Nodup := by simp

namespace Mapping

/-- The mapping without pairs. -/
def empty : Mapping := {}

instance : Inhabited Mapping := ⟨empty⟩

/-- The pair of a token. -/
def find? (mapping : Mapping) (token : String) : Option (String × String) :=
  mapping.pairs.find? fun pair => pair.1 == token

/-- The pair of a name. -/
def findName? (mapping : Mapping) (name : String) : Option (String × String) :=
  mapping.pairs.find? fun pair => pair.2 == name

/-- The name of a token. -/
def get? (mapping : Mapping) (token : String) : Option String :=
  (mapping.find? token).map Prod.snd

/-- The token of a name. -/
def tokenOf? (mapping : Mapping) (name : String) : Option String :=
  (mapping.findName? name).map Prod.fst

/-- The tokens of a mapping. -/
def tokens (mapping : Mapping) : List String := mapping.pairs.map Prod.fst

/-- The names of a mapping. -/
def names (mapping : Mapping) : List String := mapping.pairs.map Prod.snd

/-- Whether a name is in use. -/
def containsName (mapping : Mapping) (name : String) : Bool := (mapping.tokenOf? name).isSome

/-- How many pairs there are. -/
def size (mapping : Mapping) : Nat := mapping.pairs.length

/-- Between a token and its name. -/
def separator : Char := ':'

/-- A pair as it is written. -/
def entryText (token name : String) : String := token ++ String.ofList [separator] ++ name

/-- A token that has no name stands in no pair. -/
theorem get?_eq_none {mapping : Mapping} {token : String} (absent : mapping.get? token = none) :
    token ∉ mapping.pairs.map Prod.fst := by
  simp only [get?, find?, Option.map_eq_none_iff, List.find?_eq_none] at absent
  intro held
  obtain ⟨pair, member, same⟩ := List.mem_map.1 held
  exact absent pair member (by simp [same])

/-- A name that has no token stands in no pair. -/
theorem tokenOf?_eq_none {mapping : Mapping} {name : String}
    (absent : mapping.tokenOf? name = none) : name ∉ mapping.pairs.map Prod.snd := by
  simp only [tokenOf?, findName?, Option.map_eq_none_iff, List.find?_eq_none] at absent
  intro held
  obtain ⟨pair, member, same⟩ := List.mem_map.1 held
  exact absent pair member (by simp [same])

/-- The mapping with one more pair, both sides of which are new. -/
def add (mapping : Mapping) (token name : String) (newToken : mapping.get? token = none)
    (newName : mapping.tokenOf? name = none) : Mapping where
  pairs := mapping.pairs ++ [(token, name)]
  tokens_nodup := by
    have fresh := get?_eq_none newToken
    have kept := mapping.tokens_nodup
    rw [List.map_append]
    refine List.nodup_append.2 ⟨kept, by simp, ?_⟩
    intro a held b single
    simp only [List.map_cons, List.map_nil, List.mem_singleton] at single
    subst single
    intro same
    exact fresh (same ▸ held)
  names_nodup := by
    have fresh := tokenOf?_eq_none newName
    have kept := mapping.names_nodup
    rw [List.map_append]
    refine List.nodup_append.2 ⟨kept, by simp, ?_⟩
    intro a held b single
    simp only [List.map_cons, List.map_nil, List.mem_singleton] at single
    subst single
    intro same
    exact fresh (same ▸ held)

/-- Registers a pair. A pair that is already there changes nothing; a pair that shares only its
token or only its name with another conflicts with that one. -/
def insert (mapping : Mapping) (token name : String) : Except Fault Mapping :=
  match newToken : mapping.get? token with
  | some known =>
    if known = name then .ok mapping
    else .error (.conflictingEntry (entryText token name) (entryText token known))
  | none =>
    match newName : mapping.tokenOf? name with
    | some owner => .error (.conflictingEntry (entryText token name) (entryText owner name))
    | none => .ok (mapping.add token name newToken newName)

/-- The two sides of the first separator. -/
def sidesOf? : List Char → Option (List Char × List Char)
  | [] => none
  | c :: rest =>
    if c = separator then some ([], rest)
    else (sidesOf? rest).map fun (token, name) => (c :: token, name)

/-- The pair that an entry, blanks around it removed, stands for. -/
def parseEntry (entry : List Char) : Except Fault (String × String) :=
  match sidesOf? entry with
  | none => .error (.malformedEntry (String.ofList entry))
  | some (token, name) =>
    match Text.trim token, Text.trim name with
    | [], _ => .error (.malformedEntry (String.ofList entry))
    | _, [] => .error (.malformedEntry (String.ofList entry))
    | token, name => .ok (String.ofList token, String.ofList name)

/-- Adds the pair of one entry; a blank entry adds none. -/
def insertEntry (mapping : Mapping) (entry : String) : Except Fault Mapping :=
  match Text.trim entry.toList with
  | [] => .ok mapping
  | entry => do
    let (token, name) ← parseEntry entry
    mapping.insert token name

/-- The mapping that entries stand for. -/
def ofEntries (entries : List String) : Except Fault Mapping :=
  entries.foldlM insertEntry empty

/-- Every pair as an entry, in token order. -/
def entries (mapping : Mapping) : List String :=
  (Text.sortBy Prod.fst mapping.pairs).map fun (token, name) => entryText token name

end Mapping

end PropertyMangling
