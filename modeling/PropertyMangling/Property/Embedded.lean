import PropertyMangling.Identifier
import PropertyMangling.Mapping
/-!
# Code inside strings

A string that starts with the marker holds code. Names in it are replaced
without reading the code as a program: a word is renamed when it stands behind
a point, or between two equal quotes that hold nothing else. `pieces` fixes
which words these are from the code alone; a mapping only decides what is
written in their places.
-/
namespace PropertyMangling.Embedded

/-- Whether a string holds code. An empty marker marks nothing. -/
def isMarked (marker value : String) : Bool :=
  !marker.isEmpty && marker.toList.isPrefixOf value.toList

/-- The code behind the marker. -/
def codeOf (marker value : String) : String :=
  String.ofList (value.toList.drop marker.toList.length)

/-- A part of code: a character that is copied, or a word that may be renamed. -/
inductive Piece where
  | copied (char : Char)
  | word (chars : List Char)
deriving DecidableEq, Repr

/-- A character behind which a word may be renamed. -/
def isLead (c : Char) : Bool := c == '.' || c == '\'' || c == '"'

/-- The pieces of code. The count says how many characters the last piece has covered already. -/
def piecesFrom : Nat → List Char → List Piece
  | _, [] => []
  | covered + 1, _ :: rest => piecesFrom covered rest
  | 0, c :: rest =>
    let word := rest.takeWhile Identifier.isPart
    if !isLead c || word.isEmpty then .copied c :: piecesFrom 0 rest
    else if c = '.' then .copied c :: .word word :: piecesFrom word.length rest
    else if (rest.drop word.length).head? = some c then
      .copied c :: .word word :: .copied c :: piecesFrom (word.length + 1) rest
    else .copied c :: piecesFrom 0 rest

/-- The pieces of code. -/
def pieces (code : List Char) : List Piece := piecesFrom 0 code

/-- The characters of a piece when words are renamed. -/
def Piece.rendered (rename : String → String) : Piece → List Char
  | copied c => [c]
  | word chars => (rename (String.ofList chars)).toList

/-- The code that pieces make when words are renamed. -/
def renderPieces (rename : String → String) (pieces : List Piece) : List Char :=
  pieces.flatMap (Piece.rendered rename)

/-- The name that a mapping gives a word; a word it does not know keeps its own. -/
def renamed (mapping : Mapping) (word : String) : String := (mapping.get? word).getD word

/-- A word that the mapping knows is replaced by its name. -/
theorem renamed_of_known {mapping : Mapping} {word name : String}
    (known : mapping.get? word = some name) : renamed mapping word = name := by
  rw [renamed, known, Option.getD_some]

/-- A word that the mapping does not know stays as it is. -/
theorem renamed_of_unknown {mapping : Mapping} {word : String}
    (unknown : mapping.get? word = none) : renamed mapping word = word := by
  rw [renamed, unknown, Option.getD_none]

/-- Code with its words renamed. -/
def renameWords (mapping : Mapping) (code : String) : String :=
  String.ofList (renderPieces (renamed mapping) (pieces code.toList))

end PropertyMangling.Embedded
