import PropertyMangling.Identifier
/-!
# Short names

The short names are numbered: the first character is a digit of base 54, every
later one a digit of base 64, least significant first, and no name ends in an
idle zero. Smaller numbers give names that are no longer.

`Allocator.allocate` hands out the first name at or after its position that is a plain identifier
and not taken. Only finitely many names are taken and only finitely many words
are set aside, so a bounded search always meets a free one.
-/
namespace PropertyMangling.ShortName

/-- The characters a short name may start with; their places are its digits. -/
def leading : List Char := "abcdefghijklmnopqrstuvwxyzABCDEFGHIJKLMNOPQRSTUVWXYZ$_".toList

/-- The characters that may follow; the decimal digits come last. -/
def trailing : List Char := leading ++ "0123456789".toList

/-- The character of a base 64 digit. -/
def trailingDigit (digit : Nat) : Char := trailing.getD digit 'a'

/-- The base 64 digits of a number, least significant first; zero has none. -/
def trailingDigits (number : Nat) : List Char :=
  if number = 0 then [] else trailingDigit (number % 64) :: trailingDigits (number / 64)
termination_by number
decreasing_by omega

/-- The characters of the short name with the given number. -/
def digits (index : Nat) : List Char :=
  leading.getD (index % 54) 'a' :: trailingDigits (index / 54)

/-- The short name with the given number. -/
def ofIndex (index : Nat) : String := String.ofList (digits index)

/-- A name may be handed out when nothing else has it and it is a plain identifier. -/
def isFree (taken : List String) (index : Nat) : Bool :=
  !taken.contains (ofIndex index) && Identifier.isPlain (ofIndex index)

/-- The first free number among the next candidates, and the number after them when there is none. -/
def search (taken : List String) : Nat → Nat → Nat
  | 0, index => index
  | candidates + 1, index =>
    if isFree taken index then index else search taken candidates (index + 1)

/-- The first free number at or after the given one. A name is passed over only
because it is taken or a word of the language, and each of these can happen
once, so one candidate more than there are such names is enough. -/
def firstFree (taken : List String) (start : Nat) : Nat :=
  search taken (taken.length + Identifier.words.length + 1) start

/-- Hands out short names, each of them once. -/
structure Allocator where
  /-- The number of the next candidate. -/
  next : Nat := 0
deriving DecidableEq, Repr

/-- The next name that is a plain identifier and not taken, and the allocator behind it. -/
def Allocator.allocate (allocator : Allocator) (taken : List String) : String × Allocator :=
  let index := firstFree taken allocator.next
  (ofIndex index, ⟨index + 1⟩)

/-- As many names as asked for, none of them taken. -/
def Allocator.allocateMany (taken : List String) :
    Nat → Allocator → List String × Allocator
  | 0, allocator => ([], allocator)
  | count + 1, allocator =>
    let (name, allocator) := allocator.allocate taken
    let (names, allocator) := allocateMany taken count allocator
    (name :: names, allocator)

end PropertyMangling.ShortName
