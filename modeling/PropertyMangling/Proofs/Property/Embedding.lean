import PropertyMangling.Proofs.Embedded.Exchange
import PropertyMangling.Proofs.Property.Nesting
/-!
# What is collected and what is renamed

Collecting and renaming meet the same strings, and each decides by itself which of
them is code. They agree on every marked string but for two kinds: a key is renamed
as code and collected as it stands, and a string of an import is collected as code
and left as it is. Where code is collected and parses, each of its member names is
a token, whatever the scan for words takes it for: the scan takes the whole name
unless the name goes on behind the plain characters that it starts with.
-/
namespace PropertyMangling

open Script Embedded

/-! ## Code -/

variable {marker code : String} {size : Char → Nat}

/-- A token of code weighs no more than the code.

By induction on the length of the code: what is nested is shorter. -/
theorem weigh_token (fits : IsWeight size) {token : String} (found : token ∈ codeTokens marker code) :
    weigh size token.toList ≤ weigh size code.toList := by
  induction length : code.toList.length using Nat.strongRecOn generalizing code with
  | ind length' inductionHypothesis =>
    subst length
    cases parsed : Program.parse code with
    | error error =>
      rw [codeTokens_of_error parsed] at found
      cases found
    | ok inner =>
      rw [codeTokens_of_parse parsed, collected] at found
      obtain ⟨site, inside, found⟩ := List.mem_flatMap.mp found
      cases holds : site.code? marker with
      | none =>
        rw [Site.tokens_of_no_code holds] at found
        rcases Site.wording_of_mem_ownTokens found with word | quoted
        · exact weigh_name fits parsed inside word
        · have room := weigh_string fits parsed inside quoted
          omega
      | some nested =>
        rw [Site.tokens_of_code holds] at found
        have shorter := Nests.length_lt ⟨inner, parsed, site, inside, holds⟩
        have small := inductionHypothesis _ shorter found rfl
        have room := weigh_code fits parsed inside holds
        omega

/-- A marked string is no token of its own code, whose tokens are all shorter than the string. -/
theorem notMem_codeTokens {value : String} (marked : isMarked marker value = true) :
    value ∉ codeTokens marker (codeOf marker value) := by
  intro found
  obtain ⟨some, split⟩ := toList_of_isMarked marked
  have small := weigh_token isWeight_one found
  have length : marker.toList ≠ [] := fun none => some (String.toList_eq_nil_iff.mp none)
  have filled := List.length_pos_iff.mpr length
  rw [weigh_one, weigh_one, split, List.length_append] at small
  omega

/-- Without names to give, code stays as it is. -/
theorem Embedded.renameWords_empty (code : String) : renameWords .empty code = code := by
  rw [renameWords, renderPieces_eq_textOf fun run _ => renamed_of_unknown rfl,
    (cut_pieces code.toList).lossless, String.ofList_toList]

/-! ## Member names that the scan takes -/

namespace Script.Program

/-- A name that the parser reads where the scan takes a word starts with the word, and is the word
exactly where a name ends behind it. -/
theorem word_eq_name_iff {inner : Program} (parsed : Program.parse code = .ok inner)
    {front after : List Piece} {word : List Char} {mention : Mention} {name : String}
    (cut : pieces code.toList = front ++ .word word :: after) (listed : mention ∈ inner.mentions)
    (isName : mention.site = .name name)
    (place : inner.lead + mention.span.lo = 1 + weigh Char.utf8Size (textOf front)) :
    String.ofList word = name ↔ Lexer.endsName (textOf after) = true := by
  obtain ⟨passed, behind, whole, lead, ordered⟩ := inOrder_of_parse parsed
  obtain ⟨start, token, rest, opens, read, wording, -⟩ :=
    ordered.standsIn mention.saying (List.mem_map.mpr ⟨mention, listed, rfl⟩)
  have whole' : textOf (front ++ .word word :: after) = passed ++ behind := by
    rw [← cut, (cut_pieces code.toList).lossless, whole]
  obtain ⟨isRun, -, -⟩ := (isDecomposition_pieces code.toList).placed front word after cut
  obtain ⟨opened, ⟨between, text, position⟩, -, same, starts⟩ := opens
  have here : opened.text = word ++ textOf after := by
    have texts : (passed ++ between) ++ opened.text = textOf front ++ (word ++ textOf after) := by
      rw [List.append_assoc, ← show behind = between ++ opened.text from text, ← whole', textOf_append,
        textOf_cons]
      rfl
    refine isWeight_utf8Size.eq_behind texts ?_
    have lo : mention.saying.span.lo = mention.span.lo := rfl
    have position : opened.position = 1 + weigh Char.utf8Size between := position
    rw [weigh_append]
    omega
  have first : opened = start := by
    obtain ⟨c, others, rfl⟩ := List.exists_cons_of_ne_nil isRun.1
    have part := isRun.2 c List.mem_cons_self
    rw [here] at starts
    refine starts.resolve_right ?_
    rintro (mark | mark)
    · obtain rfl := Option.some.inj mark
      exact absurd part (by decide)
    · obtain rfl := Option.some.inj mark
      exact absurd part (by decide)
  have said : token.wording? = some mention.site.wording := wording
  rw [isName] at said
  cases token with
  | word found spelling =>
    obtain rfl := Wording.word.inj (Option.some.inj said)
    rw [← first, here] at read
    exact Lexer.eq_name_iff (fun c inside => isNamePart_of_isPart (isRun.2 c inside))
      (Lexer.name_of_token read)
  | _ => cases said

/-- A member name of code is a token of the code. -/
theorem name_mem_codeTokens {inner : Program} (parsed : Program.parse code = .ok inner)
    {mention : Mention} {name : String} (listed : mention ∈ inner.mentions)
    (isName : mention.site = .name name) : name ∈ codeTokens marker code := by
  have inside : Site.name name ∈ inner.sites :=
    inner.perm_mentions.mem_iff.mp (List.mem_map.mpr ⟨mention, listed, isName⟩)
  rw [codeTokens_of_parse parsed]
  exact List.mem_flatMap.mpr ⟨_, inside, List.mem_singleton.mpr rfl⟩

/-! ## Marked strings -/

variable {program : Program} {before behind : List Site} {site : Site} {value : String}

/-- Collecting reads a string that stands between some sites as code: the tokens of the code stand at
its place. -/
def CollectsCode (program : Program) (marker : String) (before behind : List Site) (code : String) :
    Prop :=
  ∀ counts, collected marker counts program.sites =
    collected marker counts before ++ codeTokens marker code ++ collected marker counts behind

/-- Renaming reads a string that stands between some sites as code: the code with its words renamed
stands at its place. -/
def RenamesCode (program : Program) (marker : String) (before behind : List Site) (code : String) :
    Prop :=
  ∀ mapping : Mapping, ∃ changed : Site, changed.string? = some (renameWords mapping code) ∧
    (program.rename ⟨mapping, marker⟩).value.sites =
      before.flatMap (Renaming.site ⟨mapping, marker⟩) ++
        changed :: behind.flatMap (Renaming.site ⟨mapping, marker⟩)

/-- Code is collected at a marked string unless it is a key. -/
theorem collectsCode_iff (split : program.sites = before ++ site :: behind)
    (stands : site.string? = some value) (marked : isMarked marker value = true) :
    program.CollectsCode marker before behind (codeOf marker value) ↔ site ≠ .key value := by
  constructor
  · rintro collects rfl
    have whole := collects true
    rw [split, collected_no_code before behind rfl] at whole
    have same := List.append_cancel_left (List.append_cancel_right whole)
    have apart := notMem_codeTokens marked
    rw [← same] at apart
    exact apart (List.mem_singleton.mpr rfl)
  · intro noKey counts
    rw [split, collected_code before behind ((Site.code?_eq_some_iff stands marked).mpr noKey)]

/-- Code is renamed at a marked string unless an import declaration holds it. -/
theorem renamesCode_iff (split : program.sites = before ++ site :: behind)
    (stands : site.string? = some value) (marked : isMarked marker value = true) :
    program.RenamesCode marker before behind (codeOf marker value) ↔ site ≠ .imported value := by
  have sites (plan : Renaming) : (program.rename plan).value.sites =
      before.flatMap plan.site ++ (plan.site site ++ behind.flatMap plan.site) := by
    rw [sites_rename, split, List.flatMap_append, List.flatMap_cons]
  constructor
  · rintro renames rfl
    obtain ⟨changed, same, whole⟩ := renames .empty
    rw [sites] at whole
    obtain ⟨rfl, -⟩ := List.cons.inj (List.append_cancel_left whole)
    have unchanged : value = renameWords .empty (codeOf marker value) := Option.some.inj same
    rw [renameWords_empty] at unchanged
    obtain ⟨some, split⟩ := toList_of_isMarked marked
    rw [← unchanged, List.self_eq_append_left] at split
    exact some (String.toList_eq_nil_iff.mp split)
  · intro noImport mapping
    have string : Renaming.string ⟨mapping, marker⟩ value = renameWords mapping (codeOf marker value) :=
      if_pos marked
    have changes : ∃ changed : Site, Renaming.site ⟨mapping, marker⟩ site = [changed] ∧
        changed.string? = some (renameWords mapping (codeOf marker value)) := by
      rw [← string]
      cases site with
      | subscript other | key other | literal other =>
        obtain rfl := Option.some.inj stands
        exact ⟨_, rfl, rfl⟩
      | imported other =>
        obtain rfl := Option.some.inj stands
        exact absurd rfl noImport
      | name text | shorthand text | «variable» text => cases stands
    obtain ⟨changed, alone, holds⟩ := changes
    refine ⟨changed, holds, ?_⟩
    rw [sites, alone, List.singleton_append]

/-- Collecting and renaming agree whether a marked string is code, unless it is a key or an import
declaration holds it: a key is renamed as code and is collected itself, which no other marked string
is, and a string of an import is collected as code and stays. If the code parses, then each name that
the parser reads where the scan takes a word behind a point is a token of the program, and it is the word
unless it goes on behind it. -/
theorem marked_string_agrees_iff {program : Program} {marker value : String}
    {before behind : List Site} {site : Site} (split : program.sites = before ++ site :: behind)
    (stands : site.string? = some value) (filled : marker ≠ "")
    (opens : marker.toList <+: value.toList) :
    (program.CollectsCode marker before behind (codeOf marker value) ↔ site ≠ .key value) ∧
    (program.RenamesCode marker before behind (codeOf marker value) ↔ site ≠ .imported value) ∧
    ((program.CollectsCode marker before behind (codeOf marker value) ↔
        program.RenamesCode marker before behind (codeOf marker value)) ↔
      site ≠ .key value ∧ site ≠ .imported value) ∧
    (∀ counts, value ∈ site.tokens marker counts (codeTokens marker) ↔ site = .key value) ∧
    ∀ inner, Program.parse (codeOf marker value) = .ok inner →
      ∀ front word after mention name,
        pieces (codeOf marker value).toList = front ++ .copied '.' :: .word word :: after →
        mention ∈ inner.mentions → mention.site = .name name →
        inner.lead + mention.span.lo = 1 + weigh Char.utf8Size (textOf front ++ ['.']) →
        (String.ofList word = name ↔ Lexer.endsName (textOf after) = true) ∧
          (site ≠ .key value → name ∈ program.tokens marker) := by
  have marked : isMarked marker value = true := by
    rw [isMarked, Bool.and_eq_true_iff, List.isPrefixOf_iff_prefix]
    exact ⟨by simpa using filled, opens⟩
  have collects := collectsCode_iff split stands marked
  have renames := renamesCode_iff split stands marked
  refine ⟨collects, renames, ?_, ?_, ?_⟩
  · rw [collects, renames]
    constructor
    · intro agree
      have apart : Site.key value ≠ .imported value := Site.noConfusion
      by_cases isKey : site = .key value
      · rw [isKey] at agree
        exact absurd rfl (agree.mpr apart)
      · exact ⟨isKey, agree.mp isKey⟩
    · rintro ⟨noKey, noImport⟩
      exact iff_of_true noKey noImport
  · intro counts
    by_cases isKey : site = .key value
    · rw [isKey]
      exact iff_of_true (List.mem_singleton.mpr rfl) rfl
    · rw [Site.tokens_of_code ((Site.code?_eq_some_iff stands marked).mpr isKey)]
      exact iff_of_false (notMem_codeTokens marked) isKey
  · intro inner parsed front word after mention name cut listed isName place
    have cut' : pieces (codeOf marker value).toList =
        (front ++ [.copied '.']) ++ .word word :: after := by
      rw [cut, List.append_assoc]
      rfl
    have text : textOf (front ++ [.copied '.']) = textOf front ++ ['.'] := by
      rw [textOf_append]
      rfl
    refine ⟨word_eq_name_iff parsed cut' listed isName (text ▸ place), fun noKey => ?_⟩
    have found : name ∈ codeTokens marker (codeOf marker value) :=
      name_mem_codeTokens parsed listed isName
    have whole := collects.mpr noKey false
    rw [tokens, List.mem_eraseDups]
    change name ∈ collected marker false program.sites
    rw [whole, List.append_assoc]
    exact List.mem_append_right _ (List.mem_append_left _ found)

/-- A marked index, whose code has one member name behind a point: the name is collected, and it
is renamed inside the string. -/
theorem marked_string_agrees_in_index : ∃ program,
    Program.parse "o['/**/p.foo'];" = .ok program ∧
    program.sites = [.variable "o"] ++ .subscript "/**/p.foo" :: [] ∧
    program.CollectsCode "/**/" [.variable "o"] [] "p.foo" ∧
    program.RenamesCode "/**/" [.variable "o"] [] "p.foo" ∧ "foo" ∈ program.tokens "/**/" := by
  have read : (Program.parse "o['/**/p.foo'];").map Program.sites =
      .ok [.variable "o", .subscript "/**/p.foo"] := by decide +kernel
  have inside : (Program.parse "p.foo").map (fun inner => (inner.lead, inner.mentions)) =
      .ok (0, [⟨⟨1, 2⟩, .variable "p"⟩, ⟨⟨3, 6⟩, .name "foo"⟩]) := by decide +kernel
  cases parsed : Program.parse "o['/**/p.foo'];" with
  | error error =>
    rw [parsed] at read
    cases read
  | ok program =>
    cases parsed' : Program.parse "p.foo" with
    | error error =>
      rw [parsed'] at inside
      cases inside
    | ok inner =>
      rw [parsed] at read
      rw [parsed'] at inside
      obtain ⟨lead, mentions⟩ := Prod.mk.inj (Except.ok.inj inside)
      have split : program.sites = [.variable "o"] ++ .subscript "/**/p.foo" :: [] := Except.ok.inj read
      have filled : "/**/" ≠ "" := by decide
      have opens : "/**/".toList <+: "/**/p.foo".toList := by decide
      obtain ⟨collects, renames, -, -, names⟩ := marked_string_agrees_iff split rfl filled opens
      have listed : (⟨⟨3, 6⟩, .name "foo"⟩ : Mention) ∈ inner.mentions := by
        rw [mentions]
        exact List.mem_cons_of_mem _ List.mem_cons_self
      have found := names inner parsed' [.copied 'p'] ['f', 'o', 'o'] [] ⟨⟨3, 6⟩, .name "foo"⟩ "foo"
        (by decide) listed rfl (by rw [lead]; decide)
      exact ⟨program, rfl, split, collects.mpr nofun, renames.mpr nofun, found.2 nofun⟩

end Script.Program

end PropertyMangling
