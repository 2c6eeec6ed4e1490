import PropertyMangling.Proofs.Property.Collection
import PropertyMangling.Proofs.Script.Lookahead.Weights
import PropertyMangling.Proofs.Script.Origin.Statements
/-!
# Code inside code inside code

`codeTokens` stops by a count of levels. `Walks` describes the same walk without
one: code in a string is parsed and walked in turn, and broken code is passed
over. The walk ends all the same, because a string is longer than what it holds:
the literal has quotes, its escapes stand for less than they take, and the marker
in front of the code is dropped. So each level costs the length of a marker, in
characters and in bytes, and every count above that gives the same tokens. Strings
that are keys give themselves and are not walked, marked or not.
-/
namespace PropertyMangling

open Script

/-! ## Strings that are walked -/

/-- A marked string is the marker and the code behind it, and the marker is not empty. -/
theorem Embedded.toList_of_isMarked {marker value : String} (marked : isMarked marker value = true) :
    marker ≠ "" ∧ value.toList = marker.toList ++ (codeOf marker value).toList := by
  obtain ⟨filled, opens⟩ := Bool.and_eq_true_iff.mp marked
  obtain ⟨rest, same⟩ := List.isPrefixOf_iff_prefix.mp opens
  constructor
  · rintro rfl
    cases filled
  · rw [codeOf, String.toList_ofList, ← same, List.drop_left]

/-- The code that collecting walks at a site. -/
def Site.code? (marker : String) : Site → Option String
  | subscript value | literal value | imported value =>
    if Embedded.isMarked marker value then some (Embedded.codeOf marker value) else none
  | key _ | name _ | shorthand _ | .variable _ => none

/-- The tokens of a site that holds no code. -/
def Site.ownTokens (countsVariables : Bool) : Site → List String
  | name text | shorthand text => [text]
  | subscript value | key value => [value]
  | literal _ | imported _ => []
  | .variable text => if countsVariables then [text] else []

variable {marker code text : String} {site : Site} {counts : Bool}
  {given : String → List String}

namespace Site

/-- A string is written in quotes, whether it is a key or any other string. -/
theorem wording_of_string {value : String} (stands : site.string? = some value) :
    site.wording = .quoted value := by
  cases site with
  | subscript other | key other | literal other | imported other =>
    exact congrArg Wording.quoted (Option.some.inj stands)
  | name text | shorthand text | «variable» text => cases stands

/-- A site's own token is what is written there, as a word or between quotes. -/
theorem wording_of_mem_ownTokens {token : String} (found : token ∈ site.ownTokens counts) :
    site.wording = .word token ∨ site.wording = .quoted token := by
  cases site with
  | name text | shorthand text => exact .inl (congrArg _ (List.mem_singleton.mp found).symm)
  | subscript value | key value => exact .inr (congrArg _ (List.mem_singleton.mp found).symm)
  | literal value | imported value => cases found
  | «variable» text =>
    cases counts with
    | true => exact .inl (congrArg _ (List.mem_singleton.mp found).symm)
    | false => cases found

/-- A site that holds code has the tokens that are given for the code. -/
theorem tokens_of_code (holds : site.code? marker = some code) :
    site.tokens marker counts given = given code := by
  cases site with
  | subscript value | literal value | imported value =>
    rw [code?] at holds
    split at holds
    · next marked =>
      obtain rfl := Option.some.inj holds
      exact if_pos marked
    · cases holds
  | key value | name text | shorthand text | «variable» text => cases holds

/-- A site without code in it has its own token, if any. -/
theorem tokens_of_no_code (plain : site.code? marker = none) :
    site.tokens marker counts given = site.ownTokens counts := by
  cases site with
  | subscript value | literal value | imported value =>
    rw [code?] at plain
    split at plain
    · cases plain
    · next unmarked => exact if_neg unmarked
  | key value | name text | shorthand text | «variable» text => rfl

/-- A marked string holds the code behind its marker unless it is a key, which is never treated as
code. -/
theorem code?_eq_some_iff {value : String} (stands : site.string? = some value)
    (marked : Embedded.isMarked marker value = true) :
    site.code? marker = some (Embedded.codeOf marker value) ↔ site ≠ .key value := by
  cases site with
  | key other =>
    obtain rfl := Option.some.inj stands
    exact ⟨nofun, fun other => absurd rfl other⟩
  | subscript other | literal other | imported other =>
    obtain rfl := Option.some.inj stands
    exact ⟨fun _ => nofun, fun _ => if_pos marked⟩
  | name text | shorthand text | «variable» text => cases stands

/-- Code stands in a marked string only, and is what follows the marker in it. -/
theorem exists_marked_of_code (holds : site.code? marker = some code) :
    ∃ value, site.string? = some value ∧ Embedded.isMarked marker value = true ∧
      Embedded.codeOf marker value = code := by
  cases site with
  | subscript value | literal value | imported value =>
    rw [code?] at holds
    split at holds
    · next marked => exact ⟨value, rfl, marked, Option.some.inj holds⟩
    · cases holds
  | key value | name text | shorthand text | «variable» text => cases holds

end Site

/-! ## What is nested is shorter -/

section Weights

variable {size : Char → Nat} (fits : IsWeight size) {program : Program}

include fits

/-- A name weighs no more than the text it stands in, even when it is written with escapes. -/
theorem weigh_name (parsed : Program.parse text = .ok program) (inside : site ∈ program.sites)
    {word : String} (stands : site.wording = .word word) :
    weigh size word.toList ≤ weigh size text.toList := by
  obtain ⟨_, token, behind, ⟨front, whole⟩, read, wording⟩ :=
    Program.exists_token_of_parse parsed inside
  rw [stands] at wording
  cases token with
  | word found spelling =>
    obtain rfl := Wording.word.inj (Option.some.inj wording)
    have written := Lexer.weigh_word fits read
    rw [← whole, weigh_append]
    omega
  | _ => cases wording

/-- A string weighs its two quotes less than the text it stands in, even when it is written with
escapes. -/
theorem weigh_string (parsed : Program.parse text = .ok program) (inside : site ∈ program.sites)
    {value : String} (stands : site.wording = .quoted value) :
    weigh size value.toList + 2 ≤ weigh size text.toList := by
  obtain ⟨_, token, behind, ⟨front, whole⟩, read, wording⟩ :=
    Program.exists_token_of_parse parsed inside
  rw [stands] at wording
  cases token with
  | string found legacy =>
    obtain rfl := Wording.quoted.inj (Option.some.inj wording)
    have written := Lexer.weigh_string fits read
    rw [← whole, weigh_append]
    omega
  | _ => cases wording

/-- Code in a string is shorter than the text that the string stands in, by the marker and the
quotes. -/
theorem weigh_code (parsed : Program.parse text = .ok program) (inside : site ∈ program.sites)
    (holds : site.code? marker = some code) :
    weigh size code.toList + weigh size marker.toList + 2 ≤ weigh size text.toList := by
  obtain ⟨value, stands, marked, rfl⟩ := Site.exists_marked_of_code holds
  obtain ⟨-, split⟩ := Embedded.toList_of_isMarked marked
  have room := weigh_string fits parsed inside (Site.wording_of_string stands)
  rw [split, weigh_append] at room
  omega

end Weights

/-- Code in a string of a text. -/
def Nests (marker text code : String) : Prop :=
  ∃ program, Program.parse text = .ok program ∧ ∃ site ∈ program.sites, site.code? marker = some code

/-- Code that is nested in a text is lighter than it by the marker and the quotes, which is why
nesting comes to an end. -/
theorem Nests.lighter {size : Char → Nat} (nests : Nests marker text code) (fits : IsWeight size) :
    weigh size code.toList + weigh size marker.toList + 2 ≤ weigh size text.toList := by
  obtain ⟨program, parsed, site, inside, holds⟩ := nests
  exact weigh_code fits parsed inside holds

/-- Code that is nested in a text has fewer characters than the text. -/
theorem Nests.length_lt (nests : Nests marker text code) :
    code.toList.length < text.toList.length := by
  have shorter := nests.lighter isWeight_one
  rw [weigh_one, weigh_one, weigh_one] at shorter
  omega

/-! ## The walk without a count -/

/-- The tokens of sites one after the other, repetitions included. -/
def collected (marker : String) (countsVariables : Bool) (sites : List Site) : List String :=
  sites.flatMap (Site.tokens marker countsVariables (codeTokens marker))

/-- Of what is given for code, only the tokens of the code at the sites matter. -/
theorem flatMap_tokens_congr {sites : List Site} {others : String → List String}
    (same : ∀ site ∈ sites, ∀ code, site.code? marker = some code → given code = others code) :
    sites.flatMap (Site.tokens marker counts given) =
      sites.flatMap (Site.tokens marker counts others) := by
  refine List.flatMap_congr fun site inside => ?_
  cases holds : site.code? marker with
  | none => rw [Site.tokens_of_no_code holds, Site.tokens_of_no_code holds]
  | some code => rw [Site.tokens_of_code holds, Site.tokens_of_code holds, same site inside code holds]

/-- Any count that exceeds the length of code gives the same tokens. -/
theorem codeTokensWithin_congr {levels others : Nat} (enough : code.toList.length < levels)
    (alsoEnough : code.toList.length < others) :
    codeTokensWithin marker levels code = codeTokensWithin marker others code := by
  induction levels generalizing others code with
  | zero => omega
  | succ levels inductionHypothesis =>
    obtain _ | others := others
    · omega
    rw [codeTokensWithin, codeTokensWithin]
    cases parsed : Program.parse code with
    | error error => rfl
    | ok inner =>
      apply flatMap_tokens_congr
      intro site inside nested holds
      have shorter := Nests.length_lt ⟨inner, parsed, site, inside, holds⟩
      exact inductionHypothesis (by omega) (by omega)

/-- Code that parses gives the tokens of its sites, variables included. -/
theorem codeTokens_of_parse {inner : Program} (parsed : Program.parse code = .ok inner) :
    codeTokens marker code = collected marker true inner.sites := by
  rw [codeTokens, codeTokensWithin, parsed]
  apply flatMap_tokens_congr
  intro site inside nested holds
  have shorter := Nests.length_lt ⟨inner, parsed, site, inside, holds⟩
  exact codeTokensWithin_congr shorter (Nat.lt_succ_self _)

/-- Code that cannot be read gives no tokens, and the rest of the program is collected all the
same. -/
theorem codeTokens_of_error {error : SyntaxError} (refused : Program.parse code = .error error) :
    codeTokens marker code = [] := by
  rw [codeTokens, codeTokensWithin, refused]

/-- A walk over sites that parses the code in strings and walks it in turn, at most so many levels
deep. -/
inductive Walks (marker : String) : Nat → Bool → List Site → List String → Prop
  | nil {depth : Nat} {counts : Bool} : Walks marker depth counts [] []
  | own {depth : Nat} {counts : Bool} {site : Site} {rest : List Site} {tokens : List String}
      (plain : site.code? marker = none) (behind : Walks marker depth counts rest tokens) :
      Walks marker depth counts (site :: rest) (site.ownTokens counts ++ tokens)
  | broken {depth : Nat} {counts : Bool} {site : Site} {rest : List Site} {tokens : List String}
      {code : String} {error : SyntaxError} (holds : site.code? marker = some code)
      (refused : Program.parse code = .error error)
      (behind : Walks marker (depth + 1) counts rest tokens) :
      Walks marker (depth + 1) counts (site :: rest) tokens
  | code {depth : Nat} {counts : Bool} {site : Site} {rest : List Site}
      {found tokens : List String} {code : String} {inner : Program}
      (holds : site.code? marker = some code) (parsed : Program.parse code = .ok inner)
      (inside : Walks marker depth true inner.sites found)
      (behind : Walks marker (depth + 1) counts rest tokens) :
      Walks marker (depth + 1) counts (site :: rest) (found ++ tokens)

/-- However a walk ends, it has found the tokens of the sites. -/
theorem Walks.eq_collected {depth : Nat} {sites : List Site} {tokens : List String}
    (walks : Walks marker depth counts sites tokens) : tokens = collected marker counts sites := by
  induction walks with
  | nil => rfl
  | own plain _ atRest =>
    rw [collected, List.flatMap_cons, Site.tokens_of_no_code plain, ← collected, ← atRest]
  | broken holds refused _ atRest =>
    rw [collected, List.flatMap_cons, Site.tokens_of_code holds, codeTokens_of_error refused,
      List.nil_append, ← collected, ← atRest]
  | code holds parsed _ _ within atRest =>
    rw [collected, List.flatMap_cons, Site.tokens_of_code holds, codeTokens_of_parse parsed,
      ← collected, ← within, ← atRest]

/-- A walk gets past each code that it has levels left for. -/
theorem walks_of_each {depth : Nat} {sites : List Site}
    (each : ∀ site ∈ sites, ∀ code, site.code? marker = some code →
      ∃ below, depth = below + 1 ∧ ∀ inner, Program.parse code = .ok inner →
        Walks marker below true inner.sites (collected marker true inner.sites)) :
    Walks marker depth counts sites (collected marker counts sites) := by
  induction sites with
  | nil => exact .nil
  | cons site rest inductionHypothesis =>
    obtain ⟨first, others⟩ := List.forall_mem_cons.mp each
    have behind := inductionHypothesis others
    cases holds : site.code? marker with
    | none =>
      rw [collected, List.flatMap_cons, Site.tokens_of_no_code holds]
      exact .own holds behind
    | some code =>
      obtain ⟨below, rfl, inside⟩ := first code holds
      rw [collected, List.flatMap_cons, Site.tokens_of_code holds]
      cases parsed : Program.parse code with
      | error error =>
        rw [codeTokens_of_error parsed]
        exact .broken holds parsed behind
      | ok inner =>
        rw [codeTokens_of_parse parsed]
        exact .code holds parsed (inside inner parsed) behind

/-- A walk ends within so many levels if their markers would not fit into any code at its sites.

By induction on the levels: the code at a site of a code is shorter by a marker. -/
theorem walks_collected {size : Char → Nat} (fits : IsWeight size) {depth : Nat} {sites : List Site}
    (room : ∀ site ∈ sites, ∀ code, site.code? marker = some code →
      weigh size code.toList < depth * weigh size marker.toList) :
    Walks marker depth counts sites (collected marker counts sites) := by
  induction depth generalizing counts sites with
  | zero =>
    apply walks_of_each
    intro site inside code holds
    have impossible := room site inside code holds
    omega
  | succ depth inductionHypothesis =>
    apply walks_of_each
    intro site inside code holds
    have bound := room site inside code holds
    rw [Nat.succ_mul] at bound
    refine ⟨depth, rfl, fun inner parsed => inductionHypothesis ?_⟩
    intro site inside nested holds
    have shorter := weigh_code fits parsed inside holds
    omega

/-- A walk over what a text is read as has room for as many levels as markers fit into the text. -/
theorem walks_of_parse {size : Char → Nat} (fits : IsWeight size) {program : Program}
    (parsed : Program.parse text = .ok program) :
    Walks marker (weigh size text.toList / weigh size marker.toList) counts program.sites
      (collected marker counts program.sites) := by
  apply walks_collected fits
  intro site inside code holds
  have shorter := weigh_code fits parsed inside holds
  obtain ⟨_, _, marked, _⟩ := Site.exists_marked_of_code holds
  obtain ⟨some, -⟩ := Embedded.toList_of_isMarked marked
  have least := fits.length_le marker.toList
  have length : 0 < marker.toList.length :=
    List.length_pos_iff.mpr fun none => some (String.toList_eq_nil_iff.mp none)
  have most : weigh size text.toList < weigh size text.toList / weigh size marker.toList *
      weigh size marker.toList + weigh size marker.toList := Nat.lt_div_mul_add (by omega)
  omega

/-- What code gives stands between what the sites in front of it and those behind it give. -/
theorem collected_code (before behind : List Site) (holds : site.code? marker = some code) :
    collected marker counts (before ++ site :: behind) =
      collected marker counts before ++ codeTokens marker code ++
        collected marker counts behind := by
  rw [collected, List.flatMap_append, List.flatMap_cons, Site.tokens_of_code holds,
    ← List.append_assoc, collected, collected]

/-- A site without code adds its own token between what the sites before and behind it give. -/
theorem collected_no_code (before behind : List Site) (plain : site.code? marker = none) :
    collected marker counts (before ++ site :: behind) =
      collected marker counts before ++ site.ownTokens counts ++ collected marker counts behind := by
  rw [collected, List.flatMap_append, List.flatMap_cons, Site.tokens_of_no_code plain,
    ← List.append_assoc, collected, collected]

/-- Collecting from a text ends, whatever the marker: the walk without a count ends with the tokens of
the program, and with nothing else, within as many levels as markers fit into the text, in characters
and in bytes, since each code in a string is shorter than the text around it. Code that parses gives
all of its tokens at its place, and broken code gives as little as a plain string. A marked string is
such code unless it is a key, and a key gives itself. -/
theorem collecting_ends_and_splices {text : String} {program : Program}
    (parsed : Program.parse text = .ok program) (marker : String) :
    program.tokens marker = (collected marker false program.sites).eraseDups ∧
    (∀ depth tokens, Walks marker depth false program.sites tokens →
      tokens = collected marker false program.sites) ∧
    (∀ size, IsWeight size →
      Walks marker (weigh size text.toList / weigh size marker.toList) false program.sites
          (collected marker false program.sites) ∧
        ∀ outer code, Nests marker outer code →
          weigh size code.toList + weigh size marker.toList + 2 ≤ weigh size outer.toList) ∧
    (∀ counts before (site : Site) behind code, site.code? marker = some code →
      (∀ inner, Program.parse code = .ok inner →
        collected marker counts (before ++ site :: behind) =
          collected marker counts before ++ collected marker true inner.sites ++
            collected marker counts behind) ∧
      ∀ error plain, Program.parse code = .error error → Embedded.isMarked marker plain = false →
        collected marker counts (before ++ site :: behind) =
            collected marker counts before ++ collected marker counts behind ∧
          collected marker counts (before ++ site :: behind) =
            collected marker counts (before ++ .literal plain :: behind)) ∧
    (∀ (site : Site) value, site.string? = some value → Embedded.isMarked marker value = true →
      (site.code? marker = some (Embedded.codeOf marker value) ↔ site ≠ .key value)) ∧
    ∀ counts before value behind,
      collected marker counts (before ++ .key value :: behind) =
        collected marker counts before ++ [value] ++ collected marker counts behind := by
  refine ⟨rfl, fun depth tokens => Walks.eq_collected, ?_, ?_, ?_, ?_⟩
  · intro size fits
    exact ⟨walks_of_parse fits parsed, fun outer code nests => nests.lighter fits⟩
  · intro counts before site behind code holds
    constructor
    · intro inner parsed
      rw [collected_code before behind holds, codeTokens_of_parse parsed]
    · intro error plain refused unmarked
      have nothing : collected marker counts (before ++ site :: behind) =
          collected marker counts before ++ collected marker counts behind := by
        rw [collected_code before behind holds, codeTokens_of_error refused, List.append_nil]
      have empty : (Site.literal plain).code? marker = none := if_neg (by simp [unmarked])
      refine ⟨nothing, nothing.trans ?_⟩
      rw [collected_no_code before behind empty, Site.ownTokens, List.append_nil]
  · intro site value
    exact Site.code?_eq_some_iff
  · intro counts before value behind
    exact collected_no_code before behind rfl

/-- Code two levels deep, beside code that is broken: the tokens of both levels are collected in
the order of the text, and the broken code adds none. -/
theorem collecting_two_levels : ∃ program,
    Program.parse "o.foo = '/**/p[\"/**/q.bar\"]' + '/**/(';" = .ok program ∧
    program.tokens "/**/" = ["foo", "p", "q", "bar"] ∧
    Walks "/**/" 9 false program.sites ["foo", "p", "q", "bar"] := by
  have read : (Program.parse "o.foo = '/**/p[\"/**/q.bar\"]' + '/**/(';").map
      (fun program => collected "/**/" false program.sites) =
        .ok ["foo", "p", "q", "bar"] := by decide +kernel
  cases parsed : Program.parse "o.foo = '/**/p[\"/**/q.bar\"]' + '/**/(';" with
  | error error =>
    rw [parsed] at read
    cases read
  | ok program =>
    rw [parsed] at read
    have found : collected "/**/" false program.sites = ["foo", "p", "q", "bar"] := Except.ok.inj read
    obtain ⟨tokens, -, ends, -⟩ := collecting_ends_and_splices parsed "/**/"
    have walks := (ends (fun _ => 1) isWeight_one).1
    rw [found] at tokens walks
    exact ⟨program, rfl, tokens.trans (by decide), walks⟩

end PropertyMangling
