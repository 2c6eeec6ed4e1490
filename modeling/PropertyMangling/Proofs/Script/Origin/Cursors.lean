import PropertyMangling.Proofs.Script.Refusal
import PropertyMangling.Proofs.Text.Weight
/-!
# Places in a text

Reading goes from one place of a text to a later one, and the position of a
place counts the bytes in front of it. So a place is known by its position. A token
counts as opened where it starts, or where a comment in the marks of a document in
front of it does, which starts with a mark and not with a word.
-/
namespace PropertyMangling.Script

/-- Counting the bytes of characters one after the other from a position adds their weight to it,
so that what a cursor skips is known by its text alone. -/
theorem foldl_utf8Size (chars : List Char) (position : Nat) :
    chars.foldl (fun n c => n + c.utf8Size) position = position + weigh Char.utf8Size chars := by
  induction chars generalizing position with
  | nil => rfl
  | cons c rest inductionHypothesis =>
    rw [List.foldl_cons, inductionHypothesis, weigh_cons, Nat.add_assoc]

namespace Cursor

/-- Reading on from the first place comes to the later one. -/
def Leads (first later : Cursor) : Prop :=
  ∃ passed, first.text = passed ++ later.text ∧
    later.position = first.position + weigh Char.utf8Size passed

variable {first second third place start : Cursor}

/-- A place leads to itself, with nothing passed in between. -/
theorem Leads.refl (place : Cursor) : place.Leads place := ⟨[], rfl, rfl⟩

/-- Places that lead to one another form a chain: the characters passed are put together and their
bytes are added up. -/
theorem Leads.trans (toSecond : first.Leads second) (toThird : second.Leads third) :
    first.Leads third := by
  obtain ⟨front, text, position⟩ := toSecond
  obtain ⟨behind, text', position'⟩ := toThird
  refine ⟨front ++ behind, ?_, ?_⟩
  · rw [text, text', List.append_assoc]
  · rw [position', position, weigh_append, Nat.add_assoc]

/-- A place leads to the one behind its first character, which is as many bytes further on as that
character takes. -/
theorem leads_cons (c : Char) (rest : List Char) (position : Nat) :
    Leads ⟨c :: rest, position⟩ ⟨rest, position + c.utf8Size⟩ := ⟨[c], rfl, rfl⟩

/-- Skipping any number of characters leads to a later place, also when the text has fewer
left. -/
theorem leads_skip (place : Cursor) (count : Nat) : place.Leads (place.skip count) :=
  ⟨place.text.take count, (List.take_append_drop count place.text).symm,
    foldl_utf8Size (place.text.take count) place.position⟩

/-- Skipping to what a scan has left over leads to a later place. -/
theorem leads_skipTo (place : Cursor) (behind : List Char) : place.Leads (place.skipTo behind) :=
  leads_skip place _

/-- The text at a later place is an end of the text at an earlier one. -/
theorem Leads.suffix (leads : first.Leads second) : second.text <:+ first.text := by
  obtain ⟨passed, text, -⟩ := leads
  exact ⟨passed, text.symm⟩

/-- Positions never fall on the way from a place to a later one, since the bytes that are passed
are added to them. -/
theorem Leads.position_le (leads : first.Leads second) : first.position ≤ second.position := by
  obtain ⟨passed, -, position⟩ := leads
  omega

/-- A token that starts at a place counts as opened at a position of a text: the place's own, or that
of a comment in the marks of a document in front of it. -/
def Opens (base : Cursor) (opened : Nat) (start : Cursor) : Prop :=
  ∃ place : Cursor, base.Leads place ∧ place.Leads start ∧ place.position = opened ∧
    (place = start ∨ place.text.head? = some '<' ∨ place.text.head? = some '-')

variable {base : Cursor} {opened : Nat}

/-- A token counts as opened where it starts, when no mark of a document stands in front of it. -/
theorem opens_self (leads : base.Leads start) : base.Opens start.position start :=
  ⟨start, leads, Leads.refl start, rfl, .inl rfl⟩

/-- Where a token counts as opened lies on the way from the base to its start, so that the base
leads to the start as well. -/
theorem Opens.leads (opens : base.Opens opened start) : base.Leads start := by
  obtain ⟨place, toPlace, toStart, -⟩ := opens
  exact toPlace.trans toStart

/-- A token counts as opened no later than it starts; the marks of a document stand in front of
it. -/
theorem Opens.le (opens : base.Opens opened start) : opened ≤ start.position := by
  obtain ⟨place, -, toStart, rfl, -⟩ := opens
  exact toStart.position_le

/-- What is opened behind a place is opened behind all places in front of that one. -/
theorem Opens.behind (leads : first.Leads base) (opens : base.Opens opened start) :
    first.Opens opened start := by
  obtain ⟨place, toPlace, others⟩ := opens
  exact ⟨place, leads.trans toPlace, others⟩

/-- A token that is read from a base on counts as opened no earlier than that base. -/
theorem Opens.base_le (opens : base.Opens opened start) : base.position ≤ opened := by
  obtain ⟨place, toPlace, -, rfl, -⟩ := opens
  exact toPlace.position_le

end Cursor

/-! ## Trivia -/

/-- A walk from one place has come to another: the first comment in the marks of a document is one that
it passed. -/
structure Trivia.Passes (first : Cursor) (trivia : Trivia) (here : Cursor) : Prop where
  leads : first.Leads here
  mark : ∀ opened ∈ trivia.document?, ∃ place : Cursor, first.Leads place ∧ place.Leads here ∧
    place.position = opened ∧ (place.text.head? = some '<' ∨ place.text.head? = some '-')

namespace Trivia.Passes

variable {first here further : Cursor} {trivia : Trivia}

/-- A walk that has not passed anything stands where it started, and no mark of a document is
noted yet. -/
theorem start (trivia : Trivia) (none : trivia.document? = Option.none) (first : Cursor) :
    trivia.Passes first first where
  leads := .refl first
  mark := by simp [none]

/-- Going on to a later place keeps what has been noted on the way, since every place that was
passed still lies in front. -/
theorem go (passes : trivia.Passes first here) (leads : here.Leads further) :
    trivia.Passes first further where
  leads := passes.leads.trans leads
  mark opened found := by
    obtain ⟨place, toPlace, toHere, rest⟩ := passes.mark opened found
    exact ⟨place, toPlace, toHere.trans leads, rest⟩

/-- Passing the mark of a document notes its place when it is the first one, and otherwise keeps
the place of the first. -/
theorem document (passes : trivia.Passes first here) (leads : here.Leads further)
    (starts : here.text.head? = some '<' ∨ here.text.head? = some '-') :
    (trivia.addDocument here.position).Passes first further where
  leads := passes.leads.trans leads
  mark opened found := by
    rw [Trivia.addDocument, Option.mem_some_iff] at found
    cases earlier : trivia.document? with
    | none =>
      rw [earlier] at found
      exact ⟨here, passes.leads, leads, found, starts⟩
    | some position =>
      rw [earlier] at found
      obtain rfl : position = opened := found
      obtain ⟨place, toPlace, toHere, rest⟩ := passes.mark position earlier
      exact ⟨place, toPlace, toHere.trans leads, rest⟩

/-- Only the place of the first mark is asked about, so that comments and line ends may be noted
of trivia in between. -/
theorem congr (passes : trivia.Passes first here) {other : Trivia}
    (same : other.document? = trivia.document?) : other.Passes first here where
  leads := passes.leads
  mark opened found := passes.mark opened (same ▸ found)

/-- A token behind trivia counts as opened behind the place where these start: at the first mark
of a document among them, or at itself. -/
theorem opens (passes : trivia.Passes first here) :
    first.Opens (trivia.document?.getD here.position) here := by
  cases found : trivia.document? with
  | none => exact Cursor.opens_self passes.leads
  | some opened =>
    obtain ⟨place, toPlace, toHere, same, starts⟩ := passes.mark opened found
    exact ⟨place, toPlace, toHere, same, .inr starts⟩

end Trivia.Passes

/-- A walk through trivia keeps track of where it is. The induction follows the walk; each of its
cases passes characters, and two of them note the mark of a document. -/
theorem Trivia.passes_of_walk {first : Cursor} {place : TriviaPlace} {trivia found : Trivia}
    {position : Nat} {text : List Char} {behind : Cursor} (passes : trivia.Passes first ⟨text, position⟩)
    (walked : Trivia.walk place trivia position text = some (found, behind)) :
    found.Passes first behind := by
  fun_induction Trivia.walk place trivia position text with
  | case1 trivia position rest inductionHypothesis =>
    exact inductionHypothesis (passes.go ⟨['/', '/'], rfl, rfl⟩) walked
  | case2 trivia position rest inductionHypothesis =>
    exact inductionHypothesis (passes.go ⟨['/', '*'], rfl, rfl⟩) walked
  | case3 trivia position rest inductionHypothesis =>
    exact inductionHypothesis (passes.document ⟨['<', '!', '-', '-'], rfl, rfl⟩ (.inl rfl)) walked
  | case4 trivia position rest atStart inductionHypothesis =>
    exact inductionHypothesis (passes.document ⟨['-', '-', '>'], rfl, rfl⟩ (.inr rfl)) walked
  | case13 gathered trivia position rest inductionHypothesis =>
    refine inductionHypothesis ?_ walked
    split
    · exact passes.go ⟨['*', '/'], rfl, rfl⟩
    · exact (passes.go ⟨['*', '/'], rfl, rfl⟩).congr rfl
  | case6 | case7 | case10 | case11 | case14 =>
    next inductionHypothesis =>
      exact inductionHypothesis ((passes.go (Cursor.leads_cons _ _ _)).congr rfl) walked
  | case15 => cases walked
  | _ =>
    obtain ⟨rfl, rfl⟩ := Prod.mk.inj (Option.some.inj walked)
    exact passes.congr rfl

/-- The trivia at a place lead to where the next token starts. -/
theorem Cursor.passes_trivia {place behind : Cursor} {found : Trivia} {atStart : Bool}
    (walked : place.trivia atStart = some (found, behind)) : found.Passes place behind :=
  Trivia.passes_of_walk (.start _ rfl place) walked

end PropertyMangling.Script
