import PropertyMangling.Proofs.TokenFile.Merge
import PropertyMangling.Proofs.TokenFile.Rereading
/-!
# A token file merged round after round

Every round reads the lines that the round before it left, merges them with
fresh entries, and leaves the whole of the merge to the next round. People may
write the first file as they like; behind the first round the file holds one
line for every token of the round, and that is what carries over. So no round
fails, an annotation stays as it is for as long as its token stays, and from the
second round on the difference tells exactly which tokens came and went.
-/
namespace PropertyMangling.TokenFile

open Text

/-- A merge of the lines of a file with fresh entries. -/
def revise (lines : List String) (fresh : List Entry) : Except Fault Merged := do
  return merge (← parse lines) fresh

/-- One merge among several: the lines it starts from, its fresh entries, and its answer. -/
structure Revision where
  lines : List String
  fresh : List Entry
  answer : Except Fault Merged

/-- What the next merge starts from. -/
def nextLines (lines : List String) : Except Fault Merged → List String
  | .ok merged => merged.whole
  | .error _ => lines

/-- Merges one after the other, each with fresh entries of its own. -/
def revisions (lines : List String) : List (List Entry) → List Revision
  | [] => []
  | fresh :: rest =>
    ⟨lines, fresh, revise lines fresh⟩ :: revisions (nextLines lines (revise lines fresh)) rest

/-- Entries of distinct tokens whose lines are read back as their tokens. -/
structure AreReadable (fresh : List Entry) : Prop where
  distinct : (fresh.map Entry.token).Nodup
  readBack : ∀ entry ∈ fresh, tokenOf? entry.message = some entry.token

instance : DecidablePred AreReadable := fun fresh =>
  decidable_of_iff ((fresh.map Entry.token).Nodup ∧
      ∀ entry ∈ fresh, tokenOf? entry.message = some entry.token)
    ⟨fun ⟨distinct, readBack⟩ => ⟨distinct, readBack⟩,
      fun readable => ⟨readable.distinct, readable.readBack⟩⟩

/-- A file that holds one line for every token of some entries, and no other line. -/
def HoldsOneEach (lines : List String) (fresh : List Entry) : Prop :=
  (lines.map tokenOf?).Perm (fresh.map fun entry => some entry.token)

/-- What two rounds in a row have to do with each other: every line stays whose token does, the
difference has a line for every token that came and for every token that went and for nothing else,
and a round with the tokens of the one before changes nothing. -/
structure CarriesOver (earlier later : Revision) (merged again : Merged) : Prop where
  stays : ∀ line ∈ merged.whole, ∀ entry ∈ later.fresh,
    tokenOf? line = some entry.token → line ∈ again.whole
  differs : again.diff.Perm
    (((merged.whole.map reread).filter (Entry.isMissingIn later.fresh)).map (Entry.signedLine '-') ++
      (later.fresh.filter (Entry.isMissingIn earlier.fresh)).map (Entry.signedLine '+'))
  quiet : (earlier.fresh.map Entry.token).Perm (later.fresh.map Entry.token) →
    again = ⟨merged.whole, []⟩

variable {lines : List String} {existing fresh : List Entry}

/-- The rounds are given their entries in order, one batch each. -/
theorem map_fresh_revisions (lines : List String) (batches : List (List Entry)) :
    (revisions lines batches).map Revision.fresh = batches := by
  induction batches generalizing lines with
  | nil => rfl
  | cons fresh rest inductionHypothesis => rw [revisions, List.map_cons, inductionHypothesis]

/-- An accepted file is merged with the new entries, and no further check is made. -/
theorem revise_eq_ok (accepted : parse lines = .ok existing) (fresh : List Entry) :
    revise lines fresh = .ok (merge existing fresh) := by
  rw [revise, accepted]
  rfl

/-- The line of a decisive entry is read as the token that it decides about. -/
theorem tokenOf?_decisive (readable : ∀ old ∈ existing, tokenOf? old.message = some old.token)
    {new : Entry} (readBack : tokenOf? new.message = some new.token) :
    tokenOf? (decisive existing new).message = some new.token := by
  cases found : existing.find? (fun old => old.token == new.token) with
  | none => rwa [decisive, found]
  | some old =>
    have same : old.token = new.token := by simpa using List.find?_some found
    rw [decisive, found, Option.getD_some, readable old (List.mem_of_find?_eq_some found), same]

/-- A merge leaves one line for every fresh token, whatever file people wrote. -/
theorem holdsOneEach_whole_merge (accepted : parse lines = .ok existing)
    (readable : AreReadable fresh) : HoldsOneEach (merge existing fresh).whole fresh := by
  have decided : ((fresh.map (decisive existing)).map Entry.message).map tokenOf? =
      fresh.map fun entry => some entry.token := by
    rw [List.map_map, List.map_map]
    refine List.map_congr_left fun entry listed => ?_
    exact tokenOf?_decisive (fun _ reviewed => tokenOf?_message_of_parse accepted reviewed)
      (readable.readBack entry listed)
  rw [HoldsOneEach, whole_merge readable.distinct, ← decided]
  exact (sortBy_perm id _).map tokenOf?

section Held

variable (held : HoldsOneEach lines fresh)
include held

/-- Every line that is held has a token, so the file can be read again. -/
theorem HoldsOneEach.exists_tokenOf? {line : String} (listed : line ∈ lines) :
    ∃ token, tokenOf? line = some token := by
  obtain ⟨entry, _, same⟩ := List.mem_map.mp (held.mem_iff.mp (List.mem_map_of_mem listed))
  exact ⟨entry.token, same.symm⟩

/-- A file with one line for each token is read to the end. -/
theorem HoldsOneEach.parse_eq_ok : parse lines = .ok (lines.map reread) :=
  parse_eq_ok_map fun _ listed => held.exists_tokenOf? listed

/-- The tokens of the lines are the tokens of the entries. -/
theorem HoldsOneEach.tokens_perm :
    ((lines.map reread).map Entry.token).Perm (fresh.map Entry.token) := by
  have given := List.Perm.map (fun token? : Option String => token?.getD "") held
  rw [List.map_map, List.map_map] at given
  rw [List.map_map]
  exact given

end Held

/-- A file that holds one line for each token carries over to the next round. -/
theorem carriesOver {merged : Merged} {next : List Entry} (held : HoldsOneEach merged.whole fresh)
    (ascending : sorted merged.whole = merged.whole) (distinct : (fresh.map Entry.token).Nodup)
    (readable : AreReadable next) {answer nextAnswer : Except Fault Merged} :
    CarriesOver ⟨lines, fresh, answer⟩ ⟨merged.whole, next, nextAnswer⟩ merged
      (merge (merged.whole.map reread) next) where
  stays line listed entry coming same := by
    have reviewed : reread line ∈ merged.whole.map reread := List.mem_map_of_mem listed
    have token : (reread line).token = entry.token := by rw [reread, same, Option.getD_some]
    have decided : decisive (merged.whole.map reread) entry = reread line :=
      decisive_eq_of_mem (held.tokens_perm.nodup_iff.mpr distinct) reviewed token
    rw [whole_merge readable.distinct, mem_sorted, List.map_map]
    exact List.mem_map.mpr ⟨entry, coming, congrArg Entry.message decided⟩
  differs := by
    have tokens := held.tokens_perm
    have missing : Entry.isMissingIn (merged.whole.map reread) = Entry.isMissingIn fresh := by
      funext entry
      rw [Bool.eq_iff_iff, Entry.isMissingIn, Entry.isMissingIn, Bool.not_eq_true',
        Bool.not_eq_true', ← Bool.not_eq_true, ← Bool.not_eq_true, List.contains_iff_mem,
        List.contains_iff_mem, tokens.mem_iff]
    have reported := diff_merge (tokens.nodup_iff.mpr distinct) readable.distinct
    rwa [missing] at reported
  quiet same := by
    have tokens := held.tokens_perm.trans same
    have whole : (merge (merged.whole.map reread) next).whole = merged.whole := by
      have lines : (merged.whole.map reread).map Entry.message = merged.whole := by
        rw [List.map_map]
        exact List.map_id' merged.whole
      rw [whole_merge_of_same_tokens tokens, lines, ascending]
    have diff : (merge (merged.whole.map reread) next).diff = [] :=
      (diff_merge_eq_nil_iff _ _).mpr tokens
    calc merge (merged.whole.map reread) next
        = ⟨(merge (merged.whole.map reread) next).whole,
            (merge (merged.whole.map reread) next).diff⟩ := rfl
      _ = ⟨merged.whole, []⟩ := by rw [whole, diff]

/-- The first round merges the file, and the others start from what it leaves. -/
theorem revisions_cons (accepted : parse lines = .ok existing) (fresh : List Entry)
    (rest : List (List Entry)) :
    revisions lines (fresh :: rest) =
      ⟨lines, fresh, .ok (merge existing fresh)⟩ ::
        revisions (merge existing fresh).whole rest := by
  rw [revisions, revise_eq_ok accepted]
  rfl

/-- Every round succeeds, and leaves one line for every token that it was given. -/
theorem revision_holdsOneEach (accepted : parse lines = .ok existing)
    {batches : List (List Entry)} (readable : ∀ fresh ∈ batches, AreReadable fresh)
    {revision : Revision} (made : revision ∈ revisions lines batches) :
    ∃ merged, revision.answer = .ok merged ∧ HoldsOneEach merged.whole revision.fresh := by
  induction batches generalizing lines existing with
  | nil => exact absurd made List.not_mem_nil
  | cons fresh rest inductionHypothesis =>
    obtain ⟨readableFresh, readableRest⟩ := List.forall_mem_cons.mp readable
    have held := holdsOneEach_whole_merge accepted readableFresh
    rw [revisions_cons accepted] at made
    rcases List.mem_cons.mp made with rfl | later
    · exact ⟨merge existing fresh, rfl, held⟩
    · exact inductionHypothesis held.parse_eq_ok readableRest later

/-- Every round carries over to the next one.

Induct over the rounds. What the first round leaves holds one line for each of
its tokens, so the second round reads all of it, and is a first round in its turn. -/
theorem revisions_isChain (accepted : parse lines = .ok existing) {batches : List (List Entry)}
    (readable : ∀ fresh ∈ batches, AreReadable fresh) :
    (revisions lines batches).IsChain fun earlier later => ∀ merged again,
      earlier.answer = .ok merged → later.answer = .ok again →
        CarriesOver earlier later merged again := by
  induction batches generalizing lines existing with
  | nil => exact List.IsChain.nil
  | cons fresh rest inductionHypothesis =>
    obtain ⟨readableFresh, readableRest⟩ := List.forall_mem_cons.mp readable
    have held := holdsOneEach_whole_merge accepted readableFresh
    have later := inductionHypothesis held.parse_eq_ok readableRest
    rw [revisions_cons accepted]
    cases rest with
    | nil => exact List.IsChain.singleton _
    | cons next more =>
      rw [revisions_cons held.parse_eq_ok] at later ⊢
      refine List.IsChain.cons_cons ?_ later
      intro merged again answered answeredNext
      obtain rfl : merge existing fresh = merged := Except.ok.inj answered
      obtain rfl := Except.ok.inj answeredNext
      exact carriesOver held (sorted_sorted _) readableFresh.distinct
        (readableRest next List.mem_cons_self)

/-- Annotations survive any number of rounds, from any file that can be read.

No round fails, and every round leaves one line for each of its tokens. A line
stays as it is when its token is in the next round too. From the second round on
the difference has one line for every token that came and one for every token
that went, and a round with the tokens of the one before it changes nothing. -/
theorem revisions_keep_lines (accepted : parse lines = .ok existing) {batches : List (List Entry)}
    (readable : ∀ fresh ∈ batches, AreReadable fresh) :
    (revisions lines batches).map Revision.fresh = batches ∧
    (∀ revision ∈ revisions lines batches, ∃ merged, revision.answer = .ok merged ∧
      HoldsOneEach merged.whole revision.fresh) ∧
    (revisions lines batches).IsChain fun earlier later => ∀ merged again,
      earlier.answer = .ok merged → later.answer = .ok again →
        CarriesOver earlier later merged again :=
  ⟨map_fresh_revisions lines batches, fun _ made => revision_holdsOneEach accepted readable made,
    revisions_isChain accepted readable⟩

/-- A file with two lines for one token and a blank one. The first round drops a line of each kind,
the second loses one token and meets a new one, and the third repeats it with other reasons. -/
theorem revisions_keep_lines_of_duplicates :
    parse ["foo # kept", "#foo", " ", "bar"] =
      .ok [⟨"foo", "foo # kept"⟩, ⟨"foo", "#foo"⟩, ⟨"bar", "bar"⟩] ∧
    (∀ fresh ∈ [[Entry.eligible "bar", .eligible "foo"], [.eligible "foo", .excluded "if" "keyword"],
      [.excluded "if" "a word", .eligible "foo"]], AreReadable fresh) ∧
    ∀ revision ∈ revisions ["foo # kept", "#foo", " ", "bar"]
      [[.eligible "bar", .eligible "foo"], [.eligible "foo", .excluded "if" "keyword"],
        [.excluded "if" "a word", .eligible "foo"]],
      ∃ merged, revision.answer = .ok merged ∧ HoldsOneEach merged.whole revision.fresh := by
  have accepted : parse ["foo # kept", "#foo", " ", "bar"] =
      .ok [⟨"foo", "foo # kept"⟩, ⟨"foo", "#foo"⟩, ⟨"bar", "bar"⟩] := by rfl
  have readable : ∀ fresh ∈ [[Entry.eligible "bar", .eligible "foo"],
      [.eligible "foo", .excluded "if" "keyword"], [.excluded "if" "a word", .eligible "foo"]],
      AreReadable fresh := by decide
  exact ⟨accepted, readable, (revisions_keep_lines accepted readable).2.1⟩

end PropertyMangling.TokenFile
