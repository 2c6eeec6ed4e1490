import PropertyMangling.Script.Parsing
/-!
# Walking through trivia

Where a walk through white space and comments ends does not depend on what was
seen before it, line ends apart. Comments that a walk has found can be written out
again in front of any text, and a walk passes them on its way to that text.
-/
namespace PropertyMangling.Script

/-- Trivia that were met further on, behind some comments. -/
def Trivia.moved (trivia : Trivia) (distance : Nat) (before : List Comment) : Trivia where
  newline := trivia.newline
  document? := trivia.document?.map (· + distance)
  comments := before ++ trivia.comments

/-- A place that lies further on. -/
def Cursor.moved (cursor : Cursor) (distance : Nat) : Cursor :=
  ⟨cursor.text, cursor.position + distance⟩

/-- A walk stops where neither white space nor a comment starts. -/
theorem Cursor.trivia_stops {cursor : Cursor} {c : Char} {rest : List Char}
    (text : cursor.text = c :: rest) (blank : isLineEnd c = false ∧ isSpace c = false)
    (opens : c ≠ '/' ∧ c ≠ '<' ∧ c ≠ '-') (atStart : Bool) :
    cursor.trivia atStart = some ({ newline := atStart }, cursor) := by
  obtain ⟨_, position⟩ := cursor
  obtain rfl : _ = c :: rest := text
  rw [Cursor.trivia, Trivia.walk, if_neg (by simp [blank]), if_neg (by simp [blank])]
  all_goals simp [opens]

section Moved

variable {trivia : Trivia} {distance : Nat} {before : List Comment}

/-- A comment may be gathered before the notes are moved or after that, with the same result. -/
theorem Trivia.moved_add (kind : CommentKind) (gathered : List Char) :
    (trivia.moved distance before).add kind gathered =
      (trivia.add kind gathered).moved distance before := by
  simp [Trivia.moved, Trivia.add]

/-- A document may be noted before the notes are moved or after that, its place being moved
along. -/
theorem Trivia.moved_addDocument (position : Nat) :
    (trivia.moved distance before).addDocument (position + distance) =
      (trivia.addDocument position).moved distance before := by
  cases known : trivia.document? <;> simp [Trivia.moved, Trivia.addDocument, known]

/-- A walk that starts further on and behind comments ends at the same text. -/
theorem Trivia.walk_moved (place : TriviaPlace) (trivia : Trivia) (position : Nat)
    (text : List Char) :
    walk place (trivia.moved distance before) (position + distance) text =
      (walk place trivia position text).map fun found =>
        (found.1.moved distance before, found.2.moved distance) := by
  fun_induction walk place trivia position text with
  | case1 trivia position rest inductionHypothesis =>
    rw [walk, Nat.add_right_comm, inductionHypothesis]
  | case2 trivia position rest inductionHypothesis =>
    rw [walk, Nat.add_right_comm, inductionHypothesis]
  | case3 trivia position rest inductionHypothesis =>
    rw [walk, Nat.add_right_comm, moved_addDocument, inductionHypothesis]
  | case4 trivia position rest atStart inductionHypothesis =>
    have stillAtStart : (trivia.moved distance before).newline = true := atStart
    rw [walk, if_pos stillAtStart, Nat.add_right_comm, moved_addDocument, inductionHypothesis]
  | case5 trivia position rest inside =>
    have stillInside : ¬ (trivia.moved distance before).newline = true := inside
    rw [walk, if_neg stillInside]
    rfl
  | case6 trivia position c rest _ _ _ _ ends inductionHypothesis =>
    rw [walk, if_pos ends, Nat.add_right_comm]
    · exact inductionHypothesis
    all_goals assumption
  | case7 trivia position c rest _ _ _ _ goesOn blank inductionHypothesis =>
    rw [walk, if_neg goesOn, if_pos blank, Nat.add_right_comm]
    · exact inductionHypothesis
    all_goals assumption
  | case8 trivia position c rest _ _ _ _ goesOn firm =>
    rw [walk, if_neg goesOn, if_neg firm]
    · rfl
    all_goals assumption
  | case9 trivia position =>
    rw [walk]
    rfl
  | case10 gathered trivia position c rest ends inductionHypothesis =>
    rw [walk, if_pos ends, moved_add, Nat.add_right_comm]
    exact inductionHypothesis
  | case11 gathered trivia position c rest goesOn inductionHypothesis =>
    rw [walk, if_neg goesOn, Nat.add_right_comm, inductionHypothesis]
  | case12 gathered trivia position =>
    rw [walk, moved_add]
    rfl
  | case13 gathered trivia position rest inductionHypothesis =>
    rw [walk, Nat.add_right_comm, moved_add, ← inductionHypothesis]
    split <;> rfl
  | case14 gathered trivia position c rest _ inductionHypothesis =>
    rw [walk, Nat.add_right_comm]
    · exact inductionHypothesis
    · assumption
  | case15 gathered trivia position =>
    rw [walk]
    rfl

end Moved

section Comments

/-- Nothing in the text of a block comment closes it. -/
def IsBlockText : List Char → Prop
  | [] => True
  | c :: rest => ¬ (c = '*' ∧ rest.head? = some '/') ∧ IsBlockText rest

/-- A text of a block comment goes on with any character that does not close it. -/
theorem isBlockText_concat {text : List Char} {c : Char} :
    IsBlockText (text ++ [c]) ↔ IsBlockText text ∧ ¬ (text.getLast? = some '*' ∧ c = '/') := by
  induction text with
  | nil => simp [IsBlockText]
  | cons first rest inductionHypothesis =>
    rw [List.cons_append, IsBlockText, inductionHypothesis, IsBlockText, and_assoc]
    cases rest with
    | nil => simp [IsBlockText]
    | cons second others => simp

/-- A comment that is the same comment when its text is written out between its marks. -/
def Comment.IsWritable (comment : Comment) : Prop :=
  match comment.kind with
  | .line => ∀ c ∈ comment.text.toList, isLineEnd c = false
  | .block => IsBlockText comment.text.toList

/-- What has been gathered of a comment belongs to it, whatever stands behind it in the text. -/
def TriviaPlace.Fits (text : List Char) : TriviaPlace → Prop
  | .between => True
  | .inLine gathered => ∀ c ∈ gathered, isLineEnd c = false
  | .inBlock gathered =>
    IsBlockText gathered.reverse ∧ ¬ (gathered.head? = some '*' ∧ text.head? = some '/')

/-- Notes with writable comments stay so with one more that is writable. -/
theorem Trivia.isWritable_add {trivia : Trivia} {kind : CommentKind} {gathered : List Char}
    (each : ∀ comment ∈ trivia.comments, comment.IsWritable)
    (writable : (Comment.mk kind (String.ofList gathered.reverse)).IsWritable) :
    ∀ comment ∈ (trivia.add kind gathered).comments, comment.IsWritable := by
  intro comment listed
  rcases List.mem_append.mp listed with known | new
  · exact each comment known
  · rw [List.mem_singleton.mp new]
    exact writable

/-- A comment of one line without line ends in it can be written, and is read as itself again. -/
theorem isWritable_line {gathered : List Char} (onLine : ∀ c ∈ gathered, isLineEnd c = false) :
    (Comment.mk .line (String.ofList gathered.reverse)).IsWritable := by
  simpa [Comment.IsWritable] using onLine

/-- A comment without its closing mark in it can be written between its two marks. -/
theorem isWritable_block {gathered : List Char} (inBlock : IsBlockText gathered.reverse) :
    (Comment.mk .block (String.ofList gathered.reverse)).IsWritable := by
  simpa [Comment.IsWritable] using inBlock

/-- A walk over the gap between tokens gathers writable comments only. The induction is on the
walk. -/
theorem Trivia.walk_isWritable {place : TriviaPlace} {trivia found : Trivia} {position : Nat}
    {text : List Char} {behind : Cursor} (fits : place.Fits text)
    (each : ∀ comment ∈ trivia.comments, comment.IsWritable)
    (walked : walk place trivia position text = some (found, behind)) :
    ∀ comment ∈ found.comments, comment.IsWritable := by
  fun_induction walk place trivia position text with
  | case1 trivia position rest inductionHypothesis =>
    exact inductionHypothesis (fun _ none => absurd none List.not_mem_nil) each walked
  | case2 trivia position rest inductionHypothesis =>
    exact inductionHypothesis ⟨trivial, by simp⟩ each walked
  | case3 trivia position rest inductionHypothesis =>
    exact inductionHypothesis (fun _ none => absurd none List.not_mem_nil) each walked
  | case4 trivia position rest atStart inductionHypothesis =>
    exact inductionHypothesis (fun _ none => absurd none List.not_mem_nil) each walked
  | case5 trivia position rest inside =>
    obtain ⟨rfl, -⟩ := Prod.mk.inj (Option.some.inj walked)
    exact each
  | case6 trivia position c rest _ _ _ _ ends inductionHypothesis =>
    exact inductionHypothesis trivial each walked
  | case7 trivia position c rest _ _ _ _ goesOn blank inductionHypothesis =>
    exact inductionHypothesis trivial each walked
  | case8 trivia position c rest _ _ _ _ goesOn firm =>
    obtain ⟨rfl, -⟩ := Prod.mk.inj (Option.some.inj walked)
    exact each
  | case9 trivia position =>
    obtain ⟨rfl, -⟩ := Prod.mk.inj (Option.some.inj walked)
    exact each
  | case10 gathered trivia position c rest ends inductionHypothesis =>
    exact inductionHypothesis trivial (isWritable_add each (isWritable_line fits)) walked
  | case11 gathered trivia position c rest goesOn inductionHypothesis =>
    refine inductionHypothesis ?_ each walked
    exact List.forall_mem_cons.mpr ⟨by simpa using goesOn, fits⟩
  | case12 gathered trivia position =>
    obtain ⟨rfl, -⟩ := Prod.mk.inj (Option.some.inj walked)
    exact isWritable_add each (isWritable_line fits)
  | case13 gathered trivia position rest inductionHypothesis =>
    refine inductionHypothesis trivial ?_ walked
    split
    · exact each
    · exact isWritable_add each (isWritable_block fits.1)
  | case14 gathered trivia position c rest stays inductionHypothesis =>
    refine inductionHypothesis ⟨?_, ?_⟩ each walked
    · rw [List.reverse_cons, isBlockText_concat, List.getLast?_reverse]
      exact ⟨fits.1, by simpa using fits.2⟩
    · rintro ⟨star, slash⟩
      obtain ⟨others, rfl⟩ := List.head?_eq_some_iff.mp slash
      exact stays others (by simpa using star) rfl
  | case15 gathered trivia position => cases walked

/-- A walk in a line comment passes what is left of its text and the end of the line. -/
theorem Trivia.walk_inLine {body : List Char} (onLine : ∀ c ∈ body, isLineEnd c = false)
    (gathered : List Char) (trivia : Trivia) (position : Nat) (text : List Char) :
    ∃ further, walk (.inLine gathered) trivia position (body ++ '\n' :: text) =
      walk .between { trivia.add .line (body.reverse ++ gathered) with newline := true }
        (position + further) text := by
  induction body generalizing gathered position with
  | nil =>
    refine ⟨Char.utf8Size '\n', ?_⟩
    rw [List.nil_append, walk, if_pos (by decide)]
    rfl
  | cons c rest inductionHypothesis =>
    obtain ⟨onFirst, onRest⟩ := List.forall_mem_cons.mp onLine
    obtain ⟨further, passed⟩ :=
      inductionHypothesis onRest (c :: gathered) (position + c.utf8Size)
    refine ⟨c.utf8Size + further, ?_⟩
    rw [List.cons_append, walk, if_neg (by simp [onFirst]), passed, Nat.add_assoc]
    simp

/-- A walk in a block comment passes what is left of its text and what closes it. -/
theorem Trivia.walk_inBlock {body : List Char} (inBlock : IsBlockText body) (gathered : List Char)
    (trivia : Trivia) (position : Nat) (text : List Char) (started : trivia.newline = true) :
    ∃ further comments, walk (.inBlock gathered) trivia position (body ++ '*' :: '/' :: text) =
      walk .between { trivia with comments := comments } (position + further) text := by
  obtain ⟨_, document?, known⟩ := trivia
  obtain rfl : _ = true := started
  induction body generalizing gathered position with
  | nil =>
    rw [List.nil_append, walk]
    split
    · exact ⟨2, known, rfl⟩
    · exact ⟨2, _, rfl⟩
  | cons c rest inductionHypothesis =>
    obtain ⟨stays, inRest⟩ := inBlock
    obtain ⟨further, comments, passed⟩ :=
      inductionHypothesis inRest (c :: gathered) (position + c.utf8Size)
    refine ⟨c.utf8Size + further, comments, ?_⟩
    rw [List.cons_append, walk, Bool.true_or, passed, Nat.add_assoc]
    intro others star slash
    refine stays ⟨star, ?_⟩
    cases rest with
    | nil => simp at slash
    | cons second others => simpa using congrArg List.head? slash

/-- A walk from the start of a line passes a comment that is written in front of a text, and comes to
that text at the start of a line. -/
theorem Trivia.walk_render {comment : Comment} (writable : comment.IsWritable) (trivia : Trivia)
    (position : Nat) (text : List Char) (started : trivia.newline = true) :
    ∃ further comments, walk .between trivia position (comment.render.toList ++ text) =
      walk .between { trivia with comments := comments } (position + further) text := by
  obtain ⟨kind, body⟩ := comment
  cases kind with
  | line =>
    obtain ⟨further, passed⟩ := walk_inLine writable [] trivia (position + 2) text
    refine ⟨2 + further, (trivia.add .line (body.toList.reverse ++ [])).comments, ?_⟩
    have written : (Comment.mk .line body).render.toList ++ text =
        '/' :: '/' :: (body.toList ++ '\n' :: text) := by
      simp [Comment.render]
    rw [written, walk, passed, Nat.add_assoc, ← started]
    rfl
  | block =>
    obtain ⟨further, comments, passed⟩ :=
      walk_inBlock writable [] trivia (position + 2) text started
    refine ⟨2 + further, comments, ?_⟩
    have written : (Comment.mk .block body).render.toList ++ text =
        '/' :: '*' :: (body.toList ++ '*' :: '/' :: text) := by
      simp [Comment.render]
    rw [written, walk, passed, Nat.add_assoc]

/-- A walk from the start of a line passes all comments that are written in front of a text. -/
theorem Trivia.walk_renders {written : List Comment}
    (writable : ∀ comment ∈ written, comment.IsWritable) (trivia : Trivia) (position : Nat)
    (text : List Char) (started : trivia.newline = true) :
    ∃ further comments,
      walk .between trivia position ((String.join (written.map Comment.render)).toList ++ text) =
        walk .between { trivia with comments := comments } (position + further) text := by
  induction written generalizing trivia position with
  | nil => exact ⟨0, trivia.comments, by simp⟩
  | cons comment rest inductionHypothesis =>
    obtain ⟨writableFirst, writableRest⟩ := List.forall_mem_cons.mp writable
    obtain ⟨first, noted, passed⟩ := walk_render writableFirst trivia position
      ((String.join (rest.map Comment.render)).toList ++ text) started
    obtain ⟨further, comments, others⟩ := inductionHypothesis writableRest
      { trivia with comments := noted } (position + first) started
    refine ⟨first + further, comments, ?_⟩
    rw [List.map_cons, String.join_cons, String.toList_append, List.append_assoc, passed, others,
      Nat.add_assoc]

end Comments

end PropertyMangling.Script
