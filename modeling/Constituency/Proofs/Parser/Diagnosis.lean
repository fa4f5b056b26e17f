import Constituency.Proofs.Parser.Budget
import Constituency.Proofs.Parser.Derivation
import Constituency.Proofs.Parser.Parts
import Constituency.Proofs.Parser.Spans
import Mathlib.Order.Bounds.Basic

/-!
# What a parse reports

A parse succeeds if the start production matches all tokens, and a run out of steps is reported as
such. Otherwise the error points behind the furthest production that has matched anywhere, also in
an alternative that was given up again. That position is kept in the state of the run; here it is
tied to the matches that a course meets.
-/
namespace Constituency

variable {grammar : Grammar} {tokens : List Token} {options : ParseOptions}

/-! ### The furthest end -/

/-- Whether the course of a task meets a production that matches and ends at `stop`. -/
def Reaches (grammar : Grammar) (tokens : List Token) (options : ParseOptions) (task : Task)
    (run : Run) (stop : Nat) : Prop :=
  ∃ (id : Nat) (start : Run) (tree : Tree) (after : Run) (events : List Event),
    Meets grammar tokens options (task, run) (.attempt id, start) ∧
    Course grammar tokens options (.attempt id) start (some tree) after events ∧
    after.position = stop

theorem Reaches.of_leads {task part : Task} {run start : Run} {stop : Nat}
    (leads : Leads grammar tokens options task run part start)
    (reaches : Reaches grammar tokens options part start stop) :
    Reaches grammar tokens options task run stop := by
  obtain ⟨id, inner, tree, after, events, meets, matched, equal⟩ := reaches
  exact ⟨id, inner, tree, after, events, meets.head leads, matched, equal⟩

/-- A match that a course meets ends at or before the furthest end behind the course. -/
theorem Reaches.le_furthest {task : Task} {run after : Run} {answer : task.Answer}
    {events : List Event} {stop : Nat} (reaches : Reaches grammar tokens options task run stop)
    (course : Course grammar tokens options task run answer after events)
    (placed : run.Placed grammar tokens) : stop ≤ after.furthest := by
  obtain ⟨id, start, tree, last, matchEvents, meets, matched, rfl⟩ := reaches
  obtain ⟨startPlaced, inner, between, innerEvents, inside, nearer⟩ :=
    meets.inside_course course placed
  obtain ⟨-, rfl⟩ := matched.unique inside startPlaced
  exact Nat.le_trans (matched.position_le_furthest startPlaced) nearer

theorem Run.Enters.furthest_eq {id : Nat} {run after : Run} {tree : Option Tree}
    (gate : Enters options id run (.answered tree after)) : after.furthest = run.furthest := by
  cases gate <;> rfl

/-- The furthest end moves only to the end of a production that matches. -/
theorem Course.furthest_reached {task : Task} {run after : Run} {answer : task.Answer}
    {events : List Event} (course : Course grammar tokens options task run answer after events) :
    after.furthest = run.furthest ∨ Reaches grammar tokens options task run after.furthest := by
  induction course with
  | answered gate => exact .inl (gate ▸ Run.enters ..).furthest_eq
  | failed gate production inside nothing ih =>
    rw [Run.keep_furthest]
    exact ih.imp_right (.of_leads (.inside gate production))
  | @matched id run inner rule first others events gate production inside ih =>
    have matched := Course.matched gate production inside
    rw [Run.keep_furthest]
    rcases Nat.le_total inner.furthest inner.position with nearer | further
    · -- The production itself has come furthest.
      refine .inr ⟨id, run, _, _, _, .refl, matched, ?_⟩
      rw [Run.keep_position]
      exact (Nat.max_eq_right nearer).symm
    · have equal : (inner.finish (id, run.position)).reach.furthest = inner.furthest :=
        Nat.max_eq_left further
      rw [equal]
      exact ih.imp_right (.of_leads (.inside gate production))
  | token there => exact .inl rfl
  | noToken missing => exact .inl rfl
  | ref call ih => exact ih.imp_right (.of_leads .ref)
  | seq all ih => exact ih.imp_right (.of_leads .seq)
  | brokenSeq all ih => exact ih.imp_right (.of_leads .seq)
  | opt once ih => exact ih.imp_right (.of_leads .opt)
  | star loop ih => exact ih.imp_right (.of_leads .star)
  | plus loop ih => exact ih.imp_right (.of_leads .plus)
  | longest tried ih => exact ih.imp_right (.of_leads .longest)
  | noLongest tried ih => exact ih.imp_right (.of_leads .longest)
  | noItems => exact .inl rfl
  | brokenItems head ih => exact ih.imp_right (.of_leads .item)
  | items head tail first second =>
    rcases second with same | reached
    · rw [same]
      exact first.imp_right (.of_leads .item)
    · exact .inr (reached.of_leads (.moreItems head))
  | noAlternatives => exact .inl rfl
  | alternatives head tail first second =>
    rcases second with same | reached
    · rw [same]
      exact first.imp_right (.of_leads .alternative)
    · exact .inr (reached.of_leads (.moreAlternatives head))
  | ends last ih => exact ih.imp_right (.of_leads .iteration)
  | stalls last stalled ih => exact ih.imp_right (.of_leads .iteration)
  | continues first moved loop one more =>
    rcases more with same | reached
    · rw [same]
      exact one.imp_right (.of_leads .iteration)
    · exact .inr (reached.of_leads (.moreIterations first moved))

/-- From a state in which nothing has matched, the furthest end is that of the furthest match. -/
theorem Course.furthest_isGreatest {task : Task} {run after : Run} {answer : task.Answer}
    {events : List Event} (course : Course grammar tokens options task run answer after events)
    (placed : run.Placed grammar tokens) (fresh : run.furthest = 0) :
    IsGreatest (insert 0 {stop | Reaches grammar tokens options task run stop})
      after.furthest := by
  constructor
  · rcases course.furthest_reached with same | reached
    · exact .inl (same.trans fresh)
    · exact .inr reached
  · intro stop member
    rcases member with rfl | reaches
    · exact Nat.zero_le _
    · exact reaches.le_furthest course placed

/-! ### Errors -/

namespace Run

variable {run : Run}

theorem error_eq_stepLimit_iff (tokens : List Token) :
    (∃ steps, run.error tokens = .stepLimit steps) ↔ run.aborted = true := by
  unfold error
  split
  next gone => exact ⟨fun _ => gone, fun _ => ⟨run.steps, rfl⟩⟩
  next live =>
    refine ⟨fun ⟨steps, equal⟩ => ?_, fun gone => absurd gone live⟩
    split at equal <;> contradiction

/-- What the error is behind a run that was not given up. -/
theorem error_of_live (live : run.aborted = false) (within : run.furthest ≤ tokens.length) :
    (run.furthest = tokens.length ∧ run.error tokens = .unexpectedEnd run.furthest) ∨
    (run.furthest ≠ tokens.length ∧ ∃ token, tokens[run.furthest]? = some token ∧
      run.error tokens = .unexpectedToken run.furthest token) := by
  rcases Nat.eq_or_lt_of_le within with last | inside
  · have nothing : tokens[run.furthest]? = none := List.getElem?_eq_none (Nat.le_of_eq last.symm)
    exact .inl ⟨last, by simp [error, live, nothing]⟩
  · have there := List.getElem?_eq_getElem inside
    exact .inr ⟨Nat.ne_of_lt inside, _, there, by simp [error, live, there]⟩

end Run

/-! ### Whole sentences -/

/-- The ends of the productions that match anywhere while a sentence is parsed. -/
def Grammar.matchEnds (grammar : Grammar) (tokens : List Token) (options : ParseOptions) :
    Set Nat :=
  {stop | Reaches grammar tokens options (.attempt grammar.start) {} stop}

theorem Parser.Replies.furthest_isGreatest {answer : Option Tree} {after : Run}
    {events : List Event}
    (replies : Replies ⟨grammar, tokens, options, {}⟩ .start answer after events) :
    IsGreatest (insert 0 (grammar.matchEnds tokens options)) after.furthest := by
  cases replies with
  | attempted target course =>
    obtain rfl := Option.some.inj target
    exact course.furthest_isGreatest Run.atRest_fresh.placed rfl
  | unknown missing => contradiction

section Parse

variable {answer : Option Tree} {after : Run}
  (called : Parser.callStart ⟨grammar, tokens, options, {}⟩ =
    (answer, ⟨grammar, tokens, options, after⟩))

include called

/-- What a parse gives, by what the start production gives and the state that it leaves. -/
theorem Grammar.parse_eq_ok_iff {tree : Tree} :
    grammar.parse tokens options = .ok tree ↔
      answer = some tree ∧ after.aborted = false ∧ tokens.length ≤ after.position := by
  cases answer with
  | none => simp [parse, called]
  | some found =>
    by_cases done : after.aborted = false ∧ tokens.length ≤ after.position
    · simp [parse, called, Parser.isExhausted, done]
    · have refused : (!after.aborted && decide (tokens.length ≤ after.position)) = false := by
        apply Bool.eq_false_iff.mpr
        intro both
        exact done (by simpa using both)
      simp [parse, called, Parser.isExhausted, done, refused]

theorem Grammar.error_of_parse_eq_error {error : ParseError}
    (failed : grammar.parse tokens options = .error error) : error = after.error tokens := by
  cases answer with
  | none => simpa [parse, called, Parser.error, eq_comm] using failed
  | some found =>
    simp only [parse, called] at failed
    split at failed
    · contradiction
    · exact (Except.error.inj failed).symm

theorem Grammar.parse_eq_stepLimit_iff :
    (∃ steps, grammar.parse tokens options = .error (.stepLimit steps)) ↔ after.aborted = true := by
  constructor
  · rintro ⟨steps, failed⟩
    have equal := error_of_parse_eq_error called failed
    exact (Run.error_eq_stepLimit_iff tokens).mp ⟨steps, equal.symm⟩
  · intro gone
    cases outcome : grammar.parse tokens options with
    | ok tree =>
      obtain ⟨-, live, -⟩ := (parse_eq_ok_iff called).mp outcome
      exact absurd (gone.symm.trans live) (by decide)
    | error error =>
      obtain rfl := error_of_parse_eq_error called outcome
      obtain ⟨steps, equal⟩ := (Run.error_eq_stepLimit_iff tokens).mpr gone
      exact ⟨steps, congrArg Except.error equal⟩

/-- A parse that fails with steps left points behind the furthest match. -/
theorem Grammar.points_of_parse_eq_error {error : ParseError} (live : after.aborted = false)
    (within : after.furthest ≤ tokens.length)
    (failed : grammar.parse tokens options = .error error) :
    error.furthest? = some after.furthest ∧
    (error = .unexpectedEnd after.furthest ↔ after.furthest = tokens.length) ∧
    (after.furthest ≠ tokens.length → ∃ token, tokens[after.furthest]? = some token ∧
      error = .unexpectedToken after.furthest token) := by
  rw [error_of_parse_eq_error called failed]
  rcases Run.error_of_live live within with ⟨last, equal⟩ | ⟨inside, token, there, equal⟩
  · rw [equal]
    exact ⟨rfl, ⟨fun _ => last, fun _ => rfl⟩, fun inside => absurd last inside⟩
  · rw [equal]
    refine ⟨rfl, ⟨fun other => ?_, fun last => ?_⟩, fun _ => ⟨token, there, rfl⟩⟩
    · contradiction
    · exact absurd last inside

end Parse

/--
A parse reports what has happened. It gives the step limit exactly if the steps ran out; else it
gives a tree exactly if the start production matches and consumes every token; and else an error
at the largest end of a production that has matched anywhere, or at the beginning if none has: the
unexpected end if this is the end of the sentence, and otherwise the token that stands there. A
tree belongs to the start production and to a sentence that is not empty.
-/
theorem Grammar.parse_reports (grammar : Grammar) (tokens : List Token) (options : ParseOptions) :
    let answer := (Parser.callStart { grammar, tokens, options }).1
    let after := (Parser.callStart { grammar, tokens, options }).2.run
    let exhausted := ∃ limit, options.maxSteps = some limit ∧ limit < after.steps
    ((∃ steps, grammar.parse tokens options = .error (.stepLimit steps)) ↔ exhausted) ∧
    (¬ exhausted → ∀ tree, grammar.parse tokens options = .ok tree ↔
      answer = some tree ∧ after.position = tokens.length) ∧
    (∀ tree, grammar.parse tokens options = .ok tree →
      tree.label? = some grammar.startRule.name ∧ tokens ≠ []) ∧
    (¬ exhausted → ∀ error, grammar.parse tokens options = .error error →
      ∃ furthest, IsGreatest (insert 0 (grammar.matchEnds tokens options)) furthest ∧
        error.furthest? = some furthest ∧
        (error = .unexpectedEnd furthest ↔ furthest = tokens.length) ∧
        (furthest ≠ tokens.length →
          ∃ token, tokens[furthest]? = some token ∧ error = .unexpectedToken furthest token)) := by
  have rest : Run.AtRest grammar tokens {} := Run.atRest_fresh
  obtain ⟨answer, after, events, replies⟩ := Parser.exists_replies options .start rest
  have called : Parser.callStart ⟨grammar, tokens, options, {}⟩ =
      (answer, ⟨grammar, tokens, options, after⟩) := replies.call_eq rest
  have placed := (replies.atRest rest).placed
  have accounted : after.Accounted options := replies.spends.accounted Run.accounted_fresh
  have exhausted : (∃ limit, options.maxSteps = some limit ∧ limit < after.steps) ↔
      after.aborted = true := by
    rw [accounted]
    exact Run.outOfSteps_iff.symm
  rw [called]
  dsimp only
  rw [exhausted]
  refine ⟨parse_eq_stepLimit_iff called, ?_, ?_, ?_⟩
  · intro notGone tree
    have live : after.aborted = false := Bool.eq_false_iff.mpr notGone
    rw [parse_eq_ok_iff called]
    constructor
    · rintro ⟨found, -, all⟩
      exact ⟨found, Nat.le_antisymm placed.position_le all⟩
    · rintro ⟨found, all⟩
      exact ⟨found, live, Nat.le_of_eq all.symm⟩
  · intro tree outcome
    obtain ⟨rfl, -, all⟩ := (parse_eq_ok_iff called).mp outcome
    obtain ⟨-, label⟩ := replies.derives Run.derived_fresh
    -- A tree covers at least one token.
    obtain ⟨some, within⟩ := (replies.covers rest).lt
    exact ⟨label, List.length_pos_iff.mp (Nat.lt_of_lt_of_le some within)⟩
  · intro notGone error failed
    have live : after.aborted = false := Bool.eq_false_iff.mpr notGone
    have points := points_of_parse_eq_error called live placed.furthest_le failed
    exact ⟨after.furthest, replies.furthest_isGreatest, points⟩

end Constituency
