import Constituency.Proofs.Parser.Calls
import Mathlib.Logic.Relation

/-!
# The parts of a course

Working on a task leads to other tasks, each begun in a state of its own. What a course meets are
the tasks that it leads to, and those that these lead to, at any depth and whether or not their
outcome is used in the end. Courses are unique, so each task that is met has a course, which lies
inside the whole one.
-/
namespace Constituency

section

variable (grammar : Grammar) (tokens : List Token) (options : ParseOptions)

/-- Working on the first task leads to the second one, each begun in the state behind it. -/
inductive Leads : Task → Run → Task → Run → Prop where
  | inside {id : Nat} {run : Run} {rule : Rule Ref}
      (gate : run.enter options id = .opened run.counted)
      (production : grammar.rules[id]? = some rule) :
      Leads (.attempt id) run (.body rule.body) (run.counted.begin id)
  | ref {target : Ref} {run : Run} : Leads (.body (.ref target)) run (.attempt target.id) run
  | seq {items : List (Expr Ref)} {run : Run} : Leads (.body (.seq items)) run (.items items) run
  | opt {body : Expr Ref} {run : Run} : Leads (.body (.opt body)) run (.body body) run
  | star {body : Expr Ref} {run : Run} : Leads (.body (.star body)) run (.repetition body) run
  | plus {body : Expr Ref} {run : Run} : Leads (.body (.plus body)) run (.repetition body) run
  | longest {alternatives : List (Expr Ref)} {run : Run} :
      Leads (.body (.longest alternatives)) run (.alternatives alternatives none) run
  | item {item : Expr Ref} {rest : List (Expr Ref)} {run : Run} :
      Leads (.items (item :: rest)) run (.body item) run
  | moreItems {item : Expr Ref} {rest : List (Expr Ref)} {run between : Run} {nodes : List Tree}
      {events : List Event}
      (head : Course grammar tokens options (.body item) run (some nodes) between events) :
      Leads (.items (item :: rest)) run (.items rest) between
  | alternative {alternative : Expr Ref} {rest : List (Expr Ref)} {run : Run}
      {best : Option (List Tree × Nat)} :
      Leads (.alternatives (alternative :: rest) best) run (.body alternative) run
  | moreAlternatives {alternative : Expr Ref} {rest : List (Expr Ref)} {run between : Run}
      {best : Option (List Tree × Nat)} {nodes : Option (List Tree)} {events : List Event}
      (head : Course grammar tokens options (.body alternative) run nodes between events) :
      Leads (.alternatives (alternative :: rest) best) run
        (.alternatives rest (longer best nodes between.position)) (between.moveTo run.position)
  | iteration {body : Expr Ref} {run : Run} : Leads (.repetition body) run (.body body) run
  | moreIterations {body : Expr Ref} {run between : Run} {nodes : List Tree} {events : List Event}
      (first : Course grammar tokens options (.body body) run (some nodes) between events)
      (moved : between.position ≠ run.position) :
      Leads (.repetition body) run (.repetition body) between

/-- The course of the first task meets the second one; each stands with its first state. -/
def Meets : Task × Run → Task × Run → Prop :=
  Relation.ReflTransGen fun whole part =>
    Leads grammar tokens options whole.1 whole.2 part.1 part.2

end

variable {grammar : Grammar} {tokens : List Token} {options : ParseOptions}

/-- A task has one answer and one state behind it. -/
theorem Course.unique {task : Task} {run after last : Run} {answer other : task.Answer}
    {events others : List Event}
    (course : Course grammar tokens options task run answer after events)
    (again : Course grammar tokens options task run other last others)
    (placed : run.Placed grammar tokens) : other = answer ∧ last = after := by
  have fits : run.Fits grammar tokens (attemptRoom grammar tokens) :=
    ⟨placed, Nat.le_add_right ..⟩
  -- Both are what the parser gives.
  have performed := course.performs fits
  have performedAgain := again.performs fits
  cases task with
  | attempt id => simpa using performedAgain.symm.trans performed
  | body body => simpa using performedAgain.symm.trans performed
  | items items => simpa using performedAgain.symm.trans performed
  | alternatives alternatives best => simpa using performedAgain.symm.trans performed
  | repetition body =>
    have bound := Nat.le_refl (run.iterationBound tokens)
    simpa using (performedAgain _ bound).symm.trans (performed _ bound)

/-- A course of a part of a course, which has not come further than the whole one. -/
structure Inside (grammar : Grammar) (tokens : List Token) (options : ParseOptions) (part : Task)
    (start : Run) (after : Run) : Prop where
  placed : start.Placed grammar tokens
  course : ∃ (answer : part.Answer) (between : Run) (events : List Event),
    Course grammar tokens options part start answer between events ∧
      between.furthest ≤ after.furthest

theorem Leads.inside_course {task part : Task} {run start after : Run} {answer : task.Answer}
    {events : List Event} (leads : Leads grammar tokens options task run part start)
    (course : Course grammar tokens options task run answer after events)
    (placed : run.Placed grammar tokens) : Inside grammar tokens options part start after := by
  cases leads with
  | inside gate production =>
    obtain ⟨-, -, free, -⟩ := Run.opened_of_enter gate
    refine ⟨placed.counted.begin production free, ?_⟩
    cases course with
    | answered refused =>
      rw [gate] at refused
      contradiction
    | failed _ found inside nothing =>
      obtain rfl := Option.some.inj (production.symm.trans found)
      refine ⟨_, _, _, inside, ?_⟩
      rw [Run.keep_furthest]
      exact Nat.le_refl _
    | matched _ found inside =>
      obtain rfl := Option.some.inj (production.symm.trans found)
      refine ⟨_, _, _, inside, ?_⟩
      rw [Run.keep_furthest]
      exact Nat.le_max_left ..
  | ref =>
    cases course with
    | ref call => exact ⟨placed, _, _, _, call, Nat.le_refl _⟩
  | seq =>
    cases course with
    | seq all => exact ⟨placed, _, _, _, all, Nat.le_refl _⟩
    | brokenSeq all => exact ⟨placed, _, _, _, all, Nat.le_refl _⟩
  | opt =>
    cases course with
    | opt once => exact ⟨placed, _, _, _, once, Nat.le_refl _⟩
  | star =>
    cases course with
    | star loop => exact ⟨placed, _, _, _, loop, Nat.le_refl _⟩
  | plus =>
    cases course with
    | plus loop => exact ⟨placed, _, _, _, loop, Nat.le_refl _⟩
  | longest =>
    cases course with
    | longest tried => exact ⟨placed, _, _, _, tried, Nat.le_refl _⟩
    | noLongest tried => exact ⟨placed, _, _, _, tried, Nat.le_refl _⟩
  | item =>
    cases course with
    | brokenItems head => exact ⟨placed, _, _, _, head, Nat.le_refl _⟩
    | items head tail => exact ⟨placed, _, _, _, head, tail.grows.furthest⟩
  | moreItems first =>
    have later := (first.placed placed).1
    cases course with
    | brokenItems head =>
      obtain ⟨different, -⟩ := first.unique head placed
      contradiction
    | items head tail =>
      obtain ⟨-, rfl⟩ := first.unique head placed
      exact ⟨later, _, _, _, tail, Nat.le_refl _⟩
  | alternative =>
    cases course with
    | alternatives head tail => exact ⟨placed, _, _, _, head, tail.grows.furthest⟩
  | moreAlternatives first =>
    have later := (first.placed placed).1.moveTo placed.position_le
    cases course with
    | alternatives head tail =>
      obtain ⟨rfl, rfl⟩ := first.unique head placed
      exact ⟨later, _, _, _, tail, Nat.le_refl _⟩
  | iteration =>
    cases course with
    | ends last => exact ⟨placed, _, _, _, last, Nat.le_refl _⟩
    | stalls last stalled => exact ⟨placed, _, _, _, last, Nat.le_refl _⟩
    | continues first moved loop => exact ⟨placed, _, _, _, first, loop.grows.furthest⟩
  | moreIterations once moved =>
    have later := (once.placed placed).1
    cases course with
    | ends last =>
      obtain ⟨different, -⟩ := once.unique last placed
      contradiction
    | stalls last stalled =>
      obtain ⟨-, rfl⟩ := once.unique last placed
      exact absurd stalled moved
    | continues first _ loop =>
      obtain ⟨-, rfl⟩ := once.unique first placed
      exact ⟨later, _, _, _, loop, Nat.le_refl _⟩

/-- What a course meets has a course inside it. -/
theorem Meets.inside_course {whole part : Task × Run} {after : Run} {answer : whole.1.Answer}
    {events : List Event} (meets : Meets grammar tokens options whole part)
    (course : Course grammar tokens options whole.1 whole.2 answer after events)
    (placed : whole.2.Placed grammar tokens) :
    Inside grammar tokens options part.1 part.2 after := by
  induction meets with
  | refl => exact ⟨placed, answer, after, events, course, Nat.le_refl _⟩
  | tail earlier leads ih =>
    obtain ⟨betweenPlaced, inner, between, innerEvents, inside, reached⟩ := ih
    obtain ⟨partPlaced, last, stop, lastEvents, final, nearer⟩ :=
      leads.inside_course inside betweenPlaced
    exact ⟨partPlaced, last, stop, lastEvents, final, Nat.le_trans nearer reached⟩

end Constituency
