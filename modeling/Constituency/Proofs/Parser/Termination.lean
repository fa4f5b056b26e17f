import Constituency.Proofs.Parser.Calls

/-!
# Every call comes to an end

At no moment are more attempts under way than there are pairs of a production and a position, and
a repetition succeeds at most once more than there are tokens left. With these bounds every call
has a course, whose end is what the parser answers.
-/
namespace Constituency

variable {grammar : Grammar} {tokens : List Token} {options : ParseOptions}

/-! ### Moments -/

theorem underWay_append (active : List Attempt) (front back : List Event) :
    underWay active (front ++ back) = underWay (underWay active front) back := by
  induction front generalizing active with
  | nil => rfl
  | cons event rest ih => cases event <;> exact ih _

/-- The events end with the attempts under way that they began with, and never exceed a bound. -/
structure Balanced (bound : Nat) (active : List Attempt) (events : List Event) : Prop where
  back : underWay active events = active
  length_le : ∀ moment, moment <+: events → (underWay active moment).length ≤ bound

namespace Balanced

variable {bound : Nat} {active : List Attempt} {events others : List Event}

theorem nil (within : active.length ≤ bound) : Balanced bound active [] where
  back := rfl
  length_le := by
    intro moment early
    obtain rfl := List.prefix_nil.mp early
    exact within

theorem append (first : Balanced bound active events) (second : Balanced bound active others) :
    Balanced bound active (events ++ others) where
  back := by rw [underWay_append, first.back, second.back]
  length_le := by
    intro moment early
    obtain ⟨rest, equal⟩ := early
    -- The moment lies among the first events, or some of the others have happened, too.
    rcases List.append_eq_append_iff.mp equal with ⟨between, rfl, -⟩ | ⟨late, rfl, split⟩
    · exact first.length_le moment (List.prefix_append ..)
    · rw [underWay_append, first.back]
      exact second.length_le late ⟨rest, split.symm⟩

theorem repeated (within : active.length ≤ bound) (start count : Nat) :
    Balanced bound active [.repeated start count] where
  back := rfl
  length_le := by
    intro moment early
    rcases List.prefix_cons_iff.mp early with rfl | ⟨rest, rfl, later⟩
    · exact within
    · obtain rfl := List.prefix_nil.mp later
      exact within

/-- An attempt is over when its body is, so it is under way just for the events of the body. -/
theorem attempt {attempt : Attempt} (stop : Option Nat) (within : active.length ≤ bound)
    (inside : Balanced bound (attempt :: active) events) :
    Balanced bound active (.began attempt :: events ++ [.ended attempt stop]) where
  back := by
    rw [underWay_append]
    simp [underWay, inside.back]
  length_le := by
    intro moment early
    -- The moment is before the attempt, behind it, or in the middle of its body.
    rcases List.prefix_cons_iff.mp early with rfl | ⟨rest, rfl, later⟩
    · exact within
    · rcases List.prefix_concat_iff.mp later with rfl | sooner
      · simpa [underWay, underWay_append, inside.back] using within
      · exact inside.length_le rest sooner

end Balanced

theorem Course.balanced {task : Task} {run after : Run} {answer : task.Answer}
    {events : List Event} (course : Course grammar tokens options task run answer after events)
    (placed : run.Placed grammar tokens) :
    Balanced (attemptRoom grammar tokens) run.active events := by
  induction course with
  | answered gate => exact .nil placed.length_active_le
  | failed gate production inside nothing ih =>
    obtain ⟨-, -, free, -⟩ := Run.opened_of_enter gate
    exact (ih (placed.counted.begin production free)).attempt none placed.length_active_le
  | matched gate production inside ih =>
    obtain ⟨-, -, free, -⟩ := Run.opened_of_enter gate
    exact (ih (placed.counted.begin production free)).attempt _ placed.length_active_le
  | token there => exact .nil placed.length_active_le
  | noToken missing => exact .nil placed.length_active_le
  | ref call ih => exact ih placed
  | seq all ih => exact ih placed
  | brokenSeq all ih => exact ih placed
  | opt once ih => exact ih placed
  | star loop ih => exact (ih placed).append (.repeated placed.length_active_le ..)
  | plus loop ih => exact (ih placed).append (.repeated placed.length_active_le ..)
  | longest tried ih => exact ih placed
  | noLongest tried ih => exact ih placed
  | noItems => exact .nil placed.length_active_le
  | brokenItems head ih => exact ih placed
  | items head tail first second =>
    -- What the head has begun it has also ended, so the tail starts from the same attempts.
    have later := second (head.placed placed).1
    rw [head.grows.active] at later
    exact (first placed).append later
  | noAlternatives => exact .nil placed.length_active_le
  | @alternatives alternative rest run between after best found nodes events others head tail
      first second =>
    have later := second ((head.placed placed).1.moveTo placed.position_le)
    rw [(head.grows.moveTo run.position).active] at later
    exact (first placed).append later
  | ends last ih => exact ih placed
  | stalls last stalled ih => exact ih placed
  | continues first moved loop one more =>
    have later := more (first.placed placed).1
    rw [first.grows.active] at later
    exact (one placed).append later

/-! ### Repetitions -/

/-- Whether a repetition that an event tells of has succeeded no more often than it may. -/
def Event.Bounded (tokens : List Token) : Event → Prop
  | .repeated start count => start ≤ tokens.length ∧ count ≤ tokens.length - start + 1
  | _ => True

private theorem Course.repeated_bounded {body : Expr Ref} {run after : Run} {nodes : List Tree}
    {count : Nat} {events : List Event}
    (loop : Course grammar tokens options (.repetition body) run (nodes, count) after events)
    (placed : run.Placed grammar tokens) : (Event.repeated run.position count).Bounded tokens := by
  obtain ⟨afterPlaced, -, -, bound⟩ := loop.placed placed
  have := afterPlaced.position_le
  exact ⟨placed.position_le, by omega⟩

private theorem bounded_attempt {attempt : Attempt} {stop : Option Nat} {events : List Event}
    (inside : ∀ event ∈ events, event.Bounded tokens) :
    ∀ event ∈ .began attempt :: events ++ [.ended attempt stop], event.Bounded tokens := by
  intro event member
  rcases List.mem_append.mp member with front | last
  · rcases List.mem_cons.mp front with rfl | within
    · trivial
    · exact inside event within
  · obtain rfl := List.mem_singleton.mp last
    trivial

theorem Course.bounded {task : Task} {run after : Run} {answer : task.Answer}
    {events : List Event} (course : Course grammar tokens options task run answer after events)
    (placed : run.Placed grammar tokens) : ∀ event ∈ events, event.Bounded tokens := by
  induction course with
  | answered gate => simp
  | failed gate production inside nothing ih =>
    obtain ⟨-, -, free, -⟩ := Run.opened_of_enter gate
    exact bounded_attempt (ih (placed.counted.begin production free))
  | matched gate production inside ih =>
    obtain ⟨-, -, free, -⟩ := Run.opened_of_enter gate
    exact bounded_attempt (ih (placed.counted.begin production free))
  | token there => simp
  | noToken missing => simp
  | ref call ih => exact ih placed
  | seq all ih => exact ih placed
  | brokenSeq all ih => exact ih placed
  | opt once ih => exact ih placed
  | star loop ih =>
    exact List.forall_mem_append.mpr
      ⟨ih placed, List.forall_mem_singleton.mpr (loop.repeated_bounded placed)⟩
  | plus loop ih =>
    exact List.forall_mem_append.mpr
      ⟨ih placed, List.forall_mem_singleton.mpr (loop.repeated_bounded placed)⟩
  | longest tried ih => exact ih placed
  | noLongest tried ih => exact ih placed
  | noItems => simp
  | brokenItems head ih => exact ih placed
  | items head tail first second =>
    exact List.forall_mem_append.mpr ⟨first placed, second (head.placed placed).1⟩
  | noAlternatives => simp
  | alternatives head tail first second =>
    exact List.forall_mem_append.mpr
      ⟨first placed, second ((head.placed placed).1.moveTo placed.position_le)⟩
  | ends last ih => exact ih placed
  | stalls last stalled ih => exact ih placed
  | continues first moved loop one more =>
    exact List.forall_mem_append.mpr ⟨one placed, more (first.placed placed).1⟩

/-! ### Calls -/

section Replies

variable {run after : Run} {call : Call} {tree : Option Tree} {events : List Event}

theorem Parser.Replies.balanced
    (replies : Replies ⟨grammar, tokens, options, run⟩ call tree after events)
    (rest : run.AtRest grammar tokens) :
    Balanced (attemptRoom grammar tokens) run.active events := by
  cases replies with
  | attempted target course => exact course.balanced rest.placed
  | unknown missing => exact .nil rest.placed.length_active_le

theorem Parser.Replies.bounded
    (replies : Replies ⟨grammar, tokens, options, run⟩ call tree after events)
    (rest : run.AtRest grammar tokens) : ∀ event ∈ events, event.Bounded tokens := by
  cases replies with
  | attempted target course => exact course.bounded rest.placed
  | unknown missing => simp

end Replies

/--
Every call of a parser comes to an end, whatever was called before: it has a course, and each
course of it ends in what the parser answers. At no moment are more attempts under way than there
are productions at positions, and a repetition that starts at a position succeeds at most once
more than there are tokens from there on.
-/
theorem Parser.call_terminates (grammar : Grammar) (tokens : List Token) (options : ParseOptions)
    (calls : List Call) (call : Call) :
    let parser := callAll { grammar := grammar, tokens := tokens, options := options } calls
    (∃ tree after events, parser.Replies call tree after events) ∧
    ∀ tree after events, parser.Replies call tree after events →
      parser.call call = (tree, { parser with run := after }) ∧
      (∀ moment, moment <+: events →
        (underWay parser.run.active moment).length ≤
          grammar.rules.length * (tokens.length + 1)) ∧
      ∀ start count, .repeated start count ∈ events →
        start ≤ tokens.length ∧ count ≤ tokens.length - start + 1 := by
  obtain ⟨run, equal, rest⟩ := exists_callAll_fresh_eq grammar tokens options calls
  rw [equal]
  intro parser
  refine ⟨exists_replies _ call rest, fun tree after events replies => ⟨?_, ?_, ?_⟩⟩
  · exact replies.call_eq rest
  · exact (replies.balanced rest).length_le
  · exact fun start count member => replies.bounded rest _ member

end Constituency
