import Constituency.Proofs.Parser.State

/-!
# The course of a parse

What a parser does is told once more here, as a relation that knows of no bounds: a course leads
from a state through a task to an answer and the state behind it, and lists what happens on the
way. A course is finite, so a task that has one comes to an end. What is kept along a course is
proved by induction on the course, one case for each thing that a parser can do. A relation of two
moments that is reflexive and transitive needs no such proof of its own: it lasts through a course
if it lasts through what is done to a run.
-/
namespace Constituency

/-- What a parser works on. -/
inductive Task where
  | attempt (id : Nat)
  | body (body : Expr Ref)
  | items (items : List (Expr Ref))
  /-- All alternatives are tried at the cursor; `best` is the longest match so far. -/
  | alternatives (alternatives : List (Expr Ref)) (best : Option (List Tree × Nat))
  | repetition (body : Expr Ref)

/-- What comes of a task; a repetition also counts its iterations. -/
@[reducible] def Task.Answer : Task → Type
  | .attempt _ => Option Tree
  | .body _ => Option (List Tree)
  | .items _ => Option (List Tree)
  | .alternatives .. => Option (List Tree × Nat)
  | .repetition _ => List Tree × Nat

/-- What happens in the course of a parse. -/
inductive Event where
  /-- The evaluation of a body begins. -/
  | began (attempt : Attempt)
  /-- It is over; `stop` is the end of what it matched. -/
  | ended (attempt : Attempt) (stop : Option Nat)
  /-- A repetition that began at `start` has ended after `count` successful iterations. -/
  | repeated (start count : Nat)
deriving DecidableEq, Repr

/-- The attempts under way after some events, if those of `active` were under way before. -/
def underWay (active : List Attempt) : List Event → List Attempt
  | [] => active
  | .began attempt :: rest => underWay (attempt :: active) rest
  | .ended attempt _ :: rest => underWay (active.erase attempt) rest
  | .repeated .. :: rest => underWay active rest

section

variable (grammar : Grammar) (tokens : List Token) (options : ParseOptions)

/-- The task is worked on from the first state to the second, with this answer and these events. -/
inductive Course : (task : Task) → Run → task.Answer → Run → List Event → Prop where
  | answered {id : Nat} {run after : Run} {tree : Option Tree}
      (gate : run.enter options id = .answered tree after) :
      Course (.attempt id) run tree after []
  | failed {id : Nat} {run inner : Run} {rule : Rule Ref} {children : Option (List Tree)}
      {events : List Event}
      (gate : run.enter options id = .opened run.counted)
      (production : grammar.rules[id]? = some rule)
      (inside : Course (.body rule.body) (run.counted.begin id) children inner events)
      (nothing : children.getD [] = []) :
      Course (.attempt id) run none
        (((inner.finish (id, run.position)).moveTo run.position).keep options (id, run.position)
          run.guardHits .failed)
        (.began (id, run.position) :: events ++ [.ended (id, run.position) none])
  | matched {id : Nat} {run inner : Run} {rule : Rule Ref} {first : Tree} {others : List Tree}
      {events : List Event}
      (gate : run.enter options id = .opened run.counted)
      (production : grammar.rules[id]? = some rule)
      (inside : Course (.body rule.body) (run.counted.begin id) (some (first :: others)) inner
        events) :
      Course (.attempt id) run
        (some (.branch rule.name ⟨first.span.start, inner.position⟩ (first :: others)))
        ((inner.finish (id, run.position)).reach.keep options (id, run.position) run.guardHits
          (.matched (.branch rule.name ⟨first.span.start, inner.position⟩ (first :: others))
            inner.position))
        (.began (id, run.position) :: events ++
          [.ended (id, run.position) (some inner.position)])
  | token {pattern : Pattern} {run : Run} {token : Token}
      (there : tokenMatching tokens run.position (some pattern) = some token) :
      Course (.body (.terminal pattern)) run
        (some [.leaf token ⟨run.position, run.position + 1⟩]) (run.moveTo (run.position + 1)) []
  | noToken {pattern : Pattern} {run : Run}
      (missing : tokenMatching tokens run.position (some pattern) = none) :
      Course (.body (.terminal pattern)) run none run []
  | ref {target : Ref} {run after : Run} {tree : Option Tree} {events : List Event}
      (call : Course (.attempt target.id) run tree after events) :
      Course (.body (.ref target)) run (tree.map fun tree => [tree]) after events
  | seq {items : List (Expr Ref)} {run after : Run} {nodes : List Tree} {events : List Event}
      (all : Course (.items items) run (some nodes) after events) :
      Course (.body (.seq items)) run (some nodes) after events
  | brokenSeq {items : List (Expr Ref)} {run after : Run} {events : List Event}
      (all : Course (.items items) run none after events) :
      Course (.body (.seq items)) run none (after.moveTo run.position) events
  | opt {body : Expr Ref} {run after : Run} {nodes : Option (List Tree)} {events : List Event}
      (once : Course (.body body) run nodes after events) :
      Course (.body (.opt body)) run (some (nodes.getD [])) after events
  | star {body : Expr Ref} {run after : Run} {nodes : List Tree} {count : Nat}
      {events : List Event}
      (loop : Course (.repetition body) run (nodes, count) after events) :
      Course (.body (.star body)) run (some nodes) after
        (events ++ [.repeated run.position count])
  | plus {body : Expr Ref} {run after : Run} {nodes : List Tree} {count : Nat}
      {events : List Event}
      (loop : Course (.repetition body) run (nodes, count) after events) :
      Course (.body (.plus body)) run (if count = 0 then none else some nodes) after
        (events ++ [.repeated run.position count])
  | longest {alternatives : List (Expr Ref)} {run after : Run} {nodes : List Tree} {stop : Nat}
      {events : List Event}
      (tried : Course (.alternatives alternatives none) run (some (nodes, stop)) after
        events) :
      Course (.body (.longest alternatives)) run (some nodes) (after.moveTo stop) events
  | noLongest {alternatives : List (Expr Ref)} {run after : Run} {events : List Event}
      (tried : Course (.alternatives alternatives none) run none after events) :
      Course (.body (.longest alternatives)) run none after events
  | noItems {run : Run} : Course (.items []) run (some []) run []
  | brokenItems {item : Expr Ref} {rest : List (Expr Ref)} {run after : Run}
      {events : List Event}
      (head : Course (.body item) run none after events) :
      Course (.items (item :: rest)) run none after events
  | items {item : Expr Ref} {rest : List (Expr Ref)} {run between after : Run}
      {nodes : List Tree} {more : Option (List Tree)} {events others : List Event}
      (head : Course (.body item) run (some nodes) between events)
      (tail : Course (.items rest) between more after others) :
      Course (.items (item :: rest)) run (more.map (nodes ++ ·)) after (events ++ others)
  | noAlternatives {run : Run} {best : Option (List Tree × Nat)} :
      Course (.alternatives [] best) run best run []
  | alternatives {alternative : Expr Ref} {rest : List (Expr Ref)} {run between after : Run}
      {best found : Option (List Tree × Nat)} {nodes : Option (List Tree)}
      {events others : List Event}
      (head : Course (.body alternative) run nodes between events)
      (tail : Course (.alternatives rest (longer best nodes between.position))
        (between.moveTo run.position) found after others) :
      Course (.alternatives (alternative :: rest) best) run found after (events ++ others)
  | ends {body : Expr Ref} {run after : Run} {events : List Event}
      (last : Course (.body body) run none after events) :
      Course (.repetition body) run ([], 0) after events
  | stalls {body : Expr Ref} {run after : Run} {nodes : List Tree} {events : List Event}
      (last : Course (.body body) run (some nodes) after events)
      (stalled : after.position = run.position) :
      Course (.repetition body) run (nodes, 1) after events
  | continues {body : Expr Ref} {run between after : Run} {nodes more : List Tree} {count : Nat}
      {events others : List Event}
      (first : Course (.body body) run (some nodes) between events)
      (moved : between.position ≠ run.position)
      (loop : Course (.repetition body) between (more, count) after others) :
      Course (.repetition body) run (nodes ++ more, count + 1) after (events ++ others)

end

variable {grammar : Grammar} {tokens : List Token} {options : ParseOptions}

/-! ### What lasts through a course -/

/-- A relation of two moments of a run that holds across each thing that is done to the run. -/
structure Run.Lasting (options : ParseOptions) (R : Run → Run → Prop) : Prop where
  refl (run : Run) : R run run
  trans {first second third : Run} : R first second → R second third → R first third
  moveTo {before after : Run} : R before after → ∀ position, R before (after.moveTo position)
  reach {before after : Run} : R before after → R before after.reach
  keep {before after : Run} : R before after →
    ∀ attempt hits outcome, R before (after.keep options attempt hits outcome)
  answered {id : Nat} {run after : Run} {tree : Option Tree} :
    Run.Enters options id run (.answered tree after) → R run after
  finished {id : Nat} {run inner : Run} : run.enter options id = .opened run.counted →
    R (run.counted.begin id) inner → R run (inner.finish (id, run.position))

theorem Run.Grows.lasting : Run.Lasting options Run.Grows where
  refl := .refl
  trans := .trans
  moveTo := .moveTo
  reach := .reach
  keep := fun grown => grown.keep options
  answered := Run.Enters.grows
  finished := fun _ => .finish

namespace Course

variable {task : Task} {run after : Run} {answer : task.Answer} {events : List Event}
  {R : Run → Run → Prop}

theorem lasts (lasting : Run.Lasting options R)
    (course : Course grammar tokens options task run answer after events) : R run after := by
  induction course with
  | answered gate => exact lasting.answered (gate ▸ Run.enters ..)
  | failed gate production inside nothing ih =>
    exact lasting.keep (lasting.moveTo (lasting.finished gate ih) _) _ _ _
  | matched gate production inside ih =>
    exact lasting.keep (lasting.reach (lasting.finished gate ih)) _ _ _
  | token => exact lasting.moveTo (lasting.refl _) _
  | noToken => exact lasting.refl _
  | ref call ih => exact ih
  | seq all ih => exact ih
  | brokenSeq all ih => exact lasting.moveTo ih _
  | opt once ih => exact ih
  | star loop ih => exact ih
  | plus loop ih => exact ih
  | longest tried ih => exact lasting.moveTo ih _
  | noLongest tried ih => exact ih
  | noItems => exact lasting.refl _
  | brokenItems head ih => exact ih
  | items head tail first second => exact lasting.trans first second
  | noAlternatives => exact lasting.refl _
  | alternatives head tail first second => exact lasting.trans (lasting.moveTo first _) second
  | ends last ih => exact ih
  | stalls last stalled ih => exact ih
  | continues first moved loop one others => exact lasting.trans one others

theorem grows (course : Course grammar tokens options task run answer after events) :
    run.Grows after := course.lasts Run.Grows.lasting

end Course

/-! ### Calls from outside -/

/-- The place of the production that a call is about, if there is one. -/
def Call.target? (grammar : Grammar) : Call → Option Nat
  | .start => some grammar.start
  | .rule name => grammar.ruleId? name

/-- The answer of a parser to a call, the state it leaves, and what happens on the way. -/
inductive Parser.Replies (parser : Parser) (call : Call) :
    Option Tree → Run → List Event → Prop where
  | attempted {id : Nat} {tree : Option Tree} {after : Run} {events : List Event}
      (target : call.target? parser.grammar = some id)
      (course : Course parser.grammar parser.tokens parser.options (.attempt id) parser.run tree
        after events) :
      Replies parser call tree after events
  | unknown (missing : call.target? parser.grammar = none) : Replies parser call none parser.run []

section

variable {parser : Parser} {call : Call} {tree : Option Tree} {after : Run} {events : List Event}
  {R : Run → Run → Prop}

theorem Parser.Replies.lasts (lasting : Run.Lasting parser.options R)
    (replies : parser.Replies call tree after events) : R parser.run after := by
  cases replies with
  | attempted target course => exact course.lasts lasting
  | unknown missing => exact lasting.refl _

theorem Parser.Replies.grows (replies : parser.Replies call tree after events) :
    parser.run.Grows after := replies.lasts Run.Grows.lasting

end

/-- The state that some calls leave, one after the other, and all that happens on the way. -/
inductive Parser.History (grammar : Grammar) (tokens : List Token) (options : ParseOptions) :
    Run → List Call → Run → List Event → Prop where
  | nil {run : Run} : History grammar tokens options run [] run []
  | cons {run between after : Run} {call : Call} {calls : List Call} {tree : Option Tree}
      {events others : List Event}
      (replies : Replies ⟨grammar, tokens, options, run⟩ call tree between events)
      (later : History grammar tokens options between calls after others) :
      History grammar tokens options run (call :: calls) after (events ++ others)

theorem Parser.History.grows {run after : Run} {calls : List Call} {events : List Event}
    (history : History grammar tokens options run calls after events) : run.Grows after := by
  induction history with
  | nil => exact .refl _
  | cons replies later ih => exact replies.grows.trans ih

end Constituency
