import Constituency.Proofs.Parser.Parts

/-!
# Single steps

A course tells where a task begins and what it leaves behind. In between, the state changes in
single steps: an attempt is counted, answered by the gate, put under way and ended again, its
outcome is noted and kept, and bodies move the cursor. The steps of a task are its own and those of
the tasks that it leads to, at any depth; a course is a chain of them.
-/
namespace Constituency

section

variable (grammar : Grammar) (tokens : List Token) (options : ParseOptions)

/-- An attempt that the gate has let through has evaluated the body of its production. -/
structure Evaluates (id : Nat) (run : Run) (rule : Rule Ref) (children : Option (List Tree))
    (inner : Run) : Prop where
  gate : run.enter options id = .opened run.counted
  production : grammar.rules[id]? = some rule
  inside : ∃ events, Course grammar tokens options (.body rule.body) (run.counted.begin id)
    children inner events

/-- A task that was begun in the state `run` takes the state from `before` to `after` at once. -/
inductive SingleStep : (task : Task) → (run before after : Run) → Prop where
  /-- A step of a task that this one leads to. -/
  | inside {task part : Task} {run start before after : Run}
      (leads : Leads grammar tokens options task run part start)
      (step : SingleStep part start before after) : SingleStep task run before after
  | counts {id : Nat} {run : Run} : SingleStep (.attempt id) run run run.counted
  | answers {id : Nat} {run after : Run} {tree : Option Tree}
      (gate : run.enter options id = .answered tree after) :
      SingleStep (.attempt id) run run.counted after
  | begins {id : Nat} {run : Run} {rule : Rule Ref}
      (gate : run.enter options id = .opened run.counted)
      (production : grammar.rules[id]? = some rule) :
      SingleStep (.attempt id) run run.counted (run.counted.begin id)
  | finishes {id : Nat} {run inner : Run} {rule : Rule Ref} {children : Option (List Tree)}
      (evaluates : Evaluates grammar tokens options id run rule children inner) :
      SingleStep (.attempt id) run inner (inner.finish (id, run.position))
  | resets {id : Nat} {run inner : Run} {rule : Rule Ref} {children : Option (List Tree)}
      (evaluates : Evaluates grammar tokens options id run rule children inner)
      (nothing : children.getD [] = []) :
      SingleStep (.attempt id) run (inner.finish (id, run.position))
        ((inner.finish (id, run.position)).moveTo run.position)
  | fails {id : Nat} {run inner : Run} {rule : Rule Ref} {children : Option (List Tree)}
      (evaluates : Evaluates grammar tokens options id run rule children inner)
      (nothing : children.getD [] = []) :
      SingleStep (.attempt id) run ((inner.finish (id, run.position)).moveTo run.position)
        (((inner.finish (id, run.position)).moveTo run.position).keep options (id, run.position)
          run.guardHits .failed)
  | reaches {id : Nat} {run inner : Run} {rule : Rule Ref} {first : Tree} {others : List Tree}
      (evaluates : Evaluates grammar tokens options id run rule (some (first :: others)) inner) :
      SingleStep (.attempt id) run (inner.finish (id, run.position))
        (inner.finish (id, run.position)).reach
  | succeeds {id : Nat} {run inner : Run} {rule : Rule Ref} {first : Tree} {others : List Tree}
      (evaluates : Evaluates grammar tokens options id run rule (some (first :: others)) inner) :
      SingleStep (.attempt id) run (inner.finish (id, run.position)).reach
        ((inner.finish (id, run.position)).reach.keep options (id, run.position) run.guardHits
          (.matched (.branch rule.name ⟨first.span.start, inner.position⟩ (first :: others))
            inner.position))
  | consumes {pattern : Pattern} {run : Run} {token : Token}
      (there : tokenMatching tokens run.position (some pattern) = some token) :
      SingleStep (.body (.terminal pattern)) run run (run.moveTo (run.position + 1))
  | returns {items : List (Expr Ref)} {run after : Run} {events : List Event}
      (all : Course grammar tokens options (.items items) run none after events) :
      SingleStep (.body (.seq items)) run after (after.moveTo run.position)
  | chooses {alternatives : List (Expr Ref)} {run after : Run} {nodes : List Tree} {stop : Nat}
      {events : List Event}
      (tried : Course grammar tokens options (.alternatives alternatives none) run
        (some (nodes, stop)) after events) :
      SingleStep (.body (.longest alternatives)) run after (after.moveTo stop)
  | restarts {alternative : Expr Ref} {rest : List (Expr Ref)} {run between : Run}
      {best : Option (List Tree × Nat)} {nodes : Option (List Tree)} {events : List Event}
      (head : Course grammar tokens options (.body alternative) run nodes between events) :
      SingleStep (.alternatives (alternative :: rest) best) run between
        (between.moveTo run.position)

/-- A chain of single steps of a task. -/
abbrev Chain (task : Task) (run : Run) : Run → Run → Prop :=
  Relation.ReflTransGen (SingleStep grammar tokens options task run)

end

variable {grammar : Grammar} {tokens : List Token} {options : ParseOptions}

/-- The steps of a task that another one leads to are steps of that one too. -/
theorem Chain.inside {task part : Task} {run start before after : Run}
    (chain : Chain grammar tokens options part start before after)
    (leads : Leads grammar tokens options task run part start) :
    Chain grammar tokens options task run before after :=
  Relation.ReflTransGen.mono (fun _ _ step => .inside leads step) _ _ chain

/-- The steps of an attempt up to the end of the evaluation of its body. -/
private theorem Evaluates.chain {id : Nat} {run inner : Run} {rule : Rule Ref}
    {children : Option (List Tree)}
    (evaluates : Evaluates grammar tokens options id run rule children inner)
    (body : Chain grammar tokens options (.body rule.body) (run.counted.begin id)
      (run.counted.begin id) inner) :
    Chain grammar tokens options (.attempt id) run run (inner.finish (id, run.position)) := by
  have opened : Chain grammar tokens options (.attempt id) run run (run.counted.begin id) :=
    (Relation.ReflTransGen.single .counts).tail (.begins evaluates.gate evaluates.production)
  have inside := body.inside (.inside evaluates.gate evaluates.production)
  exact (opened.trans inside).tail (.finishes evaluates)

/-- A course is a chain of single steps. -/
theorem Course.chain {task : Task} {run after : Run} {answer : task.Answer} {events : List Event}
    (course : Course grammar tokens options task run answer after events) :
    Chain grammar tokens options task run run after := by
  induction course with
  | answered gate => exact (Relation.ReflTransGen.single .counts).tail (.answers gate)
  | failed gate production inside nothing ih =>
    have evaluates : Evaluates grammar tokens options _ _ _ _ _ := ⟨gate, production, _, inside⟩
    exact ((evaluates.chain ih).tail (.resets evaluates nothing)).tail (.fails evaluates nothing)
  | matched gate production inside ih =>
    have evaluates : Evaluates grammar tokens options _ _ _ _ _ := ⟨gate, production, _, inside⟩
    exact ((evaluates.chain ih).tail (.reaches evaluates)).tail (.succeeds evaluates)
  | token there => exact .single (.consumes there)
  | noToken missing => exact .refl
  | ref call ih => exact ih.inside .ref
  | seq all ih => exact ih.inside .seq
  | brokenSeq all ih => exact (ih.inside .seq).tail (.returns all)
  | opt once ih => exact ih.inside .opt
  | star loop ih => exact ih.inside .star
  | plus loop ih => exact ih.inside .plus
  | longest tried ih => exact (ih.inside .longest).tail (.chooses tried)
  | noLongest tried ih => exact ih.inside .longest
  | noItems => exact .refl
  | brokenItems head ih => exact ih.inside .item
  | items head tail first second =>
    exact (first.inside .item).trans (second.inside (.moreItems head))
  | noAlternatives => exact .refl
  | alternatives head tail first second =>
    exact ((first.inside .alternative).tail (.restarts head)).trans
      (second.inside (.moreAlternatives head))
  | ends last ih => exact ih.inside .iteration
  | stalls last stalled ih => exact ih.inside .iteration
  | continues once moved loop one more =>
    exact (one.inside .iteration).trans (more.inside (.moreIterations once moved))

end Constituency
