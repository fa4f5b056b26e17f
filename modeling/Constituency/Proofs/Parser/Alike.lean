import Constituency.Proofs.Parser.Simulation

/-!
# Parsing tokens that look alike

A production sees of a token only which patterns accept its tag. So where two lists of tokens look
alike to all that a production can reach, it does the same on both: the parser over the one list
stands for the parser over the other, with every production at its place, and the trees differ in
the tokens at their leaves only. What one state knows, the other knows of the changed trees, so this
holds with a memory and under a budget too.
-/
namespace Constituency

variable {grammar : Grammar} {tokens others : List Token} {options : ParseOptions}
  {change : Token → Token}

/-! ### States and tasks with other tokens -/

def Outcome.mapTokens (change : Token → Token) : Outcome → Outcome
  | .failed => .failed
  | .matched tree stop => .matched (tree.mapTokens change) stop

/-- A state that is another one but for the tokens in what is known. -/
structure Run.Alike (change : Token → Token) (run other : Run) : Prop where
  position : other.position = run.position
  active : other.active = run.active
  furthest : other.furthest = run.furthest
  guardHits : other.guardHits = run.guardHits
  steps : other.steps = run.steps
  aborted : other.aborted = run.aborted
  known : ∀ attempt : Attempt,
    other.known[attempt]? = run.known[attempt]?.map (Outcome.mapTokens change)

/-- A match of alternatives with other tokens. -/
def changeMatch (change : Token → Token) : List Tree × Nat → List Tree × Nat
  | (nodes, stop) => (nodes.map (Tree.mapTokens change), stop)

def Task.mapTokens (change : Token → Token) : Task → Task
  | .attempt id => .attempt id
  | .body expr => .body expr
  | .items exprs => .items exprs
  | .alternatives exprs best => .alternatives exprs (best.map (changeMatch change))
  | .repetition expr => .repetition expr

def Task.mapAnswer (change : Token → Token) :
    (task : Task) → task.Answer → (task.mapTokens change).Answer
  | .attempt _, tree => tree.map (Tree.mapTokens change)
  | .body _, nodes => nodes.map (List.map (Tree.mapTokens change))
  | .items _, nodes => nodes.map (List.map (Tree.mapTokens change))
  | .alternatives .., found => found.map (changeMatch change)
  | .repetition _, (nodes, count) => (nodes.map (Tree.mapTokens change), count)

namespace Run.Alike

variable {run other : Run}

theorem fresh : Alike change {} {} where
  position := rfl
  active := rfl
  furthest := rfl
  guardHits := rfl
  steps := rfl
  aborted := rfl
  known := fun attempt => by simp

theorem counted (alike : Alike change run other) : Alike change run.counted other.counted :=
  { alike with steps := congrArg (· + 1) alike.steps }

theorem begin (alike : Alike change run other) (id : Nat) :
    Alike change (run.begin id) (other.begin id) :=
  { alike with active := by simp [Run.begin, alike.active, alike.position] }

end Run.Alike

/-! ### What a production can reach -/

variable {inside : Nat → Prop}

/--
Whether a body calls productions of a set only, and its terminals see tokens that are alike at each
position.
-/
structure Expr.Agrees (inside : Nat → Prop) (change : Token → Token) (tokens others : List Token)
    (body : Expr Ref) : Prop where
  references : ∀ target ∈ body.references, inside target.id
  terminals : ∀ pattern ∈ body.terminals, ∀ position,
    tokenMatching others position (some pattern) =
      (tokenMatching tokens position (some pattern)).map change

/-- Whether the productions of a set see only each other and tokens that are alike. -/
def Grammar.Agrees (grammar : Grammar) (inside : Nat → Prop) (change : Token → Token)
    (tokens others : List Token) : Prop :=
  ∀ id rule, inside id → grammar.rules[id]? = some rule →
    rule.body.Agrees inside change tokens others

def Task.Agrees (inside : Nat → Prop) (change : Token → Token) (tokens others : List Token) :
    Task → Prop
  | .attempt id => inside id
  | .body expr => expr.Agrees inside change tokens others
  | .items exprs => ∀ item ∈ exprs, item.Agrees inside change tokens others
  | .alternatives exprs _ => ∀ item ∈ exprs, item.Agrees inside change tokens others
  | .repetition expr => expr.Agrees inside change tokens others

/-! ### A parser over other tokens -/

/-- How a parser stands for the same one over other tokens. -/
def Likeness.retoken (inside : Nat → Prop) (change : Token → Token) : Likeness :=
  { change := fun _ => change, inside }

namespace Likeness

@[simp] theorem tree_retoken : (retoken inside change).tree = Tree.mapTokens change :=
  Tree.reword_const change

@[simp] theorem outcome_retoken :
    (retoken inside change).outcome = Outcome.mapTokens change := by
  funext outcome
  cases outcome with
  | failed => rfl
  | matched tree stop => simp [Likeness.outcome, Outcome.mapTokens]

@[simp] theorem best_retoken : (retoken inside change).best = changeMatch change := by
  funext best
  simp [Likeness.best, changeMatch]

@[simp] theorem mapRefs_retoken (body : Expr Ref) :
    body.mapRefs (retoken inside change).ref = body :=
  Expr.mapRefs_self fun _ _ => rfl

@[simp] theorem mapRefsAll_retoken (items : List (Expr Ref)) :
    Expr.mapRefsAll (retoken inside change).ref items = items :=
  Expr.mapRefsAll_self fun _ _ => rfl

theorem relates_retoken_iff {run other : Run} :
    (retoken inside change).Relates run other ↔ Run.Alike change run other := by
  have still : run.active.map (retoken inside change).attempt = run.active := List.map_id _
  constructor
  · intro relates
    refine { relates with active := ?_, known := fun attempt => ?_ }
    · rw [relates.active, still]
    · exact outcome_retoken ▸ relates.known attempt
  · intro alike
    refine { alike with
      active := ?_
      known := fun attempt => ?_
      position_within := trivial
      furthest_within := trivial
      known_within := fun _ _ _ _ => trivial }
    · rw [alike.active, still]
    · exact outcome_retoken ▸ alike.known attempt

theorem sees_retoken {body : Expr Ref} (agrees : body.Agrees inside change tokens others) :
    (retoken inside change).Sees tokens others body where
  references := agrees.references
  terminals := fun pattern stands position _ => agrees.terminals pattern stands position
  advances := fun _ _ _ _ _ => trivial

theorem seesTask_retoken {task : Task} (agrees : task.Agrees inside change tokens others) :
    (retoken inside change).SeesTask tokens others task := by
  cases task with
  | attempt id => exact agrees
  | body expr => exact sees_retoken agrees
  | items exprs => exact fun item member => sees_retoken (agrees item member)
  | alternatives exprs best =>
    exact ⟨fun item member => sees_retoken (agrees item member), fun _ _ => trivial⟩
  | repetition expr => exact sees_retoken agrees

end Likeness

/-! ### Courses over other tokens -/

/-- Whether a task is answered alike over other tokens, with the changed answer. -/
def Task.Follows (grammar : Grammar) (others : List Token) (options : ParseOptions)
    (change : Token → Token) (task : Task) (answer : task.Answer) (after other : Run) : Prop :=
  ∃ otherAfter events,
    Course grammar others options (task.mapTokens change) other (task.mapAnswer change answer)
      otherAfter events ∧
    Run.Alike change after otherAfter

/-- A course of the parser over the other tokens, with the changed tokens written out. -/
theorem Course.of_retoken {task : Task} {run after : Run} {answer : task.Answer}
    {events : List Event}
    (course : Course grammar others options ((Likeness.retoken inside change).task task) run
      ((Likeness.retoken inside change).answer task answer) after events) :
    Course grammar others options (task.mapTokens change) run (task.mapAnswer change answer) after
      events := by
  cases task with
  | attempt id =>
    dsimp only [Likeness.answer] at course
    rw [Likeness.tree_retoken] at course
    exact course
  | body expr =>
    dsimp only [Likeness.task, Likeness.answer] at course
    rw [Likeness.mapRefs_retoken, Likeness.tree_retoken] at course
    exact course
  | items exprs =>
    dsimp only [Likeness.task, Likeness.answer] at course
    rw [Likeness.mapRefsAll_retoken, Likeness.tree_retoken] at course
    exact course
  | alternatives exprs best =>
    dsimp only [Likeness.task, Likeness.answer] at course
    rw [Likeness.mapRefsAll_retoken, Likeness.best_retoken] at course
    exact course
  | repetition expr =>
    dsimp only [Likeness.task, Likeness.answer] at course
    rw [Likeness.mapRefs_retoken, Likeness.tree_retoken] at course
    exact course

/-- A course that sees tokens that are alike is a course over the other tokens. -/
theorem Course.alike {task : Task} {run after other : Run} {answer : task.Answer}
    {events : List Event} (course : Course grammar tokens options task run answer after events)
    (closed : grammar.Agrees inside change tokens others)
    (agrees : task.Agrees inside change tokens others) (alike : Run.Alike change run other) :
    task.Follows grammar others options change answer after other := by
  have holds : (Likeness.retoken inside change).Holds tokens others grammar grammar :=
    Likeness.holds_self rfl fun id rule met production =>
      Likeness.sees_retoken (closed id rule met production)
  obtain ⟨⟨otherAfter, otherEvents, followed, ended⟩, -⟩ :=
    course.likened holds (Likeness.seesTask_retoken agrees) (Likeness.relates_retoken_iff.mpr alike)
  exact ⟨otherAfter, otherEvents, followed.of_retoken, Likeness.relates_retoken_iff.mp ended⟩

/-! ### Parses of other tokens -/

/-- The error of a parse that has stopped at another token. -/
def ParseError.mapTokens (change : Token → Token) : ParseError → ParseError
  | .unexpectedToken position token => .unexpectedToken position (change token)
  | .unexpectedEnd position => .unexpectedEnd position
  | .stepLimit steps => .stepLimit steps

theorem ParseError.reword_const (change : Token → Token) :
    reword (fun _ => change) = mapTokens change := by
  funext error
  cases error <;> rfl

theorem Run.Alike.error {run other : Run} (alike : Run.Alike change run other) :
    other.error (tokens.map change) = (run.error tokens).mapTokens change := by
  have relates : (Likeness.retoken (fun _ => True) change).Relates run other :=
    Likeness.relates_retoken_iff.mpr alike
  rw [← ParseError.reword_const]
  apply relates.error
  exact fun position _ => List.getElem?_map

/-- Tokens that the terminals of a grammar do not tell from the new ones look alike to it. -/
theorem Grammar.agrees_map (seen : ∀ rule ∈ grammar.rules, ∀ pattern ∈ rule.body.terminals,
    ∀ token ∈ tokens, pattern.accepts (change token).tag = pattern.accepts token.tag) :
    grammar.Agrees (fun _ => True) change tokens (tokens.map change) := by
  intro id rule _ production
  refine ⟨fun _ _ => trivial, fun pattern stands position => ?_⟩
  apply tokenMatching_map List.getElem?_map
  intro token there
  exact seen rule (List.mem_of_getElem? production) pattern stands token
    (List.mem_of_getElem? there)

/-- What a parse makes of the answer of the start production and the state behind it. -/
def Run.verdict (tokens : List Token) (after : Run) : Option Tree → Except ParseError Tree
  | some tree =>
    if !after.aborted && decide (tokens.length ≤ after.position) then .ok tree
    else .error (after.error tokens)
  | none => .error (after.error tokens)

theorem Grammar.parse_eq_verdict {answer : Option Tree} {after : Run}
    (called : Parser.callStart ⟨grammar, tokens, options, {}⟩ =
      (answer, ⟨grammar, tokens, options, after⟩)) :
    grammar.parse tokens options = after.verdict tokens answer := by
  rw [parse, called]
  cases answer <;> rfl

theorem Run.Alike.verdict {run other : Run} (alike : Run.Alike change run other)
    (answer : Option Tree) :
    other.verdict (tokens.map change) (answer.map (Tree.mapTokens change)) =
      ((run.verdict tokens answer).map (Tree.mapTokens change)).mapError
        (ParseError.mapTokens change) := by
  cases answer with
  | none => exact congrArg Except.error alike.error
  | some tree =>
    rw [Option.map_some, Run.verdict, Run.verdict, alike.error, alike.aborted, alike.position,
      List.length_map]
    split <;> rfl

/--
Where the terminals of a grammar do not tell the new tokens from the old ones, a parse of the new
ones gives the old tree with the new tokens, or the old error about the new token, whatever the
options are.
-/
theorem Grammar.parse_map (seen : ∀ rule ∈ grammar.rules, ∀ pattern ∈ rule.body.terminals,
      ∀ token ∈ tokens, pattern.accepts (change token).tag = pattern.accepts token.tag)
    (options : ParseOptions) : grammar.parse (tokens.map change) options =
      ((grammar.parse tokens options).map (Tree.mapTokens change)).mapError
        (ParseError.mapTokens change) := by
  have rest : Run.AtRest grammar tokens {} := Run.atRest_fresh
  have otherRest : Run.AtRest grammar (tokens.map change) {} := Run.atRest_fresh
  obtain ⟨answer, after, events, course⟩ :
      (Task.attempt grammar.start).Ends grammar tokens options {} :=
    ends_attempt _ _ {} grammar.start_lt rest.fits
  obtain ⟨otherAfter, otherEvents, otherCourse, alike⟩ :=
    course.alike (agrees_map seen) trivial Run.Alike.fresh
  have replies : Parser.Replies ⟨grammar, tokens, options, {}⟩ .start answer after events :=
    .attempted rfl course
  have otherReplies : Parser.Replies ⟨grammar, tokens.map change, options, {}⟩ .start
      (answer.map (Tree.mapTokens change)) otherAfter otherEvents := .attempted rfl otherCourse
  have called : Parser.callStart ⟨grammar, tokens, options, {}⟩ =
      (answer, ⟨grammar, tokens, options, after⟩) := replies.call_eq rest
  have otherCalled : Parser.callStart ⟨grammar, tokens.map change, options, {}⟩ =
      (answer.map (Tree.mapTokens change), ⟨grammar, tokens.map change, options, otherAfter⟩) :=
    otherReplies.call_eq otherRest
  rw [parse_eq_verdict called, parse_eq_verdict otherCalled, alike.verdict]

end Constituency
