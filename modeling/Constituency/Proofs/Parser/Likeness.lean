import Constituency.Proofs.Grammar.Form
import Constituency.Proofs.Parser.Account
import Constituency.Proofs.Parser.Generation

/-!
# What stands for what

One parser stands for another one if its productions are those of the other, perhaps at other
places, and its tokens look to their patterns like the other ones. A state of the one then stands
for a state of the other: it is the same but for the places of productions and for the tokens in
what is known. Whatever a step of a parse does to one of them, it does to the other. Nothing needs
to be known of productions that are not met and of positions that are not reached.
-/
namespace Constituency

/-! ### Tokens that look alike -/

/-- A pattern that does not tell a token from the one in its place sees tokens that are alike. -/
theorem tokenMatching_map {tokens others : List Token} {change : Token → Token} {position : Nat}
    {pattern : Pattern} (there : others[position]? = tokens[position]?.map change)
    (same : ∀ token, tokens[position]? = some token →
      pattern.accepts (change token).tag = pattern.accepts token.tag) :
    tokenMatching others position (some pattern) =
      (tokenMatching tokens position (some pattern)).map change := by
  rw [tokenMatching, tokenMatching, there]
  cases stands : tokens[position]? with
  | none => rfl
  | some token =>
    rw [Option.map_some, Option.filter_some, Option.filter_some, Option.all_some, Option.all_some,
      same token stands]
    split <;> rfl

/-! ### What stands for what -/

/-- How one parser stands for another one. -/
structure Likeness where
  /-- The place of a production in the other grammar. -/
  place : Nat → Nat := id
  /-- What the other sentence has in the place of a token. -/
  change : Nat → Token → Token := fun _ token => token
  /-- The productions that can be met. -/
  inside : Nat → Prop := fun _ => True
  /-- The positions that can be reached. -/
  within : Nat → Prop := fun _ => True

namespace Likeness

variable (like : Likeness)

def attempt (attempt : Attempt) : Attempt := (like.place attempt.1, attempt.2)

def ref (target : Ref) : Ref := ⟨target.name, like.place target.id⟩

def rule (rule : Rule Ref) : Rule Ref := ⟨rule.name, rule.body.mapRefs like.ref⟩

def tree : Tree → Tree := Tree.reword like.change

def outcome : Outcome → Outcome
  | .failed => .failed
  | .matched tree stop => .matched (like.tree tree) stop

def best : List Tree × Nat → List Tree × Nat
  | (nodes, stop) => (nodes.map like.tree, stop)

def task : Task → Task
  | .attempt id => .attempt (like.place id)
  | .body expr => .body (expr.mapRefs like.ref)
  | .items exprs => .items (Expr.mapRefsAll like.ref exprs)
  | .alternatives exprs best =>
    .alternatives (Expr.mapRefsAll like.ref exprs) (best.map like.best)
  | .repetition expr => .repetition (expr.mapRefs like.ref)

def answer : (task : Task) → task.Answer → (like.task task).Answer
  | .attempt _, tree => tree.map like.tree
  | .body _, nodes => nodes.map (List.map like.tree)
  | .items _, nodes => nodes.map (List.map like.tree)
  | .alternatives .., found => found.map like.best
  | .repetition _, (nodes, count) => (nodes.map like.tree, count)

theorem attempt_injective {like : Likeness} (injective : Function.Injective like.place) :
    Function.Injective like.attempt := by
  rintro ⟨id, position⟩ ⟨other, otherPosition⟩ same
  obtain ⟨place, position⟩ := Prod.mk.inj same
  exact Prod.ext (injective place) position

@[simp] theorem name_rule (rule : Rule Ref) : (like.rule rule).name = rule.name := rfl

theorem tree_branch (label : String) (span : Span) (children : List Tree) :
    like.tree (.branch label span children) = .branch label span (children.map like.tree) :=
  Tree.reword_branch label span children

theorem span_tree (tree : Tree) : (like.tree tree).span = tree.span := Tree.span_reword tree

theorem longer_best (best : Option (List Tree × Nat)) (nodes : Option (List Tree)) (stop : Nat) :
    longer (best.map like.best) (nodes.map (List.map like.tree)) stop =
      (longer best nodes stop).map like.best := by
  cases nodes with
  | none => rfl
  | some nodes =>
    cases best with
    | none => rfl
    | some best =>
      obtain ⟨chosen, bestStop⟩ := best
      simp only [longer, Option.map_some, Likeness.best]
      split <;> rfl

section

variable (tokens others : List Token)

/--
Whether a body calls productions that can be met only, and its terminals see tokens that are alike
at all positions that can be reached, and reach no further ones.
-/
structure Sees (body : Expr Ref) : Prop where
  references : ∀ target ∈ body.references, like.inside target.id
  terminals : ∀ pattern ∈ body.terminals, ∀ position, like.within position →
    tokenMatching others position (some pattern) =
      (tokenMatching tokens position (some pattern)).map (like.change position)
  advances : ∀ pattern ∈ body.terminals, ∀ position, like.within position →
    (tokenMatching tokens position (some pattern)).isSome = true → like.within (position + 1)

def SeesTask : Task → Prop
  | .attempt id => like.inside id
  | .body expr => like.Sees tokens others expr
  | .items exprs => ∀ item ∈ exprs, like.Sees tokens others item
  | .alternatives exprs best =>
    (∀ item ∈ exprs, like.Sees tokens others item) ∧ ∀ found ∈ best, like.within found.2
  | .repetition expr => like.Sees tokens others expr

/-- Whether the productions that can be met stand for those of another grammar. -/
structure Holds (grammar other : Grammar) : Prop where
  place_injective : Function.Injective like.place
  production : ∀ id rule, like.inside id → grammar.rules[id]? = some rule →
    other.rules[like.place id]? = some (like.rule rule) ∧ like.Sees tokens others rule.body

end

/-- The parts of a sequence or of a choice see no more than the whole. -/
theorem Sees.items {like : Likeness} {tokens others : List Token} {items : List (Expr Ref)}
    (sees : like.Sees tokens others (.seq items)) :
    ∀ item ∈ items, like.Sees tokens others item := by
  intro item member
  constructor
  · intro target refers
    exact sees.references target (Expr.mem_referencesAll.mpr ⟨item, member, refers⟩)
  · intro pattern stands
    exact sees.terminals pattern (Expr.mem_terminalsAll.mpr ⟨item, member, stands⟩)
  · intro pattern stands
    exact sees.advances pattern (Expr.mem_terminalsAll.mpr ⟨item, member, stands⟩)

/-- The body of an optional or repeated part is seen as the whole is. -/
theorem Sees.inner {like : Likeness} {tokens others : List Token} {body whole : Expr Ref}
    (sees : like.Sees tokens others whole)
    (references : whole.references = body.references := by rfl)
    (terminals : whole.terminals = body.terminals := by rfl) : like.Sees tokens others body where
  references := references ▸ sees.references
  terminals := terminals ▸ sees.terminals
  advances := terminals ▸ sees.advances

/-! ### States that stand for each other -/

/-- A state that stands for another one, which has not left the positions that can be reached. -/
structure Relates (run other : Run) : Prop where
  position : other.position = run.position
  active : other.active = run.active.map like.attempt
  furthest : other.furthest = run.furthest
  guardHits : other.guardHits = run.guardHits
  steps : other.steps = run.steps
  aborted : other.aborted = run.aborted
  known : ∀ attempt : Attempt,
    other.known[like.attempt attempt]? = run.known[attempt]?.map like.outcome
  position_within : like.within run.position
  furthest_within : like.within run.furthest
  known_within : ∀ (attempt : Attempt) (tree : Tree) (stop : Nat),
    run.known[attempt]? = some (.matched tree stop) → like.within stop

namespace Relates

variable {like : Likeness} {run other : Run} {options : ParseOptions}

theorem fresh (within : like.within 0) : like.Relates {} {} where
  position := rfl
  active := rfl
  furthest := rfl
  guardHits := rfl
  steps := rfl
  aborted := rfl
  known := by simp
  position_within := within
  furthest_within := within
  known_within := by simp

theorem moveTo (relates : like.Relates run other) {position : Nat}
    (within : like.within position) :
    like.Relates (run.moveTo position) (other.moveTo position) :=
  { relates with position := rfl, position_within := within }

/-- Both cursors go back to where the task has begun. -/
theorem back {after otherAfter : Run} (relates : like.Relates run other)
    (ended : like.Relates after otherAfter) :
    like.Relates (after.moveTo run.position) (otherAfter.moveTo other.position) := by
  rw [relates.position]
  exact ended.moveTo relates.position_within

theorem counted (relates : like.Relates run other) : like.Relates run.counted other.counted :=
  { relates with steps := congrArg (· + 1) relates.steps }

theorem begin (relates : like.Relates run other) (id : Nat) :
    like.Relates (run.begin id) (other.begin (like.place id)) :=
  { relates with active := by simp [Run.begin, attempt, relates.active, relates.position] }

theorem finish (relates : like.Relates run other) (injective : Function.Injective like.place)
    (attempt : Attempt) :
    like.Relates (run.finish attempt) (other.finish (like.attempt attempt)) :=
  { relates with
    active := by
      simp only [Run.finish, relates.active]
      exact (List.map_erase (like.attempt_injective injective) run.active).symm }

theorem reach (relates : like.Relates run other) : like.Relates run.reach other.reach :=
  { relates with
    furthest := by simp [Run.reach, relates.furthest, relates.position]
    furthest_within := by
      simp only [Run.reach]
      rcases Nat.le_total run.furthest run.position with ahead | behind
      · rw [Nat.max_eq_right ahead]
        exact relates.position_within
      · rw [Nat.max_eq_left behind]
        exact relates.furthest_within }

theorem keep (relates : like.Relates run other) (injective : Function.Injective like.place)
    (attempt : Attempt) (hits : Nat) {outcome : Outcome}
    (within : ∀ tree stop, outcome = .matched tree stop → like.within stop) :
    like.Relates (run.keep options attempt hits outcome)
      (other.keep options (like.attempt attempt) hits (like.outcome outcome)) := by
  have judged : (options.memoize && other.guardHits == hits && !other.aborted) =
      (options.memoize && run.guardHits == hits && !run.aborted) := by
    rw [relates.guardHits, relates.aborted]
  unfold Run.keep
  rw [judged]
  split
  · refine { relates with known := fun key => ?_, known_within := fun key tree stop known => ?_ }
    · -- No two attempts have the same place in the other memory.
      by_cases same : attempt = key
      · simp [same]
      · have different : like.attempt attempt ≠ like.attempt key :=
          fun equal => same (like.attempt_injective injective equal)
        rw [Std.TreeMap.getElem?_insert, Std.TreeMap.getElem?_insert, if_neg, if_neg]
        · exact relates.known key
        · exact fun equal => same (Std.LawfulEqCmp.eq_of_compare equal)
        · exact fun equal => different (Std.LawfulEqCmp.eq_of_compare equal)
    · rw [Std.TreeMap.getElem?_insert] at known
      split at known
      · exact within tree stop (Option.some.inj known)
      · exact relates.known_within key tree stop known
  · exact relates

theorem outOfSteps (relates : like.Relates run other) :
    other.counted.outOfSteps options = run.counted.outOfSteps options := by
  have counted : other.counted.steps = run.counted.steps := relates.counted.steps
  rw [Run.outOfSteps, counted, Run.outOfSteps]

/-- An attempt is under way in both states or in none. -/
theorem mem_active_iff (relates : like.Relates run other)
    (injective : Function.Injective like.place) (id : Nat) :
    (like.place id, other.position) ∈ other.active ↔ (id, run.position) ∈ run.active := by
  rw [relates.active, relates.position]
  exact List.mem_map_of_injective (like.attempt_injective injective) (a := (id, run.position))

theorem known_at (relates : like.Relates run other) (id : Nat) :
    other.known[(like.place id, other.position)]? =
      run.known[(id, run.position)]?.map like.outcome := by
  rw [relates.position]
  exact relates.known (id, run.position)

/-- What the gate answers to one state it answers to the other, with the other tree. -/
theorem answered {id : Nat} {after : Run} {tree : Option Tree} (relates : like.Relates run other)
    (injective : Function.Injective like.place)
    (gate : run.enter options id = .answered tree after) :
    ∃ otherAfter,
      other.enter options (like.place id) = .answered (tree.map like.tree) otherAfter ∧
        like.Relates after otherAfter := by
  have entered := Run.enters options id run
  rw [gate] at entered
  cases entered with
  | givenUp gone =>
    exact ⟨_, (Run.Enters.givenUp (relates.aborted.trans gone)).enter_eq, relates.counted⟩
  | exhausted live gone =>
    exact ⟨_,
      (Run.Enters.exhausted (relates.aborted.trans live) (relates.outOfSteps.trans gone)).enter_eq,
      { relates.counted with aborted := rfl }⟩
  | refused live within active =>
    exact ⟨_, (Run.Enters.refused (relates.aborted.trans live) (relates.outOfSteps.trans within)
      ((relates.mem_active_iff injective id).mpr active)).enter_eq,
      { relates.counted with guardHits := congrArg (· + 1) relates.guardHits }⟩
  | failedBefore live within free memoize known =>
    have otherKnown := relates.known_at id
    rw [known] at otherKnown
    exact ⟨_, (Run.Enters.failedBefore (relates.aborted.trans live)
      (relates.outOfSteps.trans within)
      ((not_congr (relates.mem_active_iff injective id)).mpr free) memoize otherKnown).enter_eq,
      relates.counted⟩
  | matchedBefore live within free memoize known =>
    -- The cursor goes to the end of a known match, and that can be reached.
    have otherKnown := relates.known_at id
    rw [known] at otherKnown
    exact ⟨_, (Run.Enters.matchedBefore (relates.aborted.trans live)
      (relates.outOfSteps.trans within)
      ((not_congr (relates.mem_active_iff injective id)).mpr free) memoize otherKnown).enter_eq,
      relates.counted.moveTo (relates.known_within _ _ _ known)⟩

theorem opened {id : Nat} (relates : like.Relates run other)
    (injective : Function.Injective like.place)
    (gate : run.enter options id = .opened run.counted) :
    other.enter options (like.place id) = .opened other.counted := by
  have entered := Run.enters options id run
  rw [gate] at entered
  cases entered with
  | opened live within free unknown =>
    have otherFree := (not_congr (relates.mem_active_iff injective id)).mpr free
    refine (Run.Enters.opened (relates.aborted.trans live) (relates.outOfSteps.trans within)
      otherFree fun memoize => ?_).enter_eq
    rw [relates.known_at, unknown memoize]
    rfl

end Relates

end Likeness

end Constituency
