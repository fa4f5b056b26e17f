import Constituency.Proofs.Parser.Course

/-!
# Where a parse stands

A tree covers a stretch of the tokens if its leaves are these tokens and every node spans exactly
what is below it. A state is well placed if its positions lie within the sentence, every attempt
under way is a pair of a production and a position that is listed once, and every tree that is
known covers the tokens from the position of its attempt to the end that is known for it. Courses
keep states well placed, and what they give covers the tokens that the cursor has passed.
-/
namespace Constituency

/-! ### Covering -/

namespace Tree

variable (tokens : List Token)

mutual

/-- Whether the leaves of a tree are the tokens from one position to another, with exact spans. -/
def Covers : Tree → Nat → Nat → Prop
  | .leaf token span, start, stop =>
    tokens[start]? = some token ∧ stop = start + 1 ∧ span = ⟨start, stop⟩
  | .branch _ span children, start, stop =>
    children ≠ [] ∧ span = ⟨start, stop⟩ ∧ CoversAll children start stop

/-- Whether some trees, one behind the other, cover the tokens from one position to another. -/
def CoversAll : List Tree → Nat → Nat → Prop
  | [], start, stop => stop = start
  | child :: rest, start, stop =>
    ∃ middle, child.Covers start middle ∧ CoversAll rest middle stop

end

variable {tokens}

theorem Covers.span_eq {tree : Tree} {start stop : Nat} (covers : tree.Covers tokens start stop) :
    tree.span = ⟨start, stop⟩ := by
  cases tree with
  | leaf token span => exact covers.2.2
  | branch label span children => exact covers.2.1

mutual

theorem Covers.lt {tree : Tree} {start stop : Nat} (covers : tree.Covers tokens start stop) :
    start < stop ∧ stop ≤ tokens.length := by
  cases tree with
  | leaf token span =>
    obtain ⟨there, rfl, -⟩ := covers
    obtain ⟨inside, -⟩ := List.getElem?_eq_some_iff.mp there
    exact ⟨Nat.lt_succ_self _, inside⟩
  | branch label span children =>
    obtain ⟨some, -, all⟩ := covers
    cases children with
    | nil => exact absurd rfl some
    | cons child rest =>
      obtain ⟨middle, head, tail⟩ := all
      obtain ⟨less, within⟩ := head.lt
      obtain ⟨le, bound⟩ := tail.le within
      exact ⟨Nat.lt_of_lt_of_le less le, bound⟩

theorem CoversAll.le {nodes : List Tree} {start stop : Nat}
    (covers : CoversAll tokens nodes start stop) (inside : start ≤ tokens.length) :
    start ≤ stop ∧ stop ≤ tokens.length := by
  cases nodes with
  | nil =>
    obtain rfl : stop = start := covers
    exact ⟨Nat.le_refl _, inside⟩
  | cons child rest =>
    obtain ⟨middle, head, tail⟩ := covers
    obtain ⟨less, within⟩ := head.lt
    obtain ⟨le, bound⟩ := tail.le within
    exact ⟨Nat.le_of_lt (Nat.lt_of_lt_of_le less le), bound⟩

end

theorem CoversAll.append {front back : List Tree} {start middle stop : Nat}
    (first : CoversAll tokens front start middle) (second : CoversAll tokens back middle stop) :
    CoversAll tokens (front ++ back) start stop := by
  induction front generalizing start with
  | nil =>
    obtain rfl : middle = start := first
    exact second
  | cons child rest ih =>
    obtain ⟨between, head, tail⟩ := first
    exact ⟨between, head, ih tail⟩

theorem CoversAll.singleton {tree : Tree} {start stop : Nat}
    (covers : tree.Covers tokens start stop) : CoversAll tokens [tree] start stop :=
  ⟨stop, covers, rfl⟩

end Tree

/-! ### Well-placed states -/

/-- Whether a known outcome, if it is a match, covers the tokens from where it began. -/
def Outcome.Covers (tokens : List Token) (start furthest : Nat) : Outcome → Prop
  | .failed => True
  | .matched tree stop => tree.Covers tokens start stop ∧ stop ≤ furthest

structure Run.Placed (grammar : Grammar) (tokens : List Token) (run : Run) : Prop where
  position_le : run.position ≤ tokens.length
  furthest_le : run.furthest ≤ tokens.length
  active_nodup : run.active.Nodup
  active_valid : ∀ attempt ∈ run.active,
    attempt.1 < grammar.rules.length ∧ attempt.2 ≤ tokens.length
  known_covers : ∀ (attempt : Attempt) (outcome : Outcome), run.known[attempt]? = some outcome →
    outcome.Covers tokens attempt.2 run.furthest

/-- What a task may answer that leads the cursor from one position to another. -/
def Task.Covers (tokens : List Token) :
    (task : Task) → (start : Nat) → task.Answer → (stop : Nat) → Prop
  | .attempt _, start, some tree, stop => tree.Covers tokens start stop
  | .attempt _, start, none, stop => stop = start
  | .body _, start, some nodes, stop => Tree.CoversAll tokens nodes start stop
  | .body _, start, none, stop => stop = start
  | .items _, start, some nodes, stop => Tree.CoversAll tokens nodes start stop
  | .items _, start, none, stop => start ≤ stop
  | .alternatives _ best, start, found, stop =>
    stop = start ∧
      ((∀ nodes reached, best = some (nodes, reached) →
        Tree.CoversAll tokens nodes start reached) →
      ∀ nodes reached, found = some (nodes, reached) → Tree.CoversAll tokens nodes start reached)
  | .repetition _, start, (nodes, count), stop =>
    Tree.CoversAll tokens nodes start stop ∧ (count = 0 → stop = start) ∧
      count ≤ stop - start + 1

namespace Run.Placed

variable {grammar : Grammar} {tokens : List Token} {options : ParseOptions} {run : Run}

theorem moveTo (placed : run.Placed grammar tokens) {position : Nat}
    (inside : position ≤ tokens.length) : (run.moveTo position).Placed grammar tokens :=
  { placed with position_le := inside }

theorem counted (placed : run.Placed grammar tokens) : run.counted.Placed grammar tokens :=
  { placed with }

theorem begin {id : Nat} {rule : Rule Ref} (placed : run.Placed grammar tokens)
    (production : grammar.rules[id]? = some rule) (free : (id, run.position) ∉ run.active) :
    (run.begin id).Placed grammar tokens where
  position_le := placed.position_le
  furthest_le := placed.furthest_le
  active_nodup := List.nodup_cons.mpr ⟨free, placed.active_nodup⟩
  active_valid := by
    intro attempt member
    rcases List.mem_cons.mp member with rfl | older
    · exact ⟨(List.getElem?_eq_some_iff.mp production).1, placed.position_le⟩
    · exact placed.active_valid attempt older
  known_covers := placed.known_covers

theorem finish (placed : run.Placed grammar tokens) (attempt : Attempt) :
    (run.finish attempt).Placed grammar tokens where
  position_le := placed.position_le
  furthest_le := placed.furthest_le
  active_nodup := placed.active_nodup.erase attempt
  active_valid := fun other member => placed.active_valid other (List.mem_of_mem_erase member)
  known_covers := placed.known_covers

theorem reach (placed : run.Placed grammar tokens) : run.reach.Placed grammar tokens where
  position_le := placed.position_le
  furthest_le := Nat.max_le.mpr ⟨placed.furthest_le, placed.position_le⟩
  active_nodup := placed.active_nodup
  active_valid := placed.active_valid
  known_covers := by
    intro attempt outcome known
    have covers := placed.known_covers attempt outcome known
    cases outcome with
    | failed => trivial
    | matched tree stop => exact ⟨covers.1, Nat.le_trans covers.2 (Nat.le_max_left ..)⟩

theorem keep {attempt : Attempt} {hits : Nat} {outcome : Outcome}
    (placed : run.Placed grammar tokens)
    (covers : outcome.Covers tokens attempt.2 run.furthest) :
    (run.keep options attempt hits outcome).Placed grammar tokens where
  position_le := by simpa using placed.position_le
  furthest_le := by simpa using placed.furthest_le
  active_nodup := by simpa using placed.active_nodup
  active_valid := by simpa using placed.active_valid
  known_covers := by
    intro key other known
    rw [keep_furthest]
    rcases known_of_keep known with before | ⟨rfl, rfl, -⟩
    · exact placed.known_covers key other before
    · exact covers

/-- The gate keeps a state well placed, and what it answers from memory covers the tokens. -/
theorem answered {id : Nat} {after : Run} {tree : Option Tree} (placed : run.Placed grammar tokens)
    (gate : Enters options id run (.answered tree after)) :
    after.Placed grammar tokens ∧
      Task.Covers tokens (.attempt id) run.position tree after.position := by
  cases gate with
  | givenUp gone => exact ⟨placed.counted, rfl⟩
  | exhausted live gone => exact ⟨{ placed with }, rfl⟩
  | refused live within active => exact ⟨{ placed with }, rfl⟩
  | failedBefore live within free memoize known => exact ⟨placed.counted, rfl⟩
  | matchedBefore live within free memoize known =>
    obtain ⟨covers, -⟩ := placed.known_covers _ _ known
    exact ⟨placed.counted.moveTo covers.lt.2, covers⟩

end Run.Placed

/-- The better of two matches is one of them. -/
theorem eq_of_longer {best : Option (List Tree × Nat)} {nodes : Option (List Tree)} {stop : Nat}
    {chosen : List Tree × Nat} (chosen_eq : longer best nodes stop = some chosen) :
    best = some chosen ∨ nodes = some chosen.1 ∧ chosen.2 = stop := by
  unfold longer at chosen_eq
  split at chosen_eq
  · exact .inl chosen_eq
  · obtain rfl := Option.some.inj chosen_eq
    exact .inr ⟨rfl, rfl⟩
  · split at chosen_eq
    · exact .inl chosen_eq
    · obtain rfl := Option.some.inj chosen_eq
      exact .inr ⟨rfl, rfl⟩

/-- Courses keep states well placed, and their answers cover what the cursor has passed. -/
theorem Course.placed {grammar : Grammar} {tokens : List Token} {options : ParseOptions}
    {task : Task} {run after : Run} {answer : task.Answer} {events : List Event}
    (course : Course grammar tokens options task run answer after events)
    (placed : run.Placed grammar tokens) :
    after.Placed grammar tokens ∧ task.Covers tokens run.position answer after.position := by
  induction course with
  | answered gate => exact placed.answered (gate ▸ Run.enters ..)
  | failed gate production inside nothing ih =>
    obtain ⟨-, -, free, -⟩ := Run.opened_of_enter gate
    obtain ⟨innerPlaced, -⟩ := ih (placed.counted.begin production free)
    exact ⟨((innerPlaced.finish _).moveTo placed.position_le).keep trivial, Run.keep_position⟩
  | @matched id run inner rule first others events gate production inside ih =>
    obtain ⟨-, -, free, -⟩ := Run.opened_of_enter gate
    obtain ⟨innerPlaced, covers⟩ := ih (placed.counted.begin production free)
    -- The span of the new branch begins where its first child begins.
    have start : first.span.start = run.position := by
      obtain ⟨middle, head, -⟩ := covers
      rw [head.span_eq]
      rfl
    have branch : (Tree.branch rule.name ⟨first.span.start, inner.position⟩
        (first :: others)).Covers tokens run.position inner.position :=
      ⟨by simp, by rw [start], covers⟩
    refine ⟨(innerPlaced.finish _).reach.keep ⟨branch, Nat.le_max_right ..⟩, ?_⟩
    rw [Run.keep_position]
    exact branch
  | token there =>
    obtain ⟨there, -⟩ := Option.filter_eq_some_iff.mp there
    have inside := (List.getElem?_eq_some_iff.mp there).1
    exact ⟨placed.moveTo inside, Tree.CoversAll.singleton ⟨there, rfl, rfl⟩⟩
  | noToken => exact ⟨placed, rfl⟩
  | @ref target run after tree events call ih =>
    obtain ⟨afterPlaced, covers⟩ := ih placed
    refine ⟨afterPlaced, ?_⟩
    cases tree with
    | none => exact covers
    | some tree => exact Tree.CoversAll.singleton covers
  | seq all ih => exact ih placed
  | brokenSeq all ih =>
    obtain ⟨afterPlaced, -⟩ := ih placed
    exact ⟨afterPlaced.moveTo placed.position_le, rfl⟩
  | @opt body run after nodes events once ih =>
    obtain ⟨afterPlaced, covers⟩ := ih placed
    refine ⟨afterPlaced, ?_⟩
    cases nodes with
    | none => exact covers
    | some nodes => exact covers
  | star loop ih =>
    obtain ⟨afterPlaced, covers, -⟩ := ih placed
    exact ⟨afterPlaced, covers⟩
  | @plus body run after nodes count events loop ih =>
    obtain ⟨afterPlaced, covers, still, -⟩ := ih placed
    refine ⟨afterPlaced, ?_⟩
    split
    next none => exact still none
    next => exact covers
  | longest tried ih =>
    obtain ⟨afterPlaced, covers⟩ := ih placed
    have found := covers.2 (by simp) _ _ rfl
    exact ⟨afterPlaced.moveTo (found.le placed.position_le).2, found⟩
  | noLongest tried ih =>
    obtain ⟨afterPlaced, covers⟩ := ih placed
    exact ⟨afterPlaced, covers.1⟩
  | noItems => exact ⟨placed, rfl⟩
  | brokenItems head ih =>
    obtain ⟨afterPlaced, covers⟩ := ih placed
    exact ⟨afterPlaced, Nat.le_of_eq covers.symm⟩
  | @items item rest run between after nodes more events others head tail first second =>
    obtain ⟨betweenPlaced, front⟩ := first placed
    obtain ⟨afterPlaced, back⟩ := second betweenPlaced
    refine ⟨afterPlaced, ?_⟩
    cases more with
    | none => exact Nat.le_trans (front.le placed.position_le).1 back
    | some more => exact front.append back
  | noAlternatives => exact ⟨placed, rfl, fun best => best⟩
  | @alternatives alternative rest run between after best found nodes events others head tail
      first second =>
    obtain ⟨betweenPlaced, covers⟩ := first placed
    obtain ⟨afterPlaced, stop, choose⟩ := second (betweenPlaced.moveTo placed.position_le)
    refine ⟨afterPlaced, stop, fun bestCovers => choose fun chosen reached chosen_eq => ?_⟩
    -- The best match is the one from before or that of this alternative.
    rcases eq_of_longer chosen_eq with old | ⟨rfl, rfl⟩
    · exact bestCovers _ _ old
    · exact covers
  | ends last ih =>
    obtain ⟨afterPlaced, covers⟩ := ih placed
    exact ⟨afterPlaced, covers, fun _ => covers, Nat.zero_le _⟩
  | stalls last stalled ih =>
    obtain ⟨afterPlaced, covers⟩ := ih placed
    exact ⟨afterPlaced, covers, fun none => absurd none (by decide), Nat.le_add_left ..⟩
  | continues first moved loop one more =>
    obtain ⟨betweenPlaced, front⟩ := one placed
    obtain ⟨afterPlaced, back, still, count⟩ := more betweenPlaced
    refine ⟨afterPlaced, front.append back, fun none => absurd none (Nat.succ_ne_zero _), ?_⟩
    -- The iteration has consumed a token at least, which pays for it.
    have := (front.le placed.position_le).1
    have := (back.le betweenPlaced.position_le).1
    omega

end Constituency
