import Constituency.Proofs.Parser.Parts

/-!
# Grammars without left recursion

A production can be called again at the place where it is under way only through references that
its body reaches before it consumes a token. These leading references are read off the body: those
at its front, behind items that can match without a token. If they lead from every production to
productions of a smaller rank, the guard against re-entry has nothing to do, whatever is parsed.
-/
namespace Constituency

/-! ### Leading references -/

namespace Expr

variable {ρ : Type}

mutual

/-- Whether a body can match without a token. A production never does. -/
def isNullable : Expr ρ → Bool
  | .terminal _ => false
  | .ref _ => false
  | .seq items => allNullable items
  | .opt _ => true
  | .star _ => true
  | .plus body => body.isNullable
  | .longest alternatives => anyNullable alternatives

def allNullable : List (Expr ρ) → Bool
  | [] => true
  | item :: rest => item.isNullable && allNullable rest

def anyNullable : List (Expr ρ) → Bool
  | [] => false
  | item :: rest => item.isNullable || anyNullable rest

end

mutual

/-- The references that can be called at the place where the body begins. -/
def leading : Expr ρ → List ρ
  | .terminal _ => []
  | .ref target => [target]
  | .seq items => leadingItems items
  | .opt body => body.leading
  | .star body => body.leading
  | .plus body => body.leading
  | .longest alternatives => leadingAny alternatives

def leadingItems : List (Expr ρ) → List ρ
  | [] => []
  | item :: rest => item.leading ++ if item.isNullable then leadingItems rest else []

def leadingAny : List (Expr ρ) → List ρ
  | [] => []
  | item :: rest => item.leading ++ leadingAny rest

end

end Expr

/-- The productions that can be called at the place where a task begins. -/
def Task.leading : Task → List Nat
  | .attempt id => [id]
  | .body expr => expr.leading.map Ref.id
  | .items exprs => (Expr.leadingItems exprs).map Ref.id
  | .alternatives exprs _ => (Expr.leadingAny exprs).map Ref.id
  | .repetition expr => expr.leading.map Ref.id

/-! ### Ranks -/

/-- Whether leading references go to productions of a smaller rank only. -/
def Grammar.Ranked (grammar : Grammar) (rank : Nat → Nat) : Prop :=
  ∀ (id : Nat) (rule : Rule Ref), grammar.rules[id]? = some rule →
    ∀ ref ∈ rule.body.leading, rank ref.id < rank id

/-- How many leading references lie one behind the other, from a production on; at most `bound`. -/
def leadingDepth (rules : List (Rule Ref)) : (bound : Nat) → (id : Nat) → Nat
  | 0, _ => 0
  | bound + 1, id =>
    match rules[id]? with
    | none => 0
    | some rule =>
      (rule.body.leading.map fun ref => leadingDepth rules bound ref.id + 1).foldr max 0

/-- Whether the depth decreases along leading references. -/
def Grammar.isRanked (grammar : Grammar) : Bool :=
  let depth := leadingDepth grammar.rules grammar.rules.length
  grammar.rules.zipIdx.all fun (rule, id) =>
    rule.body.leading.all fun ref => depth ref.id < depth id

theorem Grammar.Ranked.of_isRanked {grammar : Grammar} (decreases : grammar.isRanked = true) :
    grammar.Ranked (leadingDepth grammar.rules grammar.rules.length) := by
  intro id rule production ref member
  have place : (rule, id) ∈ grammar.rules.zipIdx := List.mem_zipIdx_iff_getElem?.mpr production
  have all := List.all_eq_true.mp decreases (rule, id) place
  exact of_decide_eq_true (List.all_eq_true.mp all ref member)

variable {grammar : Grammar} {tokens : List Token} {options : ParseOptions}

/-! ### Matches without a token -/

/-- Whether a task that consumes nothing is one that can match without a token. -/
def Task.Idles : (task : Task) → (start : Nat) → task.Answer → (stop : Nat) → Prop
  | .attempt _, start, some _, stop => stop ≠ start
  | .attempt _, _, none, _ => True
  | .body expr, start, some _, stop => stop = start → expr.isNullable = true
  | .body _, _, none, _ => True
  | .items exprs, start, some _, stop => stop = start → Expr.allNullable exprs = true
  | .items _, _, none, _ => True
  | .alternatives exprs best, start, found, _ => ∀ nodes, found = some (nodes, start) →
    best = some (nodes, start) ∨ Expr.anyNullable exprs = true
  | .repetition expr, start, (_, count), stop =>
    count ≠ 0 → stop = start → expr.isNullable = true

/-- Cursors do not go back over what has matched. -/
theorem Course.position_le {body : Expr Ref} {run after : Run} {nodes : List Tree}
    {events : List Event}
    (course : Course grammar tokens options (.body body) run (some nodes) after events)
    (placed : run.Placed grammar tokens) : run.position ≤ after.position :=
  ((course.placed placed).2.le placed.position_le).1

theorem Course.idles {task : Task} {run after : Run} {answer : task.Answer} {events : List Event}
    (course : Course grammar tokens options task run answer after events)
    (placed : run.Placed grammar tokens) : task.Idles run.position answer after.position := by
  induction course with
  | @answered id run after tree gate =>
    have whole : Course grammar tokens options (.attempt id) run tree after [] := .answered gate
    have covers := whole.placed placed
    cases tree with
    | none => trivial
    | some tree => exact Nat.ne_of_gt covers.2.lt.1
  | failed gate production inside nothing ih => trivial
  | matched gate production inside ih =>
    have covers := (Course.matched gate production inside).placed placed
    exact Nat.ne_of_gt covers.2.lt.1
  | token there => exact fun stays => absurd stays (Nat.succ_ne_self _)
  | noToken missing => trivial
  | @ref target run after tree events call ih =>
    cases tree with
    | none => trivial
    | some tree => exact fun stays => absurd stays (ih placed)
  | seq all ih => exact ih placed
  | brokenSeq all ih => trivial
  | opt once ih => exact fun _ => rfl
  | star loop ih => exact fun _ => rfl
  | @plus body run after nodes count events loop ih =>
    cases count with
    | zero => trivial
    | succ count => exact ih placed (Nat.succ_ne_zero count)
  | @longest alternatives run after nodes stop events tried ih =>
    intro stays
    obtain rfl : stop = run.position := stays
    rcases ih placed nodes rfl with none | nullable
    · contradiction
    · exact nullable
  | noLongest tried ih => trivial
  | noItems => exact fun _ => rfl
  | brokenItems head ih => trivial
  | @items item rest run between after nodes more events others head tail first second =>
    cases more with
    | none => trivial
    | some more =>
      intro stays
      have betweenPlaced := (head.placed placed).1
      obtain ⟨-, back⟩ := tail.placed betweenPlaced
      have forth := head.position_le placed
      have further := (back.le betweenPlaced.position_le).1
      -- The cursor stays where it is only if it stays there in both parts.
      have headStays : between.position = run.position := by omega
      have tailStays : after.position = between.position := by omega
      have headNullable : item.isNullable = true := first placed headStays
      have restNullable : Expr.allNullable rest = true := second betweenPlaced tailStays
      simp [Expr.allNullable, headNullable, restNullable]
  | noAlternatives => exact fun nodes found => .inl found
  | @alternatives alternative rest run between after best found nodes events others head tail
      first second =>
    intro chosen chosen_eq
    obtain ⟨betweenPlaced, -⟩ := head.placed placed
    rcases second (betweenPlaced.moveTo placed.position_le) chosen chosen_eq with better | nullable
    · rcases eq_of_longer better with old | ⟨rfl, stays⟩
      · exact .inl old
      · have headNullable : alternative.isNullable = true := first placed stays.symm
        exact .inr (by simp [Expr.anyNullable, headNullable])
    · exact .inr (by simp [Expr.anyNullable, nullable])
  | ends last ih => exact fun some => absurd rfl some
  | stalls last stalled ih => exact fun _ stays => ih placed stays
  | continues first moved loop one more =>
    intro some stays
    have betweenPlaced := (first.placed placed).1
    obtain ⟨-, back, -⟩ := loop.placed betweenPlaced
    have forth := first.position_le placed
    have further := (back.le betweenPlaced.position_le).1
    exact absurd (by omega) moved

/-! ### Attempts that cannot be met again -/

/-- Whether no attempt under way can be met again at the cursor: a task leads to smaller ranks. -/
def Run.Clear (rank : Nat → Nat) (task : Task) (run : Run) : Prop :=
  ∀ attempt ∈ run.active, attempt.2 ≤ run.position ∧
    (attempt.2 = run.position → ∀ id ∈ task.leading, rank id < rank attempt.1)

namespace Run.Clear

variable {rank : Nat → Nat} {task part : Task} {run start : Run}

theorem of_idle (idle : run.active = []) : run.Clear rank task := by
  intro attempt member
  rw [idle] at member
  contradiction

theorem free {id : Nat} (clear : run.Clear rank (.attempt id)) :
    (id, run.position) ∉ run.active := by
  intro active
  have smaller := (clear _ active).2 rfl id (List.mem_singleton.mpr rfl)
  exact Nat.lt_irrefl _ smaller

/-- At the same place, a part leads to nothing that the whole does not lead to. -/
theorem narrow (clear : run.Clear rank task) (active : start.active = run.active)
    (position : start.position = run.position) (fewer : part.leading ⊆ task.leading) :
    start.Clear rank part := by
  intro attempt member
  rw [active] at member
  rw [position]
  obtain ⟨behind, smaller⟩ := clear attempt member
  exact ⟨behind, fun here id leads => smaller here id (fewer leads)⟩

/-- Further to the right nothing is under way at the cursor. -/
theorem advance (clear : run.Clear rank task) (active : start.active = run.active)
    (position : run.position < start.position) : start.Clear rank part := by
  intro attempt member
  rw [active] at member
  have behind := (clear attempt member).1
  exact ⟨by omega, fun here => absurd here (by omega)⟩

theorem begin {id : Nat} {rule : Rule Ref} (ranked : grammar.Ranked rank)
    (clear : run.Clear rank (.attempt id)) (production : grammar.rules[id]? = some rule) :
    (run.counted.begin id).Clear rank (.body rule.body) := by
  have below : ∀ other ∈ (Task.body rule.body).leading, rank other < rank id := by
    intro other member
    obtain ⟨ref, leads, rfl⟩ := List.mem_map.mp member
    exact ranked id rule production ref leads
  intro attempt member
  rcases List.mem_cons.mp member with rfl | older
  · exact ⟨Nat.le_refl _, fun _ => below⟩
  · -- Older attempts at the cursor lie above this one, and so above all that the body leads to.
    obtain ⟨behind, smaller⟩ := clear attempt older
    refine ⟨behind, fun here other leads => ?_⟩
    exact Nat.lt_trans (below other leads) (smaller here id (List.mem_singleton.mpr rfl))

/-- What is under way cannot be met again in any part of a task. -/
theorem leads (ranked : grammar.Ranked rank) (clear : run.Clear rank task)
    (placed : run.Placed grammar tokens)
    (leads : Leads grammar tokens options task run part start) : start.Clear rank part := by
  cases leads with
  | inside gate production => exact clear.begin ranked production
  | ref => exact clear.narrow rfl rfl (List.Subset.refl _)
  | seq => exact clear.narrow rfl rfl (List.Subset.refl _)
  | opt => exact clear.narrow rfl rfl (List.Subset.refl _)
  | star => exact clear.narrow rfl rfl (List.Subset.refl _)
  | plus => exact clear.narrow rfl rfl (List.Subset.refl _)
  | longest => exact clear.narrow rfl rfl (List.Subset.refl _)
  | item =>
    apply clear.narrow rfl rfl
    exact List.map_subset _ (List.subset_append_left ..)
  | @moreItems item rest run between nodes events head =>
    rcases Nat.eq_or_lt_of_le (head.position_le placed) with stays | moves
    · -- The item has matched without a token, so what follows it was reached from the front, too.
      have nullable : item.isNullable = true := head.idles placed stays.symm
      apply clear.narrow head.grows.active stays.symm
      apply List.map_subset
      simp only [Expr.leadingItems, nullable, if_true]
      exact List.subset_append_right ..
    · exact clear.advance head.grows.active moves
  | alternative =>
    apply clear.narrow rfl rfl
    exact List.map_subset _ (List.subset_append_left ..)
  | moreAlternatives head =>
    -- The cursor is back at the front, whatever the first alternative has consumed.
    apply clear.narrow (head.grows.moveTo run.position).active rfl
    exact List.map_subset _ (List.subset_append_right ..)
  | iteration => exact clear.narrow rfl rfl (List.Subset.refl _)
  | moreIterations first moved =>
    have forth := first.position_le placed
    exact clear.advance first.grows.active (Nat.lt_of_le_of_ne forth (Ne.symm moved))

theorem meets {whole part : Task × Run} {after : Run} {answer : whole.1.Answer}
    {events : List Event} (ranked : grammar.Ranked rank) (clear : whole.2.Clear rank whole.1)
    (course : Course grammar tokens options whole.1 whole.2 answer after events)
    (placed : whole.2.Placed grammar tokens) (meets : Meets grammar tokens options whole part) :
    part.2.Clear rank part.1 := by
  induction meets with
  | refl => exact clear
  | tail earlier leads ih =>
    have inside := Meets.inside_course earlier course placed
    exact ih.leads ranked inside.placed leads

end Run.Clear

/-! ### The guard -/

theorem Run.Enters.guardHits_eq {id : Nat} {run after : Run} {tree : Option Tree}
    (gate : Enters options id run (.answered tree after))
    (free : (id, run.position) ∉ run.active) : after.guardHits = run.guardHits := by
  cases gate with
  | refused live within active => exact absurd active free
  | _ => rfl

/-- Whether the course of a task never meets an attempt that is under way. -/
def Task.Unguarded (grammar : Grammar) (tokens : List Token) (options : ParseOptions) (task : Task)
    (run : Run) : Prop :=
  ∀ (id : Nat) (start : Run), Meets grammar tokens options (task, run) (.attempt id, start) →
    (id, start.position) ∉ start.active

theorem Task.Unguarded.leads {task part : Task} {run start : Run}
    (free : task.Unguarded grammar tokens options run)
    (leads : Leads grammar tokens options task run part start) :
    part.Unguarded grammar tokens options start :=
  fun id last meets => free id last (meets.head leads)

/-- The guard strikes only where the course meets an attempt that is under way. -/
theorem Course.guardHits_eq {task : Task} {run after : Run} {answer : task.Answer}
    {events : List Event} (course : Course grammar tokens options task run answer after events)
    (free : task.Unguarded grammar tokens options run) : after.guardHits = run.guardHits := by
  induction course with
  | answered gate => exact (gate ▸ Run.enters ..).guardHits_eq (free _ _ .refl)
  | failed gate production inside nothing ih =>
    rw [Run.keep_guardHits]
    exact ih (free.leads (.inside gate production))
  | matched gate production inside ih =>
    rw [Run.keep_guardHits]
    exact ih (free.leads (.inside gate production))
  | token there => rfl
  | noToken missing => rfl
  | ref call ih => exact ih (free.leads .ref)
  | seq all ih => exact ih (free.leads .seq)
  | brokenSeq all ih => exact ih (free.leads .seq)
  | opt once ih => exact ih (free.leads .opt)
  | star loop ih => exact ih (free.leads .star)
  | plus loop ih => exact ih (free.leads .plus)
  | longest tried ih => exact ih (free.leads .longest)
  | noLongest tried ih => exact ih (free.leads .longest)
  | noItems => rfl
  | brokenItems head ih => exact ih (free.leads .item)
  | items head tail first second =>
    have front := first (free.leads .item)
    have back := second (free.leads (.moreItems head))
    exact back.trans front
  | noAlternatives => rfl
  | alternatives head tail first second =>
    have front := first (free.leads .alternative)
    have back := second (free.leads (.moreAlternatives head))
    exact back.trans front
  | ends last ih => exact ih (free.leads .iteration)
  | stalls last stalled ih =>
    exact ih (free.leads .iteration)
  | continues first moved loop one more =>
    have front := one (free.leads .iteration)
    have back := more (free.leads (.moreIterations first moved))
    exact back.trans front

/-- In a grammar without left recursion a call leaves the guard silent. -/
theorem Parser.Replies.guardHits_eq {rank : Nat → Nat} {run after : Run} {call : Call}
    {tree : Option Tree} {events : List Event} (ranked : grammar.Ranked rank)
    (replies : Replies ⟨grammar, tokens, options, run⟩ call tree after events)
    (rest : run.AtRest grammar tokens) : after.guardHits = run.guardHits := by
  cases replies with
  | attempted target course =>
    apply course.guardHits_eq
    intro id start meets
    have clear := Run.Clear.meets ranked (.of_idle rest.idle) course rest.placed meets
    exact clear.free
  | unknown missing => rfl

/-- In a grammar without left recursion the guard is silent in the whole life of a parser. -/
theorem Parser.History.guardHits_eq {rank : Nat → Nat} {run after : Run} {calls : List Call}
    {events : List Event} (ranked : grammar.Ranked rank)
    (history : History grammar tokens options run calls after events)
    (rest : run.AtRest grammar tokens) : after.guardHits = run.guardHits := by
  induction history with
  | nil => rfl
  | cons replies later ih =>
    have back := ih (replies.atRest rest)
    exact back.trans (replies.guardHits_eq ranked rest)

end Constituency
