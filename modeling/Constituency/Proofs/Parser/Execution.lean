import Constituency.Proofs.Parser.Placement
import Mathlib.Data.List.Perm.Subperm
import Mathlib.Data.List.ProdSigma

/-!
# Courses and the parser

Neither the cursor nor the body has to change when a production calls another one. What changes is
the number of attempts under way, and there is only room for one attempt of each production at
each position. A body is evaluated along its structure, and a repetition goes on only if the
cursor has moved. So every task has a course, and the bounds that the parser computes with are
never what ends it: the parser gives just what the course gives.
-/
namespace Constituency

variable {grammar : Grammar} {tokens : List Token} {options : ParseOptions}

/-! ### Room for attempts -/

/-- Attempts under way are different pairs of a production and a position. -/
theorem Run.Placed.length_active_le {run : Run} (placed : run.Placed grammar tokens) :
    run.active.length ≤ attemptRoom grammar tokens := by
  have inside : run.active ⊆
      (List.range grammar.rules.length).product (List.range (tokens.length + 1)) := by
    intro attempt member
    obtain ⟨id, position⟩ := attempt
    obtain ⟨below, within⟩ := placed.active_valid _ member
    exact List.mem_product.mpr ⟨List.mem_range.mpr below, List.mem_range.mpr (by omega)⟩
  have bound := (placed.active_nodup.subperm inside).length_le
  have size := List.length_product (List.range grammar.rules.length)
    (List.range (tokens.length + 1))
  rw [List.length_range, List.length_range] at size
  exact Nat.le_trans bound (Nat.le_of_eq size)

/-- A well-placed state in which `room` attempts more can be under way. -/
structure Run.Fits (grammar : Grammar) (tokens : List Token) (room : Nat) (run : Run) : Prop where
  placed : run.Placed grammar tokens
  enough : attemptRoom grammar tokens ≤ room + run.active.length

namespace Run.Fits

variable {room : Nat} {run after : Run}

theorem follow {task : Task} {answer : task.Answer} {events : List Event}
    (fits : run.Fits grammar tokens room)
    (course : Course grammar tokens options task run answer after events) :
    after.Fits grammar tokens room :=
  ⟨(course.placed fits.placed).1, course.grows.active ▸ fits.enough⟩

theorem moveTo (fits : run.Fits grammar tokens room) {position : Nat}
    (inside : position ≤ tokens.length) : (run.moveTo position).Fits grammar tokens room :=
  ⟨fits.placed.moveTo inside, fits.enough⟩

/-- Where the gate opens there is room for one attempt, and one less behind it. -/
theorem begin {id : Nat} {rule : Rule Ref} (fits : run.Fits grammar tokens room)
    (production : grammar.rules[id]? = some rule) (free : (id, run.position) ∉ run.active) :
    ∃ less, room = less + 1 ∧ (run.counted.begin id).Fits grammar tokens less := by
  have begun := fits.placed.counted.begin production free
  have bound : run.active.length + 1 ≤ attemptRoom grammar tokens := begun.length_active_le
  have enough := fits.enough
  refine ⟨room - 1, by omega, begun, ?_⟩
  have length : (run.counted.begin id).active.length = run.active.length + 1 := rfl
  omega

end Run.Fits

/-! ### Courses exist -/

/-- Whether a task has a course from a state. -/
def Task.Ends (grammar : Grammar) (tokens : List Token) (options : ParseOptions) (task : Task)
    (run : Run) : Prop :=
  ∃ answer after events, Course grammar tokens options task run answer after events

namespace Expr

variable {rules : List (Rule Ref)}

theorem mem_referencesAll {ρ : Type} {ref : ρ} {items : List (Expr ρ)} :
    ref ∈ referencesAll items ↔ ∃ item ∈ items, ref ∈ item.references := by
  induction items with
  | nil => simp [referencesAll]
  | cons item rest ih => simp [referencesAll, ih]

theorem Resolved.items {items : List (Expr Ref)} (resolved : (Expr.seq items).Resolved rules) :
    ∀ item ∈ items, item.Resolved rules :=
  fun item member ref inside => resolved ref (mem_referencesAll.mpr ⟨item, member, inside⟩)

end Expr

section Ends

variable {room : Nat}

/-- A repetition goes on only where the cursor has moved, so the tokens that are left bound it. -/
private theorem ends_repetition {body : Expr Ref}
    (once : ∀ run : Run, run.Fits grammar tokens room →
      Task.Ends grammar tokens options (.body body) run)
    (run : Run) (fits : run.Fits grammar tokens room) :
    Task.Ends grammar tokens options (.repetition body) run := by
  induction left : tokens.length - run.position using Nat.strongRecOn generalizing run with
  | _ left ih =>
    obtain ⟨answer, between, events, first⟩ := once run fits
    cases answer with
    | none => exact ⟨_, _, _, .ends first⟩
    | some nodes =>
      by_cases stalled : between.position = run.position
      · exact ⟨_, _, _, .stalls first stalled⟩
      · -- The cursor has moved on and cannot pass the end.
        obtain ⟨placed, covers⟩ := first.placed fits.placed
        have := (covers.le fits.placed.position_le).1
        have := placed.position_le
        obtain ⟨⟨more, count⟩, after, others, loop⟩ :=
          ih (tokens.length - between.position) (by omega) between (fits.follow first) rfl
        exact ⟨_, _, _, .continues first stalled loop⟩

/-- Whether every production has a course from every state that leaves so much room. -/
private def Callable (grammar : Grammar) (tokens : List Token) (options : ParseOptions)
    (room : Nat) : Prop :=
  ∀ (id : Nat) (run : Run), id < grammar.rules.length → run.Fits grammar tokens room →
    Task.Ends grammar tokens options (.attempt id) run

mutual

private theorem ends_body (callable : Callable grammar tokens options room) (body : Expr Ref)
    (resolved : body.Resolved grammar.rules) (run : Run) (fits : run.Fits grammar tokens room) :
    Task.Ends grammar tokens options (.body body) run := by
  cases body with
  | terminal pattern =>
    cases there : tokenMatching tokens run.position (some pattern) with
    | none => exact ⟨_, _, _, .noToken there⟩
    | some token => exact ⟨_, _, _, .token there⟩
  | ref target =>
    obtain ⟨rule, production, -⟩ :=
      Option.map_eq_some_iff.mp (resolved target (by simp [Expr.references]))
    have bound := (List.getElem?_eq_some_iff.mp production).1
    obtain ⟨tree, after, events, call⟩ := callable target.id run bound fits
    exact ⟨_, _, _, .ref call⟩
  | seq items =>
    obtain ⟨answer, after, events, all⟩ := ends_items callable items resolved.items run fits
    cases answer with
    | none => exact ⟨_, _, _, .brokenSeq all⟩
    | some nodes => exact ⟨_, _, _, .seq all⟩
  | opt body =>
    obtain ⟨answer, after, events, once⟩ := ends_body callable body resolved run fits
    exact ⟨_, _, _, .opt once⟩
  | star body =>
    obtain ⟨⟨nodes, count⟩, after, events, loop⟩ :=
      ends_repetition (fun run fits => ends_body callable body resolved run fits) run fits
    exact ⟨_, _, _, .star loop⟩
  | plus body =>
    obtain ⟨⟨nodes, count⟩, after, events, loop⟩ :=
      ends_repetition (fun run fits => ends_body callable body resolved run fits) run fits
    exact ⟨_, _, _, .plus loop⟩
  | longest alternatives =>
    obtain ⟨found, after, events, tried⟩ :=
      ends_alternatives callable alternatives resolved.items none run fits
    cases found with
    | none => exact ⟨_, _, _, .noLongest tried⟩
    | some found => exact ⟨_, _, _, .longest tried⟩

private theorem ends_items (callable : Callable grammar tokens options room)
    (items : List (Expr Ref)) (resolved : ∀ item ∈ items, item.Resolved grammar.rules) (run : Run)
    (fits : run.Fits grammar tokens room) :
    Task.Ends grammar tokens options (.items items) run := by
  cases items with
  | nil => exact ⟨_, _, _, .noItems⟩
  | cons item rest =>
    obtain ⟨itemResolved, restResolved⟩ := List.forall_mem_cons.mp resolved
    obtain ⟨answer, between, events, head⟩ := ends_body callable item itemResolved run fits
    cases answer with
    | none => exact ⟨_, _, _, .brokenItems head⟩
    | some nodes =>
      obtain ⟨more, after, others, tail⟩ :=
        ends_items callable rest restResolved between (fits.follow head)
      exact ⟨_, _, _, .items head tail⟩

private theorem ends_alternatives (callable : Callable grammar tokens options room)
    (alternatives : List (Expr Ref))
    (resolved : ∀ item ∈ alternatives, item.Resolved grammar.rules)
    (best : Option (List Tree × Nat)) (run : Run) (fits : run.Fits grammar tokens room) :
    Task.Ends grammar tokens options (.alternatives alternatives best) run := by
  cases alternatives with
  | nil => exact ⟨_, _, _, .noAlternatives⟩
  | cons alternative rest =>
    obtain ⟨headResolved, restResolved⟩ := List.forall_mem_cons.mp resolved
    obtain ⟨nodes, between, events, head⟩ := ends_body callable alternative headResolved run fits
    obtain ⟨found, after, others, tail⟩ :=
      ends_alternatives callable rest restResolved (longer best nodes between.position)
        (between.moveTo run.position) ((fits.follow head).moveTo fits.placed.position_le)
    exact ⟨_, _, _, .alternatives head tail⟩

end

end Ends

/-- Every attempt has a course from every state that leaves room for it. -/
theorem ends_attempt (room : Nat) (id : Nat) (run : Run) (known : id < grammar.rules.length)
    (fits : run.Fits grammar tokens room) : Task.Ends grammar tokens options (.attempt id) run := by
  induction room using Nat.strongRecOn generalizing id run with
  | _ room ih =>
    cases gate : run.enter options id with
    | answered tree after => exact ⟨_, _, _, .answered gate⟩
    | opened opened =>
      obtain ⟨rfl, -, free, -⟩ := Run.opened_of_enter gate
      have production := List.getElem?_eq_getElem known
      -- Inside, one attempt more is under way, and calls are met by the induction hypothesis.
      obtain ⟨less, rfl, begun⟩ := fits.begin production free
      have callable : Callable grammar tokens options less := ih less (Nat.lt_succ_self less)
      obtain ⟨children, inner, events, inside⟩ :=
        ends_body callable _ (grammar.resolved _ (List.getElem_mem known)) _ begun
      match children, inside with
      | none, inside => exact ⟨_, _, _, .failed gate production inside rfl⟩
      | some [], inside => exact ⟨_, _, _, .failed gate production inside rfl⟩
      | some (first :: others), inside => exact ⟨_, _, _, .matched gate production inside⟩

theorem ends_body_of_fits (options : ParseOptions) {room : Nat} {body : Expr Ref} {run : Run}
    (resolved : body.Resolved grammar.rules) (fits : run.Fits grammar tokens room) :
    Task.Ends grammar tokens options (.body body) run :=
  ends_body (fun id run known fits => ends_attempt room id run known fits) body resolved run fits

/-! ### The parser follows the courses -/

/-- Whether the parser, with room for so many attempts more, answers a task like this. -/
@[reducible] def Task.Performs (grammar : Grammar) (tokens : List Token) (options : ParseOptions)
    (room : Nat) : (task : Task) → Run → task.Answer → Run → Prop
  | .attempt id, run, tree, after =>
    Constituency.attempt grammar tokens options room id run = (tree, after)
  | .body expr, run, nodes, after =>
    expr.evaluate tokens (Constituency.attempt grammar tokens options room) run = (nodes, after)
  | .items exprs, run, nodes, after =>
    Expr.evaluateItems tokens (Constituency.attempt grammar tokens options room) exprs run =
      (nodes, after)
  | .alternatives exprs best, run, found, after =>
    Expr.evaluateAlternatives tokens (Constituency.attempt grammar tokens options room) exprs
      run.position best run = (found, after)
  | .repetition expr, run, answer, after =>
    ∀ bound, run.iterationBound tokens ≤ bound →
      Run.iterate (expr.evaluate tokens (Constituency.attempt grammar tokens options room)) bound
        run = (answer, after)

/-- Where there is room, the parser gives what the course gives. -/
theorem Course.performs {task : Task} {run after : Run} {answer : task.Answer}
    {events : List Event} (course : Course grammar tokens options task run answer after events)
    {room : Nat} (fits : run.Fits grammar tokens room) :
    task.Performs grammar tokens options room run answer after := by
  induction course generalizing room with
  | answered gate => simp [Task.Performs, attempt, gate]
  | @failed id run inner rule children events gate production inside nothing ih =>
    obtain ⟨-, -, free, -⟩ := Run.opened_of_enter gate
    obtain ⟨less, rfl, begun⟩ := fits.begin production free
    have evaluated : rule.body.evaluate tokens (attempt grammar tokens options less)
        (run.counted.begin id) = (children, inner) := ih begun
    simp only [Task.Performs, attempt, gate, production, evaluated]
    match children, nothing with
    | none, _ => rfl
    | some [], _ => rfl
  | @matched id run inner rule first others events gate production inside ih =>
    obtain ⟨-, -, free, -⟩ := Run.opened_of_enter gate
    obtain ⟨less, rfl, begun⟩ := fits.begin production free
    have evaluated : rule.body.evaluate tokens (attempt grammar tokens options less)
        (run.counted.begin id) = (some (first :: others), inner) := ih begun
    simp only [Task.Performs, attempt, gate, production, evaluated]
    rfl
  | token there => simp [Task.Performs, Expr.evaluate, there]
  | noToken missing => simp [Task.Performs, Expr.evaluate, missing]
  | ref call ih =>
    simp only [Task.Performs, Expr.evaluate, ih fits]
  | seq all ih =>
    simp only [Task.Performs, Expr.evaluate, ih fits]
  | brokenSeq all ih =>
    simp only [Task.Performs, Expr.evaluate, ih fits]
  | opt once ih =>
    simp only [Task.Performs, Expr.evaluate, ih fits]
  | star loop ih =>
    have repeated := ih fits _ (Nat.le_refl _)
    simp only [Task.Performs, Expr.evaluate, repeated]
  | plus loop ih =>
    have repeated := ih fits _ (Nat.le_refl _)
    simp only [Task.Performs, Expr.evaluate, repeated]
  | longest tried ih =>
    simp only [Task.Performs, Expr.evaluate, ih fits]
  | noLongest tried ih =>
    simp only [Task.Performs, Expr.evaluate, ih fits]
  | noItems => simp [Task.Performs, Expr.evaluateItems]
  | brokenItems head ih =>
    simp only [Task.Performs, Expr.evaluateItems, ih fits]
  | items head tail first second =>
    simp only [Task.Performs, Expr.evaluateItems, first fits, second (fits.follow head)]
  | noAlternatives => simp [Task.Performs, Expr.evaluateAlternatives]
  | alternatives head tail first second =>
    simp only [Task.Performs, Expr.evaluateAlternatives, first fits]
    -- The others start where this one has started, as the parser has it.
    exact second ((fits.follow head).moveTo fits.placed.position_le)
  | ends last ih =>
    intro bound enough
    -- The bound on iterations is positive, so at least one is tried.
    obtain ⟨bound, rfl⟩ := Nat.exists_eq_add_of_le' (Nat.le_trans (Nat.le_add_left 1 _) enough)
    simp only [Run.iterate, ih fits]
  | stalls last stalled ih =>
    intro bound enough
    obtain ⟨bound, rfl⟩ := Nat.exists_eq_add_of_le' (Nat.le_trans (Nat.le_add_left 1 _) enough)
    simp only [Run.iterate, ih fits, if_pos stalled]
  | @continues body run between after nodes more count events others first moved loop one rest =>
    intro bound enough
    obtain ⟨bound, rfl⟩ := Nat.exists_eq_add_of_le' (Nat.le_trans (Nat.le_add_left 1 _) enough)
    obtain ⟨placed, covers⟩ := first.placed fits.placed
    have := (covers.le fits.placed.position_le).1
    have := placed.position_le
    -- The cursor has moved on, so one iteration less is enough for the rest.
    have fewer : between.iterationBound tokens ≤ bound := by
      unfold Run.iterationBound at enough ⊢
      omega
    simp only [Run.iterate, one fits, if_neg moved, rest (fits.follow first) bound fewer]

end Constituency
