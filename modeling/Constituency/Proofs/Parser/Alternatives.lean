import Constituency.Accepted
import Constituency.Grammar.Equality
import Constituency.Proofs.Parser.Parts
import Constituency.Proofs.Parser.Shift

/-!
# The longest alternative

Of several alternatives the longest match is taken, and the first one of these. The alternatives are
tried one after the other, each with the memory and the counters that those before it have left
behind; but the outcome of a body depends only on where the cursor stands and on what is under way,
and both are the same for all of them. So the choice can be read off the outcomes that the
alternatives have alone. This holds in every state that a parser passes, in the middle of a call
after any other calls.
-/
namespace Constituency

variable {grammar : Grammar} {tokens : List Token} {memoize : Bool}

open ParseOptions

/-! ### The states that a parser passes -/

/-- The states that a parser passes: a task begins there, or it is over. -/
inductive Parser.Passes (grammar : Grammar) (tokens : List Token) (options : ParseOptions) :
    Run → Prop where
  | begins {calls : List Call} {call : Call} {id : Nat} {task : Task} {run : Run}
      (target : call.target? grammar = some id)
      (meets : Meets grammar tokens options
        (.attempt id, (callAll { grammar, tokens, options } calls).run) (task, run)) :
      Passes grammar tokens options run
  | ends {calls : List Call} {call : Call} {id : Nat} {task : Task} {run after : Run}
      {answer : task.Answer} {events : List Event}
      (target : call.target? grammar = some id)
      (meets : Meets grammar tokens options
        (.attempt id, (callAll { grammar, tokens, options } calls).run) (task, run))
      (course : Course grammar tokens options task run answer after events) :
      Passes grammar tokens options after

/-- What holds of every state that a parser without a budget passes. -/
structure Run.Sound (grammar : Grammar) (tokens : List Token) (memoize : Bool) (run : Run) :
    Prop where
  placed : run.Placed grammar tokens
  live : run.aborted = false
  trusted : memoize = true → run.Trusted grammar tokens

namespace Run.Sound

variable {run : Run}

theorem moveTo (sound : run.Sound grammar tokens memoize) {position : Nat}
    (inside : position ≤ tokens.length) : (run.moveTo position).Sound grammar tokens memoize :=
  ⟨sound.placed.moveTo inside, sound.live, fun remembers => (sound.trusted remembers).moveTo _⟩

theorem begin {id : Nat} {rule : Rule Ref} (sound : run.Sound grammar tokens memoize)
    (gate : run.enter (unlimited memoize) id = .opened run.counted)
    (production : grammar.rules[id]? = some rule) :
    (run.counted.begin id).Sound grammar tokens memoize := by
  obtain ⟨-, -, free, unknown⟩ := Run.opened_of_enter gate
  exact ⟨sound.placed.counted.begin production free, sound.live,
    fun remembers => (sound.trusted remembers).begin (unknown remembers)⟩

end Run.Sound

theorem Course.sound {task : Task} {run after : Run} {answer : task.Answer} {events : List Event}
    (course : Course grammar tokens (unlimited memoize) task run answer after events)
    (sound : run.Sound grammar tokens memoize) : after.Sound grammar tokens memoize where
  placed := (course.placed sound.placed).1
  live := course.spends.accounted sound.live
  trusted := by
    rintro rfl
    exact (course.mirrored (sound.trusted rfl)).trusted

theorem Leads.sound {task part : Task} {run start : Run}
    (leads : Leads grammar tokens (unlimited memoize) task run part start)
    (sound : run.Sound grammar tokens memoize) : start.Sound grammar tokens memoize := by
  cases leads with
  | inside gate production => exact sound.begin gate production
  | moreItems head => exact head.sound sound
  | moreAlternatives head => exact (head.sound sound).moveTo sound.placed.position_le
  | moreIterations first moved => exact first.sound sound
  | _ => exact sound

theorem Meets.sound {whole part : Task × Run}
    (meets : Meets grammar tokens (unlimited memoize) whole part)
    (sound : whole.2.Sound grammar tokens memoize) : part.2.Sound grammar tokens memoize := by
  induction meets with
  | refl => exact sound
  | tail earlier leads ih => exact leads.sound ih

theorem Parser.sound_callAll (grammar : Grammar) (tokens : List Token) (memoize : Bool)
    (calls : List Call) :
    (callAll { grammar, tokens, options := unlimited memoize } calls).run.Sound grammar tokens
      memoize := by
  have fresh : ({} : Run).Sound grammar tokens memoize :=
    ⟨Run.atRest_fresh.placed, rfl, fun _ => twins_fresh.trusted⟩
  obtain ⟨run, equal, -, sound⟩ := exists_callAll_eq (unlimited memoize)
    (P := fun run => run.Sound grammar tokens memoize)
    (fun run call tree after events _ sound replies => by
      cases replies with
      | attempted target course => exact course.sound sound
      | unknown missing => exact sound)
    calls Run.atRest_fresh fresh
  rw [equal]
  exact sound

theorem Parser.Passes.sound {run : Run}
    (passes : Passes grammar tokens (unlimited memoize) run) :
    run.Sound grammar tokens memoize := by
  cases passes with
  | begins target meets => exact meets.sound (sound_callAll grammar tokens memoize _)
  | ends target meets course =>
    exact course.sound (meets.sound (sound_callAll grammar tokens memoize _))

/-! ### What an outcome depends on -/

namespace Tree

mutual

theorem shift_zero (tree : Tree) : tree.shift 0 = tree := by
  cases tree with
  | leaf token span => simp [shift, Span.shift]
  | branch label span children => simp [shift, Span.shift, shiftAll_zero children]

theorem shiftAll_zero (nodes : List Tree) : shiftAll 0 nodes = nodes := by
  cases nodes with
  | nil => rfl
  | cons node rest => simp [shiftAll, shift_zero node, shiftAll_zero rest]

end

end Tree

theorem shiftAttempt_zero (attempt : Attempt) : shiftAttempt 0 attempt = attempt := by
  simp [shiftAttempt]

/-- A course can be followed without a memory from every state that looks the same to the guard. -/
theorem Course.forget {body : Expr Ref} {run after : Run} {nodes : Option (List Tree)}
    {events : List Event}
    (course : Course grammar tokens (unlimited memoize) (.body body) run nodes after events)
    (sound : run.Sound grammar tokens memoize) (plain : Run) (live : plain.aborted = false)
    (position : plain.position = run.position) (active : plain.active = run.active)
    (furthest : run.furthest ≤ plain.furthest) :
    ∃ plainAfter plainEvents,
      Course grammar tokens forgetful (.body body) plain nodes plainAfter plainEvents ∧
      plainAfter.position = after.position := by
  cases memoize with
  | true =>
    obtain ⟨plainAfter, plainEvents, followed, lands⟩ :=
      (course.mirrored (sound.trusted rfl)).follows plain ⟨live, position, furthest, .inl active⟩
    exact ⟨plainAfter, plainEvents, followed, lands.position⟩
  | false =>
    -- Both are without a memory, so this is a shift by nothing.
    have shifted : Shifted 0 plain.furthest run plain := by
      refine ⟨sound.live, live, by omega, ?_, by omega⟩
      simp [active, funext shiftAttempt_zero]
    have whole : Course grammar (tokens.drop 0) forgetful (.body body) run nodes after events :=
      course
    obtain ⟨plainAfter, plainEvents, followed, ended⟩ := whole.shifted shifted
    refine ⟨plainAfter, plainEvents, ?_, by simpa using ended.position⟩
    simpa [Task.shift, Task.shiftAnswer, funext Tree.shiftAll_zero] using followed

/-- A state that stands where another one does, with the same attempts under way. -/
structure Run.StandsAt (grammar : Grammar) (tokens : List Token) (memoize : Bool)
    (origin run : Run) : Prop where
  sound : run.Sound grammar tokens memoize
  position : run.position = origin.position
  active : run.active = origin.active

/-- What comes of a body depends on the cursor and on what is under way, and on nothing else. -/
theorem Course.agrees {body : Expr Ref} {origin run after originAfter : Run}
    {nodes originNodes : Option (List Tree)} {events originEvents : List Event}
    (course : Course grammar tokens (unlimited memoize) (.body body) run nodes after events)
    (alone : Course grammar tokens (unlimited memoize) (.body body) origin originNodes originAfter
      originEvents)
    (sound : origin.Sound grammar tokens memoize)
    (stands : origin.StandsAt grammar tokens memoize run) :
    nodes = originNodes ∧ after.position = originAfter.position := by
  -- Both courses are followed from one state, which has come as far as either and knows nothing.
  let plain : Run :=
    { origin with furthest := max run.furthest origin.furthest, known := ∅ }
  have placed : plain.Placed grammar tokens :=
    { sound.placed with
      furthest_le := Nat.max_le.mpr ⟨stands.sound.placed.furthest_le, sound.placed.furthest_le⟩
      known_covers := by simp [plain] }
  obtain ⟨plainAfter, plainEvents, followed, position⟩ :=
    course.forget stands.sound plain sound.live stands.position.symm stands.active.symm
      (Nat.le_max_left ..)
  obtain ⟨last, lastEvents, alike, lastPosition⟩ :=
    alone.forget sound plain sound.live rfl rfl (Nat.le_max_right ..)
  obtain ⟨rfl, rfl⟩ := followed.unique alike placed
  exact ⟨rfl, position.symm.trans lastPosition⟩

/-! ### Evaluating a body in the middle of a run -/

namespace Parser

/-- Attempts a production; there is room for those attempts that are not under way yet. -/
def attempt (parser : Parser) : Nat → Run → Option Tree × Run :=
  Constituency.attempt parser.grammar parser.tokens parser.options
    (attemptRoom parser.grammar parser.tokens - parser.run.active.length)

def evaluate (parser : Parser) (body : Expr Ref) : Option (List Tree) × Run :=
  body.evaluate parser.tokens parser.attempt parser.run

/-- What a body gives, and where the cursor is behind it. -/
def outcome (parser : Parser) (body : Expr Ref) : Option (List Tree) × Nat :=
  ((parser.evaluate body).1, (parser.evaluate body).2.position)

/-- The parser behind some alternatives, with the cursor back at the start after each of them. -/
def tryAll (parser : Parser) (alternatives : List (Expr Ref)) : Parser :=
  { parser with
    run := (Expr.evaluateAlternatives parser.tokens parser.attempt alternatives
      parser.run.position none parser.run).2 }

/-- Inside an attempt that the gate lets through, this is how the parser evaluates the body. -/
theorem attempt_eq_settle {id : Nat} {rule : Rule Ref} {parser : Parser}
    (placed : parser.run.Placed parser.grammar parser.tokens)
    (gate : parser.run.enter parser.options id = .opened parser.run.counted)
    (production : parser.grammar.rules[id]? = some rule) :
    parser.attempt id parser.run =
      match evaluate { parser with run := parser.run.counted.begin id } rule.body with
      | (children, after) =>
        parser.run.counted.settle parser.options id rule.name children after := by
  obtain ⟨-, -, free, -⟩ := Run.opened_of_enter gate
  have bound : parser.run.active.length + 1 ≤ attemptRoom parser.grammar parser.tokens :=
    (placed.counted.begin production free).length_active_le
  -- The attempt takes one place of the room, and the body is evaluated with the rest.
  have room : attemptRoom parser.grammar parser.tokens - parser.run.active.length =
      attemptRoom parser.grammar parser.tokens - (parser.run.active.length + 1) + 1 := by omega
  rw [attempt, room, Constituency.attempt, gate, production]
  rfl

variable {origin run : Run}

/-- A body can be evaluated, and comes out as where the state stands. -/
theorem exists_evaluate_eq {body : Expr Ref} (resolved : body.Resolved grammar.rules)
    (sound : origin.Sound grammar tokens memoize)
    (stands : origin.StandsAt grammar tokens memoize run) :
    ∃ nodes after,
      body.evaluate tokens (attempt ⟨grammar, tokens, unlimited memoize, origin⟩) run =
        (nodes, after) ∧
      outcome ⟨grammar, tokens, unlimited memoize, origin⟩ body = (nodes, after.position) ∧
      origin.StandsAt grammar tokens memoize (after.moveTo origin.position) := by
  -- The same attempts are under way in both states, so the room of one is enough for the other.
  have fits : origin.Fits grammar tokens
      (attemptRoom grammar tokens - origin.active.length) :=
    ⟨sound.placed, by omega⟩
  have standsFits : run.Fits grammar tokens
      (attemptRoom grammar tokens - origin.active.length) :=
    ⟨stands.sound.placed, by rw [stands.active]; omega⟩
  obtain ⟨nodes, after, events, course⟩ :=
    ends_body_of_fits (unlimited memoize) resolved standsFits
  obtain ⟨originNodes, originAfter, originEvents, alone⟩ :=
    ends_body_of_fits (unlimited memoize) resolved fits
  obtain ⟨rfl, position⟩ := course.agrees alone sound stands
  have evaluated : evaluate ⟨grammar, tokens, unlimited memoize, origin⟩ body =
      (nodes, originAfter) := alone.performs fits
  refine ⟨nodes, after, course.performs standsFits, ?_, ?_⟩
  · simp only [outcome, evaluated, position]
  · exact ⟨(course.sound stands.sound).moveTo sound.placed.position_le, rfl,
      course.grows.active.trans stands.active⟩

/-- The longest of the outcomes is found, whatever the alternatives leave behind on the way. -/
theorem exists_evaluateAlternatives_eq {alternatives : List (Expr Ref)}
    (resolved : ∀ alternative ∈ alternatives, alternative.Resolved grammar.rules)
    (sound : origin.Sound grammar tokens memoize)
    (stands : origin.StandsAt grammar tokens memoize run) (best : Option (List Tree × Nat)) :
    ∃ after,
      Expr.evaluateAlternatives tokens (attempt ⟨grammar, tokens, unlimited memoize, origin⟩)
          alternatives origin.position best run =
        ((alternatives.map (outcome ⟨grammar, tokens, unlimited memoize, origin⟩)).foldl
          (fun best outcome => longer best outcome.1 outcome.2) best, after) ∧
      origin.StandsAt grammar tokens memoize after := by
  induction alternatives generalizing run best with
  | nil => exact ⟨run, rfl, stands⟩
  | cons alternative rest ih =>
    obtain ⟨headResolved, restResolved⟩ := List.forall_mem_cons.mp resolved
    -- The first one is judged against `origin`, and so are the others behind it.
    obtain ⟨nodes, between, evaluated, alone, back⟩ := exists_evaluate_eq headResolved sound stands
    obtain ⟨after, tried, last⟩ := ih restResolved back (longer best nodes between.position)
    refine ⟨after, ?_, last⟩
    rw [Expr.evaluateAlternatives, evaluated]
    dsimp only
    rw [tried, List.map_cons, List.foldl_cons, alone]

end Parser

/-! ### The first longest outcome -/

/-- A match is the longest of some outcomes, and the first one of that length. -/
def IsFirstLongest (outcomes : List (Option (List Tree) × Nat)) (nodes : List Tree) (stop : Nat) :
    Prop :=
  ∃ front back, outcomes = front ++ (some nodes, stop) :: back ∧
    (∀ others last, (some others, last) ∈ front → last < stop) ∧
    ∀ others last, (some others, last) ∈ back → last ≤ stop

theorem IsFirstLongest.mem {outcomes : List (Option (List Tree) × Nat)} {nodes : List Tree}
    {stop : Nat} (longest : IsFirstLongest outcomes nodes stop) :
    (some nodes, stop) ∈ outcomes := by
  obtain ⟨front, back, rfl, -⟩ := longest
  exact List.mem_append_right front List.mem_cons_self

theorem IsFirstLongest.le {outcomes : List (Option (List Tree) × Nat)} {nodes others : List Tree}
    {stop last : Nat} (longest : IsFirstLongest outcomes nodes stop)
    (member : (some others, last) ∈ outcomes) : last ≤ stop := by
  obtain ⟨front, back, rfl, before, behind⟩ := longest
  rcases List.mem_append.mp member with early | late
  · exact Nat.le_of_lt (before others last early)
  · rcases List.mem_cons.mp late with same | late
    · exact Nat.le_of_eq (congrArg Prod.snd same)
    · exact behind others last late

/-- Whether a choice is right: no match if there is none, otherwise the first longest one. -/
def IsChoice (outcomes : List (Option (List Tree) × Nat)) : Option (List Tree × Nat) → Prop
  | none => ∀ outcome ∈ outcomes, outcome.1 = none
  | some (nodes, stop) => IsFirstLongest outcomes nodes stop

theorem IsChoice.snoc {outcomes : List (Option (List Tree) × Nat)}
    {best : Option (List Tree × Nat)} (choice : IsChoice outcomes best)
    (nodes : Option (List Tree)) (stop : Nat) :
    IsChoice (outcomes ++ [(nodes, stop)]) (longer best nodes stop) := by
  match nodes, best, choice with
  | none, none, choice =>
    intro outcome member
    rcases List.mem_append.mp member with early | new
    · exact choice outcome early
    · rw [List.mem_singleton.mp new]
  | none, some (chosen, bestStop), choice =>
    obtain ⟨front, back, rfl, before, behind⟩ := choice
    refine ⟨front, back ++ [(none, stop)], by simp, before, fun others last member => ?_⟩
    exact behind others last (by simpa using member)
  | some nodes, none, choice =>
    -- Nothing has matched before, so the new match is the longest one.
    refine ⟨outcomes, [], rfl, fun others last member => ?_, by simp⟩
    exact absurd (choice _ member) (Option.some_ne_none others)
  | some nodes, some (chosen, bestStop), choice =>
    by_cases within : stop ≤ bestStop
    · rw [longer, if_pos within]
      obtain ⟨front, back, rfl, before, behind⟩ := choice
      refine ⟨front, back ++ [(some nodes, stop)], by simp, before, fun others last member => ?_⟩
      rcases List.mem_append.mp member with early | new
      · exact behind others last early
      · obtain ⟨-, rfl⟩ := Prod.mk.inj (List.mem_singleton.mp new)
        exact within
    · rw [longer, if_neg within]
      refine ⟨outcomes, [], rfl, fun others last member => ?_, by simp⟩
      exact Nat.lt_of_le_of_lt (IsFirstLongest.le choice member) (Nat.lt_of_not_le within)

theorem IsChoice.foldl {front : List (Option (List Tree) × Nat)}
    {best : Option (List Tree × Nat)} (choice : IsChoice front best)
    (outcomes : List (Option (List Tree) × Nat)) :
    IsChoice (front ++ outcomes)
      (outcomes.foldl (fun best outcome => longer best outcome.1 outcome.2) best) := by
  induction outcomes generalizing front best with
  | nil => simpa using choice
  | cons outcome rest ih => simpa using ih (choice.snoc outcome.1 outcome.2)

/-! ### The choice -/

namespace Parser

section Sound

variable {run : Run}

theorem exists_outcome_longest {alternatives : List (Expr Ref)}
    (resolved : (Expr.longest alternatives).Resolved grammar.rules)
    (sound : run.Sound grammar tokens memoize) :
    ∃ best,
      IsChoice (alternatives.map (outcome ⟨grammar, tokens, unlimited memoize, run⟩)) best ∧
      outcome ⟨grammar, tokens, unlimited memoize, run⟩ (.longest alternatives) =
        match best with
        | none => (none, run.position)
        | some (nodes, stop) => (some nodes, stop) := by
  obtain ⟨after, tried, last⟩ :=
    exists_evaluateAlternatives_eq resolved.items sound ⟨sound, rfl, rfl⟩ none
  have nothing : IsChoice [] none := by simp [IsChoice]
  have choice :=
    nothing.foldl (alternatives.map (outcome ⟨grammar, tokens, unlimited memoize, run⟩))
  refine ⟨_, choice, ?_⟩
  conv_lhs => simp only [outcome, evaluate, Expr.evaluate, tried]
  cases List.foldl _ none _ with
  | none => simp only [last.position]
  | some best => rfl

/-- The state behind alternatives that were tried stands where they have begun. -/
theorem outcome_tryAll {tried : List (Expr Ref)} {alternative : Expr Ref}
    (triedResolved : ∀ alternative ∈ tried, alternative.Resolved grammar.rules)
    (resolved : alternative.Resolved grammar.rules) (sound : run.Sound grammar tokens memoize) :
    (tryAll ⟨grammar, tokens, unlimited memoize, run⟩ tried).outcome alternative =
      outcome ⟨grammar, tokens, unlimited memoize, run⟩ alternative := by
  obtain ⟨behind, evaluated, stands⟩ :=
    exists_evaluateAlternatives_eq triedResolved sound ⟨sound, rfl, rfl⟩ none
  obtain ⟨nodes, after, again, alone, -⟩ := exists_evaluate_eq resolved sound stands
  have room : attempt ⟨grammar, tokens, unlimited memoize, behind⟩ =
      attempt ⟨grammar, tokens, unlimited memoize, run⟩ := by
    simp only [attempt, stands.active]
  simp only [tryAll, evaluated]
  rw [alone, outcome, evaluate, room, again]

end Sound

/--
Of several alternatives the first longest one is taken, in every state that a parser passes. Each
alternative is judged by what it gives alone from that state: if all fail, nothing is matched and
the cursor stays; otherwise the result is that of the first alternative that comes as far as any.
For what an alternative gives does not change with the alternatives that are tried before it.
-/
theorem outcome_longest (grammar : Grammar) (tokens : List Token) (memoize : Bool)
    (alternatives : List (Expr Ref)) (run : Run)
    (resolved : (Expr.longest alternatives).Resolved grammar.rules)
    (passes : Passes grammar tokens { memoize, maxSteps := none } run) :
    let parser : Parser := ⟨grammar, tokens, { memoize, maxSteps := none }, run⟩
    let outcomes := alternatives.map parser.outcome
    ((∀ outcome ∈ outcomes, outcome.1 = none) →
      parser.outcome (.longest alternatives) = (none, run.position)) ∧
    ((∃ outcome ∈ outcomes, outcome.1 ≠ none) →
      ∃ nodes stop, IsFirstLongest outcomes nodes stop ∧
        parser.outcome (.longest alternatives) = (some nodes, stop)) ∧
    ∀ tried alternative others, alternatives = tried ++ alternative :: others →
      (parser.tryAll tried).outcome alternative = parser.outcome alternative := by
  have sound : run.Sound grammar tokens memoize := Passes.sound passes
  obtain ⟨best, choice, chosen⟩ := exists_outcome_longest resolved sound
  intro parser outcomes
  refine ⟨fun failed => ?_, fun ⟨outcome, member, matched⟩ => ?_, ?_⟩
  · -- A choice would be one of the outcomes.
    cases best with
    | none => exact chosen
    | some best => exact absurd (failed _ (IsFirstLongest.mem choice)) (Option.some_ne_none _)
  · cases best with
    | none => exact absurd (choice outcome member) matched
    | some best => exact ⟨best.1, best.2, choice, chosen⟩
  · rintro tried alternative others rfl
    have items := List.forall_mem_append.mp resolved.items
    exact outcome_tryAll items.1 (items.2 alternative List.mem_cons_self) sound

end Parser

/-- Phrases of a noun with or without a particle, which can be read in two ways. -/
def objectPhrases : Grammar :=
  Grammar.of [
    ⟨"Phrase", .longest [.ref "Noun", .seq [.ref "Noun", .ref "Particle"],
      .seq [.ref "Noun", .ref "ObjectMarker"]]⟩,
    ⟨"Noun", .terminal (Pattern.of "NN.?")⟩,
    ⟨"Particle", .terminal (Pattern.of "J.*")⟩,
    ⟨"ObjectMarker", .terminal (Pattern.of "JK[CO]")⟩]

/--
Behind a call of a noun, inside the call of a phrase, two of the three alternatives come equally
far, and the first one of these is taken.
-/
theorem Parser.outcome_longest_objectPhrase :
    let noun : Expr Ref := .ref ⟨"Noun", 1⟩
    let particle : Expr Ref := .seq [noun, .ref ⟨"Particle", 2⟩]
    let alternatives := [noun, particle, .seq [noun, .ref ⟨"ObjectMarker", 3⟩]]
    let fresh : Parser :=
      { grammar := objectPhrases, tokens := [⟨"아침", "NNG"⟩, ⟨"밥", "NNG"⟩, ⟨"을", "JKO"⟩],
        options := { memoize := true, maxSteps := none } }
    let parser : Parser :=
      { fresh with run := (fresh.callAll [.rule "Noun"]).run.counted.begin 0 }
    let outcomes := alternatives.map parser.outcome
    outcomes.map Prod.snd = [2, 3, 3] ∧
    parser.outcome (.longest alternatives) = parser.outcome particle ∧
    (∃ nodes stop, IsFirstLongest outcomes nodes stop ∧
      parser.outcome (.longest alternatives) = (some nodes, stop)) ∧
    (parser.tryAll [noun]).outcome particle = parser.outcome particle := by
  intro noun particle alternatives fresh parser outcomes
  have resolved : (Expr.longest alternatives).Resolved objectPhrases.rules := by
    unfold Expr.Resolved
    decide +kernel
  have gate : (fresh.callAll [.rule "Noun"]).run.enter fresh.options 0 =
      .opened (fresh.callAll [.rule "Noun"]).run.counted :=
    Run.enter_opened (by decide +kernel) (by decide +kernel) (by decide +kernel)
      (by decide +kernel)
  have production :
      objectPhrases.rules[0]? = some ⟨"Phrase", .longest alternatives⟩ := by decide +kernel
  have meets : Meets fresh.grammar fresh.tokens fresh.options
      (.attempt 0, (fresh.callAll [.rule "Noun"]).run)
      (.body (.longest alternatives), parser.run) := .single (.inside gate production)
  have target : Call.start.target? objectPhrases = some 0 := by decide +kernel
  have passes : Passes fresh.grammar fresh.tokens fresh.options parser.run :=
    .begins target meets
  have chosen :=
    outcome_longest fresh.grammar fresh.tokens true alternatives parser.run resolved passes
  have matched : ∃ outcome ∈ outcomes, outcome.1 ≠ none :=
    ⟨parser.outcome noun, List.mem_cons_self, by decide +kernel⟩
  exact ⟨by decide +kernel, by decide +kernel, chosen.2.1 matched, chosen.2.2 [noun] _ _ rfl⟩

end Constituency
