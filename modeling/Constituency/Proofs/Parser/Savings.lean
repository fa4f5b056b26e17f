import Constituency.Accepted
import Constituency.Proofs.Parser.Budget
import Constituency.Proofs.Parser.Memory
import Constituency.Proofs.Parser.Parts

/-!
# Memory costs no steps

A parser with a memory takes at most as many steps as one without. Its course and the shadow of it
make the same attempts as long as nothing is recalled. Where an outcome is recalled, that is one
step, and the shadow, which has to find the outcome again, takes at least that one. So a budget that
is enough without a memory is enough with one, and then both parsers tell the same after every call.
-/
namespace Constituency

variable {grammar : Grammar} {tokens : List Token}

/-! ### Courses without a memory -/

/-- A course without a memory that starts in the shadow of another one is its shadow. -/
theorem Course.lands {task : Task} {run after plain plainAfter : Run} {answer other : task.Answer}
    {events others : List Event}
    (course : Course grammar tokens remembering task run answer after events)
    (trusted : run.Trusted grammar tokens) (shadows : Shadows run after plain)
    (placed : plain.Placed grammar tokens)
    (followed : Course grammar tokens forgetful task plain other plainAfter others) :
    other = answer ∧ Lands after plain plainAfter := by
  obtain ⟨last, _, shadow, lands⟩ := (course.mirrored trusted).follows plain shadows
  obtain ⟨rfl, rfl⟩ := shadow.unique followed placed
  exact ⟨rfl, lands⟩

section Attempt

variable {options : ParseOptions} {id : Nat} {run after : Run} {tree : Option Tree}
  {events : List Event}

/-- An attempt is a step, whatever comes of it. -/
theorem Course.steps_lt
    (course : Course grammar tokens options (.attempt id) run tree after events) :
    run.steps < after.steps := by
  cases course with
  | answered gate =>
    have entered := Run.enters options id run
    rw [gate] at entered
    rw [entered.steps_eq]
    exact Nat.lt_succ_self run.steps
  | failed gate production inside nothing =>
    rw [Run.keep_steps]
    exact inside.spends.steps
  | matched gate production inside =>
    rw [Run.keep_steps]
    exact inside.spends.steps

/-- An attempt that the gate lets through has its steps from the body. -/
theorem Course.exists_inside {rule : Rule Ref}
    (course : Course grammar tokens options (.attempt id) run tree after events)
    (gate : run.enter options id = .opened run.counted)
    (production : grammar.rules[id]? = some rule) :
    ∃ children inner inside,
      Course grammar tokens options (.body rule.body) (run.counted.begin id) children inner inside ∧
      after.steps = inner.steps := by
  cases course with
  | answered refused =>
    rw [gate] at refused
    contradiction
  | failed _ found inside nothing =>
    obtain rfl := Option.some.inj (production.symm.trans found)
    exact ⟨_, _, _, inside, Run.keep_steps⟩
  | matched _ found inside =>
    obtain rfl := Option.some.inj (production.symm.trans found)
    exact ⟨_, _, _, inside, Run.keep_steps⟩

end Attempt

section Parts

variable {options : ParseOptions} {run after : Run} {events : List Event}

theorem Course.exists_items {items : List (Expr Ref)} {answer : Option (List Tree)}
    (course : Course grammar tokens options (.body (.seq items)) run answer after events) :
    ∃ nodes between inside, Course grammar tokens options (.items items) run nodes between inside ∧
      between.steps ≤ after.steps := by
  cases course with
  | seq all => exact ⟨_, _, _, all, Nat.le_refl _⟩
  | brokenSeq all => exact ⟨_, _, _, all, Nat.le_refl _⟩

theorem Course.exists_alternatives {alternatives : List (Expr Ref)} {answer : Option (List Tree)}
    (course : Course grammar tokens options (.body (.longest alternatives)) run answer after
      events) :
    ∃ found between inside,
      Course grammar tokens options (.alternatives alternatives none) run found between inside ∧
      between.steps ≤ after.steps := by
  cases course with
  | longest tried => exact ⟨_, _, _, tried, Nat.le_refl _⟩
  | noLongest tried => exact ⟨_, _, _, tried, Nat.le_refl _⟩

theorem Course.exists_item {item : Expr Ref} {rest : List (Expr Ref)}
    {answer : Option (List Tree)}
    (course : Course grammar tokens options (.items (item :: rest)) run answer after events) :
    ∃ nodes between inside, Course grammar tokens options (.body item) run nodes between inside ∧
      between.steps ≤ after.steps := by
  cases course with
  | brokenItems head => exact ⟨_, _, _, head, Nat.le_refl _⟩
  | items head tail => exact ⟨_, _, _, head, tail.spends.steps⟩

theorem Course.exists_iteration {body : Expr Ref} {answer : List Tree × Nat}
    (course : Course grammar tokens options (.repetition body) run answer after events) :
    ∃ nodes between inside, Course grammar tokens options (.body body) run nodes between inside ∧
      between.steps ≤ after.steps := by
  cases course with
  | ends last => exact ⟨_, _, _, last, Nat.le_refl _⟩
  | stalls last stalled => exact ⟨_, _, _, last, Nat.le_refl _⟩
  | continues first moved loop => exact ⟨_, _, _, first, loop.spends.steps⟩

end Parts

/-! ### Steps that are saved -/

/-- Whether no shadow of a task takes fewer steps than are taken from one state to the other. -/
def Task.Spares (grammar : Grammar) (tokens : List Token) (task : Task) (run after : Run) : Prop :=
  ∀ (plain plainAfter : Run) (other : task.Answer) (events : List Event),
    Shadows run after plain → plain.Placed grammar tokens →
    Course grammar tokens forgetful task plain other plainAfter events →
    after.steps + plain.steps ≤ plainAfter.steps + run.steps

/-- What takes no steps spares them. -/
theorem Task.Spares.of_steps_eq {task : Task} {run after : Run} (same : after.steps = run.steps) :
    task.Spares grammar tokens run after := by
  intro plain plainAfter other events _ _ followed
  have := followed.spends.steps
  omega

/-- A task that ends where a part of it ends spares steps if the part does. -/
theorem Task.Spares.of_part {part whole : Task} {run after inner : Run}
    (spared : part.Spares grammar tokens run inner) (steps : after.steps = inner.steps)
    (follow : ∀ {plain : Run}, Shadows run after plain → Shadows run inner plain)
    (first : ∀ {plain plainAfter : Run} {other : whole.Answer} {events : List Event},
      Course grammar tokens forgetful whole plain other plainAfter events →
      ∃ answer between inside, Course grammar tokens forgetful part plain answer between inside ∧
        between.steps ≤ plainAfter.steps) :
    whole.Spares grammar tokens run after := by
  intro plain plainAfter other events shadows placed followed
  obtain ⟨_, _, _, inside, fewer⟩ := first followed
  have := spared _ _ _ _ (follow shadows) placed inside
  omega

/-- An attempt that the gate lets through spares steps if its body does. -/
theorem Task.Spares.attempt {id : Nat} {rule : Rule Ref} {run inner ended : Run}
    {outcome : Outcome} {children : Option (List Tree)} {events : List Event}
    (inside : Course grammar tokens remembering (.body rule.body) (run.counted.begin id) children
      inner events)
    (spared : Task.Spares grammar tokens (.body rule.body) (run.counted.begin id) inner)
    (gate : run.enter remembering id = .opened run.counted)
    (production : grammar.rules[id]? = some rule) (trusted : run.Trusted grammar tokens)
    (live : ended.aborted = inner.aborted) (hits : ended.guardHits = inner.guardHits)
    (known : ended.known = inner.known) (steps : ended.steps = inner.steps) :
    Task.Spares grammar tokens (.attempt id) run
      (ended.keep remembering (id, run.position) run.guardHits outcome) := by
  intro plain plainAfter other plainEvents shadows placed followed
  obtain ⟨-, -, free, unknown⟩ := Run.opened_of_enter gate
  have innerTrusted := (inside.mirrored (trusted.begin (unknown rfl))).trusted
  -- The shadow enters the body, too, and what it does there costs no less.
  obtain ⟨plainFree, entered⟩ := shadows.begin free inside.grows innerTrusted
    (live.trans innerTrusted.live) hits known
  have opened := Run.enter_forgetful_opened shadows.live plainFree
  obtain ⟨_, plainInner, _, plainInside, plainSteps⟩ := followed.exists_inside opened production
  have within := spared _ _ _ _ entered (placed.counted.begin production plainFree) plainInside
  have counted : (run.counted.begin id).steps = run.steps + 1 := rfl
  have plainCounted : (plain.counted.begin id).steps = plain.steps + 1 := rfl
  rw [Run.keep_steps, steps, plainSteps]
  omega

/-- Along a course with a memory, no more steps are taken than along its shadow. -/
theorem Course.spares {task : Task} {run after : Run} {answer : task.Answer} {events : List Event}
    (course : Course grammar tokens remembering task run answer after events)
    (trusted : run.Trusted grammar tokens) : task.Spares grammar tokens run after := by
  induction course with
  | @answered id run after tree gate =>
    intro plain plainAfter other plainEvents _ _ followed
    -- What the gate answers has taken one step, and so does every attempt.
    have one : after.steps = run.steps + 1 := (gate ▸ Run.enters remembering id run).steps_eq
    have := followed.steps_lt
    omega
  | failed gate production inside nothing ih =>
    obtain ⟨-, -, -, unknown⟩ := Run.opened_of_enter gate
    exact .attempt inside (ih (trusted.begin (unknown rfl))) gate production trusted rfl rfl rfl rfl
  | matched gate production inside ih =>
    obtain ⟨-, -, -, unknown⟩ := Run.opened_of_enter gate
    exact .attempt inside (ih (trusted.begin (unknown rfl))) gate production trusted rfl rfl rfl rfl
  | token there => exact .of_steps_eq rfl
  | noToken missing => exact .of_steps_eq rfl
  | ref call ih =>
    refine (ih trusted).of_part rfl id fun followed => ?_
    cases followed with
    | ref plainCall => exact ⟨_, _, _, plainCall, Nat.le_refl _⟩
  | seq all ih => exact (ih trusted).of_part rfl id Course.exists_items
  | brokenSeq all ih => exact (ih trusted).of_part rfl Shadows.of_moveTo Course.exists_items
  | opt once ih =>
    refine (ih trusted).of_part rfl id fun followed => ?_
    cases followed with
    | opt plainOnce => exact ⟨_, _, _, plainOnce, Nat.le_refl _⟩
  | star loop ih =>
    refine (ih trusted).of_part rfl id fun followed => ?_
    cases followed with
    | star plainLoop => exact ⟨_, _, _, plainLoop, Nat.le_refl _⟩
  | plus loop ih =>
    refine (ih trusted).of_part rfl id fun followed => ?_
    cases followed with
    | plus plainLoop => exact ⟨_, _, _, plainLoop, Nat.le_refl _⟩
  | longest tried ih =>
    exact (ih trusted).of_part rfl Shadows.of_moveTo Course.exists_alternatives
  | noLongest tried ih => exact (ih trusted).of_part rfl id Course.exists_alternatives
  | noItems => exact .of_steps_eq rfl
  | brokenItems head ih => exact (ih trusted).of_part rfl id Course.exists_item
  | items head tail first second =>
    intro plain plainAfter other plainEvents shadows placed followed
    have early := shadows.first head.grows tail.grows
    have betweenTrusted := (head.mirrored trusted).trusted
    cases followed with
    | brokenItems plainHead =>
      -- The shadow has matched the first item, too.
      obtain ⟨different, -⟩ := head.lands trusted early placed plainHead
      contradiction
    | items plainHead plainTail =>
      obtain ⟨-, lands⟩ := head.lands trusted early placed plainHead
      have late := shadows.second head.grows tail.grows lands plainHead.grows
      have front := first trusted _ _ _ _ early placed plainHead
      have back := second betweenTrusted _ _ _ _ late (plainHead.placed placed).1 plainTail
      omega
  | noAlternatives => exact .of_steps_eq rfl
  | @alternatives alternative rest run between after best found nodes events others head tail first
      second =>
    intro plain plainAfter other plainEvents shadows placed followed
    have grown := head.grows.moveTo run.position
    have early := (shadows.first grown tail.grows).of_moveTo
    have betweenTrusted := (head.mirrored trusted).trusted.moveTo run.position
    cases followed with
    | alternatives plainHead plainTail =>
      -- The others are tried where this one was, with the same best match so far.
      obtain ⟨rfl, lands⟩ := head.lands trusted early placed plainHead
      rw [lands.position, shadows.position] at plainTail
      have late := shadows.second grown tail.grows (lands.moveTo _) (plainHead.grows.moveTo _)
      have latePlaced := (plainHead.placed placed).1.moveTo (shadows.position ▸ placed.position_le)
      have front := first trusted _ _ _ _ early placed plainHead
      have back := second betweenTrusted _ _ _ _ late latePlaced plainTail
      simp only [Run.moveTo] at back
      omega
  | ends last ih => exact (ih trusted).of_part rfl id Course.exists_iteration
  | stalls last stalled ih => exact (ih trusted).of_part rfl id Course.exists_iteration
  | continues first moved loop one more =>
    intro plain plainAfter other plainEvents shadows placed followed
    have early := shadows.first first.grows loop.grows
    have betweenTrusted := (first.mirrored trusted).trusted
    cases followed with
    | ends plainLast =>
      obtain ⟨different, -⟩ := first.lands trusted early placed plainLast
      contradiction
    | stalls plainLast plainStalled =>
      -- The shadow has moved on as far as the course has.
      obtain ⟨-, lands⟩ := first.lands trusted early placed plainLast
      have stalled := lands.position.symm.trans (plainStalled.trans shadows.position)
      exact absurd stalled moved
    | continues plainFirst plainMoved plainLoop =>
      obtain ⟨-, lands⟩ := first.lands trusted early placed plainFirst
      have late := shadows.second first.grows loop.grows lands plainFirst.grows
      have front := one trusted _ _ _ _ early placed plainFirst
      have back := more betweenTrusted _ _ _ _ late (plainFirst.placed placed).1 plainLoop
      omega

/-! ### Calls -/

section Calls

variable {run after plain plainAfter : Run} {call : Call} {tree other : Option Tree}
  {events others : List Event}

theorem Twins.steps_le (twins : Twins grammar tokens run plain)
    (replies : Parser.Replies ⟨grammar, tokens, remembering, run⟩ call tree after events)
    (plainReplies : Parser.Replies ⟨grammar, tokens, forgetful, plain⟩ call other plainAfter others)
    (fewer : run.steps ≤ plain.steps) : after.steps ≤ plainAfter.steps := by
  cases replies with
  | unknown missing => exact Nat.le_trans fewer plainReplies.spends.steps
  | attempted target course =>
    cases plainReplies with
    | unknown missing =>
      rw [target] at missing
      contradiction
    | attempted plainTarget plainCourse =>
      obtain rfl := Option.some.inj (target.symm.trans plainTarget)
      have idle : plain.active = run.active := twins.plainRest.idle.trans twins.rest.idle.symm
      have shadows : Shadows run after plain :=
        ⟨twins.live, twins.position, Nat.le_of_eq twins.furthest.symm, .inl idle⟩
      have saved : after.steps + plain.steps ≤ plainAfter.steps + run.steps :=
        course.spares twins.trusted _ _ _ _ shadows twins.plainRest.placed plainCourse
      omega

namespace Parser

open ParseOptions

/-- Parsers with and without a memory stay alike over any calls, and the first takes fewer steps. -/
theorem exists_callAll_twins (twins : Twins grammar tokens run plain)
    (fewer : run.steps ≤ plain.steps) (calls : List Call) :
    ∃ after plainAfter,
      callAll ⟨grammar, tokens, remembering, run⟩ calls = ⟨grammar, tokens, remembering, after⟩ ∧
      callAll ⟨grammar, tokens, forgetful, plain⟩ calls =
        ⟨grammar, tokens, forgetful, plainAfter⟩ ∧
      after.steps ≤ plainAfter.steps := by
  induction calls generalizing run plain with
  | nil => exact ⟨run, plain, rfl, rfl, fewer⟩
  | cons call others ih =>
    obtain ⟨tree, between, events, replies⟩ := exists_replies remembering call twins.rest
    obtain ⟨plainBetween, plainEvents, plainReplies, alike⟩ := twins.reply replies
    obtain ⟨after, plainAfter, equal, plainEqual, last⟩ :=
      ih alike (twins.steps_le replies plainReplies fewer)
    exact ⟨after, plainAfter, (replies.callAll_cons twins.rest others).trans equal,
      (plainReplies.callAll_cons twins.plainRest others).trans plainEqual, last⟩

/-- As long as a parser is not given up, it tells what the parser without a budget tells. -/
theorem reports_of_paces {memoize : Bool} {limit : Nat} {full cut : Run}
    (paces : Paces grammar tokens memoize limit full cut) (calls : List Call)
    (live : (callAll ⟨grammar, tokens, limited memoize limit, cut⟩ calls).run.aborted = false) :
    reports ⟨grammar, tokens, limited memoize limit, cut⟩ calls =
      reports ⟨grammar, tokens, unlimited memoize, full⟩ calls := by
  induction calls generalizing full cut with
  | nil => rfl
  | cons call others ih =>
    obtain ⟨tree, fullAfter, events, replies⟩ :=
      exists_replies (unlimited memoize) call paces.fullRest
    obtain ⟨cutTree, cutAfter, cutEvents, cutReplies⟩ :=
      exists_replies (limited memoize limit) call paces.cutRest
    obtain ⟨after, answer⟩ := paces.reply replies cutReplies
    rw [cutReplies.callAll_cons paces.cutRest others] at live
    -- If this call were given up, the parser would be given up behind the others, too.
    have cutLive : cutAfter.aborted = false := by
      by_contra gone
      obtain ⟨last, equal, -, -, still⟩ := exists_callAll_refused (limited memoize limit)
        after.cutRest (Bool.not_eq_false _ ▸ gone) others
      rw [equal] at live
      exact Bool.false_ne_true (live.symm.trans still)
    have later := ih after live
    obtain rfl := answer cutLive
    obtain rfl := after.eq_of_live cutLive
    simp only [reports, Parser.error, replies.call_eq paces.fullRest,
      cutReplies.call_eq paces.cutRest, later]

/--
A memory never costs steps. Over any calls, a parser with a memory takes at most as many steps as
one without. So where a budget is not used up without a memory, it is not used up with one either,
and both parsers tell the same after every call: the tree, the position, the furthest position and
the error.
-/
theorem steps_memoize_le (grammar : Grammar) (tokens : List Token) (calls : List Call) :
    let after (options : ParseOptions) := callAll { grammar, tokens, options } calls
    (after { memoize := true, maxSteps := none }).run.steps ≤
      (after { memoize := false, maxSteps := none }).run.steps ∧
    ∀ limit, (after { memoize := false, maxSteps := some limit }).run.aborted = false →
      (after { memoize := true, maxSteps := some limit }).run.aborted = false ∧
      reports { grammar, tokens, options := { memoize := true, maxSteps := some limit } } calls =
        reports { grammar, tokens, options := { memoize := false, maxSteps := some limit } }
          calls := by
  obtain ⟨run, plain, equal, plainEqual, fewer⟩ :=
    exists_callAll_twins (twins_fresh : Twins grammar tokens {} {}) (Nat.le_refl _) calls
  simp only [remembering, forgetful] at equal plainEqual
  dsimp only
  refine ⟨by rw [equal, plainEqual]; exact fewer, fun limit live => ?_⟩
  have fresh (memoize : Bool) : Paces grammar tokens memoize limit {} {} := .fresh
  obtain ⟨plainFull, plainCut, plainFullEqual, plainCutEqual, plainPaces⟩ :=
    exists_callAll_paces (fresh false) calls
  obtain ⟨full, cut, fullEqual, cutEqual, paces⟩ :=
    exists_callAll_paces (fresh true) calls
  simp only [unlimited, limited] at plainFullEqual plainCutEqual fullEqual cutEqual
  obtain rfl : plainFull = plain := congrArg Parser.run (plainFullEqual.symm.trans plainEqual)
  obtain rfl : full = run := congrArg Parser.run (fullEqual.symm.trans equal)
  -- The budget is enough for the steps without a memory, so it is for those with one.
  have within : plainFull.steps ≤ limit := by
    by_contra beyond
    have gone := plainPaces.aborted_iff.mpr (Nat.lt_of_not_le beyond)
    rw [plainCutEqual] at live
    exact Bool.false_ne_true (live.symm.trans gone)
  have cutLive : cut.aborted = false := by
    by_contra gone
    have beyond := paces.aborted_iff.mp (Bool.not_eq_false _ ▸ gone)
    omega
  rw [cutEqual]
  refine ⟨cutLive, ?_⟩
  calc reports ⟨grammar, tokens, limited true limit, {}⟩ calls
      = reports ⟨grammar, tokens, unlimited true, {}⟩ calls :=
        reports_of_paces (fresh true) calls (by simp only [limited]; rw [cutEqual]; exact cutLive)
    _ = reports ⟨grammar, tokens, unlimited false, {}⟩ calls := reports_of_twins twins_fresh calls
    _ = reports ⟨grammar, tokens, limited false limit, {}⟩ calls :=
        (reports_of_paces (fresh false) calls live).symm

end Parser

/-- Phrases that begin with a noun in each of three readings. -/
def nounPhrases : Grammar :=
  Grammar.of [
    ⟨"Phrase", .longest [.seq [.ref "Noun", .ref "Marker"], .seq [.ref "Noun", .ref "Verb"],
      .ref "Noun"]⟩,
    ⟨"Noun", .ref "Word"⟩,
    ⟨"Word", .terminal (Pattern.of "NNG|NNP")⟩,
    ⟨"Marker", .terminal (Pattern.of "JK.*|JX")⟩,
    ⟨"Verb", .terminal (Pattern.of "VV|VA")⟩]

/-- A lone noun is read three times without a memory, which nine steps are just enough for. -/
theorem Parser.steps_memoize_le_nounPhrase :
    let parser (options : ParseOptions) : Parser :=
      { grammar := nounPhrases, tokens := [⟨"밥", "NNG"⟩], options }
    ((parser { memoize := false, maxSteps := none }).callAll [.start]).run.steps = 9 ∧
    ((parser { memoize := true, maxSteps := none }).callAll [.start]).run.steps = 7 ∧
    ((parser { memoize := false, maxSteps := some 9 }).callAll [.start]).run.aborted = false ∧
    ((parser { memoize := true, maxSteps := some 9 }).callAll [.start]).run.aborted = false ∧
    (parser { memoize := true, maxSteps := some 9 }).reports [.start] =
      (parser { memoize := false, maxSteps := some 9 }).reports [.start] := by
  dsimp only
  have saved := steps_memoize_le nounPhrases [⟨"밥", "NNG"⟩] [.start]
  dsimp only at saved
  have enough : (Parser.callAll
      { grammar := nounPhrases, tokens := [⟨"밥", "NNG"⟩],
        options := { memoize := false, maxSteps := some 9 } } [.start]).run.aborted = false := by
    decide +kernel
  exact ⟨by decide +kernel, by decide +kernel, enough, saved.2 9 enough⟩

end Calls

end Constituency
