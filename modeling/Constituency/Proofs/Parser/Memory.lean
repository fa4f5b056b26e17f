import Constituency.Proofs.Parser.Calls

/-!
# Memory changes nothing

A parser with a memory and one without answer alike. An outcome is kept only if the guard was
silent while it was found, so every attempt behind it has an outcome that is kept, too. Such an
outcome can be found again from any state in which none of the known attempts is under way, and a
known attempt is never under way: the gate answers it. So where the parser with a memory recalls
an outcome, the parser without one finds it again, and the guard stays silent there.

The run without a memory is the shadow of the other one. Both stand at the same position, and the
guard treats both alike, for one of two reasons: the same attempts are under way, or the guard
stays silent and what is under way in the shadow will not become known.
-/
namespace Constituency

/-- To keep outcomes, with any number of steps. -/
def remembering : ParseOptions := { memoize := true, maxSteps := none }

/-- To keep nothing, with any number of steps. -/
def forgetful : ParseOptions := { memoize := false, maxSteps := none }

variable {grammar : Grammar} {tokens : List Token}

/-! ### Shadows -/

/-- A state from which the course from `run` to `after` can be followed without a memory. -/
structure Shadows (run after plain : Run) : Prop where
  live : plain.aborted = false
  position : plain.position = run.position
  furthest : run.furthest ≤ plain.furthest
  guard : plain.active = run.active ∨
    after.guardHits = run.guardHits ∧ ∀ attempt ∈ plain.active, attempt ∉ after.known

/-- Where the shadow of a course to `after` ends that has begun in `plain`. -/
structure Lands (after plain plainAfter : Run) : Prop where
  live : plainAfter.aborted = false
  position : plainAfter.position = after.position
  furthest : plainAfter.furthest = max plain.furthest after.furthest

/-- Whether a task is answered alike without a memory. -/
def Task.Shadowed (grammar : Grammar) (tokens : List Token) (task : Task) (answer : task.Answer)
    (after plain : Run) : Prop :=
  ∃ plainAfter events, Course grammar tokens forgetful task plain answer plainAfter events ∧
    Lands after plain plainAfter

namespace Lands

variable {between after plain plainBetween plainAfter : Run}

theorem moveTo (lands : Lands after plain plainAfter) (position : Nat) :
    Lands (after.moveTo position) plain (plainAfter.moveTo position) :=
  ⟨lands.live, rfl, lands.furthest⟩

theorem trans (first : Lands between plain plainBetween)
    (second : Lands after plainBetween plainAfter) (grown : between.Grows after) :
    Lands after plain plainAfter where
  live := second.live
  position := second.position
  furthest := by
    have := grown.furthest
    have := first.furthest
    have := second.furthest
    omega

end Lands

namespace Shadows

variable {run between after plain plainBetween : Run}

theorem stays (shadows : Shadows run run plain) : Lands run plain plain :=
  ⟨shadows.live, shadows.position, (Nat.max_eq_left shadows.furthest).symm⟩

theorem of_moveTo {position : Nat} (shadows : Shadows run (after.moveTo position) plain) :
    Shadows run after plain :=
  ⟨shadows.live, shadows.position, shadows.furthest, shadows.guard⟩

/-- The shadow of a course is also one of its first part. -/
theorem first (shadows : Shadows run after plain) (early : run.Grows between)
    (late : between.Grows after) : Shadows run between plain where
  live := shadows.live
  position := shadows.position
  furthest := shadows.furthest
  guard := by
    rcases shadows.guard with same | ⟨silent, apart⟩
    · exact .inl same
    · have := early.guardHits
      have := late.guardHits
      refine .inr ⟨by omega, fun attempt member known => ?_⟩
      exact apart attempt member (late.known attempt known)

/-- Behind the first part, the shadow follows the rest of the course. -/
theorem second (shadows : Shadows run after plain) (early : run.Grows between)
    (late : between.Grows after) (lands : Lands between plain plainBetween)
    (plainEarly : plain.Grows plainBetween) : Shadows between after plainBetween where
  live := lands.live
  position := lands.position
  furthest := lands.furthest ▸ Nat.le_max_right ..
  guard := by
    rw [plainEarly.active]
    rcases shadows.guard with same | ⟨silent, apart⟩
    · exact .inl (same.trans early.active.symm)
    · have := early.guardHits
      have := late.guardHits
      exact .inr ⟨by omega, apart⟩

/-- Nothing that is known is under way in the shadow. -/
theorem apart_of_known (shadows : Shadows run after plain)
    (apart : ∀ attempt ∈ run.active, attempt ∉ run.known)
    (kept : ∀ attempt ∈ run.known, attempt ∈ after.known) :
    ∀ attempt ∈ plain.active, attempt ∉ run.known := by
  rcases shadows.guard with same | ⟨-, shadowApart⟩
  · rw [same]
    exact apart
  · exact fun attempt member known => shadowApart attempt member (kept attempt known)

end Shadows

/-! ### What is remembered -/

def Outcome.tree? : Outcome → Option Tree
  | .failed => none
  | .matched tree _ => some tree

/-- Where the cursor is after an attempt from `start`. -/
def Outcome.stop (start : Nat) : Outcome → Nat
  | .failed => start
  | .matched _ stop => stop

/-- Whether an outcome that is known in `run` can be found again without a memory. -/
def Replays (grammar : Grammar) (tokens : List Token) (run : Run) (attempt : Attempt)
    (outcome : Outcome) : Prop :=
  ∀ plain : Run, plain.aborted = false → plain.position = attempt.2 →
    run.furthest ≤ plain.furthest → (∀ other ∈ plain.active, other ∉ run.known) →
    ∃ plainAfter events,
      Course grammar tokens forgetful (.attempt attempt.1) plain outcome.tree? plainAfter events ∧
      plainAfter.aborted = false ∧ plainAfter.position = outcome.stop attempt.2 ∧
      plainAfter.furthest = plain.furthest

/-- A state whose memory can be trusted. -/
structure Run.Trusted (grammar : Grammar) (tokens : List Token) (run : Run) : Prop where
  live : run.aborted = false
  apart : ∀ attempt ∈ run.active, attempt ∉ run.known
  replays : ∀ (attempt : Attempt) (outcome : Outcome), run.known[attempt]? = some outcome →
    Replays grammar tokens run attempt outcome

/-- An outcome can be found again if it has been found while the guard was silent. -/
theorem Replays.of_shadowed {id : Nat} {run after : Run} {outcome : Outcome}
    (grown : run.Grows after) (silent : after.guardHits = run.guardHits)
    (stop : after.position = outcome.stop run.position)
    (shadowed : ∀ plain, Shadows run after plain →
      Task.Shadowed grammar tokens (.attempt id) outcome.tree? after plain) :
    Replays grammar tokens after (id, run.position) outcome := by
  intro plain live position furthest apart
  have early : run.furthest ≤ plain.furthest := Nat.le_trans grown.furthest furthest
  obtain ⟨plainAfter, events, course, lands⟩ :=
    shadowed plain ⟨live, position, early, .inr ⟨silent, apart⟩⟩
  refine ⟨plainAfter, events, course, lands.live, lands.position.trans stop, ?_⟩
  rw [lands.furthest, Nat.max_eq_left furthest]

theorem Replays.grow {run after : Run} {attempt : Attempt} {outcome : Outcome}
    (replays : Replays grammar tokens run attempt outcome) (grown : run.Grows after) :
    Replays grammar tokens after attempt outcome := by
  intro plain live position furthest apart
  exact replays plain live position (Nat.le_trans grown.furthest furthest)
    fun other member known => apart other member (grown.known other known)

namespace Run.Trusted

variable {run : Run}

theorem moveTo (trusted : run.Trusted grammar tokens) (position : Nat) :
    (run.moveTo position).Trusted grammar tokens :=
  ⟨trusted.live, trusted.apart, trusted.replays⟩

theorem begin {id : Nat} (trusted : run.Trusted grammar tokens)
    (unknown : run.known[(id, run.position)]? = none) :
    (run.counted.begin id).Trusted grammar tokens where
  live := trusted.live
  apart := by
    intro attempt member
    rcases List.mem_cons.mp member with rfl | older
    · -- The gate has opened only because the attempt is not known.
      rw [Std.TreeMap.mem_iff_isSome_getElem?]
      exact fun known => by simp [Run.begin, Run.counted, unknown] at known
    · exact trusted.apart attempt older
  replays := trusted.replays

theorem finish (trusted : run.Trusted grammar tokens) (attempt : Attempt) :
    (run.finish attempt).Trusted grammar tokens :=
  ⟨trusted.live, fun other member => trusted.apart other (List.mem_of_mem_erase member),
    trusted.replays⟩

theorem reach (trusted : run.Trusted grammar tokens) : run.reach.Trusted grammar tokens :=
  ⟨trusted.live, trusted.apart, fun attempt outcome known =>
    (trusted.replays attempt outcome known).grow (Run.Grows.refl run).reach⟩

theorem keep {attempt : Attempt} {hits : Nat} {outcome : Outcome}
    (trusted : run.Trusted grammar tokens) (free : attempt ∉ run.active)
    (replays : run.guardHits = hits → Replays grammar tokens
      (run.keep remembering attempt hits outcome) attempt outcome) :
    (run.keep remembering attempt hits outcome).Trusted grammar tokens where
  live := keep_aborted.trans trusted.live
  apart := by
    intro other member known
    rw [keep_active] at member
    rcases mem_of_mem_known_keep known with before | rfl
    · exact trusted.apart other member before
    · -- The attempt is over when its outcome is kept.
      exact free member
  replays := by
    intro key other known
    rcases known_of_keep known with before | ⟨rfl, rfl, -, silent, -⟩
    · exact (trusted.replays key other before).grow ((Run.Grows.refl run).keep ..)
    · exact replays silent

end Run.Trusted

/-- A task that leaves a memory to trust behind and that every shadow answers alike. -/
structure Mirrored (grammar : Grammar) (tokens : List Token) (task : Task) (run : Run)
    (answer : task.Answer) (after : Run) : Prop where
  trusted : after.Trusted grammar tokens
  follows : ∀ plain, Shadows run after plain → task.Shadowed grammar tokens answer after plain

/-- A task that ends where a part of it ends. -/
theorem Mirrored.imp {part whole : Task} {run after : Run} {answer : part.Answer}
    {last : whole.Answer} (mirrored : Mirrored grammar tokens part run answer after)
    (build : ∀ {plain plainAfter : Run} {events : List Event},
      Course grammar tokens forgetful part plain answer plainAfter events →
      ∃ others, Course grammar tokens forgetful whole plain last plainAfter others) :
    Mirrored grammar tokens whole run last after where
  trusted := mirrored.trusted
  follows := by
    intro plain shadows
    obtain ⟨plainAfter, events, followed, lands⟩ := mirrored.follows plain shadows
    obtain ⟨others, built⟩ := build followed
    exact ⟨plainAfter, others, built, lands⟩

/-! ### The gate without a memory -/

section Forgetful

variable {plain : Run} {id : Nat}

theorem Run.enter_forgetful_refused (live : plain.aborted = false)
    (active : (id, plain.position) ∈ plain.active) :
    plain.enter forgetful id =
      .answered none { plain.counted with guardHits := plain.guardHits + 1 } := by
  simp [enter, forgetful, outOfSteps, counted, live, active]

theorem Run.enter_forgetful_opened (live : plain.aborted = false)
    (free : (id, plain.position) ∉ plain.active) :
    plain.enter forgetful id = .opened plain.counted := by
  simp [enter, forgetful, outOfSteps, counted, live, free]

end Forgetful

/-! ### Attempts -/

/-- What the gate answers is found again without a memory. -/
theorem Run.Trusted.answered {id : Nat} {run after : Run} {tree : Option Tree}
    (trusted : run.Trusted grammar tokens)
    (gate : Run.Enters remembering id run (.answered tree after)) :
    Mirrored grammar tokens (.attempt id) run tree after := by
  cases gate with
  | givenUp gone => exact absurd (trusted.live.symm.trans gone) (by decide)
  | exhausted live gone => simp [outOfSteps, remembering] at gone
  | refused live within active =>
    refine ⟨⟨trusted.live, trusted.apart, trusted.replays⟩, ?_⟩
    rintro plain ⟨plainLive, position, furthest, same | ⟨silent, -⟩⟩
    · -- The same attempts are under way, so the guard refuses this one, too.
      have plainActive : (id, plain.position) ∈ plain.active := by
        rw [same, position]
        exact active
      exact ⟨_, [], .answered (enter_forgetful_refused plainLive plainActive), plainLive,
        position, (Nat.max_eq_left furthest).symm⟩
    · exact absurd silent (Nat.succ_ne_self _)
  | failedBefore live within free memoize known =>
    refine ⟨⟨trusted.live, trusted.apart, trusted.replays⟩, ?_⟩
    intro plain shadows
    obtain ⟨plainAfter, events, course, plainLive, position, furthest⟩ :=
      trusted.replays _ _ known plain shadows.live shadows.position shadows.furthest
        (shadows.apart_of_known trusted.apart fun _ member => member)
    exact ⟨plainAfter, events, course, plainLive, position,
      furthest.trans (Nat.max_eq_left shadows.furthest).symm⟩
  | matchedBefore live within free memoize known =>
    refine ⟨⟨trusted.live, trusted.apart, trusted.replays⟩, ?_⟩
    intro plain shadows
    obtain ⟨plainAfter, events, course, plainLive, position, furthest⟩ :=
      trusted.replays _ _ known plain shadows.live shadows.position shadows.furthest
        (shadows.apart_of_known trusted.apart fun _ member => member)
    exact ⟨plainAfter, events, course, plainLive, position,
      furthest.trans (Nat.max_eq_left shadows.furthest).symm⟩

/-- The shadow of an attempt enters the body, too. -/
theorem Shadows.begin {id : Nat} {run inner ended plain : Run} {outcome : Outcome}
    (shadows : Shadows run (ended.keep remembering (id, run.position) run.guardHits outcome) plain)
    (free : (id, run.position) ∉ run.active) (grown : (run.counted.begin id).Grows inner)
    (trusted : inner.Trusted grammar tokens) (live : ended.aborted = false)
    (hits : ended.guardHits = inner.guardHits) (known : ended.known = inner.known) :
    (id, plain.position) ∉ plain.active ∧
      Shadows (run.counted.begin id) inner (plain.counted.begin id) := by
  obtain ⟨plainLive, position, furthest, guard⟩ := shadows
  have own : (id, run.position) ∉ inner.known :=
    trusted.apart _ (grown.active ▸ List.mem_cons_self ..)
  rcases guard with same | ⟨silent, apart⟩
  · -- Both runs put the same attempt in front of the same others.
    refine ⟨by rw [same, position]; exact free, plainLive, position, furthest, .inl ?_⟩
    simp [Run.begin, Run.counted, same, position]
  · -- The outcome will be known, so the attempt is not under way in the shadow.
    rw [Run.keep_guardHits] at silent
    have keyed :
        (id, run.position) ∈
          (ended.keep remembering (id, run.position) run.guardHits outcome).known :=
      Run.mem_known_keep_self rfl live silent
    refine ⟨by rw [position]; exact fun member => apart _ member keyed, plainLive, position,
      furthest, .inr ⟨hits.symm.trans silent, ?_⟩⟩
    intro attempt member
    rcases List.mem_cons.mp member with rfl | older
    · -- It is not known before it is over, either.
      rw [show plain.counted.position = run.position from position]
      exact own
    · exact fun found => apart attempt older (Run.mem_known_keep (known ▸ found))

/-- If every shadow of an attempt answers alike, its outcome may be kept. -/
theorem Run.Trusted.settled {id : Nat} {run ended : Run} (outcome : Outcome)
    (trusted : ended.Trusted grammar tokens) (grown : run.Grows ended)
    (free : (id, run.position) ∉ run.active) (stop : ended.position = outcome.stop run.position)
    (follows : ∀ plain,
      Shadows run (ended.keep remembering (id, run.position) run.guardHits outcome) plain →
      Task.Shadowed grammar tokens (.attempt id) outcome.tree?
        (ended.keep remembering (id, run.position) run.guardHits outcome) plain) :
    Mirrored grammar tokens (.attempt id) run outcome.tree?
      (ended.keep remembering (id, run.position) run.guardHits outcome) where
  trusted := trusted.keep (grown.active ▸ free) fun silent =>
    .of_shadowed (grown.keep ..) (keep_guardHits.trans silent) (keep_position.trans stop) follows
  follows := follows

/-! ### Courses -/

/-- Along a course the memory stays one to trust, and every shadow answers alike. -/
theorem Course.mirrored {task : Task} {run after : Run} {answer : task.Answer}
    {events : List Event}
    (course : Course grammar tokens remembering task run answer after events)
    (trusted : run.Trusted grammar tokens) : Mirrored grammar tokens task run answer after := by
  induction course with
  | answered gate => exact trusted.answered (gate ▸ Run.enters ..)
  | @failed id run inner rule children events gate production inside nothing ih =>
    obtain ⟨-, -, free, unknown⟩ := Run.opened_of_enter gate
    obtain ⟨innerTrusted, follows⟩ := ih (trusted.begin (unknown rfl))
    refine ((innerTrusted.finish _).moveTo run.position).settled .failed
      (inside.grows.finish.moveTo _) free rfl ?_
    intro plain shadows
    obtain ⟨plainFree, entered⟩ :=
      shadows.begin free inside.grows innerTrusted innerTrusted.live rfl rfl
    obtain ⟨plainInner, plainEvents, plainInside, lands⟩ := follows _ entered
    have opened := Run.enter_forgetful_opened shadows.live plainFree
    refine ⟨_, _, .failed opened production plainInside nothing, ?_, ?_, ?_⟩
    · exact Run.keep_aborted.trans lands.live
    · rw [Run.keep_position, Run.keep_position]
      exact shadows.position
    · rw [Run.keep_furthest, Run.keep_furthest]
      exact lands.furthest
  | @matched id run inner rule first others events gate production inside ih =>
    obtain ⟨-, -, free, unknown⟩ := Run.opened_of_enter gate
    obtain ⟨innerTrusted, follows⟩ := ih (trusted.begin (unknown rfl))
    refine (innerTrusted.finish (id, run.position)).reach.settled (.matched _ _)
      inside.grows.finish.reach free rfl ?_
    intro plain shadows
    obtain ⟨plainFree, entered⟩ :=
      shadows.begin free inside.grows innerTrusted innerTrusted.live rfl rfl
    obtain ⟨plainInner, plainEvents, plainInside, lands⟩ := follows _ entered
    have opened := Run.enter_forgetful_opened shadows.live plainFree
    -- The end of the branch is where the cursor stands, which is the same place in the shadow.
    have followed := Course.matched opened production plainInside
    rw [lands.position] at followed
    refine ⟨_, _, followed, ?_, ?_, ?_⟩
    · exact Run.keep_aborted.trans lands.live
    · rw [Run.keep_position, Run.keep_position]
      exact lands.position
    · rw [Run.keep_furthest, Run.keep_furthest]
      have furthest : plainInner.furthest = max plain.furthest inner.furthest := lands.furthest
      have position := lands.position
      simp only [Run.reach, Run.finish]
      omega
  | token there =>
    refine ⟨trusted.moveTo _, ?_⟩
    rintro plain ⟨live, position, furthest, -⟩
    rw [← position] at there ⊢
    exact ⟨_, [], .token there, live, rfl, (Nat.max_eq_left furthest).symm⟩
  | noToken missing =>
    refine ⟨trusted, fun plain shadows => ?_⟩
    rw [← shadows.position] at missing
    exact ⟨plain, [], .noToken missing, shadows.stays⟩
  | ref call ih => exact (ih trusted).imp fun followed => ⟨_, .ref followed⟩
  | seq all ih => exact (ih trusted).imp fun followed => ⟨_, .seq followed⟩
  | brokenSeq all ih =>
    obtain ⟨afterTrusted, follows⟩ := ih trusted
    refine ⟨afterTrusted.moveTo _, fun plain shadows => ?_⟩
    obtain ⟨plainAfter, events, followed, lands⟩ := follows plain shadows.of_moveTo
    exact ⟨_, events, .brokenSeq followed, shadows.position ▸ lands.moveTo _⟩
  | opt once ih => exact (ih trusted).imp fun followed => ⟨_, .opt followed⟩
  | star loop ih => exact (ih trusted).imp fun followed => ⟨_, .star followed⟩
  | plus loop ih => exact (ih trusted).imp fun followed => ⟨_, .plus followed⟩
  | longest tried ih =>
    obtain ⟨afterTrusted, follows⟩ := ih trusted
    refine ⟨afterTrusted.moveTo _, fun plain shadows => ?_⟩
    obtain ⟨plainAfter, events, followed, lands⟩ := follows plain shadows.of_moveTo
    exact ⟨_, events, .longest followed, lands.moveTo _⟩
  | noLongest tried ih => exact (ih trusted).imp fun followed => ⟨_, .noLongest followed⟩
  | noItems => exact ⟨trusted, fun plain shadows => ⟨plain, [], .noItems, shadows.stays⟩⟩
  | brokenItems head ih => exact (ih trusted).imp fun followed => ⟨_, .brokenItems followed⟩
  | items head tail first second =>
    obtain ⟨betweenTrusted, headFollows⟩ := first trusted
    obtain ⟨afterTrusted, tailFollows⟩ := second betweenTrusted
    refine ⟨afterTrusted, fun plain shadows => ?_⟩
    obtain ⟨plainBetween, events, plainHead, early⟩ :=
      headFollows plain (shadows.first head.grows tail.grows)
    obtain ⟨plainAfter, others, plainTail, late⟩ :=
      tailFollows plainBetween (shadows.second head.grows tail.grows early plainHead.grows)
    exact ⟨plainAfter, _, .items plainHead plainTail, early.trans late tail.grows⟩
  | noAlternatives =>
    exact ⟨trusted, fun plain shadows => ⟨plain, [], .noAlternatives, shadows.stays⟩⟩
  | alternatives head tail first second =>
    obtain ⟨betweenTrusted, headFollows⟩ := first trusted
    obtain ⟨afterTrusted, tailFollows⟩ := second (betweenTrusted.moveTo _)
    refine ⟨afterTrusted, fun plain shadows => ?_⟩
    -- The cursor goes back to the start before the other alternatives are tried.
    have grown := head.grows.moveTo
    obtain ⟨plainBetween, events, plainHead, early⟩ :=
      headFollows plain (shadows.first (grown _) tail.grows).of_moveTo
    obtain ⟨plainAfter, others, plainTail, late⟩ := tailFollows _
      (shadows.second (grown _) tail.grows (early.moveTo _) (plainHead.grows.moveTo _))
    have landed := (early.moveTo _).trans late tail.grows
    rw [← early.position, ← shadows.position] at plainTail
    exact ⟨plainAfter, _, .alternatives plainHead plainTail, landed⟩
  | ends last ih => exact (ih trusted).imp fun followed => ⟨_, .ends followed⟩
  | stalls last stalled ih =>
    obtain ⟨afterTrusted, follows⟩ := ih trusted
    refine ⟨afterTrusted, fun plain shadows => ?_⟩
    obtain ⟨plainAfter, events, followed, lands⟩ := follows plain shadows
    have plainStalled : plainAfter.position = plain.position :=
      lands.position.trans (stalled.trans shadows.position.symm)
    exact ⟨plainAfter, events, .stalls followed plainStalled, lands⟩
  | continues first moved loop one more =>
    obtain ⟨betweenTrusted, firstFollows⟩ := one trusted
    obtain ⟨afterTrusted, loopFollows⟩ := more betweenTrusted
    refine ⟨afterTrusted, fun plain shadows => ?_⟩
    obtain ⟨plainBetween, events, plainFirst, early⟩ :=
      firstFollows plain (shadows.first first.grows loop.grows)
    obtain ⟨plainAfter, others, plainLoop, late⟩ :=
      loopFollows plainBetween (shadows.second first.grows loop.grows early plainFirst.grows)
    have plainMoved : plainBetween.position ≠ plain.position := by
      rw [early.position, shadows.position]
      exact moved
    exact ⟨plainAfter, _, .continues plainFirst plainMoved plainLoop, early.trans late loop.grows⟩

/-! ### Calls -/

/-- Between calls: a state with a memory to trust and one without a memory that look alike. -/
structure Twins (grammar : Grammar) (tokens : List Token) (run plain : Run) : Prop where
  trusted : run.Trusted grammar tokens
  rest : run.AtRest grammar tokens
  plainRest : plain.AtRest grammar tokens
  live : plain.aborted = false
  position : plain.position = run.position
  furthest : plain.furthest = run.furthest

theorem twins_fresh : Twins grammar tokens {} {} where
  trusted := ⟨rfl, by simp, by simp⟩
  rest := Run.atRest_fresh
  plainRest := Run.atRest_fresh
  live := rfl
  position := rfl
  furthest := rfl

namespace Twins

variable {run after plain : Run} {tree : Option Tree} {events : List Event}

theorem attempt {id : Nat} (twins : Twins grammar tokens run plain)
    (course : Course grammar tokens remembering (.attempt id) run tree after events) :
    ∃ plainAfter plainEvents,
      Course grammar tokens forgetful (.attempt id) plain tree plainAfter plainEvents ∧
      Twins grammar tokens after plainAfter := by
  obtain ⟨afterTrusted, follows⟩ := course.mirrored twins.trusted
  -- Nothing is under way between calls, so the guard begins alike.
  have idle : plain.active = run.active := twins.plainRest.idle.trans twins.rest.idle.symm
  obtain ⟨plainAfter, plainEvents, plainCourse, lands⟩ :=
    follows plain ⟨twins.live, twins.position, Nat.le_of_eq twins.furthest.symm, .inl idle⟩
  refine ⟨plainAfter, plainEvents, plainCourse, afterTrusted, course.atRest twins.rest,
    plainCourse.atRest twins.plainRest, lands.live, lands.position, ?_⟩
  rw [lands.furthest, twins.furthest, Nat.max_eq_right course.grows.furthest]

theorem reply {call : Call} (twins : Twins grammar tokens run plain)
    (replies : Parser.Replies ⟨grammar, tokens, remembering, run⟩ call tree after events) :
    ∃ plainAfter plainEvents,
      Parser.Replies ⟨grammar, tokens, forgetful, plain⟩ call tree plainAfter plainEvents ∧
      Twins grammar tokens after plainAfter := by
  cases replies with
  | attempted target course =>
    obtain ⟨plainAfter, plainEvents, plainCourse, alike⟩ := twins.attempt course
    exact ⟨plainAfter, plainEvents, .attempted target plainCourse, alike⟩
  | unknown missing => exact ⟨plain, [], .unknown missing, twins⟩

theorem error (twins : Twins grammar tokens run plain) : plain.error tokens = run.error tokens := by
  unfold Run.error
  rw [twins.live, twins.trusted.live, twins.furthest]
  rfl

end Twins

/-- What a caller sees of a parser after a call. -/
structure Report where
  tree : Option Tree
  position : Nat
  furthest : Nat
  error : ParseError
deriving DecidableEq, Repr

namespace Parser

/-- What a caller sees after each of some calls, one after the other. -/
def reports (parser : Parser) : List Call → List Report
  | [] => []
  | call :: others =>
    match parser.call call with
    | (tree, after) =>
      ⟨tree, after.run.position, after.run.furthest, after.error⟩ :: after.reports others

theorem reports_of_twins {run plain : Run} (twins : Twins grammar tokens run plain)
    (calls : List Call) :
    reports ⟨grammar, tokens, remembering, run⟩ calls =
      reports ⟨grammar, tokens, forgetful, plain⟩ calls := by
  induction calls generalizing run plain with
  | nil => rfl
  | cons call others ih =>
    obtain ⟨tree, after, events, replies⟩ :=
      exists_replies remembering call twins.rest
    obtain ⟨plainAfter, plainEvents, plainReplies, alike⟩ := twins.reply replies
    simp only [reports, Parser.error, replies.call_eq twins.rest,
      plainReplies.call_eq twins.plainRest, alike.position, alike.furthest, alike.error, ih alike]

/--
A parser with a memory and one without cannot be told apart by calling them, if the steps are not
bounded: after every call they have answered with the same tree and report the same position, the
same furthest position and the same error.
-/
theorem reports_memoize (grammar : Grammar) (tokens : List Token) (calls : List Call) :
    reports { grammar, tokens, options := { memoize := true, maxSteps := none } } calls =
      reports { grammar, tokens, options := { memoize := false, maxSteps := none } } calls :=
  reports_of_twins twins_fresh calls

end Parser

end Constituency
