import Constituency.Proofs.Parser.Budget
import Constituency.Proofs.Parser.Memory

/-!
# Every body once

A parser with a memory evaluates a body only for an attempt that is neither known nor under way, and
what is known stays known as it is. As long as the guard is silent, every outcome is kept; then no
attempt is evaluated a second time, in one call or in a later one.
-/
namespace Constituency

variable {grammar : Grammar} {tokens : List Token} {options : ParseOptions}

/-! ### Evaluations -/

/-- The attempts whose bodies are evaluated in the course of some events, in their order. -/
def begun : List Event → List Attempt
  | [] => []
  | .began attempt :: rest => attempt :: begun rest
  | .ended .. :: rest => begun rest
  | .repeated .. :: rest => begun rest

theorem begun_append (front back : List Event) :
    begun (front ++ back) = begun front ++ begun back := by
  induction front with
  | nil => rfl
  | cons event rest ih =>
    cases event with
    | began attempt => exact congrArg (attempt :: ·) ih
    | ended attempt stop => exact ih
    | repeated start count => exact ih

theorem begun_attempt (attempt : Attempt) (events : List Event) (stop : Option Nat) :
    begun (.began attempt :: events ++ [.ended attempt stop]) = attempt :: begun events := by
  rw [begun_append]
  exact List.append_nil _

theorem begun_repeated (events : List Event) (start count : Nat) :
    begun (events ++ [.repeated start count]) = begun events := by
  rw [begun_append]
  exact List.append_nil _

/-! ### What is learned -/

theorem Run.mem_known_iff {run : Run} {attempt : Attempt} :
    attempt ∈ run.known ↔ ∃ outcome, run.known[attempt]? = some outcome := by
  rw [Std.TreeMap.mem_iff_isSome_getElem?]
  exact Option.isSome_iff_exists

/-- Whether nothing that is known is under way. -/
def Run.Apart (run : Run) : Prop := ∀ attempt ∈ run.active, attempt ∉ run.known

theorem Run.Apart.begin {run : Run} {id : Nat} (apart : run.Apart)
    (unknown : run.known[(id, run.position)]? = none) : (run.counted.begin id).Apart := by
  intro attempt member known
  rcases List.mem_cons.mp member with rfl | older
  · obtain ⟨outcome, found⟩ := Run.mem_known_iff.mp known
    exact absurd (unknown.symm.trans found) (by simp)
  · exact apart attempt older known

/-- How the memory changes along a course in which a body is evaluated for each of `evaluated`. -/
structure Learns (run after : Run) (evaluated : List Attempt) : Prop where
  unknown : ∀ attempt ∈ evaluated, attempt ∉ run.known
  free : ∀ attempt ∈ evaluated, attempt ∉ run.active
  source : ∀ attempt ∈ after.known, attempt ∈ run.known ∨ attempt ∈ evaluated
  lasting : ∀ (attempt : Attempt) (outcome : Outcome),
    run.known[attempt]? = some outcome → after.known[attempt]? = some outcome

namespace Learns

variable {run between after : Run} {evaluated others : List Attempt}

theorem nothing (same : after.known = run.known) : Learns run after [] where
  unknown := by simp
  free := by simp
  source := by
    intro attempt member
    rw [same] at member
    exact .inl member
  lasting := by
    intro attempt outcome known
    rw [same]
    exact known

/-- The cursor has no part in what is known. -/
theorem moveTo (learns : Learns run after evaluated) (position : Nat) :
    Learns run (after.moveTo position) evaluated :=
  ⟨learns.unknown, learns.free, learns.source, learns.lasting⟩

theorem trans (first : Learns run between evaluated) (second : Learns between after others)
    (grown : run.Grows between) : Learns run after (evaluated ++ others) where
  unknown := by
    intro attempt member known
    rcases List.mem_append.mp member with early | late
    · exact first.unknown attempt early known
    · exact second.unknown attempt late (grown.known attempt known)
  free := by
    intro attempt member active
    rcases List.mem_append.mp member with early | late
    · exact first.free attempt early active
    · exact second.free attempt late (grown.active ▸ active)
  source := by
    intro attempt known
    rcases second.source attempt known with before | late
    · rcases first.source attempt before with old | early
      · exact .inl old
      · exact .inr (List.mem_append_left _ early)
    · exact .inr (List.mem_append_right _ late)
  lasting := fun attempt outcome known =>
    second.lasting attempt outcome (first.lasting attempt outcome known)

/-- What is under way is not learned before it is over. -/
theorem apart (learns : Learns run after evaluated) (apart : run.Apart)
    (active : after.active = run.active) : after.Apart := by
  intro attempt member known
  rw [active] at member
  rcases learns.source attempt known with before | evaluated
  · exact apart attempt member before
  · exact learns.free attempt evaluated member

/-- An attempt is learned behind what is learned inside. -/
theorem attempt {id hits : Nat} {inner ended : Run} {outcome : Outcome}
    (inside : Learns (run.counted.begin id) inner evaluated)
    (unknown : run.known[(id, run.position)]? = none) (free : (id, run.position) ∉ run.active)
    (known : ended.known = inner.known) :
    Learns run (ended.keep options (id, run.position) hits outcome)
      ((id, run.position) :: evaluated) where
  unknown := by
    intro attempt member there
    rcases List.mem_cons.mp member with rfl | within
    · obtain ⟨outcome, found⟩ := Run.mem_known_iff.mp there
      exact absurd (unknown.symm.trans found) (by simp)
    · exact inside.unknown attempt within there
  free := by
    intro attempt member active
    rcases List.mem_cons.mp member with rfl | within
    · exact free active
    · exact inside.free attempt within (List.mem_cons_of_mem _ active)
  source := by
    intro attempt there
    rcases Run.mem_of_mem_known_keep there with before | rfl
    · rw [known] at before
      exact (inside.source attempt before).imp_right (List.mem_cons_of_mem _)
    · exact .inr (List.mem_cons_self ..)
  lasting := by
    intro attempt old there
    have different : attempt ≠ (id, run.position) := by
      rintro rfl
      rw [unknown] at there
      contradiction
    rw [Run.getElem?_known_keep_of_ne different, known]
    exact inside.lasting attempt old there

end Learns

theorem Run.Enters.known_eq {id : Nat} {run after : Run} {tree : Option Tree}
    (gate : Enters options id run (.answered tree after)) : after.known = run.known := by
  cases gate <;> rfl

theorem Course.learns {task : Task} {run after : Run} {answer : task.Answer} {events : List Event}
    (course : Course grammar tokens options task run answer after events)
    (memoize : options.memoize = true) (apart : run.Apart) : Learns run after (begun events) := by
  induction course with
  | answered gate => exact .nothing (gate ▸ Run.enters ..).known_eq
  | failed gate production inside nothing ih =>
    obtain ⟨-, -, free, unknown⟩ := Run.opened_of_enter gate
    rw [begun_attempt]
    exact (ih (apart.begin (unknown memoize))).attempt (unknown memoize) free rfl
  | matched gate production inside ih =>
    obtain ⟨-, -, free, unknown⟩ := Run.opened_of_enter gate
    rw [begun_attempt]
    exact (ih (apart.begin (unknown memoize))).attempt (unknown memoize) free rfl
  | token there => exact .nothing rfl
  | noToken missing => exact .nothing rfl
  | ref call ih => exact ih apart
  | seq all ih => exact ih apart
  | brokenSeq all ih => exact (ih apart).moveTo _
  | opt once ih => exact ih apart
  | star loop ih =>
    rw [begun_repeated]
    exact ih apart
  | plus loop ih =>
    rw [begun_repeated]
    exact ih apart
  | longest tried ih => exact (ih apart).moveTo _
  | noLongest tried ih => exact ih apart
  | noItems => exact .nothing rfl
  | brokenItems head ih => exact ih apart
  | items head tail first second =>
    have front := first apart
    rw [begun_append]
    exact front.trans (second (front.apart apart head.grows.active)) head.grows
  | noAlternatives => exact .nothing rfl
  | @alternatives alternative rest run between after best found nodes events others head tail
      first second =>
    -- The cursor goes back for the next alternative; what the first one has learned stays.
    have front := (first apart).moveTo run.position
    have grown := head.grows.moveTo run.position
    rw [begun_append]
    exact front.trans (second (front.apart apart grown.active)) grown
  | ends last ih => exact ih apart
  | stalls last stalled ih => exact ih apart
  | continues once moved loop one more =>
    have front := one apart
    rw [begun_append]
    exact front.trans (more (front.apart apart once.grows.active)) once.grows

/-! ### What is kept -/

/-- The end of what an outcome has matched. -/
def Outcome.stop? : Outcome → Option Nat
  | .failed => none
  | .matched _ stop => some stop

/-- Everything that was found out in the course of some events is known, and was found out once. -/
structure Recorded (after : Run) (events : List Event) : Prop where
  nodup : (begun events).Nodup
  kept : ∀ attempt ∈ begun events, attempt ∈ after.known
  ended : ∀ (attempt : Attempt) (stop : Option Nat), .ended attempt stop ∈ events →
    ∃ outcome, after.known[attempt]? = some outcome ∧ outcome.stop? = stop

namespace Recorded

variable {run between after : Run} {events others : List Event}

theorem nothing : Recorded run [] := ⟨List.nodup_nil, by simp [begun], by simp⟩

theorem moveTo (recorded : Recorded after events) (position : Nat) :
    Recorded (after.moveTo position) events := ⟨recorded.nodup, recorded.kept, recorded.ended⟩

theorem repeated (recorded : Recorded after events) (start count : Nat) :
    Recorded after (events ++ [.repeated start count]) where
  nodup := by
    rw [begun_repeated]
    exact recorded.nodup
  kept := by
    rw [begun_repeated]
    exact recorded.kept
  ended := by
    intro attempt stop member
    rcases List.mem_append.mp member with front | last
    · exact recorded.ended attempt stop front
    · simp at last

theorem trans (first : Recorded between events) (second : Recorded after others)
    (learns : Learns between after (begun others)) : Recorded after (events ++ others) where
  nodup := by
    rw [begun_append]
    refine List.nodup_append.mpr ⟨first.nodup, second.nodup, ?_⟩
    -- What the first part has begun is known to the second one.
    rintro attempt early _ late rfl
    exact learns.unknown attempt late (first.kept attempt early)
  kept := by
    intro attempt member
    rw [begun_append] at member
    rcases List.mem_append.mp member with early | late
    · obtain ⟨outcome, known⟩ := Run.mem_known_iff.mp (first.kept attempt early)
      exact Run.mem_known_iff.mpr ⟨outcome, learns.lasting attempt outcome known⟩
    · exact second.kept attempt late
  ended := by
    intro attempt stop member
    rcases List.mem_append.mp member with early | late
    · obtain ⟨outcome, known, equal⟩ := first.ended attempt stop early
      exact ⟨outcome, learns.lasting attempt outcome known, equal⟩
    · exact second.ended attempt stop late

/-- The outcome of an attempt is recorded behind what is recorded inside. -/
theorem attempt {id hits : Nat} {inner ended : Run} {outcome : Outcome}
    (inside : Recorded inner events) (learns : Learns (run.counted.begin id) inner (begun events))
    (apart : inner.Apart) (under : (id, run.position) ∈ inner.active)
    (known : ended.known = inner.known) (live : ended.aborted = false)
    (silent : ended.guardHits = hits) :
    Recorded (ended.keep remembering (id, run.position) hits outcome)
      (.began (id, run.position) :: events ++ [.ended (id, run.position) outcome.stop?]) := by
  have own : (ended.keep remembering (id, run.position) hits outcome).known[(id, run.position)]? =
      some outcome := Run.getElem?_known_keep_self rfl live silent
  have still : ∀ (other : Attempt) (old : Outcome), inner.known[other]? = some old →
      (ended.keep remembering (id, run.position) hits outcome).known[other]? = some old := by
    intro other old there
    -- What is under way is not known, so nothing is overwritten.
    have different : other ≠ (id, run.position) := by
      rintro rfl
      exact apart _ under (Run.mem_known_iff.mpr ⟨old, there⟩)
    rw [Run.getElem?_known_keep_of_ne different, known]
    exact there
  refine ⟨?_, ?_, ?_⟩
  · rw [begun_attempt]
    refine List.nodup_cons.mpr ⟨fun again => ?_, inside.nodup⟩
    exact learns.free _ again (List.mem_cons_self ..)
  · rw [begun_attempt]
    intro other member
    rcases List.mem_cons.mp member with rfl | within
    · exact Run.mem_known_iff.mpr ⟨outcome, own⟩
    · obtain ⟨old, there⟩ := Run.mem_known_iff.mp (inside.kept other within)
      exact Run.mem_known_iff.mpr ⟨old, still other old there⟩
  · intro other stop member
    rcases List.mem_append.mp member with front | last
    · rcases List.mem_cons.mp front with first | within
      · contradiction
      · obtain ⟨old, there, equal⟩ := inside.ended other stop within
        exact ⟨old, still other old there, equal⟩
    · simp only [List.mem_singleton, Event.ended.injEq] at last
      obtain ⟨rfl, rfl⟩ := last
      exact ⟨outcome, own, rfl⟩

/-- Where the gate opens, the attempt is recorded if all that its body has met is. -/
theorem opened {id : Nat} {body : Expr Ref} {children : Option (List Tree)} {inner ended : Run}
    {outcome : Outcome} (gate : run.enter remembering id = .opened run.counted)
    (inside : Course grammar tokens remembering (.body body) (run.counted.begin id) children inner
      events)
    (apart : run.Apart) (live : run.aborted = false)
    (recorded : (run.counted.begin id).Apart → Recorded inner events)
    (known : ended.known = inner.known) (aborted : ended.aborted = inner.aborted)
    (silent : ended.guardHits = run.guardHits) :
    Recorded (ended.keep remembering (id, run.position) run.guardHits outcome)
      (.began (id, run.position) :: events ++ [.ended (id, run.position) outcome.stop?]) := by
  obtain ⟨-, -, -, unknown⟩ := Run.opened_of_enter gate
  have begunApart := apart.begin (unknown rfl)
  have learns := inside.learns rfl begunApart
  have innerApart := learns.apart begunApart inside.grows.active
  have under : (id, run.position) ∈ inner.active := inside.grows.active ▸ List.mem_cons_self ..
  have endedLive : ended.aborted = false := aborted.trans (inside.spends.accounted live)
  exact (recorded begunApart).attempt learns innerApart under known endedLive silent

end Recorded

/-- As long as the guard is silent, a parser with a memory keeps all that it finds out. -/
theorem Course.recorded {task : Task} {run after : Run} {answer : task.Answer} {events : List Event}
    (course : Course grammar tokens remembering task run answer after events) (apart : run.Apart)
    (live : run.aborted = false) (silent : after.guardHits = run.guardHits) :
    Recorded after events := by
  induction course with
  | answered gate => exact .nothing
  | failed gate production inside nothing ih =>
    rw [Run.keep_guardHits] at silent
    have within := fun begunApart => ih begunApart live silent
    exact .opened gate inside apart live within rfl rfl silent
  | matched gate production inside ih =>
    rw [Run.keep_guardHits] at silent
    have within := fun begunApart => ih begunApart live silent
    exact .opened gate inside apart live within rfl rfl silent
  | token there => exact .nothing
  | noToken missing => exact .nothing
  | ref call ih => exact ih apart live silent
  | seq all ih => exact ih apart live silent
  | brokenSeq all ih => exact (ih apart live silent).moveTo _
  | opt once ih => exact ih apart live silent
  | star loop ih => exact (ih apart live silent).repeated ..
  | plus loop ih => exact (ih apart live silent).repeated ..
  | longest tried ih => exact (ih apart live silent).moveTo _
  | noLongest tried ih => exact ih apart live silent
  | noItems => exact .nothing
  | brokenItems head ih => exact ih apart live silent
  | items head tail first second =>
    -- The guard counts upwards only, so it is silent in the whole as well as in both parts.
    have early := head.grows.guardHits
    have late := tail.grows.guardHits
    have between := (head.learns rfl apart).apart apart head.grows.active
    have front := first apart live (by omega)
    have back := second between (head.spends.accounted live) (by omega)
    exact front.trans back (tail.learns rfl between)
  | noAlternatives => exact .nothing
  | @alternatives alternative rest run between after best found nodes events others head tail
      first second =>
    have grown := head.grows.moveTo run.position
    have early := head.grows.guardHits
    have late : between.guardHits ≤ after.guardHits := tail.grows.guardHits
    have betweenApart := ((head.learns rfl apart).moveTo run.position).apart apart grown.active
    have front := (first apart live (by omega)).moveTo run.position
    have back := second betweenApart (head.spends.accounted live)
      (by show after.guardHits = between.guardHits; omega)
    exact front.trans back (tail.learns rfl betweenApart)
  | ends last ih => exact ih apart live silent
  | stalls last stalled ih => exact ih apart live silent
  | continues once moved loop one more =>
    have early := once.grows.guardHits
    have late := loop.grows.guardHits
    have between := (once.learns rfl apart).apart apart once.grows.active
    have front := one apart live (by omega)
    have back := more between (once.spends.accounted live) (by omega)
    exact front.trans back (loop.learns rfl between)

/-! ### Calls -/

section Calls

variable {run after : Run} {call : Call} {calls : List Call} {tree : Option Tree}
  {events : List Event}

theorem Parser.Replies.learns
    (replies : Replies ⟨grammar, tokens, options, run⟩ call tree after events)
    (memoize : options.memoize = true) (apart : run.Apart) : Learns run after (begun events) := by
  cases replies with
  | attempted target course => exact course.learns memoize apart
  | unknown missing => exact .nothing rfl

theorem Parser.Replies.recorded
    (replies : Replies ⟨grammar, tokens, remembering, run⟩ call tree after events)
    (apart : run.Apart) (live : run.aborted = false) (silent : after.guardHits = run.guardHits) :
    Recorded after events := by
  cases replies with
  | attempted target course => exact course.recorded apart live silent
  | unknown missing => exact .nothing

theorem Run.AtRest.apart (rest : run.AtRest grammar tokens) : run.Apart := by
  intro attempt member
  rw [rest.idle] at member
  contradiction

theorem Parser.History.learns (history : History grammar tokens options run calls after events)
    (memoize : options.memoize = true) (rest : run.AtRest grammar tokens) :
    Learns run after (begun events) := by
  induction history with
  | nil => exact .nothing rfl
  | cons replies later ih =>
    rw [begun_append]
    exact (replies.learns memoize rest.apart).trans (ih (replies.atRest rest)) replies.grows

/-- As long as the guard is silent, what one call has found out is never found out again. -/
theorem Parser.History.recorded
    (history : History grammar tokens remembering run calls after events)
    (rest : run.AtRest grammar tokens) (live : run.aborted = false)
    (silent : after.guardHits = run.guardHits) : Recorded after events := by
  induction history with
  | nil => exact .nothing
  | @cons run between after call calls tree front back replies later ih =>
    have early : run.guardHits ≤ between.guardHits := replies.grows.guardHits
    have late := later.grows.guardHits
    have betweenRest := replies.atRest rest
    have first := replies.recorded rest.apart live (by omega)
    have second := ih betweenRest (replies.spends.accounted live) (by omega)
    exact first.trans second (later.learns rfl betweenRest)

end Calls

end Constituency
