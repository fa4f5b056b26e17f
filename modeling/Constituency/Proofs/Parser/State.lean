import Constituency.Parser.Basic

/-!
# Steps of a run

What the gate can answer to an attempt, and what the end of an attempt changes in the state. The
lemmas here say all that a step can do; what is kept along whole runs is derived from them and not
from the definitions.
-/
namespace Constituency

namespace Run

/-- The state after one more attempt has been counted. -/
def counted (run : Run) : Run := { run with steps := run.steps + 1 }

/-- The state after an attempt is over, before its outcome is judged. -/
def finish (attempt : Attempt) (run : Run) : Run :=
  { run with active := run.active.erase attempt }

/-- Notes how far a production that has just matched has come. -/
def reach (run : Run) : Run := { run with furthest := max run.furthest run.position }

/-! ### The gate -/

/-- Everything that the gate can say to an attempt, and when it says so. -/
inductive Enters (options : ParseOptions) (id : Nat) (run : Run) : Gate → Prop where
  | givenUp (gone : run.aborted = true) : Enters options id run (.answered none run.counted)
  | exhausted (live : run.aborted = false) (gone : run.counted.outOfSteps options = true) :
      Enters options id run (.answered none { run.counted with aborted := true })
  | refused (live : run.aborted = false) (within : run.counted.outOfSteps options = false)
      (active : (id, run.position) ∈ run.active) :
      Enters options id run (.answered none { run.counted with guardHits := run.guardHits + 1 })
  | failedBefore (live : run.aborted = false) (within : run.counted.outOfSteps options = false)
      (free : (id, run.position) ∉ run.active) (memoize : options.memoize = true)
      (known : run.known[(id, run.position)]? = some .failed) :
      Enters options id run (.answered none run.counted)
  | matchedBefore {tree : Tree} {stop : Nat} (live : run.aborted = false)
      (within : run.counted.outOfSteps options = false)
      (free : (id, run.position) ∉ run.active) (memoize : options.memoize = true)
      (known : run.known[(id, run.position)]? = some (.matched tree stop)) :
      Enters options id run (.answered (some tree) (run.counted.moveTo stop))
  | opened (live : run.aborted = false) (within : run.counted.outOfSteps options = false)
      (free : (id, run.position) ∉ run.active)
      (unknown : options.memoize = true → run.known[(id, run.position)]? = none) :
      Enters options id run (.opened run.counted)

theorem enters (options : ParseOptions) (id : Nat) (run : Run) :
    Enters options id run (run.enter options id) := by
  unfold enter
  dsimp only
  split
  next gone => exact .givenUp gone
  next live =>
    have live : run.aborted = false := Bool.eq_false_iff.mpr live
    split
    next gone => exact .exhausted live gone
    next within =>
      have within : run.counted.outOfSteps options = false := Bool.eq_false_iff.mpr within
      split
      next active => exact .refused live within active
      next free =>
        split
        next memoize =>
          split
          next known => exact .failedBefore live within free memoize known
          next known => exact .matchedBefore live within free memoize known
          next unknown => exact .opened live within free fun _ => unknown
        next plain => exact .opened live within free fun memoize => absurd memoize plain

/-- The gate says nothing but what it can say. -/
theorem Enters.enter_eq {options : ParseOptions} {id : Nat} {run : Run} {gate : Gate}
    (entered : Enters options id run gate) : run.enter options id = gate := by
  have notGone (live : run.aborted = false) : ¬ run.counted.aborted = true := by
    simp [Run.counted, live]
  have notOut (within : run.counted.outOfSteps options = false) :
      ¬ run.counted.outOfSteps options = true := by simp [within]
  show (if run.counted.aborted then _ else if run.counted.outOfSteps options then _ else _) = gate
  cases entered with
  | givenUp gone => exact if_pos gone
  | exhausted live gone =>
    rw [if_neg (notGone live), if_pos gone]
    rfl
  | refused live within active =>
    rw [if_neg (notGone live), if_neg (notOut within), if_pos active]
    rfl
  | failedBefore live within free memoize known =>
    rw [if_neg (notGone live), if_neg (notOut within), if_neg free, if_pos memoize]
    exact known ▸ rfl
  | matchedBefore live within free memoize known =>
    rw [if_neg (notGone live), if_neg (notOut within), if_neg free, if_pos memoize]
    exact known ▸ rfl
  | opened live within free unknown =>
    rw [if_neg (notGone live), if_neg (notOut within), if_neg free]
    split
    next memoize => exact unknown memoize ▸ rfl
    next => rfl

theorem enter_opened {options : ParseOptions} {id : Nat} {run : Run}
    (live : run.aborted = false) (within : run.counted.outOfSteps options = false)
    (free : (id, run.position) ∉ run.active) (unknown : run.known[(id, run.position)]? = none) :
    run.enter options id = .opened run.counted :=
  (Enters.opened live within free fun _ => unknown).enter_eq

theorem opened_of_enter {options : ParseOptions} {id : Nat} {run opened : Run}
    (gate : run.enter options id = .opened opened) :
    opened = run.counted ∧ run.aborted = false ∧ (id, run.position) ∉ run.active ∧
      (options.memoize = true → run.known[(id, run.position)]? = none) := by
  have entered := enters options id run
  rw [gate] at entered
  cases entered with
  | opened live within free unknown => exact ⟨rfl, live, free, unknown⟩

/-! ### The end of an attempt -/

section Keep

variable {options : ParseOptions} {attempt key : Attempt} {hits : Nat} {outcome other : Outcome}
  {run : Run}

@[simp] theorem keep_position :
    (run.keep options attempt hits outcome).position = run.position := by
  unfold keep; split <;> rfl

@[simp] theorem keep_active : (run.keep options attempt hits outcome).active = run.active := by
  unfold keep; split <;> rfl

@[simp] theorem keep_furthest :
    (run.keep options attempt hits outcome).furthest = run.furthest := by
  unfold keep; split <;> rfl

@[simp] theorem keep_guardHits :
    (run.keep options attempt hits outcome).guardHits = run.guardHits := by
  unfold keep; split <;> rfl

@[simp] theorem keep_aborted : (run.keep options attempt hits outcome).aborted = run.aborted := by
  unfold keep; split <;> rfl

@[simp] theorem keep_steps : (run.keep options attempt hits outcome).steps = run.steps := by
  unfold keep; split <;> rfl

/-- What is known after an outcome may have been kept. -/
theorem known_of_keep (known : (run.keep options attempt hits outcome).known[key]? = some other) :
    run.known[key]? = some other ∨
      key = attempt ∧ other = outcome ∧ options.memoize = true ∧ run.guardHits = hits ∧
        run.aborted = false := by
  unfold keep at known
  split at known
  next may =>
    simp only [Bool.and_eq_true, beq_iff_eq, Bool.not_eq_true'] at may
    rw [Std.TreeMap.getElem?_insert] at known
    split at known
    next same =>
      exact .inr ⟨(Std.LawfulEqCmp.eq_of_compare same).symm, (Option.some.inj known).symm,
        may.1.1, may.1.2, may.2⟩
    next => exact .inl known
  next => exact .inl known

theorem mem_known_keep (member : key ∈ run.known) :
    key ∈ (run.keep options attempt hits outcome).known := by
  unfold keep
  split
  · exact Std.TreeMap.mem_insert.mpr (.inr member)
  · exact member

theorem mem_of_mem_known_keep (member : key ∈ (run.keep options attempt hits outcome).known) :
    key ∈ run.known ∨ key = attempt := by
  obtain ⟨other, found⟩ := Option.isSome_iff_exists.mp
    (Std.TreeMap.mem_iff_isSome_getElem?.mp member)
  rcases known_of_keep found with before | ⟨same, -⟩
  · exact .inl (Std.TreeMap.mem_iff_isSome_getElem?.mpr (Option.isSome_of_eq_some before))
  · exact .inr same

theorem getElem?_known_keep_of_ne (different : key ≠ attempt) :
    (run.keep options attempt hits outcome).known[key]? = run.known[key]? := by
  unfold keep
  split
  · rw [Std.TreeMap.getElem?_insert, if_neg]
    exact fun same => different (Std.LawfulEqCmp.eq_of_compare same).symm
  · rfl

theorem getElem?_known_keep_self (memoize : options.memoize = true) (live : run.aborted = false)
    (silent : run.guardHits = hits) :
    (run.keep options attempt hits outcome).known[attempt]? = some outcome := by
  simp [keep, memoize, live, silent]

/-- An outcome is kept if the guard was silent. -/
theorem mem_known_keep_self (memoize : options.memoize = true) (live : run.aborted = false)
    (silent : run.guardHits = hits) :
    attempt ∈ (run.keep options attempt hits outcome).known := by
  simp [keep, memoize, live, silent]

end Keep

/-! ### Growth -/

/-- What a run can only add to. The attempts under way are the same before and after a task. -/
structure Grows (before after : Run) : Prop where
  active : after.active = before.active
  furthest : before.furthest ≤ after.furthest
  guardHits : before.guardHits ≤ after.guardHits
  known : ∀ attempt ∈ before.known, attempt ∈ after.known

namespace Grows

variable {before between after : Run}

theorem refl (run : Run) : run.Grows run :=
  ⟨rfl, Nat.le_refl _, Nat.le_refl _, fun _ member => member⟩

theorem trans (first : before.Grows between) (second : between.Grows after) :
    before.Grows after where
  active := second.active.trans first.active
  furthest := Nat.le_trans first.furthest second.furthest
  guardHits := Nat.le_trans first.guardHits second.guardHits
  known := fun attempt member => second.known attempt (first.known attempt member)

theorem moveTo (grown : before.Grows after) (position : Nat) :
    before.Grows (after.moveTo position) :=
  ⟨grown.active, grown.furthest, grown.guardHits, grown.known⟩

theorem finish {run inner : Run} {id : Nat} (grown : (run.counted.begin id).Grows inner) :
    run.Grows (inner.finish (id, run.position)) where
  active := by
    -- The attempt that is over stands in front, so its removal undoes `begin`.
    have active : inner.active = (id, run.position) :: run.active := grown.active
    simp [Run.finish, active]
  furthest := grown.furthest
  guardHits := grown.guardHits
  known := grown.known

theorem reach (grown : before.Grows after) : before.Grows after.reach :=
  ⟨grown.active, Nat.le_trans grown.furthest (Nat.le_max_left ..), grown.guardHits, grown.known⟩

theorem keep (grown : before.Grows after) (options : ParseOptions) (attempt : Attempt)
    (hits : Nat) (outcome : Outcome) : before.Grows (after.keep options attempt hits outcome) where
  active := keep_active.trans grown.active
  furthest := by rw [keep_furthest]; exact grown.furthest
  guardHits := by rw [keep_guardHits]; exact grown.guardHits
  known := fun key member => mem_known_keep (grown.known key member)

end Grows

theorem Enters.grows {options : ParseOptions} {id : Nat} {run after : Run} {tree : Option Tree}
    (gate : Enters options id run (.answered tree after)) : run.Grows after := by
  cases gate with
  | refused => exact ⟨rfl, Nat.le_refl _, Nat.le_succ _, fun _ member => member⟩
  | _ => exact ⟨rfl, Nat.le_refl _, Nat.le_refl _, fun _ member => member⟩

end Run

end Constituency
