import Constituency.Proofs.Regex.Search
import Constituency.Proofs.Regex.Ways
import Mathlib.Data.List.ProdSigma

/-!
# What matches is found

Each match of a pattern is a run of its program. A search follows one run at a time and never goes
twice through the same address at the same position, so it does not follow all runs. But what it
leaves out starts at a place where it has been. When it ends without a result, the places where it
has been are closed under the instructions, since there is room to be everywhere; then no run ends
at an instruction that accepts, and there is no match.
-/
namespace Constituency.Regex

variable {program : Array Inst} {text : Array Char}

/-! ### Places -/

/-- An address and a position. -/
def Thread.place (thread : Thread) : Nat × Nat := (thread.address, thread.position)

/-- Where an instruction leads does not depend on what was saved. -/
theorem map_place_next {thread other : Thread} (inst : Inst) (same : other.place = thread.place) :
    (inst.next text other).map Thread.place = (inst.next text thread).map Thread.place := by
  obtain ⟨address, position, saved⟩ := thread
  obtain ⟨otherAddress, otherPosition, otherSaved⟩ := other
  obtain ⟨rfl, rfl⟩ := Prod.mk.inj same
  cases inst with
  | consume s =>
    rw [Inst.next, Inst.next]
    dsimp only
    split
    · split <;> rfl
    · rfl
  | require condition =>
    rw [Inst.next, Inst.next]
    dsimp only
    split <;> rfl
  | save slot | jump target | fork first second | accept => rfl

/-- No instruction leads beyond the end of the text. -/
theorem position_le_of_next {inst : Inst} {thread next : Thread}
    (within : thread.position ≤ text.size) (leads : next ∈ inst.next text thread) :
    next.position ≤ text.size := by
  cases inst with
  | consume s =>
    simp only [Inst.next] at leads
    split at leads
    next c here =>
      have before : thread.position < text.size := (Array.getElem?_eq_some_iff.mp here).1
      split at leads
      next =>
        obtain rfl := List.mem_singleton.mp leads
        exact before
      next => contradiction
    next => contradiction
  | require condition =>
    simp only [Inst.next] at leads
    split at leads
    next =>
      obtain rfl := List.mem_singleton.mp leads
      exact within
    next => contradiction
  | save slot | jump target =>
    obtain rfl := List.mem_singleton.mp leads
    exact within
  | fork first second =>
    simp only [Inst.next, List.mem_cons, List.not_mem_nil, or_false] at leads
    rcases leads with rfl | rfl
    · exact within
    · exact within
  | accept => contradiction

theorem length_next_le (inst : Inst) (thread : Thread) : (inst.next text thread).length ≤ 2 := by
  unfold Inst.next
  split
  · split
    · split <;> simp
    · simp
  · split <;> simp
  all_goals simp

/-! ### Where a search has been -/

/-- Whether nothing is accepted at a place, and all that it leads to is in a set. -/
def IsLeft (program : Array Inst) (text : Array Char) (seen : Nat × Nat → Prop)
    (place : Nat × Nat) : Prop :=
  ∀ (thread : Thread) (inst : Inst), thread.place = place →
    program[thread.address]? = some inst →
    inst ≠ .accept ∧ ∀ next ∈ inst.next text thread, seen next.place

/-- From a place where it has been a search cannot get to one where it has not been. -/
theorem seen_of_run {seen : Nat × Nat → Prop} {count : Nat} {first last : Thread}
    (left : ∀ place, seen place → IsLeft program text seen place)
    (run : Run program text count first last) (start : seen first.place) : seen last.place := by
  induction run with
  | done => exact start
  | step here leads later ih =>
    obtain ⟨-, further⟩ := left _ start _ _ rfl here
    exact ih (further _ leads)

/-- The places where a search is at its end: those that wait, and all that it finds from there. -/
structure Explored (program : Array Inst) (text : Array Char)
    (visited : Std.TreeSet (Nat × Nat) comparePair) (waiting : List Thread)
    (seen : Nat × Nat → Prop) : Prop where
  start : ∀ thread ∈ waiting, seen thread.place
  old : ∀ place, visited.contains place = true → seen place
  left : ∀ place, seen place → visited.contains place = false → IsLeft program text seen place

namespace Explored

variable {visited : Std.TreeSet (Nat × Nat) comparePair} {waiting : List Thread} {thread : Thread}
  {seen : Nat × Nat → Prop}

theorem nothing_waits : Explored program text visited [] (visited.contains · = true) where
  start := by simp
  old place been := been
  left place been new := by
    rw [been] at new
    contradiction

/-- Nothing has to be done where the search has been. -/
theorem again (been : visited.contains thread.place = true)
    (explored : Explored program text visited waiting seen) :
    Explored program text visited (thread :: waiting) seen where
  start := List.forall_mem_cons.mpr ⟨explored.old _ been, explored.start⟩
  old := explored.old
  left := explored.left

/-- Where there is no instruction, nothing leads on. -/
theorem nowhere (missing : program[thread.address]? = none)
    (explored : Explored program text visited waiting seen) :
    Explored program text visited (thread :: waiting) fun place =>
      place = thread.place ∨ seen place where
  start := List.forall_mem_cons.mpr
    ⟨.inl rfl, fun other member => .inr (explored.start other member)⟩
  old place been := .inr (explored.old place been)
  left := by
    intro place inside unseen other inst own there
    by_cases same : place = thread.place
    · have address : other.address = thread.address := congrArg Prod.fst (own.trans same)
      rw [address, missing] at there
      contradiction
    · obtain ⟨refused, further⟩ :=
        explored.left place (inside.resolve_left same) unseen other inst own there
      exact ⟨refused, fun next leads => .inr (further next leads)⟩

/-- A place is left by the threads that go on from it. -/
theorem insert {inst : Inst} (there : program[thread.address]? = some inst)
    (goesOn : inst ≠ .accept)
    (explored : Explored program text (visited.insert thread.place)
      (inst.next text thread ++ waiting) seen) :
    Explored program text visited (thread :: waiting) seen := by
  obtain ⟨further, rest⟩ := List.forall_mem_append.mp explored.start
  constructor
  · exact List.forall_mem_cons.mpr ⟨explored.old _ (by simp), rest⟩
  · intro place been
    exact explored.old place (by simp [been])
  · intro place inside unseen
    by_cases same : place = thread.place
    · -- Another thread at this place goes on just as the one that has left it.
      rintro other otherInst rfl found
      have address : other.address = thread.address := congrArg Prod.fst same
      rw [address, there] at found
      obtain rfl := Option.some.inj found
      refine ⟨goesOn, fun next leads => ?_⟩
      have reached : next.place ∈ (inst.next text thread).map Thread.place :=
        map_place_next inst same ▸ List.mem_map_of_mem leads
      obtain ⟨way, ownLeads, ends⟩ := List.mem_map.mp reached
      exact ends ▸ further way ownLeads
    · apply explored.left place inside
      rw [Std.TreeSet.contains_insert, unseen, Bool.or_false]
      simpa using fun equal => same equal.symm

end Explored

/--
A search that ends without a result, though there is room to go on, has explored all that waits. The
places that are still new to it are listed, and each of them takes room for the two threads that may
go on from it.
-/
theorem exists_explored_of_follow {room : Nat} {visited : Std.TreeSet (Nat × Nat) comparePair}
    {waiting : List Thread} {fresh : List (Nat × Nat)}
    (listed : ∀ place, place.1 < program.size → place.2 ≤ text.size →
      visited.contains place = false → place ∈ fresh)
    (within : ∀ thread ∈ waiting, thread.position ≤ text.size)
    (enough : 2 * fresh.length + waiting.length < room)
    (nothing : follow program text room visited waiting = none) :
    ∃ seen, Explored program text visited waiting seen := by
  induction room generalizing visited waiting fresh with
  | zero => contradiction
  | succ room ih =>
    cases waiting with
    | nil => exact ⟨_, .nothing_waits⟩
    | cons thread waiting =>
      rw [List.length_cons] at enough
      obtain ⟨here, others⟩ := List.forall_mem_cons.mp within
      rw [follow] at nothing
      split at nothing
      next been => exact (ih listed others (by omega) nothing).imp fun _ => .again been
      next new =>
        split at nothing
        next => contradiction
        next inst goesOn there =>
          -- The place is new and in range, so it is one of those listed, and is so no longer.
          have inRange : thread.address < program.size := (Array.getElem?_eq_some_iff.mp there).1
          have own : thread.place ∈ fresh := listed _ inRange here (Bool.eq_false_iff.mpr new)
          have some : 0 < fresh.length := List.length_pos_of_mem own
          have fewer : (fresh.erase thread.place).length = fresh.length - 1 :=
            List.length_erase_of_mem own
          have two : (inst.next text thread).length ≤ 2 := length_next_le inst thread
          have listed' : ∀ place, place.1 < program.size → place.2 ≤ text.size →
              (visited.insert thread.place).contains place = false →
              place ∈ fresh.erase thread.place := by
            intro place low high unseen
            rw [Std.TreeSet.contains_insert, Bool.or_eq_false_iff] at unseen
            have different : place ≠ thread.place := by
              rintro rfl
              simp at unseen
            exact (List.mem_erase_of_ne different).mpr (listed place low high unseen.2)
          have within' : ∀ next ∈ inst.next text thread ++ waiting, next.position ≤ text.size :=
            List.forall_mem_append.mpr ⟨fun next leads => position_le_of_next here leads, others⟩
          have room' : 2 * (fresh.erase thread.place).length +
              (inst.next text thread ++ waiting).length < room := by
            rw [fewer, List.length_append]
            omega
          exact (ih listed' within' room' nothing).imp fun _ => .insert there goesOn
        next missing =>
          obtain ⟨seen, explored⟩ := ih listed others (by omega) nothing
          exact ⟨_, explored.nowhere missing⟩

/-- A run that ends at an instruction that accepts keeps a search from ending without a result. -/
theorem search_ne_none_of_run {count : Nat} {last : Thread}
    (run : Run program text count ⟨0, 0, []⟩ last)
    (accepts : program[last.address]? = some .accept) : search program text ≠ none := by
  intro nothing
  let places := (List.range program.size) ×ˢ (List.range (text.size + 1))
  have listed : ∀ place, place.1 < program.size → place.2 ≤ text.size →
      (∅ : Std.TreeSet (Nat × Nat) comparePair).contains place = false → place ∈ places := by
    intro place low high _
    exact List.mem_product.mpr ⟨List.mem_range.mpr low, List.mem_range.mpr (Nat.lt_succ_of_le high)⟩
  have room : 2 * places.length + [Thread.mk 0 0 []].length < searchRoom program text := by
    simp [places, searchRoom, List.length_product]
  obtain ⟨seen, explored⟩ := exists_explored_of_follow listed (by simp) room nothing
  have all : ∀ place, seen place → IsLeft program text seen place :=
    fun place been => explored.left place been (by simp)
  have start : seen (Thread.mk 0 0 []).place := explored.start _ (List.mem_singleton_self _)
  have final : seen last.place := seen_of_run all run start
  obtain ⟨refused, -⟩ := all _ final last .accept rfl accepts
  exact refused rfl

/-! ### What is found -/

namespace Node

/-- A set goes over a stretch of characters that are all in it, one round each. -/
theorem rounds_set {s : CharSet} {start count : Nat} (within : start + count ≤ text.size)
    (all : ∀ index c, start ≤ index → index < start + count → text[index]? = some c →
      s.contains c = true) :
    Rounds text (.set s) count start (start + count) [] := by
  induction count with
  | zero => exact .none
  | succ count ih =>
    have here : text[start + count]? = some text[start + count] := Array.getElem?_eq_getElem within
    have member := all _ _ (Nat.le_add_right ..) (Nat.lt_succ_self _) here
    have front := ih (Nat.le_of_succ_le within) fun index c low high =>
      all index c low (Nat.lt_succ_of_lt high)
    exact front.append (.more (.set here member) .none)

/-- Any number of characters may be skipped. -/
theorem matches_skip {count : Nat} (within : count ≤ text.size) :
    (Node.rep false 0 none (.set .any)).Matches text 0 count [] := by
  have rounds : Rounds text (.set .any) count 0 (0 + count) [] :=
    rounds_set (by rwa [Nat.zero_add]) fun _ c _ _ _ => CharSet.contains_any c
  rw [Nat.zero_add] at rounds
  exact .rep_of_rounds rounds (Nat.zero_le _) (by simp)

end Node

/-- A pattern that matches somewhere in a text is found there. -/
theorem search_isSome_of_matches {node : Node} {start stop : Nat} {saved : List (Nat × Nat)}
    (matched : node.Matches text start stop saved) (within : start ≤ text.size) :
    (search node.program text).isSome = true := by
  have searched : node.searched.Matches text 0 stop _ :=
    .seq (Node.matches_skip within) (.group matched)
  have placed := Node.placed_program node
  obtain ⟨count, run⟩ := isOpen node.searched placed.left [] searched
  have accepts : node.program[0 + node.searched.size]? = some .accept := by
    have here := placed.right.head
    rwa [Node.length_code] at here
  exact Option.isSome_iff_ne_none.mpr (search_ne_none_of_run run accepts)

end Constituency.Regex
