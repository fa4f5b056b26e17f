import Constituency.Proofs.Regex.Code

/-!
# What a search finds

A search follows runs of the program, and gives the end of one of them. Since the only instruction
that accepts is the last one, that run comes through the code of the whole pattern: what is found is
a match, and what was saved are the positions that the match saves.
-/
namespace Constituency.Regex

variable {program : Array Inst} {text : Array Char}

/-- A thread that is accepted was waiting, or comes from one that was. -/
theorem run_of_follow {room : Nat} {visited : Std.TreeSet (Nat × Nat) comparePair}
    {waiting : List Thread} {last : Thread}
    (found : follow program text room visited waiting = some last) :
    program[last.address]? = some .accept ∧
      ∃ thread ∈ waiting, ∃ count, Run program text count thread last := by
  induction room generalizing visited waiting with
  | zero => simp [follow] at found
  | succ room ih =>
    cases waiting with
    | nil => simp [follow] at found
    | cons thread waiting =>
      have later : (∃ other ∈ waiting, ∃ count, Run program text count other last) →
          ∃ other ∈ thread :: waiting, ∃ count, Run program text count other last :=
        fun ⟨other, member, run⟩ => ⟨other, List.mem_cons_of_mem _ member, run⟩
      rw [follow] at found
      split at found
      next => exact (ih found).imp_right later
      next =>
        split at found
        next accepts =>
          obtain rfl := Option.some.inj found
          exact ⟨accepts, thread, List.mem_cons_self .., 0, .done thread⟩
        next inst _ here =>
          obtain ⟨accepts, next, member, count, run⟩ := ih found
          refine ⟨accepts, ?_⟩
          rcases List.mem_append.mp member with leads | member
          · exact ⟨thread, List.mem_cons_self .., count + 1, .step here leads run⟩
          · exact later ⟨next, member, count, run⟩
        next => exact (ih found).imp_right later

namespace Node

theorem accept_not_mem_copies {count size base : Nat} {code : Nat → List Inst}
    (absent : ∀ base, Inst.accept ∉ code base) : .accept ∉ copies count size code base := by
  simp [copies, absent]

theorem accept_ne_choice (greedy : Bool) (inside outside : Nat) :
    Inst.accept ≠ .choice greedy inside outside := by
  cases greedy <;> simp [Inst.choice]

/-- No code accepts on its own. -/
theorem accept_not_mem_code (node : Node) (base : Nat) : .accept ∉ node.code base := by
  induction node generalizing base with
  | empty | set | look => simp [code]
  | seq first second ihFirst ihSecond => simp [code, ihFirst, ihSecond]
  | alt first second ihFirst ihSecond => simp [code, ihFirst, ihSecond]
  | rep greedy low high body ih =>
    cases high with
    | none =>
      cases low with
      | zero =>
        simp only [code, List.cons_append, List.mem_cons, List.mem_append, List.not_mem_nil]
        split <;> simp [accept_ne_choice, ih]
      | succ low => simp [code, accept_ne_choice, accept_not_mem_copies ih]
    | some high =>
      have optional (stop base : Nat) :
          Inst.accept ∉ .choice greedy (base + 1) stop :: body.code (base + 1) := by
        simp [accept_ne_choice, ih]
      simp only [code, List.mem_append, accept_not_mem_copies ih, false_or]
      exact accept_not_mem_copies (optional _)
  | group index body ih => simp [code, ih]

/-- A pattern that skips ahead, as few characters as possible, and saves its ends as group 0. -/
def searched (node : Node) : Node := .seq (.rep false 0 none (.set .any)) (.group 0 node)

theorem toList_program (node : Node) : node.program.toList = node.searched.code 0 ++ [.accept] := by
  have skips : skipAhead = (Node.rep false 0 none (.set .any)).code 0 := by decide +kernel
  rw [program, skips]
  rfl

/-- No instruction but the last one accepts. -/
theorem size_le_of_accepts {node : Node} {address : Nat}
    (accepts : node.program[address]? = some .accept) : node.searched.size ≤ address := by
  rw [← length_code node.searched 0]
  refine Nat.le_of_not_lt fun inside => ?_
  rw [← Array.getElem?_toList, toList_program, List.getElem?_append_left inside] at accepts
  exact accept_not_mem_code _ _ (List.mem_of_getElem? accepts)

theorem placed_program (node : Node) :
    Placed node.program 0 (node.searched.code 0 ++ [.accept]) := by
  intro index inst found
  rwa [Nat.zero_add, ← Array.getElem?_toList, toList_program]

/-- An accepted thread stands behind the code of the pattern, with what the pattern saved. -/
theorem matches_of_search {node : Node} {last : Thread}
    (found : search node.program text = some last) :
    node.searched.Matches text 0 last.position last.saved := by
  obtain ⟨accepts, thread, waiting, count, run⟩ := run_of_follow found
  obtain rfl := List.mem_singleton.mp waiting
  have placed := placed_program node
  obtain ⟨left, -, stop, saved, matched, rest⟩ :=
    isRouted node.searched placed.left run (by simpa using size_le_of_accepts accepts)
  have final : node.program[0 + node.searched.size]? = some .accept := by
    have here := placed.right.head
    rwa [length_code] at here
  -- Nothing leads on from an instruction that accepts, so the run ends there.
  cases rest with
  | done => simpa using matched
  | step here leads later =>
    obtain rfl := Option.some.inj (final.symm.trans here)
    contradiction

end Node

/--
What is found is a match of the pattern somewhere in the text. Its ends are saved as group 0, with
what the pattern saves in between.
-/
theorem search_sound {node : Node} {last : Thread} (found : search node.program text = some last) :
    ∃ start saved, node.Matches text start last.position saved ∧
      last.saved = (1, last.position) :: (saved ++ [(0, start)]) := by
  have matched := node.matches_of_search found
  obtain ⟨start, skipped, whole, skips, grouped, all⟩ := Node.matches_seq.mp matched
  obtain ⟨saved, inside, rfl⟩ := Node.matches_group.mp grouped
  obtain rfl := skips.saved_eq_nil rfl
  exact ⟨start, saved, inside, by simpa using all⟩

end Constituency.Regex
