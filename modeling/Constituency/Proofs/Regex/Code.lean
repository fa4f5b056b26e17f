import Constituency.Proofs.Regex.Matches
import Constituency.Regex.Search

/-!
# What the code of a pattern does

The code of a node is entered at its first address and left at the address behind its last one, and
whoever comes through has matched the node. Loops and copies jump about inside, so the proof looks
at runs that end further on: each of them comes by the end of the code, and has fewer instructions
to go from there.
-/
namespace Constituency.Regex

/-! ### Runs -/

section Runs

variable (program : Array Inst) (text : Array Char)

/-- So many instructions lead from one thread to another. -/
inductive Run : Nat → Thread → Thread → Prop
  | done (thread : Thread) : Run 0 thread thread
  | step {count : Nat} {thread next last : Thread} {inst : Inst}
    (here : program[thread.address]? = some inst) (leads : next ∈ inst.next text thread)
    (later : Run count next last) : Run (count + 1) thread last

/--
A route from one address to another: every run that passes the first one and ends behind the second
one comes by the second one, and matches on the way.
-/
def Route (matched : Nat → Nat → List (Nat × Nat) → Prop) (entry exit : Nat) : Prop :=
  ∀ ⦃count position : Nat⦄ ⦃before : List (Nat × Nat)⦄ ⦃last : Thread⦄,
    Run program text count ⟨entry, position, before⟩ last → exit ≤ last.address →
    ∃ left ≤ count, ∃ stop saved, matched position stop saved ∧
      Run program text left ⟨exit, stop, saved ++ before⟩ last

end Runs

variable {program : Array Inst} {text : Array Char}

/-- A run that goes on from an address executes the instruction there. -/
theorem Run.first {count : Nat} {thread last : Thread} {inst : Inst}
    (run : Run program text count thread last) (here : program[thread.address]? = some inst)
    (apart : thread.address ≠ last.address) :
    ∃ left < count, ∃ next ∈ inst.next text thread, Run program text left next last := by
  cases run with
  | done => contradiction
  | step found leads later =>
    obtain rfl := Option.some.inj (here.symm.trans found)
    exact ⟨_, Nat.lt_succ_self _, _, leads, later⟩

theorem mem_next_choice {greedy : Bool} {inside outside : Nat} {thread next : Thread} :
    next ∈ (Inst.choice greedy inside outside).next text thread ↔
      next = { thread with address := inside } ∨ next = { thread with address := outside } := by
  cases greedy <;> simp [Inst.choice, Inst.next, or_comm]

/-- A run that goes on from a choice does so on one of its two ways. -/
theorem Run.choose {count : Nat} {thread last : Thread} {greedy : Bool} {inside outside : Nat}
    (run : Run program text count thread last)
    (here : program[thread.address]? = some (.choice greedy inside outside))
    (apart : thread.address ≠ last.address) : ∃ left < count,
      Run program text left { thread with address := inside } last ∨
      Run program text left { thread with address := outside } last := by
  obtain ⟨left, less, next, member, rest⟩ := run.first here apart
  rcases mem_next_choice.mp member with rfl | rfl
  · exact ⟨left, less, .inl rest⟩
  · exact ⟨left, less, .inr rest⟩

/-! ### Routes -/

namespace Route

variable {matched other : Nat → Nat → List (Nat × Nat) → Prop} {entry middle exit : Nat}

theorem mono (route : Route program text matched entry exit)
    (weaker : ∀ {start stop saved}, matched start stop saved → other start stop saved) :
    Route program text other entry exit := by
  intro count position before last run behind
  obtain ⟨left, less, stop, saved, found, rest⟩ := route run behind
  exact ⟨left, less, stop, saved, weaker found, rest⟩

/-- No way at all. -/
theorem stay (nothing : ∀ position, matched position position []) :
    Route program text matched entry entry := by
  intro count position before last run _
  exact ⟨count, Nat.le_refl _, position, [], nothing position, run⟩

/-- One route behind the other, where no way leads back. -/
theorem trans {both : Nat → Nat → List (Nat × Nat) → Prop}
    (front : Route program text matched entry middle)
    (back : Route program text other middle exit) (forward : middle ≤ exit)
    (join : ∀ {start middle stop saved later}, matched start middle saved →
      other middle stop later → both start stop (later ++ saved)) :
    Route program text both entry exit := by
  intro count position before last run behind
  obtain ⟨left, less, middle, saved, found, rest⟩ := front run (Nat.le_trans forward behind)
  obtain ⟨left', less', stop, later, found', rest'⟩ := back rest behind
  refine ⟨left', Nat.le_trans less' less, stop, later ++ saved, join found found', ?_⟩
  simpa using rest'

/-- An instruction that only goes on to the next address. -/
theorem of_inst {inst : Inst} (here : program[entry]? = some inst)
    (leads : ∀ {position before next}, next ∈ inst.next text ⟨entry, position, before⟩ →
      ∃ stop saved, matched position stop saved ∧ next = ⟨entry + 1, stop, saved ++ before⟩) :
    Route program text matched entry (entry + 1) := by
  intro count position before last run behind
  obtain ⟨left, less, next, member, rest⟩ := run.first here (by dsimp only; omega)
  obtain ⟨stop, saved, found, rfl⟩ := leads member
  exact ⟨left, Nat.le_of_lt less, stop, saved, found, rest⟩

/-- Something that may be left out. -/
theorem choice {greedy : Bool}
    (here : program[entry]? = some (.choice greedy (entry + 1) exit)) (forward : entry < exit)
    (inside : Route program text matched (entry + 1) exit)
    (skipped : ∀ position, matched position position []) :
    Route program text matched entry exit := by
  intro count position before last run behind
  obtain ⟨left, less, taken | left_out⟩ := run.choose here (by dsimp only; omega)
  · obtain ⟨left', less', found⟩ := inside taken behind
    exact ⟨left', by omega, found⟩
  · exact ⟨left, Nat.le_of_lt less, position, [], skipped position, left_out⟩

end Route

/-! ### Code in a program -/

theorem Node.copies_succ (count size : Nat) (code : Nat → List Inst) (base : Nat) :
    Node.copies (count + 1) size code base =
      Node.copies count size code base ++ code (base + count * size) := by
  simp [Node.copies, List.range_succ]

theorem Node.copies_succ' (count size : Nat) (code : Nat → List Inst) (base : Nat) :
    Node.copies (count + 1) size code base =
      code base ++ Node.copies count size code (base + size) := by
  simp [Node.copies, List.range_succ_eq_map, List.flatMap_map, Nat.succ_mul, Nat.add_assoc,
    Nat.add_comm size]

/-- A program holds some code at an address. -/
def Placed (program : Array Inst) (base : Nat) (code : List Inst) : Prop :=
  ∀ index inst, code[index]? = some inst → program[base + index]? = some inst

namespace Placed

variable {base : Nat} {inst : Inst} {code front back : List Inst}

theorem head (placed : Placed program base (inst :: code)) : program[base]? = some inst :=
  placed 0 inst rfl

theorem tail (placed : Placed program base (inst :: code)) : Placed program (base + 1) code := by
  intro index inst found
  rw [Nat.add_assoc, Nat.add_comm 1]
  exact placed (index + 1) inst (by simpa using found)

theorem left (placed : Placed program base (front ++ back)) : Placed program base front := by
  intro index inst found
  have inside : index < front.length := (List.getElem?_eq_some_iff.mp found).1
  exact placed index inst (by rw [List.getElem?_append_left inside, found])

theorem right (placed : Placed program base (front ++ back)) :
    Placed program (base + front.length) back := by
  intro index inst found
  rw [Nat.add_assoc]
  apply placed
  rw [List.getElem?_append_right (by omega), Nat.add_sub_cancel_left, found]

/-! Where the pieces of the code of a node stand. -/

variable {greedy : Bool} {low index : Nat} {first second body : Node}

/-- The first alternative stands behind the fork, and a jump over the second one behind it. -/
theorem alt (placed : Placed program base ((Node.alt first second).code base)) :
    program[base]? = some (.fork (base + 1) (base + first.size + 2)) ∧
      Placed program (base + 1) (first.code (base + 1)) ∧
      program[base + 1 + first.size]? = some (.jump (base + first.size + 2 + second.size)) ∧
      Placed program (base + first.size + 2) (second.code (base + first.size + 2)) := by
  rw [Node.code] at placed
  refine ⟨placed.left.head, placed.left.tail, ?_, ?_⟩
  · have here := placed.right.head
    rwa [List.length_cons, Node.length_code, ← Nat.add_assoc, Nat.add_right_comm] at here
  · have here := placed.right.tail
    rwa [List.length_cons, Node.length_code] at here

theorem group (placed : Placed program base ((Node.group index body).code base)) :
    program[base]? = some (.save (2 * index)) ∧
      Placed program (base + 1) (body.code (base + 1)) ∧
      program[base + 1 + body.size]? = some (.save (2 * index + 1)) := by
  rw [Node.code] at placed
  refine ⟨placed.left.head, placed.left.tail, ?_⟩
  have here := placed.right.head
  rwa [List.length_cons, Node.length_code, ← Nat.add_assoc, Nat.add_right_comm] at here

/-- A loop turns behind its part, to the entry or to one of the ways that lead on from there. -/
theorem star (placed : Placed program base ((Node.rep greedy 0 none body).code base)) :
    program[base]? = some (.choice greedy (base + 1) (base + body.size + 2)) ∧
      Placed program (base + 1) (body.code (base + 1)) ∧
      program[base + 1 + body.size]? = some (if body.isProductive then .jump base
        else .choice greedy (base + 1) (base + body.size + 2)) := by
  rw [Node.code] at placed
  refine ⟨placed.left.head, placed.left.tail, ?_⟩
  have here := placed.right.head
  rwa [List.length_cons, Node.length_code, ← Nat.add_assoc, Nat.add_right_comm] at here

/-- The last of the rounds that are needed is the part of the loop. -/
theorem plus (placed : Placed program base ((Node.rep greedy (low + 1) none body).code base)) :
    Placed program base (Node.copies low body.size body.code base) ∧
      Placed program (base + low * body.size) (body.code (base + low * body.size)) ∧
      program[base + low * body.size + body.size]? = some
        (.choice greedy (base + low * body.size) (base + low * body.size + body.size + 1)) := by
  change Placed program base (Node.copies (low + 1) body.size body.code base ++
    [.choice greedy (base + low * body.size) (base + low * body.size + body.size + 1)]) at placed
  have copies := placed.left
  rw [Node.copies_succ] at copies
  refine ⟨copies.left, ?_, ?_⟩
  · have here := copies.right
    rwa [Node.length_copies body.length_code] at here
  · have here := placed.right.head
    rwa [Node.length_copies body.length_code, Nat.succ_mul, ← Nat.add_assoc] at here

end Placed

/-! ### Loops -/

namespace Route

variable {body : Node} {entry turn exit : Nat}

/-- A loop: each round matches the node, and then goes back or out. -/
theorem loop (round : Route program text (body.Matches text) entry turn) (forward : turn ≤ exit)
    (turns : ∀ {count position before last}, Run program text count ⟨turn, position, before⟩ last →
      exit ≤ last.address → ∃ left < count,
        Run program text left ⟨entry, position, before⟩ last ∨
        Run program text left ⟨exit, position, before⟩ last) :
    Route program text
      (fun start stop saved => ∃ count, 0 < count ∧ body.Rounds text count start stop saved)
      entry exit := by
  intro count
  induction count using Nat.strongRecOn with
  | ind count ih =>
    intro position before last run behind
    obtain ⟨atTurn, less, middle, saved, found, rest⟩ := round run (Nat.le_trans forward behind)
    obtain ⟨turned, less', back | out⟩ := turns rest behind
    · obtain ⟨left, shorter, stop, later, ⟨rounds, -, others⟩, rest⟩ :=
        ih turned (by omega) back behind
      exact ⟨left, by omega, stop, later ++ saved, ⟨rounds + 1, Nat.succ_pos _, .more found others⟩,
        by simpa using rest⟩
    · exact ⟨turned, by omega, middle, saved, ⟨1, Nat.one_pos, .more found .none⟩, out⟩

end Route

/-! ### The code of a node -/

/-- Wherever the code of a node stands in a program, whoever comes through it matches the node. -/
def IsRouted (program : Array Inst) (text : Array Char) (node : Node) : Prop :=
  ∀ ⦃base : Nat⦄, Placed program base (node.code base) →
    Route program text (node.Matches text) base (base + node.size)

section Nodes

variable {base index low high : Nat} {greedy : Bool} {first second body : Node}

theorem isRouted_set (s : CharSet) : IsRouted program text (.set s) := by
  intro base placed
  refine .of_inst placed.head fun {position before next} member => ?_
  simp only [Inst.next] at member
  split at member
  next c here =>
    split at member
    next inside => exact ⟨position + 1, [], .set here inside, List.mem_singleton.mp member⟩
    next => contradiction
  next => contradiction

theorem isRouted_look (condition : Look) : IsRouted program text (.look condition) := by
  intro base placed
  refine .of_inst placed.head fun {position before next} member => ?_
  simp only [Inst.next] at member
  split at member
  next holds => exact ⟨position, [], .look holds, List.mem_singleton.mp member⟩
  next => contradiction

theorem isRouted_seq (front : IsRouted program text first) (back : IsRouted program text second) :
    IsRouted program text (.seq first second) := by
  intro base placed
  have behind := placed.right
  rw [Node.length_code] at behind
  rw [Node.size, ← Nat.add_assoc]
  exact (front placed.left).trans (back behind) (Nat.le_add_right _ _) .seq

theorem isRouted_alt (left : IsRouted program text first) (right : IsRouted program text second) :
    IsRouted program text (.alt first second) := by
  intro base placed
  obtain ⟨fork, inFirst, jump, inSecond⟩ := placed.alt
  have stop : base + (Node.alt first second).size = base + first.size + 2 + second.size := by
    rw [Node.size]
    omega
  rw [stop]
  intro count position before last run behind
  obtain ⟨split, less, next, member, rest⟩ := run.first fork (by dsimp only; omega)
  simp only [Inst.next, List.mem_cons, List.not_mem_nil, or_false] at member
  rcases member with rfl | rfl
  · obtain ⟨atJump, less', stop, saved, found, rest⟩ := left inFirst rest (by omega)
    -- The first alternative ends with a jump over the second one.
    obtain ⟨remaining, jumped, next, member, rest⟩ := rest.first jump (by dsimp only; omega)
    obtain rfl := List.mem_singleton.mp member
    exact ⟨remaining, by omega, stop, saved, .left found, rest⟩
  · obtain ⟨remaining, less', stop, saved, found, rest⟩ := right inSecond rest behind
    exact ⟨remaining, by omega, stop, saved, .right found, rest⟩

theorem isRouted_group (inside : IsRouted program text body) :
    IsRouted program text (.group index body) := by
  intro base placed
  obtain ⟨openHere, within, close⟩ := placed.group
  have stop : base + (Node.group index body).size = base + 1 + body.size + 1 := by
    rw [Node.size]
    omega
  rw [stop]
  intro count position before last run behind
  obtain ⟨opened, less, next, member, rest⟩ := run.first openHere (by dsimp only; omega)
  obtain rfl := List.mem_singleton.mp member
  obtain ⟨atClose, less', stop, saved, found, rest⟩ := inside within rest (by omega)
  obtain ⟨closed, shorter, next, member, rest⟩ := rest.first close (by dsimp only; omega)
  obtain rfl := List.mem_singleton.mp member
  exact ⟨closed, by omega, stop, _, .group found, by simpa using rest⟩

/-! ### Repetitions -/

/-- A loop that need not be entered. -/
theorem isRouted_star (inside : IsRouted program text body) :
    IsRouted program text (.rep greedy 0 none body) := by
  intro base placed
  obtain ⟨enter, within, turn⟩ := placed.star
  have rounds : Route program text
      (fun start stop saved => ∃ count, 0 < count ∧ body.Rounds text count start stop saved)
      (base + 1) (base + body.size + 2) := by
    refine (inside within).loop (by omega) fun {count position before last} run behind => ?_
    split at turn
    · -- A round that consumes something goes back to the entry, and on from there.
      obtain ⟨left, less, next, member, rest⟩ := run.first turn (by dsimp only; omega)
      obtain rfl := List.mem_singleton.mp member
      obtain ⟨left', less', ways⟩ := rest.choose enter (by dsimp only; omega)
      exact ⟨left', by omega, ways⟩
    · exact run.choose turn (by dsimp only; omega)
  have forward : base < base + body.size + 2 := by omega
  refine Route.choice enter forward (rounds.mono ?_) fun position => .stop
  rintro start stop saved ⟨count, -, rounds⟩
  exact .rep_of_rounds rounds (Nat.zero_le _) (by simp)

/-- The rounds that a repetition needs. -/
theorem route_needed {count : Nat} (inside : IsRouted program text body)
    (placed : Placed program base (Node.copies count body.size body.code base)) :
    Route program text (body.Rounds text count) base (base + count * body.size) := by
  induction count with
  | zero =>
    rw [Nat.zero_mul]
    exact .stay fun position => .none
  | succ count ih =>
    rw [Node.copies_succ] at placed
    have last := placed.right
    rw [Node.length_copies body.length_code] at last
    rw [Nat.succ_mul, ← Nat.add_assoc]
    refine (ih placed.left).trans (inside last) (Nat.le_add_right _ _) ?_
    intro start middle stop saved later rounds round
    simpa using rounds.append (.more round .none)

/-- The rounds that a repetition allows; whoever leaves one out leaves out all behind it. -/
theorem route_allowed {count stop : Nat} (inside : IsRouted program text body)
    (placed : Placed program base (Node.copies count (body.size + 1)
      (fun base => .choice greedy (base + 1) stop :: body.code (base + 1)) base))
    (stop_eq : stop = base + count * (body.size + 1)) :
    Route program text
      (fun start stop saved => ∃ taken ≤ count, body.Rounds text taken start stop saved)
      base stop := by
  induction count generalizing base with
  | zero =>
    rw [stop_eq, Nat.zero_mul]
    exact .stay fun position => ⟨0, Nat.le_refl _, .none⟩
  | succ count ih =>
    rw [Node.copies_succ'] at placed
    rw [Nat.succ_mul] at stop_eq
    have others := placed.right
    rw [List.length_cons, Node.length_code] at others
    have forward : base + (body.size + 1) ≤ stop := by omega
    have behind := ih others (by omega)
    rw [← Nat.add_assoc, Nat.add_right_comm] at behind forward
    refine .choice placed.left.head (by omega) ?_ fun position => ⟨0, Nat.zero_le _, .none⟩
    refine (inside placed.left.tail).trans behind forward ?_
    rintro start middle stop saved later round ⟨taken, few, rounds⟩
    exact ⟨taken + 1, Nat.succ_le_succ few, .more round rounds⟩

/-- A loop behind the rounds that are needed: the last one of them may be gone through again. -/
theorem isRouted_plus (inside : IsRouted program text body) :
    IsRouted program text (.rep greedy (low + 1) none body) := by
  intro base placed
  obtain ⟨copies, looped, turn⟩ := placed.plus
  have size : base + (Node.rep greedy (low + 1) none body).size =
      base + low * body.size + body.size + 1 := by
    change base + ((low + 1) * body.size + 1) = _
    rw [Nat.succ_mul, ← Nat.add_assoc, ← Nat.add_assoc]
  have further : Route program text
      (fun start stop saved => ∃ count, 0 < count ∧ body.Rounds text count start stop saved)
      (base + low * body.size) (base + low * body.size + body.size + 1) :=
    (inside looped).loop (Nat.le_succ _) fun {count position before last} run behind =>
      run.choose turn (by dsimp only; omega)
  rw [size]
  refine (route_needed inside copies).trans further (by omega) ?_
  rintro start middle stop saved later needed ⟨count, some, others⟩
  exact .rep_of_rounds (needed.append others) (by omega) (by simp)

theorem isRouted_counted (inside : IsRouted program text body) :
    IsRouted program text (.rep greedy low (some high) body) := by
  intro base placed
  rw [Node.code] at placed
  have optional := placed.right
  rw [Node.length_copies body.length_code] at optional
  rw [Node.size, ← Nat.add_assoc]
  refine (route_needed inside placed.left).trans (route_allowed inside optional rfl)
    (Nat.le_add_right _ _) ?_
  rintro start middle stop saved later needed ⟨taken, few, others⟩
  refine .rep_of_rounds (needed.append others) (Nat.le_add_right _ _) fun limit bound => ?_
  obtain rfl := Option.some.inj bound
  omega

end Nodes

/-- Who comes through the code of a node matches the node. -/
theorem isRouted (node : Node) : IsRouted program text node := by
  induction node with
  | empty =>
    intro base _
    exact .stay fun position => .empty
  | set s => exact isRouted_set s
  | look condition => exact isRouted_look condition
  | seq first second ihFirst ihSecond => exact isRouted_seq ihFirst ihSecond
  | alt first second ihFirst ihSecond => exact isRouted_alt ihFirst ihSecond
  | rep greedy low high body ih =>
    match low, high with
    | 0, none => exact isRouted_star ih
    | low + 1, none => exact isRouted_plus ih
    | low, some high => exact isRouted_counted ih
  | group index body ih => exact isRouted_group ih

end Constituency.Regex
