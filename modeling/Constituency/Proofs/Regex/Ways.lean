import Constituency.Proofs.Regex.Code

/-!
# Ways through the code of a pattern

Whoever comes through the code of a node has matched the node. Here is the other direction: the code
can be gone through just as the node matches, from the same position to the same position, with the
same saved on the way. Which way is preferred does not matter, since every way of a choice is there.
-/
namespace Constituency.Regex

variable {program : Array Inst} {text : Array Char}

/-! ### Rounds of a repetition -/

namespace Node

variable {body : Node}

/-- What a repetition matches, it matches in a number of rounds that its bounds allow. -/
theorem Matches.exists_rounds {greedy : Bool} {low start stop : Nat} {high : Option Nat}
    {saved : List (Nat × Nat)}
    (matched : (Node.rep greedy low high body).Matches text start stop saved) :
    ∃ count, low ≤ count ∧ (∀ limit ∈ high, count ≤ max low limit) ∧
      Rounds text body count start stop saved := by
  generalize shape : Node.rep greedy low high body = node at matched
  induction matched generalizing low high with
  | empty | set | look | seq | left | right | group => contradiction
  | stop =>
    injection shape with _ none _ _
    exact ⟨0, Nat.le_of_eq none, fun limit _ => Nat.zero_le _, .none⟩
  | round room first others _ ihOthers =>
    injection shape with greed least most same
    subst greed least most same
    obtain ⟨count, enough, few, rounds⟩ := ihOthers rfl
    refine ⟨count + 1, by omega, fun limit bound => ?_, .more first rounds⟩
    have left := few (limit - 1) (Option.mem_map.mpr ⟨limit, bound, rfl⟩)
    -- A round is needed or allowed, so that one of the two bounds is not zero.
    have some : 0 < low ∨ limit ≠ 0 := by
      rcases room with needed | allowed
      · exact .inl needed
      · right
        rintro rfl
        exact allowed bound
    omega

theorem Rounds.split {count more start stop : Nat} {saved : List (Nat × Nat)}
    (rounds : Rounds text body (count + more) start stop saved) :
    ∃ middle before after, Rounds text body count start middle before ∧
      Rounds text body more middle stop after ∧ saved = after ++ before := by
  induction count generalizing start saved with
  | zero => exact ⟨start, [], saved, .none, by simpa using rounds, by simp⟩
  | succ count ih =>
    rw [Nat.add_right_comm] at rounds
    cases rounds with
    | more first others =>
      obtain ⟨middle, before, after, front, back, rfl⟩ := ih others
      exact ⟨middle, _, after, .more first front, back, List.append_assoc ..⟩

end Node

/-! ### Ways through the code -/

theorem Run.append {count more : Nat} {first middle last : Thread}
    (front : Run program text count first middle) (back : Run program text more middle last) :
    Run program text (count + more) first last := by
  induction front with
  | done => rwa [Nat.zero_add]
  | step here leads later ih =>
    rw [Nat.add_right_comm]
    exact .step here leads (ih back)

/--
A way from one address to another: whatever can be matched, some run goes from the first address to
the second one over what is matched.
-/
def Way (program : Array Inst) (text : Array Char)
    (matched : Nat → Nat → List (Nat × Nat) → Prop) (entry exit : Nat) : Prop :=
  ∀ (before : List (Nat × Nat)) ⦃start stop : Nat⦄ ⦃saved : List (Nat × Nat)⦄,
    matched start stop saved →
    ∃ count, Run program text count ⟨entry, start, before⟩ ⟨exit, stop, saved ++ before⟩

namespace Way

variable {matched other : Nat → Nat → List (Nat × Nat) → Prop} {entry middle exit : Nat}

/-- No way at all. -/
theorem stay
    (nothing : ∀ {start stop saved}, matched start stop saved → stop = start ∧ saved = []) :
    Way program text matched entry entry := by
  intro before start stop saved found
  obtain ⟨rfl, rfl⟩ := nothing found
  exact ⟨0, .done _⟩

/-- An instruction that goes on somewhere. -/
theorem of_inst {inst : Inst} (here : program[entry]? = some inst)
    (leads : ∀ {before start stop saved}, matched start stop saved →
      ⟨exit, stop, saved ++ before⟩ ∈ inst.next text ⟨entry, start, before⟩) :
    Way program text matched entry exit := by
  intro before start stop saved found
  exact ⟨1, .step here (leads found) (.done _)⟩

/-- One way behind the other. -/
theorem trans {both : Nat → Nat → List (Nat × Nat) → Prop}
    (front : Way program text matched entry middle) (back : Way program text other middle exit)
    (cut : ∀ {start stop saved}, both start stop saved →
      ∃ middle before after, matched start middle before ∧ other middle stop after ∧
        saved = after ++ before) :
    Way program text both entry exit := by
  intro before start stop saved found
  obtain ⟨position, early, late, first, second, rfl⟩ := cut found
  obtain ⟨count, run⟩ := front before first
  obtain ⟨more, later⟩ := back (early ++ before) second
  rw [List.append_assoc]
  exact ⟨count + more, run.append later⟩

end Way

/-- A run that moves on and does nothing else. -/
def Free (program : Array Inst) (text : Array Char) (entry exit : Nat) : Prop :=
  ∀ position before, ∃ count,
    Run program text count ⟨entry, position, before⟩ ⟨exit, position, before⟩

namespace Free

variable {matched : Nat → Nat → List (Nat × Nat) → Prop} {entry middle exit : Nat}

theorem of_inst {inst : Inst} (here : program[entry]? = some inst)
    (leads : ∀ position before,
      ⟨exit, position, before⟩ ∈ inst.next text ⟨entry, position, before⟩) :
    Free program text entry exit :=
  fun position before => ⟨1, .step here (leads position before) (.done _)⟩

theorem trans (front : Free program text entry middle) (back : Free program text middle exit) :
    Free program text entry exit := by
  intro position before
  obtain ⟨count, run⟩ := front position before
  obtain ⟨more, later⟩ := back position before
  exact ⟨count + more, run.append later⟩

/-- Both ways of a choice are free. -/
theorem of_choice (text : Array Char) {greedy : Bool} {inside outside : Nat}
    (here : program[entry]? = some (.choice greedy inside outside)) :
    Free program text entry inside ∧ Free program text entry outside := by
  constructor
  · exact of_inst here fun position before => mem_next_choice.mpr (.inl rfl)
  · exact of_inst here fun position before => mem_next_choice.mpr (.inr rfl)

theorem before (free : Free program text entry middle)
    (way : Way program text matched middle exit) : Way program text matched entry exit := by
  intro before start stop saved found
  obtain ⟨count, run⟩ := free start before
  obtain ⟨more, later⟩ := way before found
  exact ⟨count + more, run.append later⟩

theorem behind (free : Free program text middle exit)
    (way : Way program text matched entry middle) : Way program text matched entry exit := by
  intro before start stop saved found
  obtain ⟨count, run⟩ := way before found
  obtain ⟨more, later⟩ := free stop (saved ++ before)
  exact ⟨count + more, run.append later⟩

end Free

/-- A loop can be gone through as often as the node matches. -/
theorem Way.loop {body : Node} {entry turn exit : Nat}
    (round : Way program text (body.Matches text) entry turn)
    (again : Free program text turn entry) (out : Free program text turn exit) :
    Way program text
      (fun start stop saved => ∃ count, body.Rounds text (count + 1) start stop saved)
      entry exit := by
  rintro before start stop saved ⟨count, rounds⟩
  induction count generalizing before start saved with
  | zero =>
    cases rounds with
    | more first others =>
      cases others
      exact out.behind round before first
  | succ count ih =>
    cases rounds with
    | @more _ _ _ _ early late first others =>
      obtain ⟨count, run⟩ := again.behind round before first
      obtain ⟨more, later⟩ := ih (early ++ before) others
      rw [List.append_assoc]
      exact ⟨count + more, run.append later⟩

/-! ### The code of a node -/

/-- Wherever the code of a node stands in a program, there is a way through it for each match. -/
def IsOpen (program : Array Inst) (text : Array Char) (node : Node) : Prop :=
  ∀ ⦃base : Nat⦄, Placed program base (node.code base) →
    Way program text (node.Matches text) base (base + node.size)

section Nodes

variable {base index low high : Nat} {greedy : Bool} {first second body : Node}

theorem isOpen_empty : IsOpen program text .empty := by
  intro base _
  apply Way.stay
  intro start stop saved matched
  cases matched
  exact ⟨rfl, rfl⟩

theorem isOpen_set (s : CharSet) : IsOpen program text (.set s) := by
  intro base placed
  apply Way.of_inst placed.head
  intro before start stop saved matched
  cases matched with
  | set here member => simp [Inst.next, here, member, Node.size]

theorem isOpen_look (condition : Look) : IsOpen program text (.look condition) := by
  intro base placed
  apply Way.of_inst placed.head
  intro before start stop saved matched
  cases matched with
  | look holds => simp [Inst.next, holds, Node.size]

theorem isOpen_seq (front : IsOpen program text first) (back : IsOpen program text second) :
    IsOpen program text (.seq first second) := by
  intro base placed
  have behind := placed.right
  rw [Node.length_code] at behind
  rw [Node.size, ← Nat.add_assoc]
  apply (front placed.left).trans (back behind)
  intro start stop saved matched
  exact Node.matches_seq.mp matched

theorem isOpen_alt (left : IsOpen program text first) (right : IsOpen program text second) :
    IsOpen program text (.alt first second) := by
  intro base placed
  obtain ⟨fork, inFirst, jump, inSecond⟩ := placed.alt
  have stop : base + (Node.alt first second).size = base + first.size + 2 + second.size := by
    rw [Node.size]
    omega
  rw [stop]
  have toFirst : Free program text base (base + 1) :=
    .of_inst fork fun position before => by simp [Inst.next]
  have toSecond : Free program text base (base + first.size + 2) :=
    .of_inst fork fun position before => by simp [Inst.next]
  have jumps : Free program text (base + 1 + first.size) (base + first.size + 2 + second.size) :=
    .of_inst jump fun position before => by simp [Inst.next]
  intro before start stop saved matched
  cases matched with
  | left taken => exact jumps.behind (toFirst.before (left inFirst)) before taken
  | right taken => exact toSecond.before (right inSecond) before taken

theorem isOpen_group (inside : IsOpen program text body) :
    IsOpen program text (.group index body) := by
  intro base placed
  obtain ⟨openHere, within, close⟩ := placed.group
  have stop : base + (Node.group index body).size = base + 1 + body.size + 1 := by
    rw [Node.size]
    omega
  rw [stop]
  intro before start stop saved matched
  obtain ⟨inner, inMatch, rfl⟩ := Node.matches_group.mp matched
  obtain ⟨count, run⟩ := inside within ((2 * index, start) :: before) inMatch
  have closed : Run program text 1
      ⟨base + 1 + body.size, stop, inner ++ (2 * index, start) :: before⟩
      ⟨base + 1 + body.size + 1, stop,
        (2 * index + 1, stop) :: (inner ++ (2 * index, start) :: before)⟩ :=
    .step close (by simp [Inst.next]) (.done _)
  refine ⟨count + 1 + 1, .step openHere (List.mem_singleton_self _) ?_⟩
  simpa using run.append closed

/-! ### Repetitions -/

/-- A loop that need not be entered. -/
theorem isOpen_star (inside : IsOpen program text body) :
    IsOpen program text (.rep greedy 0 none body) := by
  intro base placed
  obtain ⟨here, within, turn⟩ := placed.star
  obtain ⟨enter, leave⟩ := Free.of_choice text here
  -- Behind a round both the next one and the end are near, if need be by way of the entry.
  have ways : Free program text (base + 1 + body.size) (base + 1) ∧
      Free program text (base + 1 + body.size) (base + body.size + 2) := by
    by_cases productive : body.isProductive = true
    · rw [if_pos productive] at turn
      have back : Free program text (base + 1 + body.size) base :=
        .of_inst turn fun position before => by simp [Inst.next]
      exact ⟨back.trans enter, back.trans leave⟩
    · rw [if_neg productive] at turn
      exact Free.of_choice text turn
  have rounds := (inside within).loop ways.1 ways.2
  intro before start stop saved matched
  obtain ⟨count, -, -, taken⟩ := matched.exists_rounds
  cases count with
  | zero =>
    cases taken
    exact leave start before
  | succ count => exact enter.before rounds before ⟨count, taken⟩

/-- The rounds that a repetition needs. -/
theorem way_needed {count : Nat} (inside : IsOpen program text body)
    (placed : Placed program base (Node.copies count body.size body.code base)) :
    Way program text (body.Rounds text count) base (base + count * body.size) := by
  induction count with
  | zero =>
    rw [Nat.zero_mul]
    apply Way.stay
    intro start stop saved rounds
    cases rounds
    exact ⟨rfl, rfl⟩
  | succ count ih =>
    rw [Node.copies_succ] at placed
    have last := placed.right
    rw [Node.length_copies body.length_code] at last
    rw [Nat.succ_mul, ← Nat.add_assoc]
    apply (ih placed.left).trans (inside last)
    intro start stop saved rounds
    obtain ⟨middle, before, after, front, back, rfl⟩ := rounds.split
    cases back with
    | more only none =>
      cases none
      exact ⟨middle, before, _, front, only, rfl⟩

/-- The rounds that a repetition allows: behind any number of them there is a way to the end. -/
theorem way_allowed {count stop : Nat} (inside : IsOpen program text body)
    (placed : Placed program base (Node.copies count (body.size + 1)
      (fun base => .choice greedy (base + 1) stop :: body.code (base + 1)) base))
    (stop_eq : stop = base + count * (body.size + 1)) :
    Way program text
      (fun start stop saved => ∃ taken ≤ count, body.Rounds text taken start stop saved)
      base stop := by
  induction count generalizing base with
  | zero =>
    rw [stop_eq, Nat.zero_mul]
    apply Way.stay
    rintro start stop saved ⟨taken, few, rounds⟩
    obtain rfl := Nat.le_zero.mp few
    cases rounds
    exact ⟨rfl, rfl⟩
  | succ count ih =>
    rw [Node.copies_succ'] at placed
    rw [Nat.succ_mul] at stop_eq
    have others := placed.right
    rw [List.length_cons, Node.length_code] at others
    have behind := ih others (by omega)
    rw [← Nat.add_assoc, Nat.add_right_comm] at behind
    -- In front of each copy stands a choice, which leads straight to the end of all copies.
    obtain ⟨enter, leave⟩ := Free.of_choice text placed.left.head
    rintro before start stop saved ⟨taken, few, rounds⟩
    cases rounds with
    | none => exact leave start before
    | @more _ _ _ _ early late first others =>
      obtain ⟨count, run⟩ := enter.before (inside placed.left.tail) before first
      obtain ⟨more, later⟩ := behind (early ++ before)
        ⟨_, Nat.le_of_succ_le_succ few, others⟩
      rw [List.append_assoc]
      exact ⟨count + more, run.append later⟩

/-- A loop behind the rounds that are needed: the last one of them may be gone through again. -/
theorem isOpen_plus (inside : IsOpen program text body) :
    IsOpen program text (.rep greedy (low + 1) none body) := by
  intro base placed
  obtain ⟨copies, looped, turn⟩ := placed.plus
  obtain ⟨again, out⟩ := Free.of_choice text turn
  have size : base + (Node.rep greedy (low + 1) none body).size =
      base + low * body.size + body.size + 1 := by
    change base + ((low + 1) * body.size + 1) = _
    rw [Nat.succ_mul, ← Nat.add_assoc, ← Nat.add_assoc]
  rw [size]
  apply (way_needed inside copies).trans ((inside looped).loop again out)
  intro start stop saved matched
  obtain ⟨count, enough, -, rounds⟩ := matched.exists_rounds
  obtain ⟨more, rfl⟩ := Nat.exists_eq_add_of_le enough
  -- One of the rounds that are needed is the first one of the loop.
  rw [Nat.add_assoc, Nat.add_comm 1] at rounds
  obtain ⟨middle, before, after, front, back, rfl⟩ := rounds.split
  exact ⟨middle, before, after, front, ⟨more, back⟩, rfl⟩

theorem isOpen_counted (inside : IsOpen program text body) :
    IsOpen program text (.rep greedy low (some high) body) := by
  intro base placed
  rw [Node.code] at placed
  have optional := placed.right
  rw [Node.length_copies body.length_code] at optional
  rw [Node.size, ← Nat.add_assoc]
  apply (way_needed inside placed.left).trans (way_allowed inside optional rfl)
  intro start stop saved matched
  obtain ⟨count, enough, few, rounds⟩ := matched.exists_rounds
  obtain ⟨more, rfl⟩ := Nat.exists_eq_add_of_le enough
  obtain ⟨middle, before, after, front, back, rfl⟩ := rounds.split
  have most := few high rfl
  exact ⟨middle, before, after, front, ⟨more, by omega, back⟩, rfl⟩

end Nodes

/-- There is a way through the code of a node for each of its matches. -/
theorem isOpen (node : Node) : IsOpen program text node := by
  induction node with
  | empty => exact isOpen_empty
  | set s => exact isOpen_set s
  | look condition => exact isOpen_look condition
  | seq first second ihFirst ihSecond => exact isOpen_seq ihFirst ihSecond
  | alt first second ihFirst ihSecond => exact isOpen_alt ihFirst ihSecond
  | rep greedy low high body ih =>
    match low, high with
    | 0, none => exact isOpen_star ih
    | low + 1, none => exact isOpen_plus ih
    | low, some high => exact isOpen_counted ih
  | group index body ih => exact isOpen_group ih

end Constituency.Regex
