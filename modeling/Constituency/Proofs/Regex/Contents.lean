import Constituency.Proofs.Regex.Search
import Constituency.Regex.Captures

/-!
# What stands in a match

Some of what a match holds can be read off the pattern: whether it lies at an end of the text,
which character is nowhere in it, and which one is in no group. A group that is gone through several
times captures what it matched last, and its two ends are saved together, so what is true of all its
rounds is true of what it captures.
-/
namespace Constituency.Regex

/-- The stretch of a text between two positions. -/
def stretch (text : Array Char) (start stop : Nat) : List Char :=
  (text.toList.take stop).drop start

section Stretch

variable {text : Array Char}

@[simp] theorem stretch_self (position : Nat) : stretch text position position = [] := by
  simp [stretch]

@[simp] theorem stretch_whole : stretch text 0 text.size = text.toList := by
  rw [stretch, List.drop_zero]
  exact List.take_length

theorem stretch_eq (start stop : Nat) :
    stretch text start stop = (text.toList.drop start).take (stop - start) :=
  List.drop_take

theorem stretch_succ {position : Nat} {c : Char} (here : text[position]? = some c) :
    stretch text position (position + 1) = [c] := by
  rw [← Array.getElem?_toList, ← Nat.add_zero position, ← List.getElem?_drop] at here
  rw [stretch_eq, Nat.add_sub_cancel_left, List.take_one, List.head?_eq_getElem?, here]
  rfl

theorem stretch_append {start middle stop : Nat} (front : start ≤ middle) (back : middle ≤ stop) :
    stretch text start middle ++ stretch text middle stop = stretch text start stop := by
  obtain ⟨count, rfl⟩ := Nat.exists_eq_add_of_le front
  obtain ⟨more, rfl⟩ := Nat.exists_eq_add_of_le back
  have total : start + count + more - start = count + more := by omega
  rw [stretch_eq, stretch_eq, stretch_eq, total, List.take_add, List.drop_drop,
    Nat.add_sub_cancel_left, Nat.add_sub_cancel_left]

end Stretch

namespace Node

variable {text : Array Char} {start stop : Nat} {saved : List (Nat × Nat)}

/-! ### The ends of the text -/

/-- Whether a node asks first of all for the start of the text. -/
def beginsText : Node → Bool
  | .look .textStart => true
  | .seq first _ => first.beginsText
  | .alt first second => first.beginsText && second.beginsText
  | .group _ body => body.beginsText
  | _ => false

/-- Whether a node asks last of all for the end of the text. -/
def endsText : Node → Bool
  | .look .textEnd => true
  | .seq _ second => second.endsText
  | .alt first second => first.endsText && second.endsText
  | .group _ body => body.endsText
  | _ => false

theorem Matches.start_eq_zero {node : Node} (matched : node.Matches text start stop saved)
    (begins : node.beginsText = true) : start = 0 := by
  induction matched with
  | look holds =>
    rename_i condition position
    cases condition <;> simp_all [beginsText, Look.holds]
  | seq _ _ ihFront _ => exact ihFront begins
  | left _ ih => exact ih (by simp_all [beginsText])
  | right _ ih => exact ih (by simp_all [beginsText])
  | group _ ih => exact ih begins
  | empty | set | stop | round => contradiction

theorem Matches.stop_eq_size {node : Node} (matched : node.Matches text start stop saved)
    (ends : node.endsText = true) : stop = text.size := by
  induction matched with
  | look holds =>
    rename_i condition position
    cases condition <;> simp_all [endsText, Look.holds]
  | seq _ _ _ ihBack => exact ihBack ends
  | left _ ih => exact ih (by simp_all [endsText])
  | right _ ih => exact ih (by simp_all [endsText])
  | group _ ih => exact ih ends
  | empty | set | stop | round => contradiction

/-! ### Characters that are avoided -/

/-- Whether a character is in no set of a node. -/
def avoids (c : Char) : Node → Bool
  | .empty | .look _ => true
  | .set s => !s.contains c
  | .seq first second | .alt first second => first.avoids c && second.avoids c
  | .rep _ _ _ body | .group _ body => body.avoids c

/-- Whether a character is in no set of any group of a node. -/
def groupsAvoid (c : Char) : Node → Bool
  | .empty | .look _ | .set _ => true
  | .seq first second | .alt first second => first.groupsAvoid c && second.groupsAvoid c
  | .rep _ _ _ body => body.groupsAvoid c
  | .group _ body => body.avoids c

theorem groupsAvoid_of_avoids {c : Char} {node : Node} (avoided : node.avoids c = true) :
    node.groupsAvoid c = true := by
  induction node with
  | empty | set | look => rfl
  | seq first second ihFirst ihSecond | alt first second ihFirst ihSecond =>
    simp_all [avoids, groupsAvoid]
  | rep greedy low high body ih => exact ih avoided
  | group index body => exact avoided

theorem Matches.not_mem_of_avoids {c : Char} {node : Node}
    (matched : node.Matches text start stop saved) (avoided : node.avoids c = true) :
    c ∉ stretch text start stop := by
  induction matched with
  | empty | look | stop => simp
  | set here member =>
    rw [stretch_succ here, List.mem_singleton]
    rintro rfl
    simp [avoids, member] at avoided
  | seq front back ihFront ihBack =>
    simp only [avoids, Bool.and_eq_true] at avoided
    rw [← stretch_append front.start_le_stop back.start_le_stop, List.mem_append]
    exact not_or.mpr ⟨ihFront avoided.1, ihBack avoided.2⟩
  | left _ ih =>
    simp only [avoids, Bool.and_eq_true] at avoided
    exact ih avoided.1
  | right _ ih =>
    simp only [avoids, Bool.and_eq_true] at avoided
    exact ih avoided.2
  | round _ first others ihFirst ihOthers =>
    rw [← stretch_append first.start_le_stop others.start_le_stop, List.mem_append]
    exact not_or.mpr ⟨ihFirst avoided, ihOthers avoided⟩
  | group _ ih => exact ih avoided

/-! ### What groups capture -/

theorem Matches.start_le_of_mem_saved {node : Node}
    (matched : node.Matches text start stop saved) {pair : Nat × Nat} (member : pair ∈ saved) :
    start ≤ pair.2 := by
  induction matched with
  | empty | set | look | stop => contradiction
  | seq front _ ihFront ihBack =>
    rcases List.mem_append.mp member with later | earlier
    · exact Nat.le_trans front.start_le_stop (ihBack later)
    · exact ihFront earlier
  | left _ ih | right _ ih => exact ih member
  | round _ first _ ihFirst ihOthers =>
    rcases List.mem_append.mp member with later | earlier
    · exact Nat.le_trans first.start_le_stop (ihOthers later)
    · exact ihFirst earlier
  | group inside ih =>
    simp only [List.mem_cons, List.mem_append, List.not_mem_nil, or_false] at member
    rcases member with rfl | member | rfl
    · exact inside.start_le_stop
    · exact ih member
    · exact Nat.le_refl _

/-- What is saved of a group: both ends or none, with a character nowhere in between. -/
structure IsFreeOf (text : Array Char) (c : Char) (saved : List (Nat × Nat)) : Prop where
  paired : ∀ index, saved.lookup (2 * index) = none ↔ saved.lookup (2 * index + 1) = none
  free : ∀ {index start stop : Nat}, saved.lookup (2 * index) = some start →
    saved.lookup (2 * index + 1) = some stop → c ∉ stretch text start stop

theorem IsFreeOf.nil {c : Char} : IsFreeOf text c [] := ⟨by simp, by simp⟩

theorem IsFreeOf.append {c : Char} {later : List (Nat × Nat)} (back : IsFreeOf text c later)
    (front : IsFreeOf text c saved) : IsFreeOf text c (later ++ saved) := by
  constructor
  · intro index
    simp only [List.lookup_append, Option.or_eq_none_iff, back.paired, front.paired]
  · intro index start stop opened closed
    rw [List.lookup_append] at opened closed
    -- The later part tells of both ends if it tells of one.
    cases first : later.lookup (2 * index) with
    | none =>
      rw [first, Option.none_or] at opened
      rw [(back.paired index).mp first, Option.none_or] at closed
      exact front.free opened closed
    | some position =>
      cases last : later.lookup (2 * index + 1) with
      | none => simp [(back.paired index).mpr last] at first
      | some end_ =>
        rw [first, Option.some_or] at opened
        rw [last, Option.some_or] at closed
        exact back.free (first.trans opened) (last.trans closed)

theorem lookup_group_start (index other : Nat) :
    ((2 * index + 1, stop) :: (saved ++ [(2 * index, start)])).lookup (2 * other) =
      (saved.lookup (2 * other)).or (if other = index then some start else none) := by
  have apart : (2 * other == 2 * index + 1) = false := by
    rw [beq_eq_false_iff_ne]
    omega
  have same : (2 * other == 2 * index) = decide (other = index) := by
    rw [Bool.eq_iff_iff, beq_iff_eq, decide_eq_true_iff]
    omega
  rw [List.lookup_cons, apart, List.lookup_append, List.lookup_cons, same]
  by_cases here : other = index <;> simp [here]

theorem lookup_group_stop (index other : Nat) :
    ((2 * index + 1, stop) :: (saved ++ [(2 * index, start)])).lookup (2 * other + 1) =
      if other = index then some stop else saved.lookup (2 * other + 1) := by
  have apart : (2 * other + 1 == 2 * index) = false := by
    rw [beq_eq_false_iff_ne]
    omega
  have same : (2 * other + 1 == 2 * index + 1) = decide (other = index) := by
    rw [Bool.eq_iff_iff, beq_iff_eq, decide_eq_true_iff]
    omega
  rw [List.lookup_cons, same, List.lookup_append, List.lookup_cons, apart]
  by_cases here : other = index <;> simp [here]

/-- A group captures up to its own end, from its own start or from a later one saved inside. -/
theorem IsFreeOf.group {c : Char} {index : Nat} (within : IsFreeOf text c saved)
    (behind : ∀ pair ∈ saved, start ≤ pair.2) (absent : c ∉ stretch text start stop) :
    IsFreeOf text c ((2 * index + 1, stop) :: (saved ++ [(2 * index, start)])) := by
  constructor
  · intro other
    rw [lookup_group_start, lookup_group_stop]
    by_cases here : other = index
    · simp [here]
    · simpa [here] using within.paired other
  · intro other first last opened closed
    rw [lookup_group_start] at opened
    rw [lookup_group_stop] at closed
    by_cases here : other = index
    · rw [if_pos here, Option.some.injEq] at closed
      subst closed
      have later : start ≤ first := by
        rw [if_pos here, Option.or_eq_some_iff] at opened
        rcases opened with found | ⟨-, same⟩
        · obtain ⟨before, after, rfl, -⟩ := List.lookup_eq_some_iff.mp found
          exact behind (2 * other, first) (by simp)
        · exact Nat.le_of_eq (Option.some.inj same)
      obtain ⟨count, rfl⟩ := Nat.exists_eq_add_of_le later
      rw [stretch, ← List.drop_drop]
      exact fun member => absent (List.mem_of_mem_drop member)
    · rw [if_neg here, Option.or_none] at opened
      rw [if_neg here] at closed
      exact within.free opened closed

theorem Matches.isFreeOf {c : Char} {node : Node} (matched : node.Matches text start stop saved)
    (avoided : node.groupsAvoid c = true) : IsFreeOf text c saved := by
  induction matched with
  | empty | set | look | stop => exact .nil
  | seq front back ihFront ihBack =>
    simp only [groupsAvoid, Bool.and_eq_true] at avoided
    exact (ihBack avoided.2).append (ihFront avoided.1)
  | left _ ih =>
    simp only [groupsAvoid, Bool.and_eq_true] at avoided
    exact ih avoided.1
  | right _ ih =>
    simp only [groupsAvoid, Bool.and_eq_true] at avoided
    exact ih avoided.2
  | round _ _ _ ihFirst ihOthers => exact (ihOthers avoided).append (ihFirst avoided)
  | @group index body start stop saved inside ih =>
    exact (ih (groupsAvoid_of_avoids avoided)).group
      (fun _ => inside.start_le_of_mem_saved) (inside.not_mem_of_avoids avoided)

end Node

/-! ### A whole pattern -/

/-- What is captured is what the pattern tree saves, with the ends of the match as group 0. -/
theorem captures?_eq_some {regex : Regex} {text : List Char} {captures : Captures}
    (found : regex.captures? text = some captures) :
    ∃ start stop saved, regex.node.Matches text.toArray start stop saved ∧
      captures = ⟨text.toArray, (1, stop) :: (saved ++ [(0, start)]), regex.names⟩ := by
  obtain ⟨last, searched, rfl⟩ := Option.map_eq_some_iff.mp found
  rw [regex.program_eq] at searched
  obtain ⟨start, saved, matched, all⟩ := search_sound searched
  exact ⟨start, last.position, saved, matched, by rw [all]⟩

/-- A pattern that asks for both ends of the text matches all of it. -/
theorem exists_matches_whole {regex : Regex} {text : List Char} {captures : Captures}
    (found : regex.captures? text = some captures) (begins : regex.node.beginsText = true)
    (ends : regex.node.endsText = true) :
    ∃ saved, regex.node.Matches text.toArray 0 text.length saved := by
  obtain ⟨start, stop, saved, matched, -⟩ := captures?_eq_some found
  obtain rfl := matched.start_eq_zero begins
  obtain rfl := matched.stop_eq_size ends
  exact ⟨saved, matched⟩

/-- A group captures no character that is in none of the groups. -/
theorem not_mem_of_group {regex : Regex} {text : List Char} {captures : Captures} {c : Char}
    {index : Nat} {captured : List Char} (found : regex.captures? text = some captures)
    (avoided : regex.node.groupsAvoid c = true) (proper : index ≠ 0)
    (held : captures.group index = some captured) : c ∉ captured := by
  obtain ⟨start, stop, saved, matched, rfl⟩ := captures?_eq_some found
  have free := matched.isFreeOf avoided
  have first : ((1, stop) :: (saved ++ [(0, start)])).lookup (2 * index) =
      saved.lookup (2 * index) := by
    simpa [proper] using @Node.lookup_group_start start stop saved 0 index
  have last : ((1, stop) :: (saved ++ [(0, start)])).lookup (2 * index + 1) =
      saved.lookup (2 * index + 1) := by
    simpa [proper] using Node.lookup_group_stop 0 index
  unfold Captures.group at held
  simp only [first, last] at held
  split at held
  next start' stop' opened closed =>
    obtain rfl := Option.some.inj held
    exact free.free opened closed
  next => contradiction

end Constituency.Regex
