import Constituency.Proofs.Regex.Contents
import Constituency.Proofs.Regex.Form
import Constituency.TagTable.PatternSpan

/-!
# The separators in a match

Where only semicolons that stand for themselves match a semicolon, and nothing with a semicolon in
it is matched more than once or not at all, all matches of a pattern hold the same number of them.
It is the number that is counted along the form of the pattern, if its alternatives count alike.
-/
namespace Constituency

namespace Regex

/-! ### Counting in trees -/

namespace Node

/-- Whether each match of a node holds so many semicolons. -/
def Holds (node : Node) (n : Nat) : Prop :=
  ∀ ⦃text : Array Char⦄ ⦃start stop : Nat⦄ ⦃saved : List (Nat × Nat)⦄,
    node.Matches text start stop saved → (stretch text start stop).count ';' = n

variable {node : Node} {n : Nat}

theorem holds_empty : Node.empty.Holds 0 := by
  rintro text start stop saved ⟨⟩
  simp

theorem holds_of_avoids (avoided : node.avoids ';' = true) : node.Holds 0 :=
  fun _ _ _ _ matched => List.count_eq_zero.mpr (matched.not_mem_of_avoids avoided)

/-- The separator has no other case. -/
theorem contains_foldSet_semicolon {flags : Flags} {c : Char}
    (member : (flags.foldSet (.single ';')).contains c = true) : c = ';' := by
  have alone {pairs : List (Char × Char)} (absent : pairs.all (·.1 != ';') = true)
      (member : ((CharSet.single ';').foldedBy pairs).contains c = true) : c = ';' := by
    rw [CharSet.contains_foldedBy, Bool.or_eq_true, List.any_eq_true] at member
    rcases member with itself | ⟨pair, among, partner⟩
    · simpa using itself
    · have other := List.all_eq_true.mp absent pair among
      simp_all
  unfold Flags.foldSet at member
  split at member
  next => simpa using member
  next =>
    split at member
    next => exact alone (by decide +kernel) member
    next => exact alone (by decide +kernel) member

theorem holds_semicolon (flags : Flags) : (Node.set (flags.foldSet (.single ';'))).Holds 1 := by
  intro text start stop saved matched
  cases matched with
  | set here member =>
    rw [stretch_succ here, contains_foldSet_semicolon member]
    rfl

theorem Holds.group {index : Nat} (held : node.Holds n) : (Node.group index node).Holds n := by
  intro text start stop saved matched
  cases matched with
  | group inside => exact held inside

/-- What holds no separator can go round as often as it likes. -/
theorem Holds.rep {greedy : Bool} {low : Nat} {high : Option Nat} (held : node.Holds 0) :
    (Node.rep greedy low high node).Holds 0 := by
  intro text start stop saved matched
  -- Each round is again a match of a repetition of the same node, with other bounds.
  generalize same : Node.rep greedy low high node = repeated at matched
  induction matched generalizing low high with
  | stop => simp
  | round _ first others _ ihOthers =>
    cases same
    rw [← stretch_append first.start_le_stop others.start_le_stop, List.count_append, held first,
      ihOthers rfl]
  | empty | set | look | seq | left | right | group => contradiction

/-- What holds one is repeated exactly once. -/
theorem Holds.repeated {greedy : Bool} {low : Nat} {high : Option Nat}
    (held : high = some 0 ∨ node.Holds n) (steady : n = 0 ∨ low = 1 ∧ high = some 1) :
    (Node.repeated greedy low high node).Holds n := by
  -- What is said of the bounds stays true where they are lowered to one.
  have bounded {low' : Nat} {high' : Option Nat} (none : high = some 0 → high' = some 0)
      (once : low = 1 ∧ high = some 1 → low' = 1 ∧ high' = some 1) :
      (if high' = some 0 then Node.empty
        else if low' = 1 ∧ high' = some 1 then node else .rep greedy low' high' node).Holds n := by
    split
    next zero =>
      obtain rfl : n = 0 := steady.resolve_right fun exactly => by
        rw [(once exactly).2] at zero
        contradiction
      exact holds_empty
    next some =>
      have held := held.resolve_left fun zero => some (none zero)
      split
      next => exact held
      next more =>
        obtain rfl := steady.resolve_right fun exactly => more (once exactly)
        exact held.rep
  unfold Node.repeated
  cases node.isWidthless with
  | false => exact bounded id id
  | true =>
    refine bounded (fun zero => ?_) fun exactly => ?_
    · simp [zero]
    · simp [exactly]

end Node

/-! ### Counting in parts -/

namespace Part

theorem matches_concat {parts : List Part} {text : Array Char} {start stop : Nat}
    {saved : List (Nat × Nat)} : (concat parts).node.Matches text start stop saved ↔
      Node.MatchAll text (parts.map node) start stop saved := by
  unfold concat
  split
  next =>
    constructor
    · rintro ⟨⟩
      exact .nil
    · rintro ⟨⟩
      exact .empty
  next => exact Node.matchAll_singleton.symm
  next => exact Node.matches_concat

theorem holds_concat_cons {part : Part} {parts : List Part} {n m : Nat}
    (first : part.node.Holds n) (others : (concat parts).node.Holds m) :
    (concat (part :: parts)).node.Holds (n + m) := by
  intro text start stop saved matched
  cases matches_concat.mp matched with
  | @cons _ _ _ middle _ _ _ front back =>
    have back := matches_concat.mpr back
    rw [← stretch_append front.start_le_stop back.start_le_stop, List.count_append, first front,
      others back]

theorem holds_alternation {part : Part} {parts : List Part} {n : Nat}
    (all : ∀ other ∈ part :: parts, other.node.Holds n) :
    (alternation (part :: parts)).node.Holds n := by
  intro text start stop saved matched
  cases parts with
  | nil => exact all part (List.mem_singleton_self part) matched
  | cons second parts =>
    obtain ⟨node, member, matched⟩ := Node.exists_of_matches_alternation matched
    obtain ⟨other, among, rfl⟩ := List.mem_map.mp member
    exact all other among matched

theorem holds_group {part : Part} {index : Option Nat} {n : Nat} (held : part.node.Holds n) :
    (part.group index).node.Holds n := by
  cases index with
  | none => exact held
  | some index => exact held.group

end Part

namespace Repetition

def isOnce (mark : Repetition) : Bool := mark.low = 1 ∧ mark.high = some 1

def isNever (mark : Repetition) : Bool := mark.high = some 0

end Repetition

namespace Form

open PatternSpan

theorem holds_marked {marks : List Repetition} {part : Part} {n : Nat}
    (held : marks.any Repetition.isNever = true ∨ part.node.Holds n)
    (steady : n = 0 ∨ marks.all Repetition.isOnce = true) : (marked marks part).node.Holds n := by
  induction marks generalizing part with
  | nil => exact held.resolve_left (by simp)
  | cons mark marks ih =>
    rw [List.any_cons, Bool.or_eq_true, or_assoc] at held
    rw [List.all_cons, Bool.and_eq_true] at steady
    refine ih ?_ (steady.imp_right And.right)
    have once : n = 0 ∨ mark.low = 1 ∧ mark.high = some 1 :=
      steady.imp_right fun all => of_decide_eq_true all.1
    rcases held with never | never | held
    · exact .inr (Node.Holds.repeated (.inl (of_decide_eq_true never)) once)
    · exact .inl never
    · exact .inr (Node.Holds.repeated (.inr held) once)

/-! ### Counting along forms -/

/-- How many separators a part is. -/
def own (text : List Char) : Nat := if text = [';'] then 1 else 0

/-- The count behind a form. -/
def scan : Form → Count → Option Count
  | done, count => some count
  | gap _ rest, count | flags _ rest, count => rest.scan count
  | atom text _ _ rest, count => rest.scan { count with current := count.current + own text }
  | group _ _ inside _ rest, count => do
    let n ← (← inside.scan {}).close
    rest.scan { count with current := count.current + n }
  | bar rest, count => do
    let n ← count.close
    rest.scan { finished := some n }

/-- The separators of a form, if its alternatives count alike. -/
def separators (form : Form) : Option Nat := do (← form.scan {}).close

/-- Whether only semicolons that stand for themselves match one. -/
def isLiteral : Form → Bool
  | done => true
  | gap _ rest | flags _ rest | bar rest => rest.isLiteral
  | atom text part marks rest =>
    (marks.any Repetition.isNever || text = [';'] || part.node.avoids ';') && rest.isLiteral
  | group _ _ inside marks rest =>
    (marks.any Repetition.isNever || inside.isLiteral) && rest.isLiteral

/-- Whether nothing with a separator in it is repeated, unless exactly once. -/
def isSteady : Form → Bool
  | done => true
  | gap _ rest | flags _ rest | bar rest => rest.isSteady
  | atom text _ marks rest => (own text = 0 || marks.all Repetition.isOnce) && rest.isSteady
  | group _ _ inside marks rest =>
    (inside.separators = some 0 || marks.all Repetition.isOnce) && inside.isSteady && rest.isSteady

theorem close_eq_some_iff {count : Count} {n : Nat} :
    count.close = some n ↔ count.current = n ∧ ∀ m ∈ count.finished, m = n := by
  obtain ⟨finished, current⟩ := count
  cases finished with
  | none => simp [Count.close]
  | some m =>
    simp only [Count.close, Option.mem_def, Option.some.injEq, forall_eq']
    split
    next same => simp [same]
    next other =>
      simp only [reduceCtorEq, false_iff, not_and]
      rintro rfl rfl
      exact other rfl

/-- The first alternative goes on with what is missing in its count, and the others count alike. -/
theorem holds_build {form : Form} (read : form.IsRead) (literal : form.isLiteral = true)
    (steady : form.isSteady = true) {count final : Count} {n : Nat}
    (scanned : form.scan count = some final) (closed : final.close = some n) :
    (∃ k, count.current + k = n ∧ (Part.concat form.build.1).node.Holds k) ∧
      (∀ part ∈ form.build.2, part.node.Holds n) ∧ ∀ m ∈ count.finished, m = n := by
  induction form generalizing count final n with
  | done =>
    obtain rfl := Option.some.inj scanned
    obtain ⟨total, same⟩ := close_eq_some_iff.mp closed
    exact ⟨⟨0, total, Node.holds_empty⟩, by simp [build], same⟩
  | gap text rest ih => exact ih read literal steady scanned closed
  | flags text rest ih =>
    -- Flags leave a part in the sequence, and it matches the empty text only.
    obtain ⟨⟨k, total, held⟩, others⟩ := ih read literal steady scanned closed
    have flags : Part.flags.node.Holds 0 := Node.holds_empty
    exact ⟨⟨0 + k, by omega, Part.holds_concat_cons flags held⟩, others⟩
  | atom text part marks rest ih =>
    simp only [isLiteral, isSteady, Bool.and_eq_true, Bool.or_eq_true, decide_eq_true_eq]
      at literal steady
    obtain ⟨⟨k, total, held⟩, others⟩ := ih read.2 literal.2 steady.2 scanned closed
    have itself : marks.any Repetition.isNever = true ∨ part.node.Holds (own text) := by
      by_cases same : text = [';']
      · obtain ⟨flags, rfl⟩ := read.1 same
        rw [own, if_pos same]
        exact .inr (Node.holds_semicolon flags)
      · rw [own, if_neg same]
        exact (literal.1.imp_left (Or.resolve_right · same)).imp_right Node.holds_of_avoids
    dsimp only at total
    exact ⟨⟨own text + k, by omega, Part.holds_concat_cons (holds_marked itself steady.1) held⟩,
      others⟩
  | group opening index inside marks rest ihInside ihRest =>
    simp only [isLiteral, isSteady, Bool.and_eq_true, Bool.or_eq_true, decide_eq_true_eq]
      at literal steady
    obtain ⟨last, scannedInside, scanned⟩ := Option.bind_eq_some_iff.mp scanned
    obtain ⟨m, closedInside, scanned⟩ := Option.bind_eq_some_iff.mp scanned
    obtain ⟨⟨k, total, held⟩, others⟩ := ihRest read.2 literal.2 steady.2 scanned closed
    have itself : marks.any Repetition.isNever = true ∨
        ((Part.alternation inside.alternatives).group index).node.Holds m := by
      refine literal.1.imp_right fun literal => Part.holds_group (Part.holds_alternation ?_)
      obtain ⟨⟨first, total, held⟩, others, -⟩ :=
        ihInside read.1 literal steady.1.2 scannedInside closedInside
      obtain rfl : first = m := by simpa using total
      exact List.forall_mem_cons.mpr ⟨held, others⟩
    -- Steadiness is said of the count of the inside, which is the one that was added.
    have once : m = 0 ∨ marks.all Repetition.isOnce = true := by
      refine steady.1.1.imp_left fun none => ?_
      simpa [separators, scannedInside, closedInside] using none
    dsimp only at total
    exact ⟨⟨m + k, by omega, Part.holds_concat_cons (holds_marked itself once) held⟩, others⟩
  | bar rest ih =>
    -- The count of this alternative is closed here, and all later ones have to agree with it.
    obtain ⟨m, closedFirst, scanned⟩ := Option.bind_eq_some_iff.mp scanned
    obtain ⟨⟨k, total, held⟩, others, same⟩ := ih read literal steady scanned closed
    obtain ⟨current, finished⟩ := close_eq_some_iff.mp closedFirst
    obtain rfl : m = n := same m rfl
    obtain rfl : k = m := by simpa using total
    exact ⟨⟨0, current, Node.holds_empty⟩, List.forall_mem_cons.mpr ⟨held, others⟩, finished⟩

/-- All matches of a pattern hold the separators of its form. -/
theorem holds_alternatives {form : Form} (read : form.IsRead) (literal : form.isLiteral = true)
    (steady : form.isSteady = true) {n : Nat} (counted : form.separators = some n) :
    (Part.alternation form.alternatives).node.Holds n := by
  obtain ⟨final, scanned, closed⟩ := Option.bind_eq_some_iff.mp counted
  obtain ⟨⟨k, total, held⟩, others, -⟩ := holds_build read literal steady scanned closed
  obtain rfl : k = n := by simpa using total
  exact Part.holds_alternation (List.forall_mem_cons.mpr ⟨held, others⟩)

end Form

end Regex

end Constituency
