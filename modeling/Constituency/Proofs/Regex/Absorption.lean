import Constituency.Pattern
import Constituency.Proofs.Regex.Completeness

/-!
# Patterns that do not mind what follows

Some patterns accept every text that consists of a word and of any number of characters from an
alphabet behind it. To see this one way through the pattern is looked for that spells the word, and
goes over all the rest in a repetition of a set that has the whole alphabet. That way matches, and
what matches is found.
-/
namespace Constituency

namespace Regex.Node

/-- Whether a node is a set with all of some characters. -/
def holdsAll (characters : List Char) : Node → Bool
  | .set s => characters.all s.contains
  | _ => false

/--
Whether there is a way through a node that leads to a state which passes a test. A state tells what
is left of the word in front of the tail; none stands for the end of the text.
-/
def reaches (word alphabet : List Char) :
    Node → Option (List Char) → (Option (List Char) → Bool) → Bool
  | .empty, state, test => test state
  | .set s, some (c :: left), test => s.contains c && test (some left)
  | .set _, _, _ => false
  | .look .textStart, state, test => state = some word && test state
  | .look .textEnd, state, test => state = none && test state
  | .look _, _, _ => false
  | .seq first second, state, test =>
    reaches word alphabet first state fun middle => reaches word alphabet second middle test
  | .alt first second, state, test =>
    reaches word alphabet first state test || reaches word alphabet second state test
  | .rep _ low high body, some left, test =>
    low = 0 && high.isNone && body.holdsAll (left ++ alphabet) && test none
  | .rep _ _ _ _, none, _ => false
  | .group _ body, state, test => reaches word alphabet body state test

/-- Where a state stands in a text of a word and a tail. -/
def Stands (text : Array Char) (tail : List Char) : Option (List Char) → Nat → Prop
  | some left, position => position ≤ text.size ∧ text.toList.drop position = left ++ tail
  | none, position => position = text.size

variable {word alphabet tail : List Char} {text : Array Char} {state : Option (List Char)}
  {test : Option (List Char) → Bool} {position : Nat}

/-- A set with all that is left and the alphabet goes over the rest of the text. -/
theorem matches_rest {greedy : Bool} {body : Node} {left : List Char}
    (held : body.holdsAll (left ++ alphabet) = true) (letters : ∀ c ∈ tail, c ∈ alphabet)
    (stands : Stands text tail (some left) position) :
    (Node.rep greedy 0 none body).Matches text position text.size [] := by
  obtain ⟨within, rest⟩ := stands
  cases body with
  | set s =>
    have held := List.all_eq_true.mp held
    have rounds : Rounds text (.set s) (text.size - position) position
        (position + (text.size - position)) [] := by
      apply rounds_set (by omega)
      intro index c low _ here
      -- The character stands in the word or in the tail, and the set has both.
      have member : c ∈ left ++ tail := by
        rw [← rest, List.mem_iff_getElem?]
        refine ⟨index - position, ?_⟩
        rw [List.getElem?_drop, Nat.add_sub_cancel' low, Array.getElem?_toList]
        exact here
      apply held
      rcases List.mem_append.mp member with inside | behind
      · exact List.mem_append_left _ inside
      · exact List.mem_append_right _ (letters c behind)
    rw [Nat.add_sub_cancel' within] at rounds
    exact .rep_of_rounds rounds (Nat.zero_le _) (by simp)
  | _ => contradiction

theorem exists_matches_of_reaches {node : Node} (whole : text.toList = word ++ tail)
    (letters : ∀ c ∈ tail, c ∈ alphabet) (reached : node.reaches word alphabet state test = true)
    (stands : Stands text tail state position) :
    ∃ final stop saved, node.Matches text position stop saved ∧ Stands text tail final stop ∧
      test final = true := by
  induction node generalizing state test position with
  | empty => exact ⟨state, position, [], .empty, stands, reached⟩
  | set s =>
    match state with
    | some (c :: left) =>
      obtain ⟨member, passed⟩ := Bool.and_eq_true_iff.mp reached
      obtain ⟨within, rest⟩ := stands
      have here : text[position]? = some c := by
        rw [← Array.getElem?_toList, ← Nat.add_zero position, ← List.getElem?_drop, rest]
        rfl
      have behind : text.toList.drop (position + 1) = left ++ tail := by
        rw [← List.drop_drop, rest]
        rfl
      have before : position < text.size := (Array.getElem?_eq_some_iff.mp here).1
      exact ⟨some left, position + 1, [], .set here member, ⟨before, behind⟩, passed⟩
    | some [] => contradiction
    | none => contradiction
  | look condition =>
    cases condition with
    | textStart =>
      obtain ⟨start, passed⟩ := Bool.and_eq_true_iff.mp reached
      obtain rfl := of_decide_eq_true start
      -- Nothing is missing of the text, so nothing stands in front.
      have first : position = 0 := by
        obtain ⟨within, rest⟩ := stands
        have length := congrArg List.length rest
        rw [← whole, List.length_drop, Array.length_toList] at length
        omega
      exact ⟨some word, position, [], .look (by simp [Look.holds, first]), stands, passed⟩
    | textEnd =>
      obtain ⟨ending, passed⟩ := Bool.and_eq_true_iff.mp reached
      obtain rfl := of_decide_eq_true ending
      have last : position = text.size := stands
      exact ⟨none, position, [], .look (by simp [Look.holds, last]), stands, passed⟩
    | _ => contradiction
  | seq first second ihFirst ihSecond =>
    obtain ⟨middle, position, before, front, between, later⟩ := ihFirst reached stands
    obtain ⟨final, stop, after, back, ends, passed⟩ := ihSecond later between
    exact ⟨final, stop, after ++ before, .seq front back, ends, passed⟩
  | alt first second ihFirst ihSecond =>
    rcases Bool.or_eq_true_iff.mp reached with left | right
    · obtain ⟨final, stop, saved, matched, ends⟩ := ihFirst left stands
      exact ⟨final, stop, saved, .left matched, ends⟩
    · obtain ⟨final, stop, saved, matched, ends⟩ := ihSecond right stands
      exact ⟨final, stop, saved, .right matched, ends⟩
  | rep greedy low high body ih =>
    cases state with
    | none => contradiction
    | some left =>
      simp only [reaches, Bool.and_eq_true, decide_eq_true_eq, Option.isNone_iff_eq_none] at reached
      obtain ⟨⟨⟨rfl, rfl⟩, held⟩, passed⟩ := reached
      exact ⟨none, text.size, [], matches_rest held letters stands, rfl, passed⟩
  | group index body ih =>
    obtain ⟨final, stop, saved, matched, ends⟩ := ih reached stands
    exact ⟨final, stop, _, .group matched, ends⟩

end Regex.Node

namespace Pattern

/-- Whether a pattern goes over a word and whatever follows it from the alphabet. -/
def absorbs (pattern : Pattern) (word alphabet : List Char) : Bool :=
  pattern.regex.node.reaches word alphabet (some word) fun _ => true

variable {pattern : Pattern} {word alphabet tail : List Char} {text : String}

theorem accepts_of_matches {start stop : Nat} {saved : List (Nat × Nat)}
    (matched : pattern.regex.node.Matches text.toList.toArray start stop saved)
    (within : start ≤ text.toList.toArray.size) : pattern.accepts text = true := by
  rw [accepts, Regex.isMatch, pattern.regex.program_eq]
  exact Regex.search_isSome_of_matches matched within

theorem accepts_of_absorbs (absorbed : pattern.absorbs word alphabet = true)
    (whole : text.toList = word ++ tail) (letters : ∀ c ∈ tail, c ∈ alphabet) :
    pattern.accepts text = true := by
  have stands : Regex.Node.Stands text.toList.toArray tail (some word) 0 :=
    ⟨Nat.zero_le _, whole⟩
  obtain ⟨-, stop, saved, matched, -⟩ :=
    Regex.Node.exists_matches_of_reaches whole letters absorbed stands
  exact accepts_of_matches matched (Nat.zero_le _)

end Pattern

end Constituency
