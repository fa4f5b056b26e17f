import Constituency.Text.CaseFold

/-!
# Sets of characters

A set of characters is kept as ranges. Every character has a place, which counts the characters in
front of it; the places have no hole where the surrogates would be, so a range of places is a range
of characters and nothing else. The ranges of a set are in increasing order with a gap between any
two, so a set is written in one way only. The operations are pinned down by what they contain:
`contains_union`, `contains_compl`, `contains_inter` and `contains_foldedBy`.
-/
namespace Constituency

open Constituency.Text

/-! ## Places -/

/-- How many characters there are. -/
def charCount : Nat := 0x10F800

/-- The place of a code point that is a character. -/
def placeOfCode (code : Nat) : Nat := if code < 0xD800 then code else code - 0x800

def codeAtPlace (place : Nat) : Nat := if place < 0xD800 then place else place + 0x800

def charPlace (c : Char) : Nat := placeOfCode c.toNat

def charAtPlace (place : Nat) : Char := Char.ofNat (codeAtPlace place)

theorem charPlace_lt (c : Char) : charPlace c < charCount := by
  have valid : c.toNat < 0xD800 ∨ (0xDFFF < c.toNat ∧ c.toNat < 0x110000) := c.valid
  simp only [charPlace, placeOfCode, charCount]
  split <;> omega

theorem codeAtPlace_charPlace (c : Char) : codeAtPlace (charPlace c) = c.toNat := by
  have valid : c.toNat < 0xD800 ∨ (0xDFFF < c.toNat ∧ c.toNat < 0x110000) := c.valid
  by_cases low : c.toNat < 0xD800
  · have place : charPlace c = c.toNat := if_pos low
    rw [place, codeAtPlace, if_pos low]
  · have place : charPlace c = c.toNat - 0x800 := if_neg low
    rw [place, codeAtPlace, if_neg (by omega)]
    omega

@[simp] theorem charAtPlace_charPlace (c : Char) : charAtPlace (charPlace c) = c := by
  rw [charAtPlace, codeAtPlace_charPlace, Char.ofNat_toNat]

theorem charPlace_charAtPlace {place : Nat} (inside : place < charCount) :
    charPlace (charAtPlace place) = place := by
  simp only [charCount] at inside
  have code : (charAtPlace place).toNat = codeAtPlace place := by
    have valid : (codeAtPlace place).isValidChar := by
      simp only [codeAtPlace, Nat.isValidChar]
      split <;> omega
    rw [charAtPlace, Char.ofNat, dif_pos valid]
    rfl
  rw [charPlace, code]
  by_cases low : place < 0xD800
  · have same : codeAtPlace place = place := if_pos low
    rw [same, placeOfCode, if_pos low]
  · have same : codeAtPlace place = place + 0x800 := if_neg low
    rw [same, placeOfCode, if_neg (by omega)]
    omega

theorem charPlace_inj {c d : Char} : charPlace c = charPlace d ↔ c = d := by
  constructor
  · intro same
    rw [← charAtPlace_charPlace c, same, charAtPlace_charPlace]
  · exact congrArg charPlace

theorem charPlace_le {c d : Char} : charPlace c ≤ charPlace d ↔ c ≤ d := by
  have validLeft : c.toNat < 0xD800 ∨ (0xDFFF < c.toNat ∧ c.toNat < 0x110000) := c.valid
  have validRight : d.toNat < 0xD800 ∨ (0xDFFF < d.toNat ∧ d.toNat < 0x110000) := d.valid
  have order : c ≤ d ↔ c.toNat ≤ d.toNat := Iff.rfl
  rw [order]
  simp only [charPlace, placeOfCode]
  split <;> split <;> omega

/-! ## Lists of ranges -/

namespace Ranges

/-- The ranges lie in increasing order from `low` on, with a gap between any two. -/
def SpacedFrom : Nat → List (Nat × Nat) → Prop
  | _, [] => True
  | low, (first, last) :: rest =>
    low ≤ first ∧ first ≤ last ∧ last < charCount ∧ SpacedFrom (last + 2) rest

theorem SpacedFrom.weaken {low low' : Nat} {ranges : List (Nat × Nat)}
    (spaced : SpacedFrom low ranges) (below : low' ≤ low) : SpacedFrom low' ranges := by
  cases ranges with
  | nil => trivial
  | cons range rest => exact ⟨Nat.le_trans below spaced.1, spaced.2⟩

def covers (ranges : List (Nat × Nat)) (place : Nat) : Bool :=
  ranges.any fun (first, last) => first ≤ place && place ≤ last

@[simp] theorem covers_nil (place : Nat) : covers [] place = false := rfl

@[simp] theorem covers_cons (first last : Nat) (rest : List (Nat × Nat)) (place : Nat) :
    covers ((first, last) :: rest) place = (first ≤ place && place ≤ last || covers rest place) :=
  rfl

theorem covers_eq_false_of_lt {low place : Nat} {ranges : List (Nat × Nat)}
    (spaced : SpacedFrom low ranges) (below : place < low) : covers ranges place = false := by
  induction ranges generalizing low with
  | nil => rfl
  | cons range rest ih =>
    obtain ⟨first, last⟩ := range
    obtain ⟨above, nonempty, -, spacedRest⟩ := spaced
    have outside : covers rest place = false := ih spacedRest (by omega)
    simp only [covers_cons, outside, Bool.or_false, Bool.and_eq_false_iff, decide_eq_false_iff_not]
    omega

/-- Adds a range, joined with those that it overlaps or touches. -/
def insert (first last : Nat) : List (Nat × Nat) → List (Nat × Nat)
  | [] => [(first, last)]
  | (first', last') :: rest =>
    if last + 1 < first' then (first, last) :: (first', last') :: rest
    else if last' + 1 < first then (first', last') :: insert first last rest
    else insert (min first first') (max last last') rest

theorem SpacedFrom.insert {low first last : Nat} {ranges : List (Nat × Nat)}
    (spaced : SpacedFrom low ranges) (above : low ≤ first) (nonempty : first ≤ last)
    (inside : last < charCount) : SpacedFrom low (Ranges.insert first last ranges) := by
  induction ranges generalizing low first last with
  | nil => exact ⟨above, nonempty, inside, trivial⟩
  | cons range rest ih =>
    obtain ⟨first', last'⟩ := range
    obtain ⟨above', nonempty', inside', spacedRest⟩ := spaced
    simp only [Ranges.insert]
    split
    next before => exact ⟨above, nonempty, inside, by omega, nonempty', inside', spacedRest⟩
    next =>
      split
      next behind =>
        exact ⟨above', nonempty', inside', ih spacedRest (by omega) nonempty inside⟩
      next => exact ih (spacedRest.weaken (by omega)) (by omega) (by omega) (by omega)

theorem covers_insert {low first last : Nat} {ranges : List (Nat × Nat)}
    (spaced : SpacedFrom low ranges) (nonempty : first ≤ last) (place : Nat) :
    covers (insert first last ranges) place =
      (first ≤ place && place ≤ last || covers ranges place) := by
  induction ranges generalizing low first last with
  | nil => rfl
  | cons range rest ih =>
    obtain ⟨first', last'⟩ := range
    obtain ⟨-, nonempty', -, spacedRest⟩ := spaced
    simp only [insert]
    split
    next => rfl
    next =>
      split
      next =>
        rw [covers_cons, ih spacedRest nonempty, covers_cons, Bool.or_left_comm]
      next =>
        rw [ih spacedRest (by omega), covers_cons, ← Bool.or_assoc]
        congr 1
        rw [Bool.eq_iff_iff]
        simp only [Bool.or_eq_true, Bool.and_eq_true, decide_eq_true_eq]
        omega

/-- Keeps the ranges that end well before `first` and goes on with the others. -/
def keepBefore (first : Nat) (goOn : List (Nat × Nat) → List (Nat × Nat)) :
    List (Nat × Nat) → List (Nat × Nat)
  | [] => goOn []
  | (first', last') :: rest =>
    if last' + 1 < first then (first', last') :: keepBefore first goOn rest
    else goOn ((first', last') :: rest)

theorem SpacedFrom.keepBefore {low first : Nat} {goOn : List (Nat × Nat) → List (Nat × Nat)}
    {ranges : List (Nat × Nat)} (spaced : SpacedFrom low ranges) (below : low ≤ first)
    (step : ∀ {low rest}, low ≤ first → SpacedFrom low rest → SpacedFrom low (goOn rest)) :
    SpacedFrom low (Ranges.keepBefore first goOn ranges) := by
  induction ranges generalizing low with
  | nil => exact step below spaced
  | cons range rest ih =>
    obtain ⟨first', last'⟩ := range
    simp only [Ranges.keepBefore]
    split
    next =>
      exact ⟨spaced.1, spaced.2.1, spaced.2.2.1, ih spaced.2.2.2 (by omega)⟩
    next => exact step below spaced

theorem covers_keepBefore {low first place : Nat} {goOn : List (Nat × Nat) → List (Nat × Nat)}
    {ranges : List (Nat × Nat)} {more : Bool} (spaced : SpacedFrom low ranges) (below : low ≤ first)
    (step : ∀ {low rest}, low ≤ first → SpacedFrom low rest →
      covers (goOn rest) place = (more || covers rest place)) :
    covers (keepBefore first goOn ranges) place = (more || covers ranges place) := by
  induction ranges generalizing low with
  | nil => exact step below spaced
  | cons range rest ih =>
    obtain ⟨first', last'⟩ := range
    simp only [keepBefore]
    split
    next => rw [covers_cons, ih spaced.2.2.2 (by omega), covers_cons, Bool.or_left_comm]
    next => exact step below spaced

/-- The union of two lists of ranges, in one walk along both. -/
def merge : List (Nat × Nat) → List (Nat × Nat) → List (Nat × Nat)
  | [], ranges => ranges
  | (first, last) :: others, ranges =>
    keepBefore first (fun rest => merge others (insert first last rest)) ranges

theorem SpacedFrom.merge {low : Nat} {others ranges : List (Nat × Nat)}
    (spacedOthers : SpacedFrom low others) (spaced : SpacedFrom low ranges) :
    SpacedFrom low (Ranges.merge others ranges) := by
  induction others generalizing low ranges with
  | nil => exact spaced
  | cons range rest ih =>
    obtain ⟨first, last⟩ := range
    obtain ⟨above, nonempty, inside, spacedRest⟩ := spacedOthers
    refine spaced.keepBefore above fun below spaced' => ?_
    exact ih (spacedRest.weaken (by omega)) (spaced'.insert below nonempty inside)

theorem covers_merge {low place : Nat} {others ranges : List (Nat × Nat)}
    (spacedOthers : SpacedFrom low others) (spaced : SpacedFrom low ranges) :
    covers (merge others ranges) place = (covers others place || covers ranges place) := by
  induction others generalizing low ranges with
  | nil => rfl
  | cons range rest ih =>
    obtain ⟨first, last⟩ := range
    obtain ⟨above, nonempty, inside, spacedRest⟩ := spacedOthers
    refine covers_keepBefore spaced above fun below spaced' => ?_
    rw [ih (spacedRest.weaken (by omega)) (spaced'.insert below nonempty inside),
      covers_insert spaced' nonempty, covers_cons, ← Bool.or_assoc]
    congr 1
    exact Bool.or_comm _ _

/-- The places from `low` on that are in none of the ranges. -/
def gaps : Nat → List (Nat × Nat) → List (Nat × Nat)
  | low, [] => if low < charCount then [(low, charCount - 1)] else []
  | low, (first, last) :: rest =>
    if low < first then (low, first - 1) :: gaps (last + 1) rest else gaps (last + 1) rest

theorem SpacedFrom.gaps {low : Nat} {ranges : List (Nat × Nat)} (spaced : SpacedFrom low ranges) :
    SpacedFrom low (Ranges.gaps low ranges) := by
  induction ranges generalizing low with
  | nil =>
    simp only [Ranges.gaps]
    split
    next => exact ⟨Nat.le_refl low, by omega, by simp only [charCount]; omega, trivial⟩
    next => trivial
  | cons range rest ih =>
    obtain ⟨first, last⟩ := range
    obtain ⟨above, nonempty, inside, spacedRest⟩ := spaced
    have spacedGaps := ih (spacedRest.weaken (Nat.le_succ (last + 1)))
    simp only [Ranges.gaps]
    split
    next =>
      exact ⟨Nat.le_refl low, by omega, by omega, spacedGaps.weaken (by omega)⟩
    next => exact spacedGaps.weaken (by omega)

theorem covers_gaps {low place : Nat} {ranges : List (Nat × Nat)} (spaced : SpacedFrom low ranges)
    (inside : place < charCount) :
    covers (gaps low ranges) place = (low ≤ place && !covers ranges place) := by
  induction ranges generalizing low with
  | nil =>
    simp only [gaps]
    split
    next =>
      simp only [covers_cons, covers_nil, Bool.or_false, Bool.not_false, Bool.and_true]
      rw [Bool.eq_iff_iff]
      simp only [Bool.and_eq_true, decide_eq_true_eq]
      omega
    next =>
      simp only [covers_nil, Bool.not_false, Bool.and_true]
      rw [eq_comm, decide_eq_false_iff_not]
      omega
  | cons range rest ih =>
    obtain ⟨first, last⟩ := range
    obtain ⟨above, nonempty, -, spacedRest⟩ := spaced
    have spacedNext := spacedRest.weaken (Nat.le_succ (last + 1))
    have outside : place < last + 1 → covers rest place = false :=
      covers_eq_false_of_lt spacedNext
    simp only [gaps]
    split
    all_goals
      simp only [covers_cons, ih spacedNext]
      by_cases behind : last + 1 ≤ place
      · simp [behind, show low ≤ place by omega, show ¬place ≤ last by omega]
        try omega
      · rw [outside (by omega), Bool.eq_iff_iff]
        simp [behind]
        omega

end Ranges

/-! ## Sets -/

structure CharSet where
  /-- Ranges of places, both ends included. -/
  ranges : List (Nat × Nat)
  spaced : Ranges.SpacedFrom 0 ranges
deriving DecidableEq, Repr

namespace CharSet

def contains (s : CharSet) (c : Char) : Bool := Ranges.covers s.ranges (charPlace c)

def empty : CharSet := ⟨[], trivial⟩

/-- The set with the places from `first` to `last` added. -/
def addPlaces (s : CharSet) (first last : Nat) : CharSet :=
  let last := min last (charCount - 1)
  if nonempty : first ≤ last then
    ⟨Ranges.insert first last s.ranges,
      s.spaced.insert (Nat.zero_le first) nonempty (by simp only [last, charCount]; omega)⟩
  else s

def range (first last : Char) : CharSet := empty.addPlaces (charPlace first) (charPlace last)

def single (c : Char) : CharSet := range c c

/-- The union of some ranges. -/
def ofRanges (ranges : List (Char × Char)) : CharSet :=
  ranges.foldr (fun (first, last) s => s.addPlaces (charPlace first) (charPlace last)) empty

def union (s t : CharSet) : CharSet := ⟨Ranges.merge t.ranges s.ranges, t.spaced.merge s.spaced⟩

def compl (s : CharSet) : CharSet := ⟨Ranges.gaps 0 s.ranges, s.spaced.gaps⟩

/-- All characters. -/
def any : CharSet := empty.compl

def inter (s t : CharSet) : CharSet := (s.compl.union t.compl).compl

/-- The characters of `s` that are not in `t`. -/
def diff (s t : CharSet) : CharSet := s.inter t.compl

/-- The characters in exactly one of the two sets. -/
def symmDiff (s t : CharSet) : CharSet := (s.diff t).union (t.diff s)

/-- The set with the partner of each member added. -/
def foldedBy (pairs : List (Char × Char)) (s : CharSet) : CharSet :=
  pairs.foldr (fun (c, d) t => if s.contains c then t.addPlaces (charPlace d) (charPlace d) else t)
    s

/-- The set closed under differences of case. -/
def folded (s : CharSet) : CharSet := s.foldedBy casePairs

/-- The set closed under differences of case among ASCII letters. -/
def asciiFolded (s : CharSet) : CharSet := s.foldedBy asciiCasePairs

def isEmpty (s : CharSet) : Bool := s.ranges.isEmpty

/-- The character of a set with one member. -/
def only? (s : CharSet) : Option Char :=
  match s.ranges with
  | [(first, last)] => if first = last then some (charAtPlace first) else none
  | _ => none

def isAscii (s : CharSet) : Bool := s.ranges.all fun (_, last) => last < 128

/-! ## What the sets contain -/

@[simp] theorem contains_empty (c : Char) : empty.contains c = false := rfl

@[simp] theorem contains_addPlaces (s : CharSet) (first last : Nat) (c : Char) :
    (s.addPlaces first last).contains c =
      (first ≤ charPlace c && charPlace c ≤ last || s.contains c) := by
  have inside := charPlace_lt c
  have clipped : charPlace c ≤ min last (charCount - 1) ↔ charPlace c ≤ last := by omega
  simp only [addPlaces]
  split
  next nonempty =>
    simp only [contains, Ranges.covers_insert s.spaced nonempty, clipped]
  next reversed =>
    have none : (first ≤ charPlace c && charPlace c ≤ last) = false := by
      simp only [Bool.and_eq_false_iff, decide_eq_false_iff_not]
      omega
    rw [none, Bool.false_or]

@[simp] theorem contains_range (first last c : Char) :
    (range first last).contains c = (first ≤ c && c ≤ last) := by
  simp [range, charPlace_le]

@[simp] theorem contains_single (c d : Char) : (single c).contains d = decide (d = c) := by
  rw [single, contains_range, Bool.eq_iff_iff]
  simp only [Bool.and_eq_true, decide_eq_true_eq]
  constructor
  · intro ⟨below, above⟩
    exact Char.le_antisymm above below
  · rintro rfl
    exact ⟨Char.le_refl _, Char.le_refl _⟩

@[simp] theorem contains_union (s t : CharSet) (c : Char) :
    (s.union t).contains c = (s.contains c || t.contains c) := by
  simp only [contains, union, Ranges.covers_merge t.spaced s.spaced, Bool.or_comm]

@[simp] theorem contains_compl (s : CharSet) (c : Char) :
    s.compl.contains c = !s.contains c := by
  simp [contains, compl, Ranges.covers_gaps s.spaced (charPlace_lt c)]

@[simp] theorem contains_any (c : Char) : any.contains c = true := by simp [any]

@[simp] theorem contains_inter (s t : CharSet) (c : Char) :
    (s.inter t).contains c = (s.contains c && t.contains c) := by simp [inter]

@[simp] theorem contains_diff (s t : CharSet) (c : Char) :
    (s.diff t).contains c = (s.contains c && !t.contains c) := by simp [diff]

@[simp] theorem contains_symmDiff (s t : CharSet) (c : Char) :
    (s.symmDiff t).contains c = (s.contains c ^^ t.contains c) := by
  rw [symmDiff, contains_union, contains_diff, contains_diff]
  cases s.contains c <;> cases t.contains c <;> rfl

theorem contains_foldedBy (pairs : List (Char × Char)) (s : CharSet) (c : Char) :
    (s.foldedBy pairs).contains c =
      (s.contains c || pairs.any fun (d, partner) => s.contains d && partner == c) := by
  induction pairs with
  | nil => simp [foldedBy]
  | cons pair rest ih =>
    obtain ⟨d, partner⟩ := pair
    have step : s.foldedBy ((d, partner) :: rest) =
        if s.contains d then
          (s.foldedBy rest).addPlaces (charPlace partner) (charPlace partner)
        else s.foldedBy rest := rfl
    have same : (charPlace partner ≤ charPlace c && charPlace c ≤ charPlace partner) =
        (partner == c) := by
      rw [Bool.eq_iff_iff, Bool.and_eq_true, decide_eq_true_eq, decide_eq_true_eq, beq_iff_eq,
        ← charPlace_inj]
      omega
    rw [step, List.any_cons]
    split
    next member =>
      rw [contains_addPlaces, ih, same]
      simp only [member, Bool.true_and]
      rw [Bool.or_left_comm]
    next other => simp [ih, other]

theorem contains_of_only? {s : CharSet} {c : Char} (found : s.only? = some c) (d : Char) :
    s.contains d = decide (d = c) := by
  obtain ⟨ranges, spaced⟩ := s
  simp only [only?] at found
  split at found
  next first last =>
    split at found
    next same =>
      obtain rfl := same
      obtain rfl := Option.some.inj found
      obtain ⟨-, -, inside, -⟩ := spaced
      have place := charPlace_charAtPlace inside
      rw [Bool.eq_iff_iff]
      simp only [contains, Ranges.covers_cons, Ranges.covers_nil, Bool.or_false, Bool.and_eq_true,
        decide_eq_true_eq, ← charPlace_inj, place]
      omega
    next => contradiction
  next => contradiction

/-! ## Named sets of ASCII characters -/

def asciiDigit : CharSet := .range '0' '9'

def asciiBlank : CharSet := ofRanges [('\t', '\r'), (' ', ' ')]

def asciiWord : CharSet := ofRanges [('0', '9'), ('A', 'Z'), ('_', '_'), ('a', 'z')]

/-- The named sets of ASCII characters that stand inside brackets, as in `[[:alpha:]]`. -/
def ofName : List Char → Option CharSet
  | ['a', 'l', 'n', 'u', 'm'] => some (ofRanges [('0', '9'), ('A', 'Z'), ('a', 'z')])
  | ['a', 'l', 'p', 'h', 'a'] => some (ofRanges [('A', 'Z'), ('a', 'z')])
  | ['a', 's', 'c', 'i', 'i'] => some (.range '\x00' '\x7f')
  | ['b', 'l', 'a', 'n', 'k'] => some (ofRanges [('\t', '\t'), (' ', ' ')])
  | ['c', 'n', 't', 'r', 'l'] => some (ofRanges [('\x00', '\x1f'), ('\x7f', '\x7f')])
  | ['d', 'i', 'g', 'i', 't'] => some asciiDigit
  | ['g', 'r', 'a', 'p', 'h'] => some (.range '!' '~')
  | ['l', 'o', 'w', 'e', 'r'] => some (.range 'a' 'z')
  | ['p', 'r', 'i', 'n', 't'] => some (.range ' ' '~')
  | ['p', 'u', 'n', 'c', 't'] =>
    some (ofRanges [('!', '/'), (':', '@'), ('[', '\x60'), ('\x7b', '~')])
  | ['s', 'p', 'a', 'c', 'e'] => some asciiBlank
  | ['u', 'p', 'p', 'e', 'r'] => some (.range 'A' 'Z')
  | ['w', 'o', 'r', 'd'] => some asciiWord
  | ['x', 'd', 'i', 'g', 'i', 't'] => some (ofRanges [('0', '9'), ('A', 'F'), ('a', 'f')])
  | _ => none

end CharSet

end Constituency
