import Constituency.Proofs.TagTable.Renumber
import Mathlib.Data.List.Sort

/-!
# Glossaries with other numbers

A glossary has one entry per tag, in the order of the tags. What it says about a tag depends on the
tag alone, so a glossary is told by its entries, in whatever order and however often they are put
into it. That matters when tags are renumbered: the order of the new tags is another one.
-/
namespace Constituency.TagTable

/-! ### Putting entries at their places -/

/-- Entries that are put at their places, one after the other. -/
def placeAll (entries : List (String × PosEntry)) : List (String × PosEntry) :=
  entries.foldl (fun placed entry => place entry.1 entry.2 placed) []

/-- Whether the tags of some entries increase. -/
def Increasing (entries : List (String × PosEntry)) : Prop := entries.Pairwise (·.1 < ·.1)

variable {entries placed : List (String × PosEntry)} {tag : String} {entry : PosEntry}
  {other : String × PosEntry}

/-- A new entry comes to those with other tags. -/
theorem mem_place_iff (increasing : Increasing entries) :
    other ∈ place tag entry entries ↔ other = (tag, entry) ∨ other ∈ entries ∧ other.1 ≠ tag := by
  induction entries with
  | nil => simp [place]
  | cons first rest ih =>
    obtain ⟨above, tail⟩ := List.pairwise_cons.mp increasing
    rw [place]
    split
    next less =>
      -- All tags that are there are greater than the new one.
      have apart : ∀ later ∈ first :: rest, later.1 ≠ tag := by
        rintro later member rfl
        rcases List.mem_cons.mp member with rfl | behind
        · exact String.lt_irrefl _ less
        · exact String.lt_irrefl _ (String.lt_trans less (above later behind))
      rw [List.mem_cons]
      exact or_congr_right (iff_self_and.mpr (apart other))
    next notLess =>
      split
      next same =>
        have apart : ∀ later ∈ rest, later.1 ≠ tag := by
          rintro later member rfl
          exact String.lt_irrefl _ (same ▸ above later member)
        rw [List.mem_cons, List.mem_cons, or_and_right]
        refine or_congr_right ⟨fun member => .inr ⟨member, apart other member⟩, ?_⟩
        rintro (⟨rfl, different⟩ | ⟨member, -⟩)
        · exact absurd same.symm different
        · exact member
      next different =>
        rw [List.mem_cons, List.mem_cons, ih tail, or_and_right]
        constructor
        · rintro (rfl | new | old)
          · exact .inr (.inl ⟨rfl, Ne.symm different⟩)
          · exact .inl new
          · exact .inr (.inr old)
        · rintro (new | ⟨first, -⟩ | old)
          · exact .inr (.inl new)
          · exact .inl first
          · exact .inr (.inr old)

theorem Increasing.place (increasing : Increasing entries) :
    Increasing (place tag entry entries) := by
  induction entries with
  | nil => exact List.pairwise_singleton ..
  | cons first rest ih =>
    obtain ⟨above, tail⟩ := List.pairwise_cons.mp increasing
    rw [TagTable.place]
    split
    next less =>
      refine List.pairwise_cons.mpr ⟨fun later member => ?_, increasing⟩
      rcases List.mem_cons.mp member with rfl | behind
      · exact less
      · exact String.lt_trans less (above later behind)
    next notLess =>
      split
      next same =>
        exact List.pairwise_cons.mpr ⟨fun later member => same ▸ above later member, tail⟩
      next different =>
        refine List.pairwise_cons.mpr ⟨fun later member => ?_, ih tail⟩
        rcases (mem_place_iff tail).mp member with rfl | ⟨behind, -⟩
        · exact Std.lt_of_le_of_ne (String.not_lt.mp notLess) (Ne.symm different)
        · exact above later behind

theorem increasing_placeAll : Increasing (placeAll entries) := by
  have all (placed : List (String × PosEntry)) (increasing : Increasing placed) : Increasing
      (entries.foldl (fun placed entry => TagTable.place entry.1 entry.2 placed) placed) := by
    induction entries generalizing placed with
    | nil => exact increasing
    | cons first rest ih => exact ih _ increasing.place
  exact all [] .nil

/-- Entries that all say what is known about their tags replace each other by themselves. -/
theorem mem_foldl_place {value : String → Option PosEntry} (increasing : Increasing placed)
    (old : ∀ entry ∈ placed, value entry.1 = some entry.2)
    (new : ∀ entry ∈ entries, value entry.1 = some entry.2) :
    other ∈ entries.foldl (fun placed entry => place entry.1 entry.2 placed) placed ↔
      other ∈ placed ∨ other ∈ entries := by
  induction entries generalizing placed with
  | nil => simp
  | cons first rest ih =>
    obtain ⟨here, later⟩ := List.forall_mem_cons.mp new
    -- An entry that gives way has the tag of the new one, so it said the same.
    have step (entry : String × PosEntry) :
        entry ∈ place first.1 first.2 placed ↔ entry = first ∨ entry ∈ placed := by
      rw [mem_place_iff increasing]
      refine or_congr_right' fun different => and_iff_left_of_imp fun member same => different ?_
      have equal := old entry member
      rw [same, here] at equal
      exact Prod.ext same (Option.some.inj equal).symm
    have valued : ∀ entry ∈ place first.1 first.2 placed, value entry.1 = some entry.2 := by
      intro entry member
      rcases (step entry).mp member with rfl | before
      · exact here
      · exact old entry before
    rw [List.foldl_cons, ih increasing.place valued later, step, List.mem_cons, or_assoc,
      or_left_comm]

theorem mem_placeAll {value : String → Option PosEntry}
    (valued : ∀ entry ∈ entries, value entry.1 = some entry.2) :
    other ∈ placeAll entries ↔ other ∈ entries := by
  rw [placeAll, mem_foldl_place .nil (by simp) valued, or_iff_right List.not_mem_nil]

instance : Std.Antisymm fun first second : String × PosEntry => first.1 < second.1 where
  antisymm _ _ less more := absurd (String.lt_trans less more) (String.lt_irrefl _)

instance : Std.Irrefl fun first second : String × PosEntry => first.1 < second.1 where
  irrefl _ := String.lt_irrefl _

/-! ### The glossary of a sentence -/

/-- What the glossary of a sentence says about a token. -/
def noteOn (table : TagTable) (token : Token) : Option (String × PosEntry) :=
  (table.describe token.tag).map fun entry => (token.tag, entry)

variable {table : TagTable} {tokens : List Token}

theorem glossaryFor_eq_placeAll :
    table.glossaryFor tokens = placeAll (tokens.filterMap table.noteOn) := by
  rw [placeAll, List.foldl_filterMap, glossaryFor]
  congr 1
  funext placed token
  rw [noteOn]
  cases table.describe token.tag <;> rfl

theorem describe_of_noteOn {token : Token} (noted : table.noteOn token = some other) :
    table.describe other.1 = some other.2 ∧ token.tag = other.1 := by
  obtain ⟨entry, described, rfl⟩ := Option.map_eq_some_iff.mp noted
  exact ⟨described, rfl⟩

theorem describe_of_mem_notes (member : other ∈ tokens.filterMap table.noteOn) :
    table.describe other.1 = some other.2 := by
  obtain ⟨token, -, noted⟩ := List.mem_filterMap.mp member
  exact (describe_of_noteOn noted).1

/-- A glossary has an entry for each tag of the sentence about which something is known. -/
theorem mem_glossaryFor :
    other ∈ table.glossaryFor tokens ↔ other ∈ tokens.filterMap table.noteOn := by
  rw [glossaryFor_eq_placeAll]
  exact mem_placeAll fun entry => describe_of_mem_notes

/-- A glossary with other numbers, in the order of the new tags. -/
def renumberGlossary (shift : Nat → Nat) (glossary : List (String × PosEntry)) :
    List (String × PosEntry) :=
  placeAll (glossary.map (Prod.map (SyntheticTag.renumber shift) id))

theorem Renumbers.glossaryFor_map {shift : Nat → Nat} {fresh : TagTable}
    (renumbers : Renumbers shift table fresh) (known : ∀ token ∈ tokens, table.Knows token.tag) :
    fresh.glossaryFor (tokens.map (Token.renumber shift)) =
      renumberGlossary shift (table.glossaryFor tokens) := by
  have noted {token : Token} (member : token ∈ tokens) : fresh.noteOn (token.renumber shift) =
      (table.noteOn token).map (Prod.map (SyntheticTag.renumber shift) id) := by
    rw [noteOn, noteOn, Token.renumber, renumbers.describe_renumber (known token member)]
    cases table.describe token.tag <;> rfl
  have same : ∀ entry, entry ∈ (tokens.map (Token.renumber shift)).filterMap fresh.noteOn ↔
      entry ∈ (table.glossaryFor tokens).map (Prod.map (SyntheticTag.renumber shift) id) := by
    intro entry
    simp only [List.mem_filterMap, List.mem_map, mem_glossaryFor]
    constructor
    · rintro ⟨_, ⟨token, member, rfl⟩, described⟩
      rw [noted member] at described
      obtain ⟨note, own, rfl⟩ := Option.map_eq_some_iff.mp described
      exact ⟨note, ⟨token, member, own⟩, rfl⟩
    · rintro ⟨note, ⟨token, member, own⟩, rfl⟩
      exact ⟨_, ⟨token, member, rfl⟩, by rw [noted member, own]; rfl⟩
  -- Both lists are increasing and have the same members.
  have described : ∀ entry ∈ (table.glossaryFor tokens).map
      (Prod.map (SyntheticTag.renumber shift) id), fresh.describe entry.1 = some entry.2 :=
    fun entry member => describe_of_mem_notes ((same entry).mpr member)
  rw [glossaryFor_eq_placeAll]
  apply List.Pairwise.eq_of_mem_iff increasing_placeAll increasing_placeAll
  intro entry
  rw [mem_placeAll described, ← same entry]
  exact mem_placeAll fun entry => describe_of_mem_notes

end Constituency.TagTable
