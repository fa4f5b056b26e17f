/-!
# Sets of labels

A grammar names the labels that are spliced out of a tree and those left out of a phrase list. Such
a set is kept as its labels in increasing order without repetition. A set then has one form only,
so sets with the same members are equal, and that form is also the order in which they are written.
-/
namespace Constituency

structure LabelSet where
  labels : List String := []
  increasing : labels.Pairwise (· < ·) := by exact List.Pairwise.nil
deriving DecidableEq

namespace LabelSet

/-- Puts a label at its place in an increasing list. -/
def place (label : String) : List String → List String
  | [] => [label]
  | first :: rest =>
    if label < first then label :: first :: rest
    else if label = first then first :: rest
    else first :: place label rest

theorem mem_place {label other : String} {labels : List String} :
    other ∈ place label labels ↔ other = label ∨ other ∈ labels := by
  induction labels with
  | nil => simp [place]
  | cons first rest ih =>
    simp only [place]
    split
    · simp
    · split
      next equal => simp [equal]
      next => simp only [List.mem_cons, ih]; grind

theorem pairwise_place {label : String} {labels : List String}
    (increasing : labels.Pairwise (· < ·)) : (place label labels).Pairwise (· < ·) := by
  induction labels with
  | nil => simp [place]
  | cons first rest ih =>
    obtain ⟨below, tail⟩ := List.pairwise_cons.mp increasing
    simp only [place]
    split
    next less =>
      refine List.pairwise_cons.mpr ⟨fun other member => ?_, increasing⟩
      rcases List.mem_cons.mp member with rfl | later
      · exact less
      · exact String.lt_trans less (below other later)
    next notLess =>
      split
      next => exact increasing
      next different =>
        refine List.pairwise_cons.mpr ⟨fun other member => ?_, ih tail⟩
        rcases mem_place.mp member with rfl | later
        · exact Std.lt_of_le_of_ne (String.not_lt.mp notLess) (Ne.symm different)
        · exact below other later

def insert (set : LabelSet) (label : String) : LabelSet :=
  ⟨place label set.labels, pairwise_place set.increasing⟩

def insertAll (set : LabelSet) (labels : List String) : LabelSet := labels.foldl insert set

def contains (set : LabelSet) (label : String) : Bool := set.labels.contains label

instance : Membership String LabelSet := ⟨fun set label => label ∈ set.labels⟩

instance (label : String) (set : LabelSet) : Decidable (label ∈ set) :=
  inferInstanceAs (Decidable (label ∈ set.labels))

@[simp] theorem not_mem_empty (label : String) : label ∉ ({} : LabelSet) := List.not_mem_nil

theorem mem_insert {set : LabelSet} {label other : String} :
    other ∈ set.insert label ↔ other = label ∨ other ∈ set := mem_place

theorem mem_insertAll {set : LabelSet} {labels : List String} {other : String} :
    other ∈ set.insertAll labels ↔ other ∈ labels ∨ other ∈ set := by
  induction labels generalizing set with
  | nil => simp [insertAll]
  | cons label rest ih =>
    have step : set.insertAll (label :: rest) = (set.insert label).insertAll rest := rfl
    rw [step, ih, mem_insert, List.mem_cons]
    grind

theorem ext_labels {set other : LabelSet} (same : set.labels = other.labels) : set = other := by
  obtain ⟨labels, _⟩ := set
  obtain ⟨labels', _⟩ := other
  obtain rfl : labels = labels' := same
  rfl

theorem place_eq_append {label : String} {labels : List String}
    (below : ∀ other ∈ labels, other < label) : place label labels = labels ++ [label] := by
  induction labels with
  | nil => rfl
  | cons first rest ih =>
    have less : first < label := below first (List.mem_cons_self ..)
    have notLess : ¬ label < first := fun more => String.lt_irrefl _ (String.lt_trans less more)
    have different : label ≠ first := fun equal => String.lt_irrefl _ (equal ▸ less)
    simp [place, notLess, different, ih fun other member => below other (.tail _ member)]

/-- Labels in increasing order, all behind those of a set, go to its end. -/
theorem labels_insertAll {set : LabelSet} {labels : List String}
    (increasing : (set.labels ++ labels).Pairwise (· < ·)) :
    (set.insertAll labels).labels = set.labels ++ labels := by
  induction labels generalizing set with
  | nil => simp [insertAll]
  | cons label rest ih =>
    have below := fun other member =>
      (List.pairwise_append.mp increasing).2.2 other member label (List.mem_cons_self ..)
    have placed : (set.insert label).labels = set.labels ++ [label] := place_eq_append below
    have step : set.insertAll (label :: rest) = (set.insert label).insertAll rest := rfl
    rw [step, ih (by simpa [placed] using increasing), placed, List.append_assoc]
    rfl

/-- A set is rebuilt from its labels. -/
theorem insertAll_labels (set : LabelSet) : insertAll {} set.labels = set := by
  have equal : (insertAll {} set.labels).labels = set.labels :=
    labels_insertAll (by simpa using set.increasing)
  exact ext_labels equal

end LabelSet

end Constituency
