import Constituency.Proofs.Regex.Template
import Constituency.Proofs.Text.Trimming
import Mathlib.Data.List.TakeWhile

/-!
# Templates part by part

A template is read as one text, and its pieces do not end where a token of it does: a brace that is
opened in front of a colon or a semicolon is closed by the first closing brace behind it. Where no
brace is left open, or none is closed behind, a template expands part by part.
-/
namespace Constituency.Template

open Constituency.Text

variable {captures : Regex.Captures}

/-! ### Reading on -/

theorem length_readReference_le (rest : List Char) :
    (readReference rest).2.length ≤ rest.length := by
  unfold readReference
  split
  next => exact Nat.le_succ _
  next inside =>
    split
    next closing behind found =>
      have shorter := (List.dropWhile_sublist (· != '\x7d') (l := inside)).length_le
      rw [found, List.length_cons] at shorter
      simp only [List.length_cons]
      omega
    next => exact Nat.le_refl _
  next =>
    split
    next => exact Nat.le_refl _
    next => exact (List.dropWhile_sublist _).length_le

/-- Any room for all of the text is enough. -/
theorem readPieces_congr {room other : Nat} {text : List Char} (enough : text.length ≤ room)
    (enough' : text.length ≤ other) : readPieces room text = readPieces other text := by
  induction room generalizing other text with
  | zero =>
    obtain rfl := List.length_eq_zero_iff.mp (Nat.le_zero.mp enough)
    cases other <;> rfl
  | succ room ih =>
    obtain _ | ⟨c, rest⟩ := text
    · cases other <;> rfl
    obtain _ | other := other
    · contradiction
    rw [List.length_cons, Nat.succ_le_succ_iff] at enough enough'
    -- A reference leaves no more than what stands behind the dollar sign.
    have behind := length_readReference_le rest
    rw [readPieces, readPieces, ih enough enough']
    simp only
    rw [ih (Nat.le_trans behind enough) (Nat.le_trans behind enough')]

theorem read_cons {c : Char} (rest : List Char) (ordinary : c ≠ '$') :
    read (c :: rest) = .literal c :: read rest := by
  rw [read, List.length_cons, readPieces, if_neg ordinary]
  rfl

theorem read_reference (rest : List Char) :
    read ('$' :: rest) = (readReference rest).1 :: read (readReference rest).2 := by
  rw [read, List.length_cons, readPieces, if_pos rfl]
  simp only
  rw [readPieces_congr (length_readReference_le rest) (Nat.le_refl _)]
  rfl

/-! ### Open braces -/

/-- Whether one of the braces that are opened in a text is not closed in it. -/
def opensIn : Nat → List Char → Bool
  | 0, _ => false
  | _ + 1, [] => false
  | room + 1, c :: rest =>
    if c = '$' then
      (rest.head? == some '\x7b' && !rest.contains '\x7d') || opensIn room (readReference rest).2
    else opensIn room rest

def leavesOpen (text : List Char) : Bool := opensIn text.length text

theorem opensIn_congr {room other : Nat} {text : List Char} (enough : text.length ≤ room)
    (enough' : text.length ≤ other) : opensIn room text = opensIn other text := by
  induction room generalizing other text with
  | zero =>
    obtain rfl := List.length_eq_zero_iff.mp (Nat.le_zero.mp enough)
    cases other <;> rfl
  | succ room ih =>
    obtain _ | ⟨c, rest⟩ := text
    · cases other <;> rfl
    obtain _ | other := other
    · contradiction
    rw [List.length_cons, Nat.succ_le_succ_iff] at enough enough'
    have behind := length_readReference_le rest
    rw [opensIn, opensIn, ih enough enough', ih (Nat.le_trans behind enough) (Nat.le_trans behind enough')]

theorem leavesOpen_cons {c : Char} (rest : List Char) (ordinary : c ≠ '$') :
    leavesOpen (c :: rest) = leavesOpen rest := by
  rw [leavesOpen, List.length_cons, opensIn, if_neg ordinary]
  rfl

theorem leavesOpen_reference (rest : List Char) : leavesOpen ('$' :: rest) =
    ((rest.head? == some '\x7b' && !rest.contains '\x7d') ||
      leavesOpen (readReference rest).2) := by
  rw [leavesOpen, List.length_cons, opensIn, if_pos rfl,
    opensIn_congr (length_readReference_le rest) (Nat.le_refl _)]
  rfl

/-! ### References in front of a colon -/

theorem readReference_closed {name : List Char} (rest : List Char) (inner : '\x7d' ∉ name) :
    readReference ('\x7b' :: (name ++ '\x7d' :: rest)) = (reference name, rest) := by
  have goes : ∀ c ∈ name, (c != '\x7d') = true := by
    intro c member
    simpa using fun same : c = '\x7d' => inner (same ▸ member)
  have dropped : (name ++ '\x7d' :: rest).dropWhile (· != '\x7d') = '\x7d' :: rest := by
    rw [dropWhile_append_cons _ _ (by simp), List.dropWhile_eq_nil_iff.mpr goes, List.nil_append]
  have taken : (name ++ '\x7d' :: rest).takeWhile (· != '\x7d') = name := by
    rw [takeWhile_append_cons _ _ (by simp), List.takeWhile_eq_self_iff.mpr goes]
  simp only [readReference, dropped, taken]

theorem readReference_open {inside : List Char} (opened : '\x7d' ∉ inside) :
    readReference ('\x7b' :: inside) = (.literal '$', '\x7b' :: inside) := by
  have none : inside.dropWhile (· != '\x7d') = [] := by
    rw [List.dropWhile_eq_nil_iff]
    intro c member
    have other : c ≠ '\x7d' := fun same => opened (same ▸ member)
    simpa using other
  simp [readReference, none]

theorem readReference_word {text : List Char} (noDollar : text.head? ≠ some '$')
    (noBrace : text.head? ≠ some '\x7b') : readReference text =
      (if text.takeWhile isReferenceChar = [] then .literal '$'
        else reference (text.takeWhile isReferenceChar), text.dropWhile isReferenceChar) := by
  unfold readReference
  split
  next => simp at noDollar
  next => simp at noBrace
  next =>
    split
    next none =>
      have whole := List.takeWhile_append_dropWhile (p := isReferenceChar) (l := text)
      rw [none, List.nil_append] at whole
      rw [if_pos none, whole]
    next some => rw [if_neg some]

/-- A word ends in front of any other character. -/
theorem readReference_append_other {text : List Char} {c : Char} (rest : List Char)
    (noDollar : text.head? ≠ some '$') (noBrace : text.head? ≠ some '\x7b')
    (other : isReferenceChar c = false) (notDollar : c ≠ '$') (notBrace : c ≠ '\x7b') :
    readReference (text ++ c :: rest) =
      ((readReference text).1, (readReference text).2 ++ c :: rest) := by
  have begins : (text ++ c :: rest).head? ≠ some '$' := by
    cases text <;> simp_all
  have begins' : (text ++ c :: rest).head? ≠ some '\x7b' := by
    cases text <;> simp_all
  rw [readReference_word noDollar noBrace, readReference_word begins begins',
    takeWhile_append_cons _ _ other, dropWhile_append_cons _ _ other]

/-- A reference ends at a colon, unless its braces are open there and closed behind. -/
theorem readReference_append {rest behind : List Char}
    (closed : rest.head? = some '\x7b' → '\x7d' ∉ rest → '\x7d' ∉ behind) :
    readReference (rest ++ ':' :: behind) =
      ((readReference rest).1, (readReference rest).2 ++ ':' :: behind) := by
  by_cases dollar : rest.head? = some '$'
  · obtain ⟨rest, rfl⟩ := List.head?_eq_some_iff.mp dollar
    rfl
  by_cases brace : rest.head? = some '\x7b'
  · obtain ⟨inside, rfl⟩ := List.head?_eq_some_iff.mp brace
    by_cases inner : '\x7d' ∈ inside
    · -- The braces are closed in front of the colon.
      obtain ⟨name, last, rfl, early⟩ := List.eq_append_cons_of_mem inner
      rw [List.cons_append, List.append_assoc, List.cons_append, readReference_closed _ early,
        readReference_closed _ early]
    · -- They are never closed, so the dollar sign stands for itself.
      have noBrace : '\x7d' ∉ inside ++ ':' :: behind := by
        simpa [inner] using closed rfl (by simp [inner])
      rw [List.cons_append, readReference_open inner, readReference_open noBrace]
      rfl
  · exact readReference_append_other behind dollar brace (by decide) (by decide) (by decide)

theorem read_append {text behind : List Char} (closed : leavesOpen text = true → '\x7d' ∉ behind) :
    read (text ++ ':' :: behind) = read text ++ .literal ':' :: read behind := by
  -- A reference is passed as a whole, so the induction is on the length of the text.
  induction least : text.length using Nat.strongRecOn generalizing text with
  | ind count ih =>
    obtain _ | ⟨c, rest⟩ := text
    · exact read_cons behind (by decide)
    rw [List.length_cons] at least
    by_cases reference : c = '$'
    · subst reference
      rw [leavesOpen_reference] at closed
      have here := @readReference_append rest behind fun brace inner =>
        closed (by simp [brace, inner])
      have shorter := length_readReference_le rest
      rw [List.cons_append, read_reference, read_reference, here]
      dsimp only
      rw [ih _ (by omega) (fun later => closed (by simp [later])) rfl]
      rfl
    · rw [leavesOpen_cons rest reference] at closed
      rw [List.cons_append, read_cons _ reference, read_cons _ reference,
        ih rest.length (by omega) closed rfl]
      rfl

/-- Where no open brace is closed behind a colon, the texts on both sides expand on their own. -/
theorem expand_append {text behind : List Char}
    (closed : leavesOpen text = true → '\x7d' ∉ behind) :
    expand (text ++ ':' :: behind) captures =
      expand text captures ++ ':' :: expand behind captures := by
  rw [expand, read_append closed, List.flatMap_append, List.flatMap_cons]
  rfl

theorem expand_cons {c : Char} (rest : List Char) (ordinary : c ≠ '$') :
    expand (c :: rest) captures = c :: expand rest captures := by
  rw [expand, read_cons rest ordinary, List.flatMap_cons]
  rfl

theorem expand_append_of_no_reference {front : List Char} (rest : List Char) (plain : '$' ∉ front) :
    expand (front ++ rest) captures = front ++ expand rest captures := by
  induction front with
  | nil => rfl
  | cons c front ih =>
    rw [List.mem_cons, not_or] at plain
    rw [List.cons_append, expand_cons _ (Ne.symm plain.1), ih plain.2, List.cons_append]

/-! ### Whole templates -/

/-- A template that shows words and tags, one part behind the other. -/
def joinParts (parts : List (List Char × List Char)) : List Char :=
  [';'].intercalate (parts.map fun part => part.1 ++ ':' :: part.2)

/-- What stands behind a tag in front of other parts. -/
def afterTag : List (List Char × List Char) → List Char
  | [] => []
  | part :: parts => ';' :: joinParts (part :: parts)

/-- Whether no brace that a word leaves open is closed behind the colon. -/
def isUncrossed : List (List Char × List Char) → Bool
  | [] => true
  | (word, tag) :: parts =>
    (!leavesOpen word || !(tag ++ afterTag parts).contains '\x7d') && isUncrossed parts

theorem joinParts_cons (word tag : List Char) (parts : List (List Char × List Char)) :
    joinParts ((word, tag) :: parts) = word ++ ':' :: (tag ++ afterTag parts) := by
  cases parts with
  | nil => simp [joinParts, afterTag]
  | cons next parts => simp [joinParts, afterTag, List.intercalate_cons_cons]

theorem expand_afterTag (parts : List (List Char × List Char)) :
    expand (afterTag parts) captures =
      if parts = [] then [] else ';' :: expand (joinParts parts) captures := by
  cases parts with
  | nil => rfl
  | cons part parts => exact expand_cons _ (by decide)

theorem isUncrossed_cons {word tag : List Char} {parts : List (List Char × List Char)} :
    isUncrossed ((word, tag) :: parts) = true ↔
      (leavesOpen word = true → '\x7d' ∉ tag ++ afterTag parts) ∧ isUncrossed parts = true := by
  rw [isUncrossed, Bool.and_eq_true, Bool.or_eq_true, Bool.not_eq_true', ← Bool.not_eq_true,
    Bool.not_eq_true', ← Bool.not_eq_true, List.contains_iff_mem, ← imp_iff_not_or]

/-- Where no brace is left open across a colon, a template expands word by word. -/
theorem expand_joinParts {parts : List (List Char × List Char)}
    (uncrossed : isUncrossed parts = true) (literal : ∀ part ∈ parts, '$' ∉ part.2) :
    expand (joinParts parts) captures =
      joinParts (parts.map fun part => (expand part.1 captures, part.2)) := by
  induction parts with
  | nil => rfl
  | cons part parts ih =>
    obtain ⟨word, tag⟩ := part
    obtain ⟨closed, uncrossed⟩ := isUncrossed_cons.mp uncrossed
    obtain ⟨noReference, literal⟩ := List.forall_mem_cons.mp literal
    rw [joinParts_cons, expand_append closed,
      expand_append_of_no_reference _ noReference, expand_afterTag, ih uncrossed literal,
      List.map_cons, joinParts_cons]
    cases parts <;> rfl

/-! ### Braces that are closed in another part -/

/-- Behind a closing brace the pieces are those of the text that is left. -/
theorem readReference_brace (text rest : List Char) :
    (readReference (text ++ '\x7d' :: rest)).2 = rest ∨ ∃ later, later.length ≤ text.length ∧
      (readReference (text ++ '\x7d' :: rest)).2 = later ++ '\x7d' :: rest := by
  by_cases dollar : text.head? = some '$'
  · obtain ⟨text, rfl⟩ := List.head?_eq_some_iff.mp dollar
    exact .inr ⟨text, Nat.le_succ _, rfl⟩
  by_cases brace : text.head? = some '\x7b'
  · obtain ⟨inside, rfl⟩ := List.head?_eq_some_iff.mp brace
    rw [List.cons_append]
    by_cases inner : '\x7d' ∈ inside
    · obtain ⟨name, last, rfl, early⟩ := List.eq_append_cons_of_mem inner
      refine .inr ⟨last, ?_, ?_⟩
      · simp only [List.length_cons, List.length_append]
        omega
      · rw [List.append_assoc, List.cons_append, readReference_closed _ early]
    · exact .inl (by rw [readReference_closed _ inner])
  · refine .inr ⟨text.dropWhile isReferenceChar, (List.dropWhile_sublist _).length_le, ?_⟩
    rw [readReference_append_other rest dollar brace (by decide) (by decide) (by decide),
      readReference_word dollar brace]

theorem exists_read_brace (text rest : List Char) :
    ∃ front, read (text ++ '\x7d' :: rest) = front ++ read rest := by
  induction least : text.length using Nat.strongRecOn generalizing text with
  | ind count ih =>
    obtain _ | ⟨c, text⟩ := text
    · exact ⟨[.literal '\x7d'], read_cons rest (by decide)⟩
    rw [List.length_cons] at least
    by_cases reference : c = '$'
    · subst reference
      rw [List.cons_append, read_reference]
      -- The brace ends this reference, or it stands in what the reference leaves.
      rcases readReference_brace text rest with closed | ⟨later, shorter, behind⟩
      · exact ⟨[_], by rw [closed]; rfl⟩
      · obtain ⟨front, shape⟩ := ih later.length (by omega) later rfl
        exact ⟨_ :: front, by rw [behind, shape]; rfl⟩
    · obtain ⟨front, shape⟩ := ih text.length (by omega) text rfl
      exact ⟨.literal c :: front, by rw [List.cons_append, read_cons _ reference, shape]; rfl⟩

/-- The reference that an open brace begins ends at the first closing brace behind it. -/
theorem exists_read_crossing {text : List Char} (opened : leavesOpen text = true) :
    ∃ front inside, (∃ back, read text = front ++ back) ∧ ∀ before after, '\x7d' ∉ before →
      read (text ++ ':' :: (before ++ '\x7d' :: after)) =
        front ++ reference (inside ++ ':' :: before) :: read after := by
  induction least : text.length using Nat.strongRecOn generalizing text with
  | ind count ih =>
    obtain _ | ⟨c, rest⟩ := text
    · contradiction
    rw [List.length_cons] at least
    by_cases reference : c = '$'
    · subst reference
      by_cases here : rest.head? = some '\x7b' ∧ '\x7d' ∉ rest
      · -- This brace stays open, so its name goes on up to the first brace behind the colon.
        obtain ⟨brace, inner⟩ := here
        obtain ⟨inside, rfl⟩ := List.head?_eq_some_iff.mp brace
        refine ⟨[], inside, ⟨_, rfl⟩, fun before after early => ?_⟩
        have name : '\x7d' ∉ inside ++ ':' :: before := by
          simp only [List.mem_cons, not_or] at inner
          simp [inner, early]
        have shape : '$' :: '\x7b' :: inside ++ ':' :: (before ++ '\x7d' :: after) =
            '$' :: '\x7b' :: (inside ++ ':' :: before ++ '\x7d' :: after) := by
          simp
        rw [shape, read_reference, readReference_closed _ name]
        rfl
      · -- This reference ends in front of the colon, and a later brace stays open.
        rw [leavesOpen_reference] at opened
        have later : leavesOpen (readReference rest).2 = true := by
          simpa [here, not_and] using opened
        have behind := length_readReference_le rest
        obtain ⟨front, inside, ⟨back, alone⟩, crossing⟩ := ih _ (by omega) later rfl
        refine ⟨_ :: front, inside, ⟨back, by rw [read_reference, alone]; rfl⟩,
          fun before after early => ?_⟩
        have whole := @readReference_append rest (before ++ '\x7d' :: after)
          fun brace inner => absurd ⟨brace, inner⟩ here
        rw [List.cons_append, read_reference, whole]
        dsimp only
        rw [crossing before after early]
        rfl
    · rw [leavesOpen_cons rest reference] at opened
      obtain ⟨front, inside, ⟨back, alone⟩, crossing⟩ := ih _ (by omega) opened rfl
      refine ⟨_ :: front, inside, ⟨back, by rw [read_cons _ reference, alone]; rfl⟩,
        fun before after early => ?_⟩
      rw [List.cons_append, read_cons _ reference, crossing before after early]
      rfl

theorem reference_of_colon {name : List Char} (colon : ':' ∈ name) :
    reference name = .named (String.ofList name) := by
  have noNumber (digits : List Char) (inside : ':' ∈ digits) : readDecimal maxWord digits = none :=
    if_neg fun number => absurd (List.all_eq_true.mp number.2.1 ':' inside) (by decide)
  have none : readNatural name = none := by
    unfold readNatural
    split
    next digits => exact noNumber digits (by simpa using colon)
    next => exact noNumber name colon
  rw [reference, none]

section Colons

variable {parts : List (List Char × List Char)}

/-- The only colons of the parts are those between words and tags, however the words expand. -/
def IsQuiet (captures : Regex.Captures) (parts : List (List Char × List Char)) : Prop :=
  ∀ part ∈ parts, ('$' ∉ part.2 ∧ ':' ∉ part.2) ∧ ':' ∉ expand part.1 captures

/-- The first brace that closes anything behind a tag leaves no more colons than there are parts. -/
theorem exists_closing {tag : List Char} (bounded : ∀ others : List (List Char × List Char),
      others.length ≤ parts.length → IsQuiet captures others →
        (expand (joinParts others) captures).count ':' ≤ others.length)
    (quiet : IsQuiet captures parts) (literal : '$' ∉ tag ∧ ':' ∉ tag)
    (closed : '\x7d' ∈ tag ++ afterTag parts) :
    ∃ before after, tag ++ afterTag parts = before ++ '\x7d' :: after ∧ '\x7d' ∉ before ∧
      (expand after captures).count ':' ≤ parts.length := by
  induction parts generalizing tag with
  | nil =>
    rw [afterTag, List.append_nil] at closed ⊢
    obtain ⟨before, after, rfl, early⟩ := List.eq_append_cons_of_mem closed
    refine ⟨before, after, rfl, early, ?_⟩
    simp only [List.mem_append, List.mem_cons, not_or] at literal
    rw [expand_of_no_reference literal.1.2.2, List.count_eq_zero.mpr literal.2.2.2]
    exact Nat.zero_le _
  | cons part parts ih =>
    -- The brace stands in this tag, in the next word, or further on.
    by_cases inTag : '\x7d' ∈ tag
    · obtain ⟨before, rest, rfl, early⟩ := List.eq_append_cons_of_mem inTag
      refine ⟨before, rest ++ afterTag (part :: parts), by simp, early, ?_⟩
      simp only [List.mem_append, List.mem_cons, not_or] at literal
      have ends : expand (rest ++ afterTag (part :: parts)) captures =
          rest ++ ';' :: expand (joinParts (part :: parts)) captures := by
        rw [expand_append_of_no_reference _ literal.1.2.2, expand_afterTag, if_neg (by simp)]
      rw [ends, List.count_append, List.count_eq_zero.mpr literal.2.2.2, Nat.zero_add]
      simpa using bounded _ (Nat.le_refl _) quiet
    · obtain ⟨word, next⟩ := part
      obtain ⟨⟨nextLiteral, silent⟩, quietBehind⟩ := List.forall_mem_cons.mp quiet
      dsimp only at nextLiteral silent
      have shape : tag ++ afterTag ((word, next) :: parts) =
          tag ++ ';' :: (word ++ ':' :: (next ++ afterTag parts)) := by
        rw [afterTag, joinParts_cons]
      rw [shape] at closed ⊢
      by_cases inWord : '\x7d' ∈ word
      · obtain ⟨before, rest, rfl, early⟩ := List.eq_append_cons_of_mem inWord
        refine ⟨tag ++ ';' :: before, rest ++ ':' :: (next ++ afterTag parts), by simp,
          by simp [inTag, early], ?_⟩
        -- What is left of the word expands as it did in the word.
        obtain ⟨front, pieces⟩ := exists_read_brace before rest
        rw [expand, pieces, List.flatMap_append, List.mem_append, not_or] at silent
        rw [← joinParts_cons]
        exact bounded ((rest, next) :: parts) (Nat.le_refl _)
          (List.forall_mem_cons.mpr ⟨⟨nextLiteral, silent.2⟩, quietBehind⟩)
      · have later : '\x7d' ∈ next ++ afterTag parts := by
          simpa [inTag, inWord] using closed
        obtain ⟨before, after, closing, early, few⟩ :=
          ih (fun others short => bounded others (Nat.le_succ_of_le short)) quietBehind nextLiteral
            later
        refine ⟨tag ++ ';' :: (word ++ ':' :: before), after, by simp [closing],
          by simp [inTag, inWord, early], Nat.le_succ_of_le few⟩

/-- Each part shows one colon at most, and fewer are left where a brace is closed across one. -/
theorem count_expand_joinParts
    (unnamed : ∀ label : String, ':' ∈ label.toList → captures.named label = none)
    (quiet : IsQuiet captures parts) :
    (expand (joinParts parts) captures).count ':' ≤ parts.length ∧
      (isUncrossed parts = false →
        (expand (joinParts parts) captures).count ':' < parts.length) := by
  induction least : parts.length using Nat.strongRecOn generalizing parts with
  | ind count ih =>
    obtain _ | ⟨⟨word, tag⟩, parts⟩ := parts
    · exact ⟨Nat.zero_le _, fun crossed => by simp [isUncrossed] at crossed⟩
    obtain ⟨⟨literal, silent⟩, quiet⟩ := List.forall_mem_cons.mp quiet
    dsimp only at literal silent
    rw [List.length_cons] at least
    rw [joinParts_cons]
    by_cases crossed : leavesOpen word = true ∧ '\x7d' ∈ tag ++ afterTag parts
    · obtain ⟨opened, closed⟩ := crossed
      obtain ⟨before, after, shape, early, few⟩ := exists_closing
        (fun others short quiet => (ih _ (by omega) quiet rfl).1) quiet literal closed
      obtain ⟨front, inside, ⟨back, alone⟩, crossing⟩ := exists_read_crossing opened
      rw [expand, alone, List.flatMap_append, List.mem_append, not_or] at silent
      -- The name that goes across the colon is that of no group, so its part leaves no colon.
      have none : (reference (inside ++ ':' :: before)).expand captures = [] := by
        rw [reference_of_colon (by simp), Piece.expand, unnamed _ (by simp)]
        rfl
      have colons : (expand (word ++ ':' :: (tag ++ afterTag parts)) captures).count ':' =
          (expand after captures).count ':' := by
        rw [expand, shape, crossing before after early, List.flatMap_append, List.flatMap_cons,
          none, List.nil_append, List.count_append, List.count_eq_zero.mpr silent.1, Nat.zero_add]
        rfl
      rw [colons]
      omega
    · obtain ⟨le, lt⟩ := ih parts.length (by omega) quiet rfl
      have closed : leavesOpen word = true → '\x7d' ∉ tag ++ afterTag parts :=
        fun opened closed => crossed ⟨opened, closed⟩
      have colons : (expand (word ++ ':' :: (tag ++ afterTag parts)) captures).count ':' =
          (expand (joinParts parts) captures).count ':' + 1 := by
        rw [expand_append closed, expand_append_of_no_reference _ literal.1,
          List.count_append, List.count_eq_zero.mpr silent, List.count_cons, List.count_append,
          List.count_eq_zero.mpr literal.2, expand_afterTag]
        cases parts <;> simp [joinParts, expand, read, readPieces]
      rw [colons]
      refine ⟨by omega, fun isCrossed => ?_⟩
      have later : isUncrossed parts = false := by
        rw [← Bool.not_eq_true, isUncrossed_cons, not_and] at isCrossed
        simpa using isCrossed closed
      have := lt later
      omega

end Colons

end Constituency.Template
