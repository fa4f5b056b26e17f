import Constituency.Text.Lexeme
import Mathlib.Data.List.TakeWhile

/-!
# What stands in a text

A gap is a run of blanks and comments, and a comment reaches to the end of its line. Symbols and
names are taken as long as possible. Each of these is a relation between a text and what is left of
it; a derivation may stop a gap early, the reader never does, so the two are tied together by what
may stand behind a gap. Reading a lexeme succeeds exactly if it stands in front.
-/
namespace Constituency.Text

/-! ### Steps that may fail -/

section Steps

variable {ε ε' α β : Type}

theorem bind_eq_ok_iff {result : Except ε α} {next : α → Except ε β} {value : β} :
    (result >>= next) = .ok value ↔ ∃ first, result = .ok first ∧ next first = .ok value := by
  cases result with
  | error error => simp [bind, Except.bind]
  | ok first => simp [bind, Except.bind]

theorem map_eq_ok_iff {result : Except ε α} {change : α → β} {value : β} :
    result.map change = .ok value ↔ ∃ first, result = .ok first ∧ change first = value := by
  cases result with
  | error error => simp [Except.map]
  | ok first => simp [Except.map]

theorem mapError_eq_ok_iff {result : Except ε α} {change : ε → ε'} {value : α} :
    result.mapError change = .ok value ↔ result = .ok value := by
  cases result with
  | error error => simp [Except.mapError]
  | ok first => simp [Except.mapError]

end Steps

/-! ### Gaps -/

/-- The text is at its end or at the end of a line. -/
def EndsLine (text : List Char) : Prop := ∀ c ∈ text.head?, c = '\n'

/-- `Gap text rest`: what stands in front of `rest` is a run of blanks and comments. -/
inductive Gap : List Char → List Char → Prop
  | none (rest : List Char) : Gap rest rest
  | blank {c : Char} {text rest : List Char} (white : isBlank c = true) (more : Gap text rest) :
    Gap (c :: text) rest
  | comment {line text rest : List Char} (oneLine : '\n' ∉ line) (ends : EndsLine text)
    (more : Gap text rest) : Gap ('/' :: '/' :: line ++ text) rest

/-- Whether a text begins with a blank or a comment. -/
def beginsGap : List Char → Bool
  | '/' :: '/' :: _ => true
  | c :: _ => isBlank c
  | [] => false

theorem beginsGap_eq_false {c : Char} {text : List Char} (black : isBlank c = false)
    (single : c = '/' → text.head? ≠ some '/') : beginsGap (c :: text) = false := by
  unfold beginsGap
  split
  next equal =>
    obtain ⟨rfl, rfl⟩ := List.cons.inj equal
    exact absurd rfl (single rfl)
  next equal =>
    obtain ⟨rfl, rfl⟩ := List.cons.inj equal
    exact black
  next => rfl

theorem Gap.space (text : List Char) : Gap (' ' :: text) text := .blank rfl (.none text)

theorem Gap.lineFeed (text : List Char) : Gap ('\n' :: text) text := .blank rfl (.none text)

theorem Gap.trans {text middle rest : List Char} (first : Gap text middle)
    (second : Gap middle rest) : Gap text rest := by
  induction first with
  | none => exact second
  | blank white _ ih => exact .blank white (ih second)
  | comment oneLine ends _ ih => exact .comment oneLine ends (ih second)

theorem Gap.length_le {text rest : List Char} (gap : Gap text rest) :
    rest.length ≤ text.length := by
  induction gap with
  | none => exact Nat.le_refl _
  | blank _ _ ih => exact Nat.le_succ_of_le ih
  | comment _ _ _ ih =>
    simp only [List.length_append, List.length_cons]
    omega

theorem Gap.eq_of_beginsGap {text rest : List Char} (gap : Gap text rest)
    (no : beginsGap text = false) : rest = text := by
  cases gap with
  | none => rfl
  | blank white =>
    unfold beginsGap at no
    split at no
    next => contradiction
    next equal =>
      obtain ⟨rfl, rfl⟩ := List.cons.inj equal
      exact absurd white (by simp [no])
    next equal => contradiction
  | comment => contradiction

/-- Where no comment begins, one character decides. -/
theorem skipBlank_cons {c : Char} {text : List Char} (single : c = '/' → text.head? ≠ some '/') :
    skipBlank (c :: text) = if isBlank c then skipBlank text else c :: text := by
  rw [skipBlank, skipGap.eq_def]
  split
  next equal => cases equal
  next => contradiction
  next equal =>
    obtain ⟨rfl, rfl⟩ := List.cons.inj equal
    exact absurd rfl (single rfl)
  next equal =>
    obtain ⟨rfl, rfl⟩ := List.cons.inj equal
    rfl

theorem skipBlank_of_isBlank {c : Char} {text : List Char} (white : isBlank c = true) :
    skipBlank (c :: text) = skipBlank text := by
  have notSlash : c ≠ '/' := by rintro rfl; exact absurd white (by decide)
  rw [skipBlank_cons (absurd · notSlash), if_pos white]

theorem skipBlank_of_comment {line text : List Char} (oneLine : '\n' ∉ line)
    (ends : EndsLine text) : skipBlank ('/' :: '/' :: line ++ text) = skipBlank text := by
  show skipGap true (line ++ text) = skipGap false text
  induction line with
  | nil =>
    cases text with
    | nil => rfl
    | cons c rest =>
      obtain rfl : c = '\n' := ends c rfl
      rfl
  | cons c line ih =>
    obtain ⟨other, later⟩ := not_or.mp (mt List.mem_cons.mpr oneLine)
    have still : (c != '\n') = true := by simpa using Ne.symm other
    show skipGap (c != '\n') (line ++ text) = skipGap false text
    rw [still, ih later]

theorem skipBlank_of_not_beginsGap {text : List Char} (no : beginsGap text = false) :
    skipBlank text = text := by
  unfold beginsGap at no
  split at no
  next => contradiction
  next c rest noComment =>
    have single (slash : c = '/') : rest.head? ≠ some '/' := by
      intro first
      obtain ⟨behind, rfl⟩ := List.head?_eq_some_iff.mp first
      exact noComment behind slash rfl
    rw [skipBlank_cons single, no]
    rfl
  next => rfl

/-- Whatever gap a derivation passes, the reader passes at least as much. -/
theorem Gap.skipBlank_eq {text rest : List Char} (gap : Gap text rest) :
    skipBlank text = skipBlank rest := by
  induction gap with
  | none => rfl
  | blank white _ ih => rw [skipBlank_of_isBlank white, ih]
  | comment oneLine ends _ ih => rw [skipBlank_of_comment oneLine ends, ih]

/-- Two gaps in front of a text that end where no other gap begins end at the same place. -/
theorem Gap.unique {text rest rest' : List Char} (gap : Gap text rest)
    (settled : beginsGap rest = false) (gap' : Gap text rest')
    (settled' : beginsGap rest' = false) : rest = rest' := by
  rw [← skipBlank_of_not_beginsGap settled, ← gap.skipBlank_eq, gap'.skipBlank_eq,
    skipBlank_of_not_beginsGap settled']

/-- What begins with a gap begins with a comment, which ends with its line, or with a blank. -/
theorem beginsGap_cases {text : List Char} (begins : beginsGap text = true) :
    (∃ line behind, text = '/' :: '/' :: line ++ behind ∧ '\n' ∉ line ∧ EndsLine behind) ∨
      ∃ c behind, text = c :: behind ∧ isBlank c = true := by
  unfold beginsGap at begins
  split at begins
  next rest =>
    refine .inl ⟨rest.takeWhile (· != '\n'), rest.dropWhile (· != '\n'), ?_, ?_, ?_⟩
    · rw [List.cons_append, List.cons_append, List.takeWhile_append_dropWhile]
    · intro inside
      simpa using List.mem_takeWhile_imp inside
    · intro c first
      have stop := List.head?_dropWhile_not (· != '\n') rest
      simpa [Option.mem_def.mp first] using stop
  next c rest _ => exact .inr ⟨c, rest, rfl, begins⟩
  next => contradiction

/-- What the reader passes is a gap, and no other gap begins behind it. -/
theorem gap_skipBlank (text : List Char) :
    Gap text (skipBlank text) ∧ beginsGap (skipBlank text) = false := by
  by_cases begins : beginsGap text = true
  · rcases beginsGap_cases begins with
      ⟨line, behind, equal, oneLine, ends⟩ | ⟨c, behind, equal, white⟩
    · have shorter : behind.length < text.length := by simp [equal]; omega
      obtain ⟨gap, last⟩ := gap_skipBlank behind
      rw [equal, skipBlank_of_comment oneLine ends]
      exact ⟨.comment oneLine ends gap, last⟩
    · have shorter : behind.length < text.length := by simp [equal]
      obtain ⟨gap, last⟩ := gap_skipBlank behind
      rw [equal, skipBlank_of_isBlank white]
      exact ⟨.blank white gap, last⟩
  · have no : beginsGap text = false := by simpa using begins
    rw [skipBlank_of_not_beginsGap no]
    exact ⟨.none text, no⟩
termination_by text.length

/-- A gap that ends where no other gap begins takes up every other gap. -/
theorem Gap.remainder {text rest next : List Char} (gap : Gap text next)
    (settled : beginsGap next = false) (part : Gap text rest) : Gap rest next := by
  have left := (gap_skipBlank rest).1
  rwa [← part.skipBlank_eq, gap.skipBlank_eq, skipBlank_of_not_beginsGap settled] at left

/-! ### Words -/

/-- A first character of one class, and behind it characters of another. -/
def isWord (start inside : Char → Bool) : List Char → Bool
  | [] => false
  | first :: others => start first && others.all inside

/-- A word stands in front, and no longer one does. -/
inductive WordAt (start inside : Char → Bool) : List Char → String → List Char → Prop
  | intro {word rest : List Char} (form : isWord start inside word = true)
    (stops : ∀ c ∈ rest.head?, inside c = false) :
    WordAt start inside (word ++ rest) (String.ofList word) rest

/-- A letter, then letters, digits and underscores. -/
abbrev isSymbol : List Char → Bool := isWord Char.isAlpha isSymbolChar

abbrev SymbolAt : List Char → String → List Char → Prop := WordAt Char.isAlpha isSymbolChar

/-- Letters, digits, minus signs and underscores, at least one. -/
abbrev NameAt : List Char → String → List Char → Prop := WordAt isNameChar isNameChar

section Words

variable {start inside : Char → Bool} {text rest : List Char} {name : String}

/-- A run that cannot go on is what is taken from the front. -/
theorem takeWhile_append_of_stops {run : List Char} (all : ∀ c ∈ run, inside c = true)
    (stops : ∀ c ∈ rest.head?, inside c = false) : (run ++ rest).takeWhile inside = run := by
  rw [List.takeWhile_append_of_pos all]
  cases rest with
  | nil => simp
  | cons c rest => simp [stops c rfl]

theorem dropWhile_append_of_stops {run : List Char} (all : ∀ c ∈ run, inside c = true)
    (stops : ∀ c ∈ rest.head?, inside c = false) : (run ++ rest).dropWhile inside = rest := by
  rw [List.dropWhile_append_of_pos all]
  cases rest with
  | nil => simp
  | cons c rest => simp [stops c rfl]

/-- Behind the longest run of characters no other one of them stands. -/
theorem dropWhile_stops (text : List Char) :
    ∀ c ∈ (text.dropWhile inside).head?, inside c = false := by
  intro c first
  have stop := List.head?_dropWhile_not inside text
  simpa [Option.mem_def.mp first] using stop

theorem not_wordAt_nil : ¬ WordAt start inside [] name rest := by
  generalize equal : [] = text
  rintro ⟨form, -⟩
  obtain ⟨rfl, -⟩ := List.append_eq_nil_iff.mp equal.symm
  simp [isWord] at form

/-- The word in front consists of the first character and of all that go on behind it. -/
theorem wordAt_cons_iff {first : Char} {others : List Char} :
    WordAt start inside (first :: others) name rest ↔ start first = true ∧
      String.ofList (first :: others.takeWhile inside) = name ∧ others.dropWhile inside = rest := by
  constructor
  · generalize equal : first :: others = text
    rintro ⟨form, stops⟩
    rename_i word
    cases word with
    | nil => simp [isWord] at form
    | cons letter run =>
      rw [List.cons_append] at equal
      obtain ⟨rfl, rfl⟩ := List.cons.inj equal
      simp only [isWord, Bool.and_eq_true, List.all_eq_true] at form
      obtain ⟨starts, all⟩ := form
      rw [takeWhile_append_of_stops all stops, dropWhile_append_of_stops all stops]
      exact ⟨starts, rfl, rfl⟩
  · rintro ⟨starts, rfl, rfl⟩
    have form : isWord start inside (first :: others.takeWhile inside) = true := by
      simp [isWord, starts]
    have whole := WordAt.intro form (dropWhile_stops others)
    rwa [List.cons_append, List.takeWhile_append_dropWhile] at whole

/-- A word begins with a character that may begin one. -/
theorem WordAt.exists_cons (word : WordAt start inside text name rest) :
    ∃ first others, text = first :: others ∧ start first = true := by
  cases text with
  | nil => exact absurd word not_wordAt_nil
  | cons first others =>
    obtain ⟨starts, -, -⟩ := wordAt_cons_iff.mp word
    exact ⟨first, others, rfl, starts⟩

theorem WordAt.isWord (word : WordAt start inside text name rest) :
    isWord start inside name.toList = true := by
  obtain ⟨form, -⟩ := word
  rwa [String.toList_ofList]

theorem WordAt.length_lt (word : WordAt start inside text name rest) :
    rest.length < text.length := by
  cases text with
  | nil => exact absurd word not_wordAt_nil
  | cons first others =>
    obtain ⟨-, -, rfl⟩ := wordAt_cons_iff.mp word
    exact Nat.lt_succ_of_le (List.dropWhile_suffix _).length_le

theorem WordAt.unique {name' : String} {rest' : List Char}
    (word : WordAt start inside text name rest) (word' : WordAt start inside text name' rest') :
    rest = rest' := by
  cases text with
  | nil => exact absurd word not_wordAt_nil
  | cons first others =>
    obtain ⟨-, -, rfl⟩ := wordAt_cons_iff.mp word
    exact (wordAt_cons_iff.mp word').2.2

end Words

theorem isBlank_of_isNameChar {c : Char} (inside : isNameChar c = true) : isBlank c = false := by
  have place : c.val.toNat = c.toNat := rfl
  have both (low high : UInt32) (range : (decide (low ≤ c.val) && decide (c.val ≤ high)) = true) :
      low ≤ c.val ∧ c.val ≤ high :=
    (Bool.and_eq_true_iff.mp range).imp of_decide_eq_true of_decide_eq_true
  have letterOrDigit (alphanum : c.isAlphanum = true) :
      (65 ≤ c.val ∧ c.val ≤ 90) ∨ (97 ≤ c.val ∧ c.val ≤ 122) ∨ (48 ≤ c.val ∧ c.val ≤ 57) := by
    rcases Bool.or_eq_true_iff.mp alphanum with letter | digit
    · rcases Bool.or_eq_true_iff.mp letter with upper | lower
      · exact .inl (of_decide_eq_true upper)
      · exact .inr (.inl (both 97 122 lower))
    · exact .inr (.inr (both 48 57 digit))
  have bounds : 45 ≤ c.toNat ∧ c.toNat ≤ 122 := by
    simp only [isNameChar, Bool.or_eq_true, beq_iff_eq] at inside
    rcases inside with (alphanum | rfl) | rfl
    · have range := letterOrDigit alphanum
      simp only [UInt32.le_iff_toNat_le, UInt32.reduceToNat] at range
      omega
    · decide
    · decide
  simp only [isBlank, Bool.or_eq_false_iff, Bool.and_eq_false_iff, decide_eq_false_iff_not,
    beq_eq_false_iff_ne]
  omega

/-- A name begins with something else than a gap, and not with a mark either. -/
theorem WordAt.beginsGap_eq {text rest : List Char} {name : String} (word : NameAt text name rest) :
    beginsGap text = false := by
  obtain ⟨first, others, rfl, starts⟩ := word.exists_cons
  apply beginsGap_eq_false (isBlank_of_isNameChar starts)
  rintro rfl
  exact absurd starts (by decide)

/-! ### Readers -/

theorem readChar_eq_ok_iff {c : Char} {text rest : List Char} :
    readChar c text = .ok rest ↔ text = c :: rest := by
  cases text with
  | nil => simp [readChar, missing]
  | cons first others =>
    by_cases same : first = c
    · simp [readChar, same]
    · simp [readChar, missing, same]

theorem readArrow_eq_ok_iff {text rest : List Char} :
    readArrow text = .ok rest ↔ text = '-' :: '>' :: rest := by
  unfold readArrow
  split
  next => simp
  next other => simpa [missing] using other rest

theorem readSymbol_eq_ok_iff {text rest : List Char} {name : String} :
    readSymbol text = .ok (name, rest) ↔ SymbolAt text name rest := by
  cases text with
  | nil => simp [readSymbol, missing, not_wordAt_nil]
  | cons first others =>
    by_cases letter : first.isAlpha = true
    · simp [readSymbol, wordAt_cons_iff, letter]
    · simp [readSymbol, missing, wordAt_cons_iff, letter]

theorem readName_eq_ok_iff {text rest : List Char} {name : String} :
    readName text = .ok (name, rest) ↔ NameAt text name rest := by
  cases text with
  | nil => simp [readName, missing, not_wordAt_nil]
  | cons first others =>
    by_cases letter : isNameChar first = true
    · simp [readName, wordAt_cons_iff, letter]
    · simp [readName, missing, wordAt_cons_iff, letter]

end Constituency.Text
