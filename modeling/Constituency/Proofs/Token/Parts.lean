import Constituency.Token

/-!
# The parts of a token list

A text is cut into parts at its separators, which are the semicolons without a colon right behind
them. The parts are pinned down by what they are: joined with semicolons they give the text back, no
part holds a separator, and no part but the first begins with a colon, since a semicolon in front of
a colon is none. No other list of texts has all of that.
-/
namespace Constituency

/-- Whether every semicolon of a text has a colon right behind it, and so separates nothing. -/
def isTokenPart : List Char → Bool
  | [] => true
  | c :: rest => (c != ';' || rest.head? == some ':') && isTokenPart rest

@[simp] theorem isTokenPart_nil : isTokenPart [] = true := rfl

@[simp] theorem isTokenPart_cons {c : Char} {rest : List Char} :
    isTokenPart (c :: rest) = true ↔
      (c = ';' → rest.head? = some ':') ∧ isTokenPart rest = true := by
  simp only [isTokenPart, Bool.and_eq_true, Bool.or_eq_true, bne_iff_ne, beq_iff_eq]
  rw [← Decidable.imp_iff_not_or]

/-! ### The cuts -/

theorem tokenParts_ne_nil (text : List Char) : tokenParts text ≠ [] := by
  cases text with
  | nil => simp [tokenParts]
  | cons c rest =>
    simp only [tokenParts]
    split
    · simp
    · split <;> simp

/-- A separator ends an empty part. -/
theorem tokenParts_separator {rest : List Char} (separates : rest.head? ≠ some ':') :
    tokenParts (';' :: rest) = [] :: tokenParts rest := by
  rw [tokenParts, if_pos ⟨rfl, separates⟩]

/-- Any other character begins the first part. -/
theorem tokenParts_cons {c : Char} {rest : List Char} (ordinary : c = ';' → rest.head? = some ':') :
    tokenParts (c :: rest) = (tokenParts rest).modifyHead (c :: ·) := by
  obtain ⟨first, others, parts⟩ := List.exists_cons_of_ne_nil (tokenParts_ne_nil rest)
  rw [tokenParts, if_neg (fun separator => separator.2 (ordinary separator.1)), parts]
  rfl

theorem tokenParts_of_isTokenPart {part : List Char} (whole : isTokenPart part = true) :
    tokenParts part = [part] := by
  induction part with
  | nil => rfl
  | cons c rest ih =>
    obtain ⟨ordinary, whole⟩ := isTokenPart_cons.mp whole
    rw [tokenParts_cons ordinary, ih whole]
    rfl

theorem tokenParts_append_separator {part rest : List Char} (whole : isTokenPart part = true)
    (separates : rest.head? ≠ some ':') :
    tokenParts (part ++ ';' :: rest) = part :: tokenParts rest := by
  induction part with
  | nil => exact tokenParts_separator separates
  | cons c behind ih =>
    obtain ⟨ordinary, whole⟩ := isTokenPart_cons.mp whole
    have ordinary' : c = ';' → (behind ++ ';' :: rest).head? = some ':' := fun semicolon => by
      rw [List.head?_append, ordinary semicolon]
      rfl
    rw [List.cons_append, tokenParts_cons ordinary', ih whole]
    rfl

/-! ### What the parts are -/

theorem intercalate_tokenParts (text : List Char) : [';'].intercalate (tokenParts text) = text := by
  induction text with
  | nil => rfl
  | cons c rest ih =>
    by_cases separator : c = ';' ∧ rest.head? ≠ some ':'
    · obtain ⟨rfl, separates⟩ := separator
      rw [tokenParts_separator separates, List.intercalate_cons_of_ne_nil (tokenParts_ne_nil rest),
        ih]
      rfl
    · obtain ⟨first, others, parts⟩ := List.exists_cons_of_ne_nil (tokenParts_ne_nil rest)
      rw [parts] at ih
      rw [tokenParts_cons (by simpa using separator), parts, List.modifyHead_cons,
        List.intercalate_cons_cons_left, ih]

/-- The first part begins as the text does, unless a separator stands there. -/
theorem head?_head?_tokenParts {c : Char} {rest : List Char} (ordinary : c ≠ ';') :
    ((tokenParts (c :: rest)).head?.bind List.head?) = some c := by
  obtain ⟨first, others, parts⟩ := List.exists_cons_of_ne_nil (tokenParts_ne_nil rest)
  rw [tokenParts_cons (fun semicolon => absurd semicolon ordinary), parts]
  rfl

theorem isTokenPart_of_mem_tokenParts {text part : List Char} (member : part ∈ tokenParts text) :
    isTokenPart part = true := by
  induction text generalizing part with
  | nil =>
    obtain rfl := List.mem_singleton.mp member
    rfl
  | cons c rest ih =>
    by_cases separator : c = ';' ∧ rest.head? ≠ some ':'
    · obtain ⟨rfl, separates⟩ := separator
      rw [tokenParts_separator separates] at member
      rcases List.mem_cons.mp member with rfl | later
      · rfl
      · exact ih later
    · have ordinary : c = ';' → rest.head? = some ':' := by simpa using separator
      obtain ⟨first, others, parts⟩ := List.exists_cons_of_ne_nil (tokenParts_ne_nil rest)
      rw [tokenParts_cons ordinary, parts] at member
      rw [parts] at ih
      rcases List.mem_cons.mp member with rfl | later
      · refine isTokenPart_cons.mpr ⟨fun semicolon => ?_, ih (List.mem_cons_self ..)⟩
        -- The colon behind the semicolon is the first character of the same part.
        obtain ⟨behind, rfl⟩ := List.head?_eq_some_iff.mp (ordinary semicolon)
        have begins := @head?_head?_tokenParts ':' behind (by decide)
        simpa [parts] using begins
      · exact ih (List.mem_cons_of_mem _ later)

theorem head?_of_mem_tail_tokenParts {text part : List Char}
    (member : part ∈ (tokenParts text).tail) : part.head? ≠ some ':' := by
  induction text generalizing part with
  | nil => simp [tokenParts] at member
  | cons c rest ih =>
    obtain ⟨first, others, parts⟩ := List.exists_cons_of_ne_nil (tokenParts_ne_nil rest)
    rw [parts] at ih
    by_cases separator : c = ';' ∧ rest.head? ≠ some ':'
    · obtain ⟨rfl, separates⟩ := separator
      rw [tokenParts_separator separates, List.tail_cons, parts] at member
      rcases List.mem_cons.mp member with rfl | later
      · -- The part behind a separator begins as the text behind it.
        intro colon
        have joined := intercalate_tokenParts rest
        obtain ⟨behind, rfl⟩ := List.head?_eq_some_iff.mp colon
        rw [parts, List.intercalate_cons_cons_left] at joined
        exact separates (by rw [← joined]; rfl)
      · exact ih later
    · rw [tokenParts_cons (by simpa using separator), parts] at member
      exact ih member

/-- The parts of a text are the one list of texts that could have been joined to it. -/
theorem tokenParts_eq_iff {text : List Char} {parts : List (List Char)} :
    tokenParts text = parts ↔ parts ≠ [] ∧ [';'].intercalate parts = text ∧
      (∀ part ∈ parts, isTokenPart part = true) ∧
      ∀ part ∈ parts.tail, part.head? ≠ some ':' := by
  constructor
  · rintro rfl
    exact ⟨tokenParts_ne_nil text, intercalate_tokenParts text,
      fun _ => isTokenPart_of_mem_tokenParts, fun _ => head?_of_mem_tail_tokenParts⟩
  · rintro ⟨some, rfl, whole, begins⟩
    induction parts with
    | nil => contradiction
    | cons part others ih =>
      have wholePart := whole part (List.mem_cons_self ..)
      cases others with
      | nil => rw [List.intercalate_singleton, tokenParts_of_isTokenPart wholePart]
      | cons next later =>
        -- What stands behind the separator begins as the next part, or with another separator.
        have separates : ([';'].intercalate (next :: later)).head? ≠ Option.some ':' := by
          cases next with
          | nil => cases later <;> simp [List.intercalate_cons_cons]
          | cons c behind =>
            rw [List.intercalate_cons_cons_left]
            exact begins (c :: behind) (List.mem_cons_self ..)
        rw [List.intercalate_cons_cons, List.append_assoc, List.singleton_append,
          tokenParts_append_separator wholePart separates,
          ih (by simp) (fun p member => whole p (List.mem_cons_of_mem _ member))
            (fun p member => begins p (List.mem_cons_of_mem _ member))]

end Constituency
