import Constituency.Accepted
import Constituency.Proofs.TagTable.Language
import Constituency.TagTable.Reader

/-!
# Reading tag table texts

A text that spells calls is read as the entries that the calls register, so the table that is read
is the table that is built. A reader stops at a place that differs from the end of what is spelled by
a gap at most; each of them passes the gap in front first, so what is left is compared without it.
-/
namespace Constituency.TagTable

open Constituency.Text

/-! ### Settings in another order -/

namespace Setting

/-- Settings with different keys change different things. -/
theorem apply_comm {setting other : Setting} (different : setting.key ≠ other.key)
    (rule : TagRule) : apply (apply rule setting) other = apply (apply rule other) setting := by
  cases setting <;> cases other <;> first | rfl | exact absurd rfl different

/-- A setting that moves behind settings with other keys does what it did. -/
theorem foldl_apply_cons {setting : Setting} {front : List Setting}
    (different : ∀ other ∈ front, other.key ≠ setting.key) (rule : TagRule) :
    front.foldl apply (apply rule setting) = apply (front.foldl apply rule) setting := by
  induction front generalizing rule with
  | nil => rfl
  | cons other front ih =>
    obtain ⟨here, later⟩ := List.forall_mem_cons.mp different
    rw [List.foldl_cons, List.foldl_cons, apply_comm here.symm, ih later]

theorem foldl_apply_of_filter_eq {settings others : List Setting}
    (same : ∀ key, settings.filter (·.key = key) = others.filter (·.key = key)) (rule : TagRule) :
    settings.foldl apply rule = others.foldl apply rule := by
  induction settings generalizing others rule with
  | nil =>
    cases others with
    | nil => rfl
    | cons other rest => simpa using same other.key
  | cons setting settings ih =>
    -- The first setting is the first one of its key among the others too, so it can be moved there.
    have first := same setting.key
    rw [List.filter_cons_of_pos (by simp), eq_comm, List.filter_eq_cons_iff] at first
    obtain ⟨front, back, rfl, different, -, rest⟩ := first
    have apart : ∀ other ∈ front, other.key ≠ setting.key := by simpa using different
    have same' (key : String) :
        settings.filter (·.key = key) = (front ++ back).filter (·.key = key) := by
      by_cases own : setting.key = key
      · have none : front.filter (·.key = key) = [] := by simpa [own] using apart
        rw [List.filter_append, none, List.nil_append, ← own, rest]
      · simpa [List.filter_cons, own] using same key
    rw [List.foldl_cons, ih same', List.foldl_append, List.foldl_append, List.foldl_cons,
      foldl_apply_cons apart]

/-- Setting references one by one is setting them together. -/
theorem foldl_apply_parts (rule : TagRule) (setting : Setting) :
    setting.parts.foldl apply rule = apply rule setting := by
  cases setting with
  | refs values =>
    have adds (values : List String) (rule : TagRule) :
        (values.map fun value => refs [value]).foldl apply rule = rule.withRefs values := by
      induction values generalizing rule with
      | nil => simp [TagRule.withRefs]
      | cons value values ih => simp [ih, apply, TagRule.withRefs]
    exact adds values rule
  | _ => rfl

theorem foldl_apply_flatMap_parts (settings : List Setting) (rule : TagRule) :
    (settings.flatMap parts).foldl apply rule = settings.foldl apply rule := by
  induction settings generalizing rule with
  | nil => rfl
  | cons setting settings ih =>
    rw [List.flatMap_cons, List.foldl_append, foldl_apply_parts, ih, List.foldl_cons]

theorem Rearranged.foldl_apply_eq {settings others : List Setting}
    (order : Rearranged settings others) (rule : TagRule) :
    settings.foldl apply rule = others.foldl apply rule := by
  rw [← foldl_apply_flatMap_parts settings, ← foldl_apply_flatMap_parts others]
  exact foldl_apply_of_filter_eq order rule

/-- What spells a setting sets it. -/
theorem Written.setAttribute_eq {setting : Setting} {values : List String}
    (written : setting.Written values) (rule : TagRule) :
    setAttribute rule setting.key values = .ok (apply rule setting) := by
  cases written with
  | rename read => simp [setAttribute, key, single, read, apply, bind, Except.bind, Except.mapError,
      pure, Except.pure]
  | _ => rfl

theorem Written.ne_nil {setting : Setting} {values : List String}
    (written : setting.Written values) : values ≠ [] := by
  cases written with
  | refs some => exact some
  | _ => exact List.cons_ne_nil _ _

end Setting

/-! ### Texts in quotes -/

variable {text rest : List Char}

/-- What is escaped ends at the first quote without a backslash, and reads as it was. -/
theorem readQuotedRest_escaped (content rest : List Char) :
    readQuotedRest (escaped content ++ '"' :: rest) = some (content, rest) := by
  induction content with
  | nil => rfl
  | cons c content ih =>
    rw [escaped]
    split
    next special =>
      have kept : unescape c = c := by rcases special with rfl | rfl <;> rfl
      have inLine : c ≠ '\n' := by rcases special with rfl | rfl <;> decide
      simp [readQuotedRest, inLine, ih, kept]
    next plain =>
      obtain ⟨noBackslash, noQuote⟩ := not_or.mp plain
      rw [List.cons_append, readQuotedRest.eq_def]
      split
      next equal => contradiction
      next equal => exact absurd (List.cons.inj equal).1 noQuote
      next equal => exact absurd (List.cons.inj equal).1 noBackslash
      next equal => exact absurd (List.cons.inj equal).1 noBackslash
      next equal =>
        obtain ⟨rfl, rfl⟩ := List.cons.inj equal
        rw [ih]
        rfl

theorem StringAt.readString_eq {value : String} (derived : StringAt text value rest) :
    readString (skipBlank text) = .ok (value, rest) := by
  obtain ⟨gap⟩ := derived
  rw [gap.skipBlank_eq, skipBlank_of_not_beginsGap rfl, readString, readQuotedRest_escaped]
  simp

theorem StringAt.exists_skipBlank {value : String} (derived : StringAt text value rest) :
    ∃ behind, skipBlank text = '"' :: behind := by
  obtain ⟨gap⟩ := derived
  exact ⟨_, gap.skipBlank_eq.trans (skipBlank_of_not_beginsGap rfl)⟩

theorem skipBlank_skipBlank (text : List Char) : skipBlank (skipBlank text) = skipBlank text :=
  skipBlank_of_not_beginsGap (gap_skipBlank text).2

/-- All texts in quotes are taken, up to something that is none. -/
theorem StringsAt.readMoreStrings_eq {room : Nat} {values : List String}
    (derived : StringsAt text values rest) (ends : (skipBlank rest).head? ≠ some '"')
    (enough : values.length ≤ room) :
    ∃ behind, readMoreStrings room text = .ok (values, behind) ∧
      skipBlank behind = skipBlank rest := by
  induction derived generalizing room with
  | none rest =>
    cases room with
    | zero => exact ⟨rest, rfl, rfl⟩
    | succ room =>
      rw [readMoreStrings]
      split
      next quote => simp [quote] at ends
      next => exact ⟨skipBlank rest, rfl, skipBlank_skipBlank rest⟩
  | more first others ih =>
    obtain ⟨room, rfl⟩ := Nat.exists_eq_add_one_of_ne_zero (Nat.ne_zero_of_lt enough)
    obtain ⟨behind, read, left⟩ := ih ends (Nat.le_of_succ_le_succ enough)
    obtain ⟨content, quote⟩ := first.exists_skipBlank
    have value := first.readString_eq
    rw [quote] at value
    refine ⟨behind, ?_, left⟩
    rw [readMoreStrings, quote]
    simp [value, read, bind, Except.bind, pure, Except.pure]

theorem StringsAt.readStrings_eq {values : List String} (derived : StringsAt text values rest)
    (nonempty : values ≠ []) (ends : (skipBlank rest).head? ≠ some '"') :
    ∃ behind, readStrings text = .ok (values, behind) ∧ skipBlank behind = skipBlank rest := by
  cases derived with
  | none => contradiction
  | @more _ next _ _ _ first others =>
    have enough : _ ≤ next.length := Nat.le_of_add_right_le others.length_le
    obtain ⟨behind, read, left⟩ := others.readMoreStrings_eq ends enough
    refine ⟨behind, ?_, left⟩
    simp [readStrings, first.readString_eq, read, bind, Except.bind, pure, Except.pure]

/-! ### Attributes -/

/-- An attribute begins with its key. -/
theorem AttributeAt.begins {setting : Setting} (derived : AttributeAt text setting rest) :
    beginsGap text = false ∧ ∀ mark ∈ [']', '"', ','], text.head? ≠ some mark := by
  obtain ⟨key, -, -, -⟩ := derived
  refine ⟨key.beginsGap_eq, ?_⟩
  obtain ⟨first, others, rfl, starts⟩ := key.exists_cons
  intro mark member equal
  obtain rfl : first = mark := Option.some.inj equal
  simp only [List.mem_cons, List.not_mem_nil, or_false] at member
  rcases member with rfl | rfl | rfl <;> exact absurd starts (by decide)

/-- Neither a further text in quotes nor a comma stands where attributes begin or end. -/
theorem AttributesAt.head_ne {settings : List Setting} (derived : AttributesAt text settings rest) :
    ∀ mark ∈ ['"', ','], (skipBlank text).head? ≠ some mark := by
  intro mark member
  cases derived with
  | close gap =>
    rw [gap.skipBlank_eq, skipBlank_of_not_beginsGap rfl]
    rintro ⟨⟩
    revert member
    decide
  | plain gap first =>
    rw [gap.skipBlank_eq, skipBlank_of_not_beginsGap first.begins.1]
    exact first.begins.2 mark (List.mem_cons_of_mem _ member)
  | comma gap first =>
    rw [gap.skipBlank_eq, skipBlank_of_not_beginsGap first.begins.1]
    exact first.begins.2 mark (List.mem_cons_of_mem _ member)

/-- What is left behind a comma, if one stands in front. -/
def passComma : List Char → List Char
  | [] => []
  | c :: rest => if c = ',' then rest else c :: rest

/-- The reader takes an attribute, sets what it spells, and passes one comma at most. -/
theorem AttributeAt.readAttributes_eq {setting : Setting} {start next behind : List Char}
    (derived : AttributeAt next setting behind) (gap : Gap start next)
    (ends : (skipBlank behind).head? ≠ some '"') (room : Nat) (rule : TagRule) :
    readAttributes (room + 1) rule start =
      readAttributes room (setting.apply rule) (passComma (skipBlank behind)) := by
  obtain ⟨settled, marks⟩ := derived.begins
  obtain ⟨key, colon, strings, written⟩ := derived
  obtain ⟨left, read, same⟩ := strings.readStrings_eq written.ne_nil ends
  have named := readName_eq_ok_iff.mpr key
  have behindKey := colon.skipBlank_eq.trans (skipBlank_of_not_beginsGap rfl)
  rw [readAttributes, gap.skipBlank_eq, skipBlank_of_not_beginsGap settled]
  split
  next => simp at marks
  next =>
    simp only [named, behindKey, read, written.setAttribute_eq, same, readChar, bind, Except.bind,
      Except.mapError, if_pos]
    cases skipBlank behind with
    | nil => rfl
    | cons c rest =>
      by_cases comma : c = ','
      · subst comma
        rfl
      · simp [passComma, comma]

theorem readAttributes_skipBlank {room : Nat} (enough : room ≠ 0) (rule : TagRule) :
    readAttributes room rule (skipBlank text) = readAttributes room rule text := by
  obtain ⟨room, rfl⟩ := Nat.exists_eq_add_one_of_ne_zero enough
  rw [readAttributes, readAttributes, skipBlank_skipBlank]

theorem AttributesAt.readAttributes_eq {room : Nat} {settings : List Setting}
    (derived : AttributesAt text settings rest) (enough : settings.length < room)
    (rule : TagRule) :
    readAttributes room rule text = .ok (settings.foldl Setting.apply rule, rest) := by
  induction derived generalizing room rule with
  | close gap =>
    obtain ⟨room, rfl⟩ := Nat.exists_eq_add_one_of_ne_zero (Nat.ne_zero_of_lt enough)
    rw [readAttributes, gap.skipBlank_eq, skipBlank_of_not_beginsGap rfl]
    rfl
  | @plain _ _ behind _ _ _ gap first others ih =>
    obtain ⟨room, rfl⟩ := Nat.exists_eq_add_one_of_ne_zero (Nat.ne_zero_of_lt enough)
    have less := Nat.lt_of_succ_lt_succ enough
    have ends := others.head_ne
    have noComma : passComma (skipBlank behind) = skipBlank behind := by
      cases left : skipBlank behind with
      | nil => rfl
      | cons c rest =>
        have other := ends ',' (by simp)
        rw [left] at other
        exact if_neg (mt (congrArg some) other)
    rw [first.readAttributes_eq gap (ends '"' (by simp)) room rule, noComma,
      readAttributes_skipBlank (Nat.ne_zero_of_lt less), ih less]
    rfl
  | comma gap first comma others ih =>
    obtain ⟨room, rfl⟩ := Nat.exists_eq_add_one_of_ne_zero (Nat.ne_zero_of_lt enough)
    have behind := comma.skipBlank_eq.trans (skipBlank_of_not_beginsGap rfl)
    rw [first.readAttributes_eq gap (by simp [behind]) room rule, behind]
    exact ih (Nat.lt_of_succ_lt_succ enough) _

/-! ### Statements -/

/-- A rule is read up to the gap in front of its semicolon. -/
theorem readRule_eq {next behindPattern behind : List Char} {pattern replacement : String}
    {settings : List Setting} {base : TagRule} (old : StringAt text pattern behindPattern)
    (arrow : Gap behindPattern ('-' :: '>' :: next)) (new : StringAt next replacement behind)
    (attributes : SettingsAt behind settings rest)
    (accepted : TagRule.ofTexts pattern replacement = .ok base)
    (close : (skipBlank rest).head? ≠ some '[') :
    ∃ left, readRule (skipBlank text) = .ok (settings.foldl Setting.apply base, left) ∧
      skipBlank left = skipBlank rest := by
  have behindOld := arrow.skipBlank_eq.trans (skipBlank_of_not_beginsGap rfl)
  simp only [readRule, old.readString_eq, behindOld, readArrow, new.readString_eq, accepted, bind,
    Except.bind, Except.mapError]
  cases attributes with
  | none empty =>
    rw [empty.foldl_apply_eq]
    split
    next bracket => simp [bracket] at close
    next => exact ⟨skipBlank rest, rfl, skipBlank_skipBlank rest⟩
  | @listed inside _ _ others bracket listed order =>
    have enough : others.length < inside.length + 1 :=
      Nat.lt_succ_of_lt (Nat.lt_of_le_of_lt (Nat.le_add_right _ _) listed.length_lt)
    rw [bracket.skipBlank_eq, skipBlank_of_not_beginsGap rfl, order.foldl_apply_eq]
    exact ⟨rest, listed.readAttributes_eq enough base, rfl⟩

theorem CallAt.begins {call : Call} (derived : CallAt text call rest) :
    beginsGap text = false ∧ text ≠ [] := by
  have begins {keyword : String} {behind : List Char} (named : NameAt text keyword behind) :
      beginsGap text = false ∧ text ≠ [] := by
    refine ⟨named.beginsGap_eq, ?_⟩
    rintro rfl
    exact not_wordAt_nil named
  cases derived with
  | link keyword => exact begins keyword
  | pos keyword => exact begins keyword
  | rule keyword => exact begins keyword

theorem CallAt.readEntry_eq {call : Call} {entry : TagEntry} (derived : CallAt text call rest)
    (accepted : call.entry = .ok entry) (close : (skipBlank rest).head? ≠ some '[') :
    ∃ left, readEntry text = .ok (entry, left) ∧ skipBlank left = skipBlank rest := by
  cases derived with
  | link keyword gap named leads =>
    obtain rfl := Except.ok.inj accepted
    have behind := gap.skipBlank_eq.trans (skipBlank_of_not_beginsGap named.beginsGap_eq)
    refine ⟨rest, ?_, rfl⟩
    simp [readEntry, readName_eq_ok_iff.mpr keyword, behind, readName_eq_ok_iff.mpr named,
      leads.readString_eq, bind, Except.bind, Except.mapError, pure, Except.pure]
  | pos keyword gap tagged labeled described =>
    obtain rfl := Except.ok.inj accepted
    have behind := gap.skipBlank_eq.trans (skipBlank_of_not_beginsGap tagged.beginsGap_eq)
    refine ⟨rest, ?_, rfl⟩
    simp [readEntry, readName_eq_ok_iff.mpr keyword, behind, readName_eq_ok_iff.mpr tagged,
      labeled.readString_eq, described.readString_eq, bind, Except.bind, Except.mapError, pure,
      Except.pure]
  | rule keyword old arrow new attributes =>
    obtain ⟨base, texts, rfl⟩ := map_eq_ok_iff.mp accepted
    obtain ⟨left, read, same⟩ := readRule_eq old arrow new attributes texts close
    refine ⟨left, ?_, same⟩
    simp [readEntry, readName_eq_ok_iff.mpr keyword, read, bind, Except.bind, Except.mapError, pure,
      Except.pure]

/-! ### Texts -/

theorem Spells.readEntries_eq {room : Nat} {calls : List Call} {entries : List TagEntry}
    (derived : Spells text calls) (accepted : calls.mapM Call.entry = .ok entries)
    (enough : calls.length < room) : readEntries room text = (entries, none) := by
  induction derived generalizing room entries with
  | nothing gap =>
    obtain ⟨room, rfl⟩ := Nat.exists_eq_add_one_of_ne_zero (Nat.ne_zero_of_lt enough)
    obtain rfl := Except.ok.inj accepted
    rw [readEntries, gap.skipBlank_eq]
    rfl
  | @statement _ next behind rest _ _ gap first close _ ih =>
    obtain ⟨room, rfl⟩ := Nat.exists_eq_add_one_of_ne_zero (Nat.ne_zero_of_lt enough)
    rw [List.mapM_cons] at accepted
    obtain ⟨entry, here, accepted⟩ := bind_eq_ok_iff.mp accepted
    obtain ⟨others, later, accepted⟩ := bind_eq_ok_iff.mp accepted
    obtain rfl := Except.ok.inj accepted
    have ends : skipBlank behind = ';' :: rest :=
      close.skipBlank_eq.trans (skipBlank_of_not_beginsGap rfl)
    obtain ⟨left, read, same⟩ := first.readEntry_eq here (by simp [ends])
    rw [readEntries, gap.skipBlank_eq, skipBlank_of_not_beginsGap first.begins.1]
    split
    next => exact absurd rfl first.begins.2
    next =>
      simp [read, same, ends, readChar, ih later (Nat.lt_of_succ_lt_succ enough)]

/--
A tag table text means the same as the calls that it spells: whenever the texts of the rules are
accepted, the text is read, and the table is the one that the calls build from the same number on.
It has the rules in the order in which they are applied, with all that is set on them and with their
numbers, and the same links and parts of speech; and the same number is the first that is left.
-/
theorem read_eq_build {text : String} {calls : List Call} {entries : List TagEntry}
    (spelled : Spells text.toList calls) (accepted : calls.mapM Call.entry = .ok entries)
    (next : Nat) : read text next = (.ok (build entries next).1, (build entries next).2) := by
  have enough : calls.length < text.toList.length + 1 := Nat.lt_succ_of_le spelled.length_le
  have found : entriesOf text = (entries, none) := spelled.readEntries_eq accepted enough
  rw [TagTable.read, found]

/-! A comment, places without blanks, a rule with its attributes in another order, and escapes. -/

def courseText : String :=
  "// Links\nlink a\"/\";\nmap\"\\\\.:SY\"->\".:CON\" [refs: \"a:\\\"1\\\"\", label : \"dot\"]\n;"

def courseCalls : List Call :=
  [.link "a" "/",
    .rule "\\.:SY" ".:CON" [.label "dot", .refs ["a:\"1\""]]]

def courseEntries : List TagEntry :=
  [.link "a" "/",
    .rule (TagRule.of "\\.:SY" ".:CON" |>.withLabel "dot" |>.withRefs ["a:\"1\""])]

/-- The text lexeme by lexeme. -/
theorem toList_courseText : courseText.toList =
    '/' :: '/' :: " Links".toList ++ ('\n' :: ("link".toList ++ ' ' :: ("a".toList ++
      '"' :: (escaped "/".toList ++ '"' :: (';' :: '\n' :: ("map".toList ++
      '"' :: (escaped "\\.:SY".toList ++ '"' :: ('-' :: '>' :: ('"' :: (escaped ".:CON".toList ++
      '"' :: (' ' :: '[' :: ("refs".toList ++ ':' :: ' ' :: ('"' ::
      (escaped "a:\"1\"".toList ++ '"' :: (',' :: ' ' :: ("label".toList ++ ' ' :: ':' ::
      ' ' :: ('"' :: (escaped "dot".toList ++ '"' :: (']' :: '\n' :: ';' ::
      []))))))))))))))))))) := by
  decide +kernel

theorem rearranged_swap {setting other : Setting} (different : setting.key ≠ other.key)
    (plain : setting.parts = [setting]) (plain' : other.parts = [other]) :
    Setting.Rearranged [setting, other] [other, setting] := by
  intro key
  by_cases first : setting.key = key
  · simp [plain, plain', first, first ▸ different.symm]
  · simp [plain, plain', first, List.filter_cons]

theorem nameAt_of_isWord {name : String} {c : Char} {rest : List Char}
    (form : isWord isNameChar isNameChar name.toList = true) (stops : isNameChar c = false) :
    NameAt (name.toList ++ c :: rest) name (c :: rest) := by
  have ends : ∀ next ∈ (c :: rest).head?, isNameChar next = false := by
    rintro _ ⟨⟩
    exact stops
  have word := WordAt.intro form ends
  rwa [String.ofList_toList] at word

theorem spells_course : Spells courseText.toList courseCalls := by
  have endsLine (text : List Char) : EndsLine ('\n' :: text) := by
    rintro _ ⟨⟩
    rfl
  have order : Setting.Rearranged [.label "dot", .refs ["a:\"1\""]]
      [.refs ["a:\"1\""], .label "dot"] := rearranged_swap (by decide) rfl rfl
  rw [toList_courseText]
  apply Spells.statement (.comment (by decide) (endsLine _) (.lineFeed _))
  · apply CallAt.link (nameAt_of_isWord (by decide) (by decide)) (.space _)
      (nameAt_of_isWord (by decide) (by decide))
    exact .intro (.none _)
  · exact .none _
  apply Spells.statement (.lineFeed _)
  · apply CallAt.rule (nameAt_of_isWord (by decide) (by decide)) (.intro (.none _)) (.none _)
      (.intro (.none _))
    apply SettingsAt.listed (.space _)
    · apply AttributesAt.comma (.none _)
      · exact .intro (nameAt_of_isWord (by decide) (by decide)) (.none _)
          (.more (.intro (.space _)) (.none _)) (.refs (List.cons_ne_nil "a:\"1\"" []))
      · exact .none _
      apply AttributesAt.plain (.space _)
      · exact .intro (nameAt_of_isWord (by decide) (by decide)) (.space _)
          (.more (.intro (.space _)) (.none _)) (.label "dot")
      exact .close (.none _)
    · exact order
  · exact .lineFeed _
  exact .nothing (.none _)

theorem read_eq_build_course : Spells courseText.toList courseCalls ∧
    courseCalls.mapM Call.entry = .ok courseEntries ∧
    read courseText 5 = (.ok (build courseEntries 5).1, (build courseEntries 5).2) := by
  have rule : TagRule.ofTexts "\\.:SY" ".:CON" = .ok (TagRule.of "\\.:SY" ".:CON") :=
    eq_ok_accepted _
  have accepted : courseCalls.mapM Call.entry = .ok courseEntries := by
    simp [courseCalls, Call.entry, rule, courseEntries, Setting.apply, bind, Except.bind, pure,
      Except.pure, Except.map]
  exact ⟨spells_course, accepted, read_eq_build spells_course accepted 5⟩

end Constituency.TagTable
