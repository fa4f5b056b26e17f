import Constituency.Accepted
import Constituency.TagTable.Reader

/-!
# The Korean tag table

The tags of the Sejong set, and the rules that turn runs of tokens into the synthetic tags of the
Korean grammar. Rules with a label, references or a rename mint tags that point back to them. The
table is kept as a text too, and reading it registers the same entries.
-/
namespace Constituency.Korean

def links : List TagEntry :=
  [.link "ttmik" "https://talktomeinkorean.com/",
   .link "htsk" "https://www.howtostudykorean.com/"]

/-- The Sejong tag set. -/
def sejongTags : List TagEntry :=
  [.pos "NNG" ⟨"Noun", "general noun"⟩,
   .pos "NNP" ⟨"Proper noun", "name of a person, place or thing"⟩,
   .pos "NNB" ⟨"Dependent noun", "noun that needs a modifier in front of it"⟩,
   .pos "NR" ⟨"Numeral", "native or Sino-Korean number word"⟩,
   .pos "NP" ⟨"Pronoun", "pronoun"⟩,
   .pos "VV" ⟨"Verb", "action verb"⟩,
   .pos "VA" ⟨"Descriptive verb", "adjective-like verb describing a state"⟩,
   .pos "VX" ⟨"Auxiliary verb", "verb attached to a main verb"⟩,
   .pos "VCP" ⟨"Copula", "positive copula 이다"⟩,
   .pos "VCN" ⟨"Negative copula", "negative copula 아니다"⟩,
   .pos "MM" ⟨"Determiner", "modifies the noun after it"⟩,
   .pos "MAG" ⟨"Adverb", "general adverb"⟩,
   .pos "MAJ" ⟨"Conjunctive adverb", "adverb joining sentences"⟩,
   .pos "IC" ⟨"Interjection", "exclamation"⟩,
   .pos "JKS" ⟨"Subject marker", "marks the subject of the clause"⟩,
   .pos "JKC" ⟨"Complement marker", "marks the complement of 되다 and 아니다"⟩,
   .pos "JKG" ⟨"Possessive marker", "marks the owner"⟩,
   .pos "JKO" ⟨"Object marker", "marks the object of the verb"⟩,
   .pos "JKB" ⟨"Adverbial particle", "marks place, time, direction or means"⟩,
   .pos "JKV" ⟨"Vocative particle", "marks the person addressed"⟩,
   .pos "JKQ" ⟨"Quotative particle", "marks a quotation"⟩,
   .pos "JX" ⟨"Auxiliary particle", "adds meaning such as 'only' or 'also'"⟩,
   .pos "JC" ⟨"Connective particle", "joins nouns"⟩,
   .pos "EP" ⟨"Pre-final ending", "tense or honorific ending before the final ending"⟩,
   .pos "EF" ⟨"Final ending", "ends the sentence"⟩,
   .pos "EC" ⟨"Connecting ending", "joins a clause to what follows"⟩,
   .pos "ETN" ⟨"Nominalizing ending", "turns a verb into a noun"⟩,
   .pos "ETM" ⟨"Adnominal ending", "turns a verb into a noun modifier"⟩,
   .pos "XPN" ⟨"Noun prefix", "prefix attached to a noun"⟩,
   .pos "XSN" ⟨"Noun suffix", "suffix attached to a noun"⟩,
   .pos "XSV" ⟨"Verb-forming suffix", "turns a noun into a verb"⟩,
   .pos "XSA" ⟨"Adjective-forming suffix", "turns a noun into a descriptive verb"⟩,
   .pos "XR" ⟨"Root", "root morpheme"⟩,
   .pos "SF" ⟨"Sentence end", "period, question or exclamation mark"⟩,
   .pos "SP" ⟨"Separator", "comma, colon or slash"⟩,
   .pos "SS" ⟨"Quote or bracket", "quotation mark or parenthesis"⟩,
   .pos "SE" ⟨"Ellipsis", "ellipsis"⟩,
   .pos "SO" ⟨"Connection mark", "hyphen or tilde"⟩,
   .pos "SW" ⟨"Symbol", "other symbol"⟩,
   .pos "SL" ⟨"Foreign word", "word in a foreign script"⟩,
   .pos "SH" ⟨"Hanja", "Chinese character"⟩,
   .pos "SN" ⟨"Number", "written number"⟩]

/-- The bases of the synthetic tags. -/
def syntheticTags : List TagEntry :=
  [.pos "PLU" ⟨"Plural suffix", "marks a noun as plural"⟩,
   .pos "GNOM" ⟨"Nominalizer", "turns a verb phrase into a noun"⟩,
   .pos "TOP" ⟨"Topic marker", "marks the topic of the sentence"⟩,
   .pos "FUT" ⟨"Future tense", "future tense suffix"⟩,
   .pos "PRP" ⟨"Prepositional suffix", "ends a prepositional phrase"⟩,
   .pos "CON" ⟨"Connector", "joins nouns"⟩]

/-- The tag rules, from suffixes and particles to verb forms and prepositional suffixes. -/
def tagRules : List TagRule :=
  [TagRule.of "들:(XSN|TM)" "들:PLU"
     |>.withLabel "plural suffix"
     |>.withRefs ["ttmik:", "htsk:"],
   TagRule.of "기:(ETN|NNG)" "기:GNOM"
     |>.withLabel "nominalizer -기",
   TagRule.of "(ㄴ|는|ㄹ):ETM;것:NNB" "$\x7b1\x7d 것:GNOM"
     |>.withLabel "nominalizer -는 것",
   TagRule.of "(은|는):JX" "$\x7b1\x7d:TOP"
     |>.withLabel "topic marker",
   TagRule.of "및:MAG" "및:CON",
   TagRule.of "또는:MAG" "또는:CON",
   TagRule.of "(ㄹ|을|를):ETM;거:NNB;이:VCP" "$\x7b1\x7d 거 이:FUT"
     |>.withLabel "future tense -ㄹ 거예요"
     |>.withDescription "-ㄹ 것이다 future tense conjugation",
   TagRule.of "([^:;]+):VA;게:EC" "$\x7b1\x7d게:MAG"
     |>.withLabel "adverb -게"
     |>.withDescription "descriptive verb turned into an adverb with -게",
   TagRule.of "전:NNG;에:JKB" "전에:PRP"
     |>.withLabel "before"
     |>.withRename ⟨"PrepositionalPhrase", "BeforePhrase"⟩
     |>.withRefs
        ["ttmik:lessons/level-3-lesson-10",
         "htsk:unit1/unit-1-lessons-17-25-2/lesson-24/#242"]
     |>.withNotes
        "attaches to a noun or nominalized verb to say something happens before it",
   TagRule.of "때문:NNB;에:JKB" "때문에:PRP"
     |>.withLabel "because"
     |>.withRename ⟨"PrepositionalPhrase", "BecausePhrase"⟩
     |>.withRefs ["ttmik:", "htsk:"]
     |>.withNotes "attaches to a noun or nominalized verb to give a reason",
   TagRule.of "에:JKB;(대하|관하):VV;([^:]+):EC" "에 $\x7b1\x7d$\x7b2\x7d:PRP"
     |>.withLabel "about"
     |>.withRename ⟨"PrepositionalPhrase", "AboutPhrase"⟩
     |>.withNotes "에 대해서 and 에 관해서 mean 'about' or 'regarding'"]

def entries : List TagEntry :=
  links ++ sejongTags ++ syntheticTags ++ tagRules.map fun rule => .rule rule

/-- The Korean tag table, numbered from `next` on, and the first number left. -/
def tagTable (next : Nat) : TagTable × Nat := TagTable.build entries next

/-! ## The text of the table -/

def tagTableText : String :=
"// Tag synthesis for the Korean grammar.
//
// `map` rules rewrite runs of word:tag tokens before parsing, longest
// patterns first. Rules with a label, references or a rename mint unique
// synthetic tags (BASE#ordinal.occurrence) that point back to their rule.

link ttmik \"https://talktomeinkorean.com/\";
link htsk \"https://www.howtostudykorean.com/\";

// Sejong tag set
pos NNG \"Noun\" \"general noun\";
pos NNP \"Proper noun\" \"name of a person, place or thing\";
pos NNB \"Dependent noun\" \"noun that needs a modifier in front of it\";
pos NR \"Numeral\" \"native or Sino-Korean number word\";
pos NP \"Pronoun\" \"pronoun\";
pos VV \"Verb\" \"action verb\";
pos VA \"Descriptive verb\" \"adjective-like verb describing a state\";
pos VX \"Auxiliary verb\" \"verb attached to a main verb\";
pos VCP \"Copula\" \"positive copula 이다\";
pos VCN \"Negative copula\" \"negative copula 아니다\";
pos MM \"Determiner\" \"modifies the noun after it\";
pos MAG \"Adverb\" \"general adverb\";
pos MAJ \"Conjunctive adverb\" \"adverb joining sentences\";
pos IC \"Interjection\" \"exclamation\";
pos JKS \"Subject marker\" \"marks the subject of the clause\";
pos JKC \"Complement marker\" \"marks the complement of 되다 and 아니다\";
pos JKG \"Possessive marker\" \"marks the owner\";
pos JKO \"Object marker\" \"marks the object of the verb\";
pos JKB \"Adverbial particle\" \"marks place, time, direction or means\";
pos JKV \"Vocative particle\" \"marks the person addressed\";
pos JKQ \"Quotative particle\" \"marks a quotation\";
pos JX \"Auxiliary particle\" \"adds meaning such as 'only' or 'also'\";
pos JC \"Connective particle\" \"joins nouns\";
pos EP \"Pre-final ending\" \"tense or honorific ending before the final ending\";
pos EF \"Final ending\" \"ends the sentence\";
pos EC \"Connecting ending\" \"joins a clause to what follows\";
pos ETN \"Nominalizing ending\" \"turns a verb into a noun\";
pos ETM \"Adnominal ending\" \"turns a verb into a noun modifier\";
pos XPN \"Noun prefix\" \"prefix attached to a noun\";
pos XSN \"Noun suffix\" \"suffix attached to a noun\";
pos XSV \"Verb-forming suffix\" \"turns a noun into a verb\";
pos XSA \"Adjective-forming suffix\" \"turns a noun into a descriptive verb\";
pos XR \"Root\" \"root morpheme\";
pos SF \"Sentence end\" \"period, question or exclamation mark\";
pos SP \"Separator\" \"comma, colon or slash\";
pos SS \"Quote or bracket\" \"quotation mark or parenthesis\";
pos SE \"Ellipsis\" \"ellipsis\";
pos SO \"Connection mark\" \"hyphen or tilde\";
pos SW \"Symbol\" \"other symbol\";
pos SL \"Foreign word\" \"word in a foreign script\";
pos SH \"Hanja\" \"Chinese character\";
pos SN \"Number\" \"written number\";

// synthetic categories
pos PLU \"Plural suffix\" \"marks a noun as plural\";
pos GNOM \"Nominalizer\" \"turns a verb phrase into a noun\";
pos TOP \"Topic marker\" \"marks the topic of the sentence\";
pos FUT \"Future tense\" \"future tense suffix\";
pos PRP \"Prepositional suffix\" \"ends a prepositional phrase\";
pos CON \"Connector\" \"joins nouns\";

// noun suffixes
map \"들:(XSN|TM)\" -> \"들:PLU\" [
  label: \"plural suffix\",
  refs: \"ttmik:\" \"htsk:\",
];

// nominalizers
map \"기:(ETN|NNG)\" -> \"기:GNOM\" [ label: \"nominalizer -기\" ];
map \"(ㄴ|는|ㄹ):ETM;것:NNB\" -> \"$\x7b1\x7d 것:GNOM\" [ label: \"nominalizer -는 것\" ];

// particles
map \"(은|는):JX\" -> \"$\x7b1\x7d:TOP\" [ label: \"topic marker\" ];
map \"및:MAG\" -> \"및:CON\";
map \"또는:MAG\" -> \"또는:CON\";

// verb forms
map \"(ㄹ|을|를):ETM;거:NNB;이:VCP\" -> \"$\x7b1\x7d 거 이:FUT\" [
  label: \"future tense -ㄹ 거예요\",
  description: \"-ㄹ 것이다 future tense conjugation\",
];
map \"([^:;]+):VA;게:EC\" -> \"$\x7b1\x7d게:MAG\" [
  label: \"adverb -게\",
  description: \"descriptive verb turned into an adverb with -게\",
];

// prepositional phrase suffixes
map \"전:NNG;에:JKB\" -> \"전에:PRP\" [
  label: \"before\",
  rename: \"PrepositionalPhrase:BeforePhrase\",
  refs: \"ttmik:lessons/level-3-lesson-10\" \"htsk:unit1/unit-1-lessons-17-25-2/lesson-24/#242\",
  notes: \"attaches to a noun or nominalized verb to say something happens before it\",
];
map \"때문:NNB;에:JKB\" -> \"때문에:PRP\" [
  label: \"because\",
  rename: \"PrepositionalPhrase:BecausePhrase\",
  refs: \"ttmik:\" \"htsk:\",
  notes: \"attaches to a noun or nominalized verb to give a reason\",
];
map \"에:JKB;(대하|관하):VV;([^:]+):EC\" -> \"에 $\x7b1\x7d$\x7b2\x7d:PRP\" [
  label: \"about\",
  rename: \"PrepositionalPhrase:AboutPhrase\",
  notes: \"에 대해서 and 에 관해서 mean 'about' or 'regarding'\",
];
"

set_option maxRecDepth 20000 in
/-- The table is what its text is read as, whatever numbers are left. -/
theorem read_tagTableText (next : Nat) :
    TagTable.read tagTableText next = (.ok (tagTable next).1, (tagTable next).2) := by
  have listed : TagTable.entriesOf tagTableText = (entries, none) := by
    rw [TagTable.entriesOf, show tagTableText = String.ofList _ from rfl, String.toList_ofList]
    decide +kernel
  exact TagTable.read_of_entriesOf listed next

end Constituency.Korean
