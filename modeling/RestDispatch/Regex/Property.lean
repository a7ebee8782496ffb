import RestDispatch.Regex.CharSet
import RestDispatch.Regex.Syntax
import RestDispatch.Unicode.Age
import RestDispatch.Unicode.Category
import RestDispatch.Unicode.Folding
import RestDispatch.Unicode.Property
import RestDispatch.Unicode.Revision
import RestDispatch.Unicode.Script
import RestDispatch.Unicode.Segmentation

/-!
# Named classes of patterns

Patterns name classes of characters in three ways: `\d`, `\s` and `\w`; the
`[:name:]` classes of brackets, which are ASCII only; and `\p{…}`, which asks
for a general category, a script, a script extension, an age, a break property
of text segmentation, or a binary property of the property list, the derived
core properties or the emoji data.

Patterns follow version `patternVersion` of the database, one before the
version of the tables of this project: a code point assigned later is
unassigned for them, of no script (`Unknown`) and without any binary property
but those that unassigned code points may have (`keepsUnassigned`), so each
class is the table's set without those code points, plus those code points for
the classes of unassigned ones; and what the later version changed for the
code points assigned before is undone (`Unicode.earlierCategoryRuns` and its
kin). Case folding likewise only joins characters of that version. The break
properties are kept in that version already.

Names are compared loosely (`normalizeName`): case, blanks, `_` and `-` do not
count, nor does a leading `is`. A bare name is first looked up as a property,
then as a general category, then as a script; the short names `cf`, `sc` and
`lc` skip the first step, since they are also categories. A property that is
found but has no binary value, or a value that is not found, names no class.
-/

namespace RestDispatch.Regex

set_option autoImplicit false

/-- The version of the character database that patterns follow. -/
def patternVersion : Unicode.Version := ⟨16, 0⟩

/-- The code points assigned after the version patterns follow. -/
def laterAssigned : CharSet := CharSet.ofRanges (Unicode.assignedAfter patternVersion)

/-- A set of the tables, as patterns see it: without the later code points. -/
def atPatternVersion (ranges : List (Nat × Nat)) : CharSet :=
  (CharSet.ofRanges ranges).diff laterAssigned

/-- The classes of simple case folding in the version patterns follow. -/
def foldClasses : List (List Nat) :=
  let all := (Unicode.foldText.splitOn " ").filterMap fun t => (t.splitOn ".").mapM Unicode.hexValue?
  (all.map fun cls => cls.filter (Unicode.assignedBy patternVersion)).filter (2 ≤ ·.length)

/-- The characters that simple case folding makes equal to one, itself
included, in the version patterns follow. -/
def foldMates (c : Nat) : List Nat :=
  let mates := (Unicode.foldClassOf c).filter (Unicode.assignedBy patternVersion)
  if 2 ≤ mates.length && mates.contains c then mates else [c]

/-- A set closed under simple case folding. -/
def CharSet.caseFold (s : CharSet) : CharSet := s.closeUnder foldClasses

/-- A set closed under the case change of ASCII letters. -/
def CharSet.asciiFold (s : CharSet) : CharSet :=
  let upper := (s.inter (CharSet.ofRanges [(0x61, 0x7A)])).ranges.map fun (a, b) => (a - 32, b - 32)
  let lower := (s.inter (CharSet.ofRanges [(0x41, 0x5A)])).ranges.map fun (a, b) => (a + 32, b + 32)
  s.union (CharSet.ofRanges (upper ++ lower))

/-- A set of the tables with the runs of a revision put back: each run's code
points are in the set exactly when their earlier value passes a test. -/
def CharSet.revise {α : Type} (s : CharSet) (runs : List (Nat × Nat × α)) (test : α → Bool) :
    CharSet :=
  runs.foldl (fun acc (a, b, v) =>
    let r := CharSet.ofRanges [(a, b)]
    if test v then acc.union r else acc.diff r) s

/-- The code points of some general categories, as patterns see them. -/
def categorySet (cats : List Unicode.Category) : CharSet :=
  let base := atPatternVersion (Unicode.categoryRanges cats.contains)
  let base := base.revise Unicode.earlierCategoryRuns fun code =>
    match Unicode.Category.ofCode? code with
    | some k => cats.contains k
    | none => false
  if cats.contains .cn then base.union laterAssigned else base

/-- `\d`: the decimal digits. -/
def digitSet : CharSet := categorySet [.nd]

/-- `\s`: the characters with White_Space. -/
def spaceSet : CharSet := atPatternVersion Unicode.whiteSpaceSet.toList

/-- `\w`: alphabetic characters, marks, decimal digits, connector punctuation
and the joining controls. -/
def wordSet : CharSet :=
  (atPatternVersion (Unicode.alphabeticSet.toList ++ Unicode.joinControlSet.toList)).union
    (categorySet [.mn, .mc, .me, .nd, .pc])

/-- A Unicode word character, as `\w` and word boundaries see it. -/
def isWordChar (c : Char) : Bool := wordSet.contains c.toNat

/-- The Unicode set of a `\d`, `\s` or `\w` class. -/
def PerlClass.unicodeSet : PerlClass → CharSet
  | .digit => digitSet
  | .space => spaceSet
  | .word => wordSet

/-- The ASCII set of a `\d`, `\s` or `\w` class. -/
def PerlClass.asciiSet : PerlClass → CharSet
  | .digit => CharSet.ofRanges AsciiClass.digit.ranges
  | .space => CharSet.ofRanges AsciiClass.space.ranges
  | .word => CharSet.ofRanges AsciiClass.word.ranges

/-- A name compared loosely: ASCII letters in lower case, without blanks, `_`
and `-` and without a leading `is`; other non-ASCII characters are dropped.
`isc` stays itself. -/
def normalizeName (name : String) : String :=
  let cs := name.toList
  let (isPrefixed, rest) :=
    match cs with
    | a :: b :: more => if (a == 'i' || a == 'I') && (b == 's' || b == 'S') then (true, more) else (false, cs)
    | _ => (false, cs)
  let kept := rest.filterMap fun c =>
    if c == ' ' || c == '_' || c == '-' then none
    else if 'A' ≤ c && c ≤ 'Z' then some (Char.ofNat (c.toNat + 32))
    else if c.toNat ≤ 0x7F then some c
    else none
  if isPrefixed && kept == ['c'] then "isc" else String.ofList kept

/-- The properties of the character database by name, with their loose names. -/
def propertyNames : List (String × List String) := [
  ("ASCII_Hex_Digit", ["ahex", "asciihexdigit"]),
  ("Age", ["age"]),
  ("Alphabetic", ["alpha", "alphabetic"]),
  ("Bidi_Class", ["bc", "bidiclass"]),
  ("Bidi_Control", ["bidic", "bidicontrol"]),
  ("Bidi_Mirrored", ["bidim", "bidimirrored"]),
  ("Bidi_Mirroring_Glyph", ["bidimirroringglyph", "bmg"]),
  ("Bidi_Paired_Bracket", ["bidipairedbracket", "bpb"]),
  ("Bidi_Paired_Bracket_Type", ["bidipairedbrackettype", "bpt"]),
  ("Block", ["blk", "block"]),
  ("Canonical_Combining_Class", ["canonicalcombiningclass", "ccc"]),
  ("Case_Folding", ["casefolding", "cf"]),
  ("Case_Ignorable", ["caseignorable", "ci"]),
  ("Cased", ["cased"]),
  ("Changes_When_Casefolded", ["changeswhencasefolded", "cwcf"]),
  ("Changes_When_Casemapped", ["changeswhencasemapped", "cwcm"]),
  ("Changes_When_Lowercased", ["changeswhenlowercased", "cwl"]),
  ("Changes_When_NFKC_Casefolded", ["changeswhennfkccasefolded", "cwkcf"]),
  ("Changes_When_Titlecased", ["changeswhentitlecased", "cwt"]),
  ("Changes_When_Uppercased", ["changeswhenuppercased", "cwu"]),
  ("Composition_Exclusion", ["ce", "compositionexclusion"]),
  ("Dash", ["dash"]),
  ("Decomposition_Mapping", ["decompositionmapping", "dm"]),
  ("Decomposition_Type", ["decompositiontype", "dt"]),
  ("Default_Ignorable_Code_Point", ["defaultignorablecodepoint", "di"]),
  ("Deprecated", ["dep", "deprecated"]),
  ("Diacritic", ["dia", "diacritic"]),
  ("East_Asian_Width", ["ea", "eastasianwidth"]),
  ("Emoji", ["emoji"]),
  ("Emoji_Component", ["ecomp", "emojicomponent"]),
  ("Emoji_Modifier", ["emod", "emojimodifier"]),
  ("Emoji_Modifier_Base", ["ebase", "emojimodifierbase"]),
  ("Emoji_Presentation", ["emojipresentation", "epres"]),
  ("Equivalent_Unified_Ideograph", ["equideo", "equivalentunifiedideograph"]),
  ("Expands_On_NFC", ["expandsonnfc", "xonfc"]),
  ("Expands_On_NFD", ["expandsonnfd", "xonfd"]),
  ("Expands_On_NFKC", ["expandsonnfkc", "xonfkc"]),
  ("Expands_On_NFKD", ["expandsonnfkd", "xonfkd"]),
  ("Extended_Pictographic", ["extendedpictographic", "extpict"]),
  ("Extender", ["ext", "extender"]),
  ("FC_NFKC_Closure", ["fcnfkc", "fcnfkcclosure"]),
  ("Full_Composition_Exclusion", ["compex", "fullcompositionexclusion"]),
  ("General_Category", ["category", "gc", "generalcategory"]),
  ("Grapheme_Base", ["graphemebase", "grbase"]),
  ("Grapheme_Cluster_Break", ["gcb", "graphemeclusterbreak"]),
  ("Grapheme_Extend", ["graphemeextend", "grext"]),
  ("Grapheme_Link", ["graphemelink", "grlink"]),
  ("Hangul_Syllable_Type", ["hangulsyllabletype", "hst"]),
  ("Hex_Digit", ["hex", "hexdigit"]),
  ("Hyphen", ["hyphen"]),
  ("IDS_Binary_Operator", ["idsb", "idsbinaryoperator"]),
  ("IDS_Trinary_Operator", ["idst", "idstrinaryoperator"]),
  ("IDS_Unary_Operator", ["idsu", "idsunaryoperator"]),
  ("ID_Compat_Math_Continue", ["idcompatmathcontinue"]),
  ("ID_Compat_Math_Start", ["idcompatmathstart"]),
  ("ID_Continue", ["idc", "idcontinue"]),
  ("ID_Start", ["ids", "idstart"]),
  ("ISO_Comment", ["isc", "ocomment"]),
  ("Ideographic", ["ideo", "ideographic"]),
  ("Indic_Conjunct_Break", ["incb", "indicconjunctbreak"]),
  ("Indic_Positional_Category", ["indicpositionalcategory", "inpc"]),
  ("Indic_Syllabic_Category", ["indicsyllabiccategory", "insc"]),
  ("Jamo_Short_Name", ["jamoshortname", "jsn"]),
  ("Join_Control", ["joinc", "joincontrol"]),
  ("Joining_Group", ["jg", "joininggroup"]),
  ("Joining_Type", ["joiningtype", "jt"]),
  ("Line_Break", ["lb", "linebreak"]),
  ("Logical_Order_Exception", ["loe", "logicalorderexception"]),
  ("Lowercase", ["lower", "lowercase"]),
  ("Lowercase_Mapping", ["lc", "lowercasemapping"]),
  ("Math", ["math"]),
  ("Modifier_Combining_Mark", ["mcm", "modifiercombiningmark"]),
  ("NFC_Quick_Check", ["nfcqc", "nfcquickcheck"]),
  ("NFD_Quick_Check", ["nfdqc", "nfdquickcheck"]),
  ("NFKC_Casefold", ["nfkccasefold", "nfkccf"]),
  ("NFKC_Quick_Check", ["nfkcqc", "nfkcquickcheck"]),
  ("NFKC_Simple_Casefold", ["nfkcscf", "nfkcsimplecasefold"]),
  ("NFKD_Quick_Check", ["nfkdqc", "nfkdquickcheck"]),
  ("Name", ["na", "name"]),
  ("Name_Alias", ["namealias"]),
  ("Noncharacter_Code_Point", ["nchar", "noncharactercodepoint"]),
  ("Numeric_Type", ["nt", "numerictype"]),
  ("Numeric_Value", ["numericvalue", "nv"]),
  ("Other_Alphabetic", ["oalpha", "otheralphabetic"]),
  ("Other_Default_Ignorable_Code_Point", ["odi", "otherdefaultignorablecodepoint"]),
  ("Other_Grapheme_Extend", ["ogrext", "othergraphemeextend"]),
  ("Other_ID_Continue", ["oidc", "otheridcontinue"]),
  ("Other_ID_Start", ["oids", "otheridstart"]),
  ("Other_Lowercase", ["olower", "otherlowercase"]),
  ("Other_Math", ["omath", "othermath"]),
  ("Other_Uppercase", ["otheruppercase", "oupper"]),
  ("Pattern_Syntax", ["patsyn", "patternsyntax"]),
  ("Pattern_White_Space", ["patternwhitespace", "patws"]),
  ("Prepended_Concatenation_Mark", ["pcm", "prependedconcatenationmark"]),
  ("Quotation_Mark", ["qmark", "quotationmark"]),
  ("Radical", ["radical"]),
  ("Regional_Indicator", ["regionalindicator", "ri"]),
  ("Script", ["sc", "script"]),
  ("Script_Extensions", ["scriptextensions", "scx"]),
  ("Sentence_Break", ["sb", "sentencebreak"]),
  ("Sentence_Terminal", ["sentenceterminal", "sterm"]),
  ("Simple_Case_Folding", ["scf", "sfc", "simplecasefolding"]),
  ("Simple_Lowercase_Mapping", ["simplelowercasemapping", "slc"]),
  ("Simple_Titlecase_Mapping", ["simpletitlecasemapping", "stc"]),
  ("Simple_Uppercase_Mapping", ["simpleuppercasemapping", "suc"]),
  ("Soft_Dotted", ["sd", "softdotted"]),
  ("Terminal_Punctuation", ["term", "terminalpunctuation"]),
  ("Titlecase_Mapping", ["tc", "titlecasemapping"]),
  ("Unicode_1_Name", ["na1", "unicode1name"]),
  ("Unified_Ideograph", ["uideo", "unifiedideograph"]),
  ("Uppercase", ["upper", "uppercase"]),
  ("Uppercase_Mapping", ["uc", "uppercasemapping"]),
  ("Variation_Selector", ["variationselector", "vs"]),
  ("Vertical_Orientation", ["verticalorientation", "vo"]),
  ("White_Space", ["space", "whitespace", "wspace"]),
  ("Word_Break", ["wb", "wordbreak"]),
  ("XID_Continue", ["xidc", "xidcontinue"]),
  ("XID_Start", ["xids", "xidstart"]),
  ("kAccountingNumeric", ["cjkaccountingnumeric", "kaccountingnumeric"]),
  ("kCompatibilityVariant", ["cjkcompatibilityvariant", "kcompatibilityvariant"]),
  ("kEH_Cat", ["kehcat"]),
  ("kEH_Desc", ["kehdesc"]),
  ("kEH_HG", ["kehhg"]),
  ("kEH_IFAO", ["kehifao"]),
  ("kEH_JSesh", ["kehjsesh"]),
  ("kIICore", ["cjkiicore", "kiicore"]),
  ("kIRG_GSource", ["cjkirggsource", "kirggsource"]),
  ("kIRG_HSource", ["cjkirghsource", "kirghsource"]),
  ("kIRG_JSource", ["cjkirgjsource", "kirgjsource"]),
  ("kIRG_KPSource", ["cjkirgkpsource", "kirgkpsource"]),
  ("kIRG_KSource", ["cjkirgksource", "kirgksource"]),
  ("kIRG_MSource", ["cjkirgmsource", "kirgmsource"]),
  ("kIRG_SSource", ["cjkirgssource", "kirgssource"]),
  ("kIRG_TSource", ["cjkirgtsource", "kirgtsource"]),
  ("kIRG_UKSource", ["cjkirguksource", "kirguksource"]),
  ("kIRG_USource", ["cjkirgusource", "kirgusource"]),
  ("kIRG_VSource", ["cjkirgvsource", "kirgvsource"]),
  ("kOtherNumeric", ["cjkothernumeric", "kothernumeric"]),
  ("kPrimaryNumeric", ["cjkprimarynumeric", "kprimarynumeric"]),
  ("kRSUnicode", ["cjkrsunicode", "krsunicode", "unicoderadicalstroke", "urs"])]

/-- The property a loose name names. -/
def propertyOf? (norm : String) : Option String :=
  (propertyNames.find? fun (_, aliases) => aliases.contains norm).map Prod.fst

/-- The general categories and their groups by name, with their loose names
and the categories they hold. -/
def categoryNames : List (String × List String × List Unicode.Category) := [
  ("Other", ["c", "other"], [.cc, .cf, .cn, .co, .cs]),
  ("Control", ["cc", "control", "cntrl"], [.cc]),
  ("Format", ["cf", "format"], [.cf]),
  ("Unassigned", ["cn", "unassigned"], [.cn]),
  ("Private_Use", ["co", "privateuse"], [.co]),
  ("Surrogate", ["cs", "surrogate"], [.cs]),
  ("Letter", ["l", "letter"], [.lu, .ll, .lt, .lm, .lo]),
  ("Cased_Letter", ["lc", "casedletter"], [.lu, .ll, .lt]),
  ("Lowercase_Letter", ["ll", "lowercaseletter"], [.ll]),
  ("Modifier_Letter", ["lm", "modifierletter"], [.lm]),
  ("Other_Letter", ["lo", "otherletter"], [.lo]),
  ("Titlecase_Letter", ["lt", "titlecaseletter"], [.lt]),
  ("Uppercase_Letter", ["lu", "uppercaseletter"], [.lu]),
  ("Mark", ["m", "mark", "combiningmark"], [.mc, .me, .mn]),
  ("Spacing_Mark", ["mc", "spacingmark"], [.mc]),
  ("Enclosing_Mark", ["me", "enclosingmark"], [.me]),
  ("Nonspacing_Mark", ["mn", "nonspacingmark"], [.mn]),
  ("Number", ["n", "number"], [.nd, .nl, .no]),
  ("Decimal_Number", ["nd", "decimalnumber", "digit"], [.nd]),
  ("Letter_Number", ["nl", "letternumber"], [.nl]),
  ("Other_Number", ["no", "othernumber"], [.no]),
  ("Punctuation", ["p", "punctuation", "punct"], [.pc, .pd, .pe, .pf, .pi, .po, .ps]),
  ("Connector_Punctuation", ["pc", "connectorpunctuation"], [.pc]),
  ("Dash_Punctuation", ["pd", "dashpunctuation"], [.pd]),
  ("Close_Punctuation", ["pe", "closepunctuation"], [.pe]),
  ("Final_Punctuation", ["pf", "finalpunctuation"], [.pf]),
  ("Initial_Punctuation", ["pi", "initialpunctuation"], [.pi]),
  ("Other_Punctuation", ["po", "otherpunctuation"], [.po]),
  ("Open_Punctuation", ["ps", "openpunctuation"], [.ps]),
  ("Symbol", ["s", "symbol"], [.sc, .sk, .sm, .so]),
  ("Currency_Symbol", ["sc", "currencysymbol"], [.sc]),
  ("Modifier_Symbol", ["sk", "modifiersymbol"], [.sk]),
  ("Math_Symbol", ["sm", "mathsymbol"], [.sm]),
  ("Other_Symbol", ["so", "othersymbol"], [.so]),
  ("Separator", ["z", "separator"], [.zl, .zp, .zs]),
  ("Line_Separator", ["zl", "lineseparator"], [.zl]),
  ("Paragraph_Separator", ["zp", "paragraphseparator"], [.zp]),
  ("Space_Separator", ["zs", "spaceseparator"], [.zs])]

/-- The class of a general category value by loose name; `any`, `assigned`
and `ascii` name every character, the assigned ones and ASCII. -/
def categoryValue? (norm : String) : Option CharSet :=
  match norm with
  | "any" => some CharSet.univ
  | "assigned" => some (categorySet [.cn]).complement
  | "ascii" => some (CharSet.ofRanges [(0, 0x7F)])
  | _ => (categoryNames.find? fun (_, aliases, _) => aliases.contains norm).map fun (_, _, cats) =>
    categorySet cats

/-- The script a loose name names, among the scripts with code points in the
version patterns follow. -/
def scriptOf? (norm : String) : Option String :=
  match Unicode.scriptNames.find? fun (name, aliases) =>
      normalizeName name == norm || aliases.any fun a => normalizeName a == norm with
  | some (name, _) =>
    if name == "Unknown" || (atPatternVersion (Unicode.scriptRanges name)).isEmpty then none
    else some name
  | none => none

/-- The code points of a script, as patterns see them. -/
def scriptSet (name : String) : CharSet := atPatternVersion (Unicode.scriptRanges name)

/-- The code points whose script extensions hold a script, as patterns see them. -/
def scriptExtensionSet (name : String) : CharSet :=
  (atPatternVersion (Unicode.scriptExtensionRanges name)).revise
    Unicode.earlierScriptExtensionRuns (·.contains name)

/-- The code points assigned in a version whose age a loose name gives
(`6.0` or `V6_0`), up to the version patterns follow. -/
def ageValue? (norm : String) : Option CharSet :=
  let known := Unicode.versions.filter (·.atMost patternVersion)
  match known.find? fun v =>
      norm == v.text || norm == "v" ++ toString v.major ++ toString v.minor with
  | some v =>
    some (CharSet.ofRanges (Unicode.ageRuns.rangesWhere fun t =>
      match Unicode.Version.ofText? t with
      | some a => a.atMost v
      | none => false))
  | none => none

/-- The binary properties that code points unassigned in some version may
have, so that a code point assigned later keeps its value for them. -/
def keepsUnassigned : List String :=
  ["Default_Ignorable_Code_Point", "Extended_Pictographic", "Noncharacter_Code_Point",
    "Other_Default_Ignorable_Code_Point", "Pattern_Syntax"]

/-- The groups of binary properties that patterns know. -/
def PropertyGroup.known : Unicode.PropertyGroup → Bool
  | .propList | .coreDerived | .emoji => true
  | .bidi | .normalization => false

/-- The code points of a binary property, by its name, as patterns see them;
`none` for a property patterns do not know. -/
def binaryValue? (name : String) : Option CharSet := do
  let group ← Unicode.binaryPropertyGroup? name
  if !PropertyGroup.known group then none
  let s ← Unicode.binaryProperty? name
  let revised := (CharSet.ofRanges s.toList).symmDiff
    (CharSet.ofRanges (Unicode.earlierBinaryChanges name))
  pure (if keepsUnassigned.contains name then revised else revised.diff laterAssigned)

/-- The code points of a value of a break property, by loose name; `none` for a
value the data lists no code point with. -/
def breakValue? (p : Unicode.BreakProperty) (norm : String) : Option CharSet :=
  match p.valueNames.find? fun (name, aliases) =>
      normalizeName name == norm || aliases.any fun a => normalizeName a == norm with
  | some (name, _) =>
    match p.listedRanges name with
    | [] => none
    | ranges => some (CharSet.ofRanges ranges)
  | none => none

/-- The class a bare name gives: a binary property, else a general category,
else a script. -/
def bareNameClass? (name : String) : Option CharSet :=
  let norm := normalizeName name
  let property := if norm == "cf" || norm == "sc" || norm == "lc" then none else propertyOf? norm
  match property with
  | some p => binaryValue? p
  | none =>
    match categoryValue? norm with
    | some s => some s
    | none => (scriptOf? norm).map scriptSet

/-- The class a `\p` query names, if it names one. -/
def PropertyQuery.charSet? : PropertyQuery → Option CharSet
  | .oneLetter c => bareNameClass? (String.singleton c)
  | .named name => bareNameClass? name
  | .byValue name value =>
    let v := normalizeName value
    match propertyOf? (normalizeName name) with
    | some "General_Category" => categoryValue? v
    | some "Script" => (scriptOf? v).map scriptSet
    | some "Script_Extensions" => (scriptOf? v).map scriptExtensionSet
    | some "Age" => ageValue? v
    | some "Grapheme_Cluster_Break" => breakValue? .graphemeCluster v
    | some "Word_Break" => breakValue? .word v
    | some "Sentence_Break" => breakValue? .sentence v
    | _ => none

example : normalizeName "Is_Greek" = "greek" ∧ normalizeName "ISC" = "isc" ∧
    normalizeName "Decimal Number" = "decimalnumber" := by decide

end RestDispatch.Regex
