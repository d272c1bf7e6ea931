
/-!
# Property names

The names of the character properties of Unicode 16.0, each with its aliases (lowercase,
without spaces, underscores, hyphens or a leading `is`). A class such as `\p{Name}` first
looks its name up here; only some of the properties have classes.
-/

namespace Backtrack
namespace Regex

/-- Each character property: its name and its aliases. -/
def propertyNames : List (String × List String) := [
  ("Age", ["age"]),
  ("Alphabetic", ["alpha", "alphabetic"]),
  ("ASCII_Hex_Digit", ["ahex", "asciihexdigit"]),
  ("Bidi_Class", ["bc", "bidiclass"]),
  ("Bidi_Control", ["bidic", "bidicontrol"]),
  ("Bidi_Mirrored", ["bidim", "bidimirrored"]),
  ("Bidi_Mirroring_Glyph", ["bmg", "bidimirroringglyph"]),
  ("Bidi_Paired_Bracket", ["bpb", "bidipairedbracket"]),
  ("Bidi_Paired_Bracket_Type", ["bpt", "bidipairedbrackettype"]),
  ("Block", ["blk", "block"]),
  ("Canonical_Combining_Class", ["ccc", "canonicalcombiningclass"]),
  ("Case_Folding", ["cf", "casefolding"]),
  ("Case_Ignorable", ["ci", "caseignorable"]),
  ("Cased", ["cased"]),
  ("Changes_When_Casefolded", ["cwcf", "changeswhencasefolded"]),
  ("Changes_When_Casemapped", ["cwcm", "changeswhencasemapped"]),
  ("Changes_When_Lowercased", ["cwl", "changeswhenlowercased"]),
  ("Changes_When_NFKC_Casefolded", ["cwkcf", "changeswhennfkccasefolded"]),
  ("Changes_When_Titlecased", ["cwt", "changeswhentitlecased"]),
  ("Changes_When_Uppercased", ["cwu", "changeswhenuppercased"]),
  ("Composition_Exclusion", ["ce", "compositionexclusion"]),
  ("Dash", ["dash"]),
  ("Decomposition_Mapping", ["dm", "decompositionmapping"]),
  ("Decomposition_Type", ["dt", "decompositiontype"]),
  ("Default_Ignorable_Code_Point", ["di", "defaultignorablecodepoint"]),
  ("Deprecated", ["dep", "deprecated"]),
  ("Diacritic", ["dia", "diacritic"]),
  ("East_Asian_Width", ["ea", "eastasianwidth"]),
  ("Emoji", ["emoji"]),
  ("Emoji_Component", ["ecomp", "emojicomponent"]),
  ("Emoji_Modifier", ["emod", "emojimodifier"]),
  ("Emoji_Modifier_Base", ["ebase", "emojimodifierbase"]),
  ("Emoji_Presentation", ["epres", "emojipresentation"]),
  ("Equivalent_Unified_Ideograph", ["equideo", "equivalentunifiedideograph"]),
  ("Expands_On_NFC", ["xonfc", "expandsonnfc"]),
  ("Expands_On_NFD", ["xonfd", "expandsonnfd"]),
  ("Expands_On_NFKC", ["xonfkc", "expandsonnfkc"]),
  ("Expands_On_NFKD", ["xonfkd", "expandsonnfkd"]),
  ("Extended_Pictographic", ["extpict", "extendedpictographic"]),
  ("Extender", ["ext", "extender"]),
  ("FC_NFKC_Closure", ["fcnfkc", "fcnfkcclosure"]),
  ("Full_Composition_Exclusion", ["compex", "fullcompositionexclusion"]),
  ("General_Category", ["gc", "generalcategory"]),
  ("Grapheme_Base", ["grbase", "graphemebase"]),
  ("Grapheme_Cluster_Break", ["gcb", "graphemeclusterbreak"]),
  ("Grapheme_Extend", ["grext", "graphemeextend"]),
  ("Grapheme_Link", ["grlink", "graphemelink"]),
  ("Hangul_Syllable_Type", ["hst", "hangulsyllabletype"]),
  ("Hex_Digit", ["hex", "hexdigit"]),
  ("Hyphen", ["hyphen"]),
  ("ID_Compat_Math_Continue", ["idcompatmathcontinue"]),
  ("ID_Compat_Math_Start", ["idcompatmathstart"]),
  ("ID_Continue", ["idc", "idcontinue"]),
  ("ID_Start", ["ids", "idstart"]),
  ("Ideographic", ["ideo", "ideographic"]),
  ("IDS_Binary_Operator", ["idsb", "idsbinaryoperator"]),
  ("IDS_Trinary_Operator", ["idst", "idstrinaryoperator"]),
  ("IDS_Unary_Operator", ["idsu", "idsunaryoperator"]),
  ("Indic_Conjunct_Break", ["incb", "indicconjunctbreak"]),
  ("Indic_Positional_Category", ["inpc", "indicpositionalcategory"]),
  ("Indic_Syllabic_Category", ["insc", "indicsyllabiccategory"]),
  ("ISO_Comment", ["isc", "ocomment"]),
  ("Jamo_Short_Name", ["jsn", "jamoshortname"]),
  ("Join_Control", ["joinc", "joincontrol"]),
  ("Joining_Group", ["jg", "joininggroup"]),
  ("Joining_Type", ["jt", "joiningtype"]),
  ("kAccountingNumeric", ["cjkaccountingnumeric", "kaccountingnumeric"]),
  ("kCompatibilityVariant", ["cjkcompatibilityvariant", "kcompatibilityvariant"]),
  ("kEH_Cat", ["kehcat"]),
  ("kEH_Desc", ["kehdesc"]),
  ("kEH_HG", ["kehhg"]),
  ("kEH_IFAO", ["kehifao"]),
  ("kEH_JSesh", ["kehjsesh"]),
  ("kEH_NoMirror", ["kehnomirror"]),
  ("kEH_NoRotate", ["kehnorotate"]),
  ("kIICore", ["cjkiicore", "kiicore"]),
  ("kIRG_GSource", ["cjkirggsource", "kirggsource"]),
  ("kIRG_HSource", ["cjkirghsource", "kirghsource"]),
  ("kIRG_JSource", ["cjkirgjsource", "kirgjsource"]),
  ("kIRG_KPSource", ["cjkirgkpsource", "kirgkpsource"]),
  ("kIRG_KSource", ["cjkirgksource", "kirgksource"]),
  ("kIRG_MSource", ["cjkirgmsource", "kirgmsource"]),
  ("kIRG_SSource", ["cjkirgssource", "kirgssource"]),
  ("kIRG_TSource", ["cjkirgtsource", "kirgtsource"]),
  ("kIRG_UKSource", ["cjkirguksource", "kirguksource"]),
  ("kIRG_USource", ["cjkirgusource", "kirgusource"]),
  ("kIRG_VSource", ["cjkirgvsource", "kirgvsource"]),
  ("kOtherNumeric", ["cjkothernumeric", "kothernumeric"]),
  ("kPrimaryNumeric", ["cjkprimarynumeric", "kprimarynumeric"]),
  ("kRSUnicode", ["cjkrsunicode", "krsunicode", "unicoderadicalstroke", "urs"]),
  ("Line_Break", ["lb", "linebreak"]),
  ("Logical_Order_Exception", ["loe", "logicalorderexception"]),
  ("Lowercase", ["lower", "lowercase"]),
  ("Lowercase_Mapping", ["lc", "lowercasemapping"]),
  ("Math", ["math"]),
  ("Modifier_Combining_Mark", ["mcm", "modifiercombiningmark"]),
  ("Name", ["na", "name"]),
  ("Name_Alias", ["namealias"]),
  ("NFC_Quick_Check", ["nfcqc", "nfcquickcheck"]),
  ("NFD_Quick_Check", ["nfdqc", "nfdquickcheck"]),
  ("NFKC_Casefold", ["nfkccf", "nfkccasefold"]),
  ("NFKC_Quick_Check", ["nfkcqc", "nfkcquickcheck"]),
  ("NFKC_Simple_Casefold", ["nfkcscf", "nfkcsimplecasefold"]),
  ("NFKD_Quick_Check", ["nfkdqc", "nfkdquickcheck"]),
  ("Noncharacter_Code_Point", ["nchar", "noncharactercodepoint"]),
  ("Numeric_Type", ["nt", "numerictype"]),
  ("Numeric_Value", ["nv", "numericvalue"]),
  ("Other_Alphabetic", ["oalpha", "otheralphabetic"]),
  ("Other_Default_Ignorable_Code_Point", ["odi", "otherdefaultignorablecodepoint"]),
  ("Other_Grapheme_Extend", ["ogrext", "othergraphemeextend"]),
  ("Other_ID_Continue", ["oidc", "otheridcontinue"]),
  ("Other_ID_Start", ["oids", "otheridstart"]),
  ("Other_Lowercase", ["olower", "otherlowercase"]),
  ("Other_Math", ["omath", "othermath"]),
  ("Other_Uppercase", ["oupper", "otheruppercase"]),
  ("Pattern_Syntax", ["patsyn", "patternsyntax"]),
  ("Pattern_White_Space", ["patws", "patternwhitespace"]),
  ("Prepended_Concatenation_Mark", ["pcm", "prependedconcatenationmark"]),
  ("Quotation_Mark", ["qmark", "quotationmark"]),
  ("Radical", ["radical"]),
  ("Regional_Indicator", ["ri", "regionalindicator"]),
  ("Script", ["sc", "script"]),
  ("Script_Extensions", ["scx", "scriptextensions"]),
  ("Sentence_Break", ["sb", "sentencebreak"]),
  ("Sentence_Terminal", ["sterm", "sentenceterminal"]),
  ("Simple_Case_Folding", ["scf", "simplecasefolding", "sfc"]),
  ("Simple_Lowercase_Mapping", ["slc", "simplelowercasemapping"]),
  ("Simple_Titlecase_Mapping", ["stc", "simpletitlecasemapping"]),
  ("Simple_Uppercase_Mapping", ["suc", "simpleuppercasemapping"]),
  ("Soft_Dotted", ["sd", "softdotted"]),
  ("Terminal_Punctuation", ["term", "terminalpunctuation"]),
  ("Titlecase_Mapping", ["tc", "titlecasemapping"]),
  ("Unicode_1_Name", ["na1", "unicode1name"]),
  ("Unified_Ideograph", ["uideo", "unifiedideograph"]),
  ("Uppercase", ["upper", "uppercase"]),
  ("Uppercase_Mapping", ["uc", "uppercasemapping"]),
  ("Variation_Selector", ["vs", "variationselector"]),
  ("Vertical_Orientation", ["vo", "verticalorientation"]),
  ("White_Space", ["wspace", "whitespace", "space"]),
  ("Word_Break", ["wb", "wordbreak"]),
  ("XID_Continue", ["xidc", "xidcontinue"]),
  ("XID_Start", ["xids", "xidstart"])
]

end Regex
end Backtrack
