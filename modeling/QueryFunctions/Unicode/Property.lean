import QueryFunctions.Unicode.AgeTable
import QueryFunctions.Unicode.BinaryTable
import QueryFunctions.Unicode.BreakTable
import QueryFunctions.Unicode.CategoryTable
import QueryFunctions.Unicode.Packed
import QueryFunctions.Unicode.ScriptExtensionTable
import QueryFunctions.Unicode.ScriptTable

/-! Character properties by name. A query is one name, or a property with one of its
values; names are compared loosely, without regard to case, blanks, hyphens, underscores
and a leading `is`. A single name is read as a binary property, a general category or a
script, in this order. -/

namespace QueryFunctions.Unicode

/-- What a pattern can ask of a character. -/
inductive PropertyQuery where
  | named (name : String)
  | valued (property value : String)

/-- Why a query names no set. -/
inductive PropertyFault where
  | unknownProperty
  | unknownValue

/-! ### Loose names -/

/-- Drops separators and non-ASCII characters and lowers the rest. -/
def looseChars (cs : List Char) : List Char :=
  (cs.filter fun c => c.toNat < 128 && c != ' ' && c != '_' && c != '-').map Char.toLower

/-- Whether the name starts with `is` in any case. -/
def startsWithIs : List Char → Bool
  | i :: s :: _ => i.toLower == 'i' && s.toLower == 's'
  | _ => false

/-- The form under which names are compared. A name that would shrink to `c` by the loss of
its leading `is` keeps it, since `isc` abbreviates a property of its own. -/
def looseName (name : String) : String :=
  let cs := name.toList
  if startsWithIs cs then
    let rest := looseChars (cs.drop 2)
    if rest = ['c'] then "isc" else String.ofList rest
  else String.ofList (looseChars cs)

/-! ### Aliases -/

/-- Short names of the binary properties. -/
def binaryAliases : List (String × String) := [
  ("ahex", "asciihexdigit"), ("alpha", "alphabetic"), ("bidic", "bidicontrol"),
  ("bidim", "bidimirrored"),
  ("ci", "caseignorable"), ("cwcf", "changeswhencasefolded"),
  ("cwcm", "changeswhencasemapped"), ("cwl", "changeswhenlowercased"),
  ("cwt", "changeswhentitlecased"), ("cwu", "changeswhenuppercased"),
  ("di", "defaultignorablecodepoint"), ("dep", "deprecated"), ("dia", "diacritic"),
  ("ecomp", "emojicomponent"), ("emod", "emojimodifier"), ("ebase", "emojimodifierbase"),
  ("epres", "emojipresentation"), ("extpict", "extendedpictographic"), ("ext", "extender"),
  ("grbase", "graphemebase"), ("grext", "graphemeextend"), ("grlink", "graphemelink"),
  ("hex", "hexdigit"), ("idsb", "idsbinaryoperator"), ("idst", "idstrinaryoperator"),
  ("idsu", "idsunaryoperator"), ("idc", "idcontinue"), ("ids", "idstart"),
  ("ideo", "ideographic"), ("joinc", "joincontrol"), ("loe", "logicalorderexception"),
  ("lower", "lowercase"), ("mcm", "modifiercombiningmark"),
  ("nchar", "noncharactercodepoint"), ("oalpha", "otheralphabetic"),
  ("odi", "otherdefaultignorablecodepoint"), ("ogrext", "othergraphemeextend"),
  ("oidc", "otheridcontinue"), ("oids", "otheridstart"), ("olower", "otherlowercase"),
  ("omath", "othermath"), ("oupper", "otheruppercase"), ("patsyn", "patternsyntax"),
  ("patws", "patternwhitespace"), ("pcm", "prependedconcatenationmark"),
  ("qmark", "quotationmark"), ("ri", "regionalindicator"), ("sterm", "sentenceterminal"),
  ("sd", "softdotted"), ("term", "terminalpunctuation"), ("uideo", "unifiedideograph"),
  ("upper", "uppercase"), ("vs", "variationselector"), ("wspace", "whitespace"),
  ("space", "whitespace"), ("xidc", "xidcontinue"), ("xids", "xidstart")]

/-- Names of properties that are known but stand for no set of their own. -/
def otherProperties : List String := [
  "bc", "bidiclass", "bmg", "bidimirroringglyph", "bpb",
  "bidipairedbracket", "bpt", "bidipairedbrackettype", "blk", "block", "ccc",
  "canonicalcombiningclass", "cf", "casefolding", "ce", "compositionexclusion", "compex",
  "fullcompositionexclusion", "cwkcf", "changeswhennfkccasefolded", "dm",
  "decompositionmapping", "dt", "decompositiontype", "ea", "eastasianwidth", "equideo",
  "equivalentunifiedideograph", "fcnfkc", "fcnfkcclosure", "hst", "hangulsyllabletype",
  "incb", "indicconjunctbreak", "inpc", "indicpositionalcategory", "insc",
  "indicsyllabiccategory", "isc", "isocomment", "jsn", "jamoshortname", "jg",
  "joininggroup", "jt", "joiningtype", "lb", "linebreak", "lc", "lowercasemapping", "na",
  "name", "na1", "unicode1name", "namealias", "nfcqc", "nfcquickcheck", "nfdqc",
  "nfdquickcheck", "nfkcqc", "nfkcquickcheck", "nfkdqc", "nfkdquickcheck", "nfkccf",
  "nfkccasefold", "nfkcscf", "nfkcsimplecasefold", "nt", "numerictype", "nv",
  "numericvalue", "scf", "sfc", "simplecasefolding", "slc", "simplelowercasemapping", "stc",
  "simpletitlecasemapping", "suc", "simpleuppercasemapping", "tc", "titlecasemapping", "uc",
  "uppercasemapping", "vo", "verticalorientation", "xonfc", "expandsonnfc", "xonfd",
  "expandsonnfd", "xonfkc", "expandsonnfkc", "xonfkd", "expandsonnfkd",
  "cjkaccountingnumeric", "kaccountingnumeric", "cjkothernumeric", "kothernumeric",
  "cjkprimarynumeric", "kprimarynumeric", "cjkcompatibilityvariant",
  "kcompatibilityvariant", "cjkiicore", "kiicore", "cjkirggsource", "kirggsource",
  "cjkirghsource", "kirghsource", "cjkirgjsource", "kirgjsource", "cjkirgkpsource",
  "kirgkpsource", "cjkirgksource", "kirgksource", "cjkirgmsource", "kirgmsource",
  "cjkirgssource", "kirgssource", "cjkirgtsource", "kirgtsource", "cjkirguksource",
  "kirguksource", "cjkirgusource", "kirgusource", "cjkirgvsource", "kirgvsource",
  "cjkrsunicode", "krsunicode", "unicoderadicalstroke", "urs", "kehcat", "kehdesc", "kehhg",
  "kehifao", "kehjsesh", "kehnomirror", "kehnorotate"]

/-- The categories that a category name stands for. -/
def categoryAliases : List (String × List String) := [
  ("c", ["cc", "cf", "cn", "co", "cs"]), ("other", ["cc", "cf", "cn", "co", "cs"]),
  ("cc", ["cc"]), ("control", ["cc"]), ("cntrl", ["cc"]), ("cf", ["cf"]), ("format", ["cf"]),
  ("cn", ["cn"]), ("unassigned", ["cn"]), ("co", ["co"]), ("privateuse", ["co"]),
  ("l", ["ll", "lm", "lo", "lt", "lu"]), ("letter", ["ll", "lm", "lo", "lt", "lu"]),
  ("lc", ["ll", "lt", "lu"]), ("casedletter", ["ll", "lt", "lu"]),
  ("ll", ["ll"]), ("lowercaseletter", ["ll"]), ("lm", ["lm"]), ("modifierletter", ["lm"]),
  ("lo", ["lo"]), ("otherletter", ["lo"]), ("lt", ["lt"]), ("titlecaseletter", ["lt"]),
  ("lu", ["lu"]), ("uppercaseletter", ["lu"]),
  ("m", ["mc", "me", "mn"]), ("mark", ["mc", "me", "mn"]), ("combiningmark", ["mc", "me", "mn"]),
  ("mc", ["mc"]), ("spacingmark", ["mc"]), ("me", ["me"]), ("enclosingmark", ["me"]),
  ("mn", ["mn"]), ("nonspacingmark", ["mn"]),
  ("n", ["nd", "nl", "no"]), ("number", ["nd", "nl", "no"]),
  ("nd", ["nd"]), ("decimalnumber", ["nd"]), ("digit", ["nd"]),
  ("nl", ["nl"]), ("letternumber", ["nl"]), ("no", ["no"]), ("othernumber", ["no"]),
  ("p", ["pc", "pd", "pe", "pf", "pi", "po", "ps"]),
  ("punctuation", ["pc", "pd", "pe", "pf", "pi", "po", "ps"]),
  ("punct", ["pc", "pd", "pe", "pf", "pi", "po", "ps"]),
  ("pc", ["pc"]), ("connectorpunctuation", ["pc"]), ("pd", ["pd"]), ("dashpunctuation", ["pd"]),
  ("pe", ["pe"]), ("closepunctuation", ["pe"]), ("pf", ["pf"]), ("finalpunctuation", ["pf"]),
  ("pi", ["pi"]), ("initialpunctuation", ["pi"]), ("po", ["po"]), ("otherpunctuation", ["po"]),
  ("ps", ["ps"]), ("openpunctuation", ["ps"]),
  ("s", ["sc", "sk", "sm", "so"]), ("symbol", ["sc", "sk", "sm", "so"]),
  ("sc", ["sc"]), ("currencysymbol", ["sc"]), ("sk", ["sk"]), ("modifiersymbol", ["sk"]),
  ("sm", ["sm"]), ("mathsymbol", ["sm"]), ("so", ["so"]), ("othersymbol", ["so"]),
  ("z", ["zl", "zp", "zs"]), ("separator", ["zl", "zp", "zs"]),
  ("zl", ["zl"]), ("lineseparator", ["zl"]), ("zp", ["zp"]), ("paragraphseparator", ["zp"]),
  ("zs", ["zs"]), ("spaceseparator", ["zs"])]

/-- Category names that stand for no character. -/
def emptyCategories : List String := ["cs", "surrogate"]

/-- Short names of the scripts. -/
def scriptAliases : List (String × String) := [
  ("adlm", "adlam"), ("hluw", "anatolianhieroglyphs"), ("arab", "arabic"), ("armn", "armenian"),
  ("avst", "avestan"), ("bali", "balinese"), ("bamu", "bamum"), ("bass", "bassavah"),
  ("batk", "batak"), ("beng", "bengali"), ("bhks", "bhaiksuki"), ("bopo", "bopomofo"),
  ("brah", "brahmi"), ("brai", "braille"), ("bugi", "buginese"), ("buhd", "buhid"),
  ("cans", "canadianaboriginal"), ("cari", "carian"), ("aghb", "caucasianalbanian"),
  ("cakm", "chakma"), ("cher", "cherokee"), ("chrs", "chorasmian"), ("zyyy", "common"),
  ("copt", "coptic"), ("qaac", "coptic"), ("xsux", "cuneiform"), ("cprt", "cypriot"),
  ("cpmn", "cyprominoan"), ("cyrl", "cyrillic"), ("dsrt", "deseret"), ("deva", "devanagari"),
  ("diak", "divesakuru"), ("dogr", "dogra"), ("dupl", "duployan"), ("egyp", "egyptianhieroglyphs"),
  ("elba", "elbasan"), ("elym", "elymaic"), ("ethi", "ethiopic"), ("gara", "garay"),
  ("geor", "georgian"), ("glag", "glagolitic"), ("goth", "gothic"), ("gran", "grantha"),
  ("grek", "greek"), ("gujr", "gujarati"), ("gong", "gunjalagondi"), ("guru", "gurmukhi"),
  ("gukh", "gurungkhema"), ("hani", "han"), ("hang", "hangul"), ("rohg", "hanifirohingya"),
  ("hano", "hanunoo"), ("hatr", "hatran"), ("hebr", "hebrew"), ("hira", "hiragana"),
  ("armi", "imperialaramaic"), ("zinh", "inherited"), ("qaai", "inherited"),
  ("phli", "inscriptionalpahlavi"), ("prti", "inscriptionalparthian"), ("java", "javanese"),
  ("kthi", "kaithi"), ("knda", "kannada"), ("kana", "katakana"), ("kali", "kayahli"),
  ("khar", "kharoshthi"), ("kits", "khitansmallscript"), ("khmr", "khmer"), ("khoj", "khojki"),
  ("sind", "khudawadi"), ("krai", "kiratrai"), ("laoo", "lao"), ("latn", "latin"),
  ("lepc", "lepcha"), ("limb", "limbu"), ("lina", "lineara"), ("linb", "linearb"),
  ("lyci", "lycian"), ("lydi", "lydian"), ("mahj", "mahajani"), ("maka", "makasar"),
  ("mlym", "malayalam"), ("mand", "mandaic"), ("mani", "manichaean"), ("marc", "marchen"),
  ("gonm", "masaramgondi"), ("medf", "medefaidrin"), ("mtei", "meeteimayek"),
  ("mend", "mendekikakui"), ("merc", "meroiticcursive"), ("mero", "meroitichieroglyphs"),
  ("plrd", "miao"), ("mong", "mongolian"), ("mroo", "mro"), ("mult", "multani"),
  ("mymr", "myanmar"), ("nbat", "nabataean"), ("nagm", "nagmundari"), ("nand", "nandinagari"),
  ("talu", "newtailue"), ("nkoo", "nko"), ("nshu", "nushu"), ("hmnp", "nyiakengpuachuehmong"),
  ("ogam", "ogham"), ("olck", "olchiki"), ("hung", "oldhungarian"), ("ital", "olditalic"),
  ("narb", "oldnortharabian"), ("perm", "oldpermic"), ("xpeo", "oldpersian"),
  ("sogo", "oldsogdian"), ("sarb", "oldsoutharabian"), ("orkh", "oldturkic"),
  ("ougr", "olduyghur"), ("onao", "olonal"), ("orya", "oriya"), ("osge", "osage"),
  ("osma", "osmanya"), ("hmng", "pahawhhmong"), ("palm", "palmyrene"), ("pauc", "paucinhau"),
  ("phag", "phagspa"), ("phnx", "phoenician"), ("phlp", "psalterpahlavi"), ("rjng", "rejang"),
  ("runr", "runic"), ("samr", "samaritan"), ("saur", "saurashtra"), ("shrd", "sharada"),
  ("shaw", "shavian"), ("sidd", "siddham"), ("sgnw", "signwriting"), ("sinh", "sinhala"),
  ("sogd", "sogdian"), ("sora", "sorasompeng"), ("soyo", "soyombo"), ("sund", "sundanese"),
  ("sunu", "sunuwar"), ("sylo", "sylotinagri"), ("syrc", "syriac"), ("tglg", "tagalog"),
  ("tagb", "tagbanwa"), ("tale", "taile"), ("lana", "taitham"), ("tavt", "taiviet"),
  ("takr", "takri"), ("taml", "tamil"), ("tnsa", "tangsa"), ("tang", "tangut"), ("telu", "telugu"),
  ("thaa", "thaana"), ("tibt", "tibetan"), ("tfng", "tifinagh"), ("tirh", "tirhuta"),
  ("todr", "todhri"), ("tutg", "tulutigalari"), ("ugar", "ugaritic"), ("zzzz", "unknown"),
  ("vaii", "vai"), ("vith", "vithkuqi"), ("wcho", "wancho"), ("wara", "warangciti"),
  ("yezi", "yezidi"), ("yiii", "yi"), ("zanb", "zanabazarsquare"), ("hrkt", "katakanaorhiragana"),
  ("katakanaorhiragana", "katakanaorhiragana")]

/-- Short names of the break classes of the three break properties. -/
def graphemeBreakAliases : List (String × String) := [
  ("cn", "control"), ("ex", "extend"), ("pp", "prepend"), ("ri", "regionalindicator"),
  ("sm", "spacingmark")]

def wordBreakAliases : List (String × String) := [
  ("dq", "doublequote"), ("ex", "extendnumlet"), ("fo", "format"), ("hl", "hebrewletter"),
  ("ka", "katakana"), ("le", "aletter"), ("mb", "midnumlet"), ("ml", "midletter"),
  ("mn", "midnum"), ("nl", "newline"), ("nu", "numeric"), ("ri", "regionalindicator"),
  ("sq", "singlequote")]

def sentenceBreakAliases : List (String × String) := [
  ("at", "aterm"), ("cl", "close"), ("ex", "extend"), ("fo", "format"), ("le", "oletter"),
  ("lo", "lower"), ("nu", "numeric"), ("sc", "scontinue"), ("se", "sep"), ("st", "sterm"),
  ("up", "upper")]

/-- The long name for a loose name, which may be long already. -/
def unalias (aliases : List (String × String)) (name : String) : String :=
  (aliases.lookup name).getD name

/-! ### Lookup -/

def categories (names : List String) : CodeSet :=
  CodeSet.unions (names.filterMap (lookupSet? categoryTable))

/-- The set of a category name, including the three that are not categories proper. -/
def category? (name : String) : Option CodeSet :=
  if name = "any" then some CodeSet.all
  else if name = "ascii" then some CodeSet.ascii
  else if name = "assigned" then some (categories ["cn"]).compl
  else (categoryAliases.lookup name).map categories

def script? (name : String) : Option CodeSet :=
  lookupSet? scriptTable (unalias scriptAliases name)

/-- The code points used with a script, which are those of the script itself unless the
table of extensions says otherwise. -/
def scriptExtension? (name : String) : Option CodeSet :=
  let name := unalias scriptAliases name
  (lookupSet? scriptExtensionTable name).orElse fun _ => lookupSet? scriptTable name

/-- Whether the name is that of a script without code points of its own. -/
def isVacantScript (name : String) : Bool :=
  ["unknown", "katakanaorhiragana"].contains (unalias scriptAliases name)

/-- The code points assigned by a version or an earlier one. Versions are written `3.0`
or `v30`. -/
def age? (value : String) : Option CodeSet :=
  let matching (version : String) : Bool :=
    version = value || "v" ++ String.ofList (version.toList.filter (· != '.')) = value
  if ageTable.any (matching ·.1) then
    let older := ageTable.takeWhile (!matching ·.1)
    let added := (ageTable.find? (matching ·.1)).toList
    some (CodeSet.unions ((older ++ added).map (unpackSet ·.2)))
  else none

def binary? (name : String) : Option CodeSet :=
  lookupSet? binaryTable (unalias binaryAliases name)

/-- Names of the properties whose values can be asked for. -/
def valuedProperties : List (String × (String → Option CodeSet)) :=
  let classes (aliases : List (String × String)) (table : List (String × List String))
      (value : String) : Option CodeSet :=
    lookupSet? table (unalias aliases value)
  let grapheme := classes graphemeBreakAliases graphemeBreakTable
  let word := classes wordBreakAliases wordBreakTable
  let sentence := classes sentenceBreakAliases sentenceBreakTable
  [("gc", category?), ("generalcategory", category?), ("sc", script?), ("script", script?),
   ("scx", scriptExtension?), ("scriptextensions", scriptExtension?), ("age", age?),
   ("gcb", grapheme), ("graphemeclusterbreak", grapheme), ("wb", word), ("wordbreak", word),
   ("sb", sentence), ("sentencebreak", sentence)]

/-- Whether a single name is taken as a property before anything else. The names `cf`, `sc`
and `lc` are also categories, which go first. -/
def namesProperty (name : String) : Bool :=
  let isCategory := ["cf", "sc", "lc"].contains name
  !isCategory && ((valuedProperties.lookup name).isSome || otherProperties.contains name)

/-- The set that a query stands for. -/
def PropertyQuery.resolve : PropertyQuery → Except PropertyFault CodeSet
  | named name =>
    let name := looseName name
    match binary? name with
    | some set => .ok set
    | none =>
      if namesProperty name then .error .unknownProperty
      else if emptyCategories.contains name || isVacantScript name then .error .unknownValue
      else
        match (category? name).orElse fun _ => script? name with
        | some set => .ok set
        | none => .error .unknownProperty
  | valued property value =>
    let property := looseName property
    match valuedProperties.lookup property with
    | some values =>
      match values (looseName value) with
      | some set => .ok set
      | none => .error .unknownValue
    | none =>
      if otherProperties.contains property || (binary? property).isSome then
        .error .unknownValue
      else .error .unknownProperty

end QueryFunctions.Unicode
