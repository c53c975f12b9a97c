import TestFleet.Unicode.Derived
import TestFleet.Unicode.Script
import TestFleet.Unicode.ScriptExtension
import TestFleet.Unicode.Age
import TestFleet.Unicode.Breaks
import TestFleet.Unicode.Newcomer
/-!
# Classes of characters by name

A class is asked for by the name of a binary property, a general category or a script, or by a
property and one of its values. Case, blanks, hyphens and underscores in names do not matter, nor
does `is` in front of them, and what is not ASCII is passed over. What no category lists is
unassigned.
-/
namespace TestFleet.Unicode

/-- A name without what does not matter in it. The one name that would be cut down to a category,
`isc`, is kept. -/
def looseName (s : String) : String :=
  let cs := s.toList.map Char.toLower
  let (cut, prefixed) := match cs with
    | 'i' :: 's' :: rest => (rest, true)
    | _ => (cs, false)
  let kept := cut.filter fun c => c.toNat < 0x80 && c != '_' && c != '-' && c != ' '
  if prefixed && kept == ['c'] then "isc" else String.ofList kept

/-- Whether a name, already without what does not matter, is one of several names. -/
def isOneOf (loose : String) (names : List String) : Bool :=
  names.any fun name => looseName name == loose

/-- Categories that stand for several others. -/
def categoryGroups : List (List String × List String) :=
  [(["L", "Letter"], ["Lu", "Ll", "Lt", "Lm", "Lo"]), (["LC", "Cased_Letter"], ["Lu", "Ll", "Lt"]),
    (["M", "Mark", "Combining_Mark"], ["Mn", "Mc", "Me"]), (["N", "Number"], ["Nd", "Nl", "No"]),
    (["P", "Punctuation", "punct"], ["Pc", "Pd", "Ps", "Pe", "Pi", "Pf", "Po"]),
    (["S", "Symbol"], ["Sm", "Sc", "Sk", "So"]), (["Z", "Separator"], ["Zs", "Zl", "Zp"])]

/-- Third names of categories. -/
def categoryAliases : List (String × String) := [("cntrl", "Cc"), ("digit", "Nd")]

/-- The ranges of a general category or a group of them. -/
def category? (name : String) : Option (List Range) :=
  let loose := looseName name
  if loose == "any" then some everything
  else if loose == "ascii" then some [⟨0, 0x7F⟩]
  else if loose == "assigned" then some assigned
  else if isOneOf loose ["Cn", "Unassigned"] then some (complement assigned)
  else if isOneOf loose ["C", "Other"] then
    some (complement assigned ++ ofCategories ["Cc", "Cf", "Co"])
  else
    let loose := ((categoryAliases.lookup loose).map looseName).getD loose
    match categories.find? fun (s, l, _) => isOneOf loose [s, l] with
    | some (_, _, rs) => some rs
    | none =>
      (categoryGroups.find? fun (names, _) => isOneOf loose names).map
        fun (_, parts) => ofCategories parts

/-- The ranges of a value by its names in a table. -/
def valueIn? (table : List (List String × List Range)) (name : String) : Option (List Range) :=
  (table.find? fun (names, _) => isOneOf (looseName name) names).map (·.2)

/-- A script and its ranges. -/
def scriptNamed? (name : String) : Option (List String × List String) :=
  scripts.find? fun (names, _) => isOneOf (looseName name) names

/-- The characters of a script. -/
def script? (name : String) : Option (List Range) :=
  (scriptNamed? name).map fun (_, rows) => decode rows

/-- The characters that are used with a script: its own, unless they are used with others only, and
those of other scripts that are used with it too. -/
def scriptUse? (name : String) : Option (List Range) :=
  (scriptNamed? name).map fun (names, rows) =>
    let shared := scriptExtensions.flatMap fun (_, rows) => decode rows
    let extended := (scriptExtensions.filter fun (users, _) => names.any users.contains).flatMap
      fun (_, rows) => decode rows
    union (minus (decode rows) shared) extended

/-- The characters of a version of Unicode and all versions before it. -/
def age? (name : String) : Option (List Range) :=
  let loose := looseName name
  let isCalled (version : String) : Bool :=
    version == loose || ("v" ++ String.ofList (version.toList.filter (· != '.'))) == loose
  if ages.any fun (version, _) => isCalled version then
    let older := ages.takeWhile fun (version, _) => !isCalled version
    let own := ages.filter fun (version, _) => isCalled version
    some (joined ((older ++ own).flatMap fun (_, rows) => decode rows))
  else none

/-- Short names of binary properties. -/
def propertyAliases : List (String × String) :=
  [("AHex", "ASCII_Hex_Digit"), ("Alpha", "Alphabetic"), ("Bidi_C", "Bidi_Control"),
    ("CI", "Case_Ignorable"), ("CWCF", "Changes_When_Casefolded"),
    ("CWCM", "Changes_When_Casemapped"), ("CWL", "Changes_When_Lowercased"),
    ("CWT", "Changes_When_Titlecased"), ("CWU", "Changes_When_Uppercased"),
    ("DI", "Default_Ignorable_Code_Point"), ("Dep", "Deprecated"), ("Dia", "Diacritic"),
    ("EBase", "Emoji_Modifier_Base"), ("EComp", "Emoji_Component"), ("EMod", "Emoji_Modifier"),
    ("EPres", "Emoji_Presentation"), ("Ext", "Extender"), ("ExtPict", "Extended_Pictographic"),
    ("Gr_Base", "Grapheme_Base"), ("Gr_Ext", "Grapheme_Extend"), ("Gr_Link", "Grapheme_Link"),
    ("Hex", "Hex_Digit"), ("IDC", "ID_Continue"), ("IDS", "ID_Start"), ("Ideo", "Ideographic"),
    ("IDSB", "IDS_Binary_Operator"), ("IDST", "IDS_Trinary_Operator"),
    ("IDSU", "IDS_Unary_Operator"), ("Join_C", "Join_Control"),
    ("LOE", "Logical_Order_Exception"), ("Lower", "Lowercase"),
    ("MCM", "Modifier_Combining_Mark"), ("NChar", "Noncharacter_Code_Point"),
    ("OAlpha", "Other_Alphabetic"), ("ODI", "Other_Default_Ignorable_Code_Point"),
    ("OGr_Ext", "Other_Grapheme_Extend"), ("OIDC", "Other_ID_Continue"),
    ("OIDS", "Other_ID_Start"), ("OLower", "Other_Lowercase"), ("OMath", "Other_Math"),
    ("OUpper", "Other_Uppercase"), ("Pat_Syn", "Pattern_Syntax"),
    ("Pat_WS", "Pattern_White_Space"), ("PCM", "Prepended_Concatenation_Mark"),
    ("QMark", "Quotation_Mark"), ("RI", "Regional_Indicator"), ("SD", "Soft_Dotted"),
    ("space", "White_Space"), ("STerm", "Sentence_Terminal"), ("Term", "Terminal_Punctuation"),
    ("UIdeo", "Unified_Ideograph"), ("Upper", "Uppercase"), ("VS", "Variation_Selector"),
    ("WSpace", "White_Space"), ("XIDC", "XID_Continue"), ("XIDS", "XID_Start")]

/-- The ranges of a binary property. -/
def property? (name : String) : Option (List Range) :=
  let loose := looseName name
  let full := ((propertyAliases.find? fun (a, _) => looseName a == loose).map
    fun (_, f) => looseName f).getD loose
  ((basicProperties ++ derivedProperties).find? fun (n, _) => looseName n == full).map (·.2)

/-- The ranges of a class by its name alone. -/
def class? (name : String) : Option (List Range) :=
  property? name <|> category? name <|> script? name

/-- The ranges of a class by a property and one of its values. -/
def classOf? (property value : String) : Option (List Range) :=
  match looseName property with
  | "gc" | "generalcategory" => category? value
  | "sc" | "script" => script? value
  | "scx" | "scriptextensions" => scriptUse? value
  | "age" => age? value
  | "gcb" | "graphemeclusterbreak" => valueIn? graphemeBreaks value
  | "wb" | "wordbreak" => valueIn? wordBreaks value
  | "sb" | "sentencebreak" => valueIn? sentenceBreaks value
  | _ => none

/-- Whether a character belongs to words. -/
def isWord (c : Char) : Bool :=
  if c.toNat < 0x80 then c.isAlphanum || c == '_' else inRanges wordRanges c.toNat

/-- Whether a character is a letter, in the newest version. -/
def isAlphabetic (c : Char) : Bool :=
  if c.toNat < 0x80 then c.isAlpha
  else inRanges rangesAlphabetic c.toNat || inRanges newlyAlphabetic c.toNat

/-- Whether a character is a letter or a number, in the newest version. -/
def isAlphanumeric (c : Char) : Bool :=
  c.isAlphanum || isAlphabetic c
    || (0x80 ≤ c.toNat
      && (inRanges (ofCategories ["Nd", "Nl", "No"]) c.toNat || inRanges newlyNumeric c.toNat))

end TestFleet.Unicode
