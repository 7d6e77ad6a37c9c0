import ClaExemption.Unicode.Casing
import ClaExemption.Unicode.Script

/-!
# Properties by name

A pattern names a property of characters loosely: letter case, spaces, hyphens
and underscores are ignored, and so is a leading `is`. `Query.resolve?` finds
the characters that a name, or a name with a value, stands for. It knows general
categories, scripts and their extensions, and properties with two values, but
neither ages nor the classes of grapheme, word and sentence breaks.
-/

namespace ClaExemption.Unicode

/-- A property as a pattern names it. -/
inductive Query where
  /-- One word: a category, a script or a property with two values. -/
  | named (name : String)
  /-- A property and one of its values. -/
  | valued (property value : String)
deriving DecidableEq, Repr

/-- The characters of a name that matter, in lower case. -/
def squeeze (name : List Char) : List Char :=
  (name.filter fun c => c ≠ ' ' ∧ c ≠ '_' ∧ c ≠ '-' ∧ c.toNat ≤ 0x7f).map Char.toLower

/-- A name in the form under which it is looked up. The name that consists of `is` and the category
of other characters keeps its first two letters, since it is also the short name of a property. -/
def loose (name : String) : String :=
  match name.toList with
  | i :: s :: rest =>
    if i.toLower = 'i' ∧ s.toLower = 's' then
      if squeeze rest = ['c'] then "isc" else String.ofList (squeeze rest)
    else String.ofList (squeeze (i :: s :: rest))
  | short => String.ofList (squeeze short)

/-- The properties with two values, by their loose names. -/
def binaryProperties : List (List String × (Nat → Bool)) :=
  [(["asciihexdigit", "ahex"], fun c => c ≤ 0x7f && hexDigit.mem c),
   (["alphabetic", "alpha"], alphabetic),
   (["bidicontrol", "bidic"], bidiControl.mem),
   (["bidimirrored", "bidim"], bidiMirrored.mem),
   (["caseignorable", "ci"], caseIgnorable),
   (["cased"], cased),
   (["changeswhencasefolded", "cwcf"], changesWhenCasefolded),
   (["changeswhencasemapped", "cwcm"], changesWhenCasemapped),
   (["changeswhenlowercased", "cwl"], changesWhenLowercased),
   (["changeswhentitlecased", "cwt"], changesWhenTitlecased),
   (["changeswhenuppercased", "cwu"], changesWhenUppercased.mem),
   (["dash"], dash.mem),
   (["defaultignorablecodepoint", "di"], defaultIgnorable),
   (["deprecated", "dep"], deprecated.mem),
   (["diacritic", "dia"], diacritic.mem),
   (["emoji"], emoji.mem),
   (["emojicomponent", "ecomp"], emojiComponent.mem),
   (["emojimodifier", "emod"], emojiModifier.mem),
   (["emojimodifierbase", "ebase"], emojiModifierBase.mem),
   (["emojipresentation", "epres"], emojiPresentation.mem),
   (["extendedpictographic", "extpict"], extendedPictographic.mem),
   (["extender", "ext"], extender.mem),
   (["graphemebase", "grbase"], graphemeBase),
   (["graphemeextend", "grext"], graphemeExtend),
   (["graphemelink", "grlink"], graphemeLink.mem),
   (["hexdigit", "hex"], hexDigit.mem),
   (["hyphen"], hyphen.mem),
   (["idcompatmathcontinue"], mathIdentifierPart.mem),
   (["idcompatmathstart"], mathIdentifierStart.mem),
   (["idcontinue", "idc"], idContinue),
   (["idstart", "ids"], idStart),
   (["ideographic", "ideo"], ideographic.mem),
   (["idsbinaryoperator", "idsb"], idsBinaryOperator.mem),
   (["idstrinaryoperator", "idst"], idsTrinaryOperator.mem),
   (["idsunaryoperator", "idsu"], idsUnaryOperator.mem),
   (["joincontrol", "joinc"], joinControl.mem),
   (["logicalorderexception", "loe"], logicalOrderException.mem),
   (["lowercase", "lower"], lowercase),
   (["math"], math),
   (["modifiercombiningmark", "mcm"], modifierCombiningMark.mem),
   (["noncharactercodepoint", "nchar"], noncharacter.mem),
   (["otheralphabetic", "oalpha"], otherAlphabetic.mem),
   (["otherdefaultignorablecodepoint", "odi"], otherDefaultIgnorable.mem),
   (["othergraphemeextend", "ogrext"], otherGraphemeExtend.mem),
   (["otheridcontinue", "oidc"], otherIdContinue.mem),
   (["otheridstart", "oids"], otherIdStart.mem),
   (["otherlowercase", "olower"], otherLowercase.mem),
   (["othermath", "omath"], otherMath.mem),
   (["otheruppercase", "oupper"], otherUppercase.mem),
   (["patternsyntax", "patsyn"], patternSyntax.mem),
   (["patternwhitespace", "patws"], patternWhiteSpace.mem),
   (["prependedconcatenationmark", "pcm"], prependedConcatenationMark.mem),
   (["quotationmark", "qmark"], quotationMark.mem),
   (["radical"], radical.mem),
   (["regionalindicator", "ri"], regionalIndicator.mem),
   (["sentenceterminal", "sterm"], sentenceTerminal.mem),
   (["softdotted", "sd"], softDotted.mem),
   (["terminalpunctuation", "term"], terminalPunctuation.mem),
   (["unifiedideograph", "uideo"], unifiedIdeograph.mem),
   (["uppercase", "upper"], uppercase),
   (["variationselector", "vs"], variationSelector.mem),
   (["whitespace", "wspace", "space"], whiteSpace),
   (["xidcontinue", "xidc"], xidContinue),
   (["xidstart", "xids"], xidStart)]

/-- The sets of categories that have names, by their loose names. Surrogates are not characters
and have no entry of their own. -/
def categoryGroups : List (List String × List Category) :=
  [(["other", "c"], Category.others),
   (["control", "cc", "cntrl"], [.control]),
   (["format", "cf"], [.format]),
   (["unassigned", "cn"], [.unassigned]),
   (["privateuse", "co"], [.privateUse]),
   (["letter", "l"], Category.letters),
   (["casedletter", "lc"], [.uppercaseLetter, .lowercaseLetter, .titlecaseLetter]),
   (["lowercaseletter", "ll"], [.lowercaseLetter]),
   (["modifierletter", "lm"], [.modifierLetter]),
   (["otherletter", "lo"], [.otherLetter]),
   (["titlecaseletter", "lt"], [.titlecaseLetter]),
   (["uppercaseletter", "lu"], [.uppercaseLetter]),
   (["mark", "m", "combiningmark"], Category.marks),
   (["spacingmark", "mc"], [.spacingMark]),
   (["enclosingmark", "me"], [.enclosingMark]),
   (["nonspacingmark", "mn"], [.nonspacingMark]),
   (["number", "n"], Category.numbers),
   (["decimalnumber", "nd", "digit"], [.decimalNumber]),
   (["letternumber", "nl"], [.letterNumber]),
   (["othernumber", "no"], [.otherNumber]),
   (["punctuation", "p", "punct"], Category.punctuation),
   (["connectorpunctuation", "pc"], [.connectorPunctuation]),
   (["dashpunctuation", "pd"], [.dashPunctuation]),
   (["closepunctuation", "pe"], [.closePunctuation]),
   (["finalpunctuation", "pf"], [.finalPunctuation]),
   (["initialpunctuation", "pi"], [.initialPunctuation]),
   (["otherpunctuation", "po"], [.otherPunctuation]),
   (["openpunctuation", "ps"], [.openPunctuation]),
   (["symbol", "s"], Category.symbols),
   (["currencysymbol", "sc"], [.currencySymbol]),
   (["modifiersymbol", "sk"], [.modifierSymbol]),
   (["mathsymbol", "sm"], [.mathSymbol]),
   (["othersymbol", "so"], [.otherSymbol]),
   (["separator", "z"], Category.separators),
   (["lineseparator", "zl"], [.lineSeparator]),
   (["paragraphseparator", "zp"], [.paragraphSeparator]),
   (["spaceseparator", "zs"], [.spaceSeparator])]

/-- The entry of a table under one of its loose names. -/
def findLoose {α : Type} (table : List (List String × α)) (name : String) : Option α :=
  (table.find? (·.1.contains name)).map (·.2)

/-- The characters of a category, or of a group of them, by its loose name. -/
def categoryQuery (name : String) : Option (Nat → Bool) :=
  if name = "any" then some fun _ => true
  else if name = "ascii" then some (· ≤ 0x7f)
  else if name = "assigned" then some (category · != .unassigned)
  else (findLoose categoryGroups name).map inCategories

/-- The loose names of the scripts, each with the script's code. -/
def scriptTableByName : List (List String × String) :=
  scriptNames.filter (·.1 != "Zzzz") |>.map fun (code, name) =>
    ([loose code, loose name]
      ++ (if code = "Copt" then ["qaac"] else if code = "Zinh" then ["qaai"] else []), code)

/-- The characters of a script by its loose name. -/
def scriptQuery (name : String) : Option (Nat → Bool) :=
  (findLoose scriptTableByName name).map fun code c => script c == code

/-- The characters used with a script by its loose name. -/
def scriptExtensionQuery (name : String) : Option (Nat → Bool) :=
  (findLoose scriptTableByName name).map fun code c => (scriptExtensions c).contains code

/-- The characters that a query stands for, if its names exist. A single word is looked up as a
property with two values, then as a category, then as a script. -/
def Query.resolve? : Query → Option (Nat → Bool)
  | .named name =>
    let key := loose name
    (findLoose binaryProperties key).orElse fun _ =>
      (categoryQuery key).orElse fun _ => scriptQuery key
  | .valued property value =>
    let key := loose value
    match loose property with
    | "gc" | "generalcategory" => categoryQuery key
    | "sc" | "script" => scriptQuery key
    | "scx" | "scriptextensions" => scriptExtensionQuery key
    | _ => none

end ClaExemption.Unicode
