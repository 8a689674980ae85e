import ComponentAtlas.Charset.Property
import ComponentAtlas.Charset.WritingSystem
import ComponentAtlas.Charset.Word
import ComponentAtlas.Pattern.Expression

/-! # Property escapes

A property escape names a set of characters: a general category, a script or another property.
Names are compared without regard to case, blanks, hyphens and underscores, and without an `is` in
front. -/

namespace ComponentAtlas.Pattern

open Charset

namespace PropertyName

/-- The characters of a name that count, in small letters. -/
def essential : List Char → List Char
  | [] => []
  | c :: rest =>
    if c = ' ' || c = '_' || c = '-' || 128 ≤ c.toNat then essential rest
    else c.toLower :: essential rest

/-- The form in which names are compared. -/
def canonical (name : String) : String :=
  match name.toList with
  | a :: b :: rest =>
    if a.toLower = 'i' && b.toLower = 's' then
      let body := essential rest
      String.ofList (if body = ['c'] then ['i', 's', 'c'] else body)
    else String.ofList (essential (a :: b :: rest))
  | short => String.ofList (essential short)

/-- The set of a general category or group of categories. -/
def category? (name : String) : Option CharSet :=
  match name with
  | "any" => some (.complement .empty)
  | "assigned" => some (.complement (.table Category.unassignedRanges))
  | "ascii" => some (.range '\x00' '\x7f')
  | _ => (Category.named? name).map CharSet.ofCategories

/-- The names of surrogates, a category without characters of its own, and of the script of
characters without script. -/
def isHollow (name : String) : Bool :=
  ["cs", "surrogate", "unknown", "zzzz"].contains name

/-- Properties that are no sets of characters. -/
def otherNames : List String :=
  ["age", "bc", "bidiclass", "blk", "block", "bmg", "bidimirroringglyph", "bpb",
    "bidipairedbracket", "bpt", "bidipairedbrackettype", "canonicalcombiningclass", "ccc",
    "casefolding", "cf", "ce", "compositionexclusion", "compex", "fullcompositionexclusion",
    "decompositionmapping", "dm", "decompositiontype", "dt", "ea", "eastasianwidth", "equideo",
    "equivalentunifiedideograph", "expandsonnfc", "xonfc", "expandsonnfd", "xonfd",
    "expandsonnfkc", "xonfkc", "expandsonnfkd", "xonfkd", "fcnfkc", "fcnfkcclosure", "gc",
    "generalcategory", "gcb", "graphemeclusterbreak", "hangulsyllabletype", "hst", "incb",
    "indicconjunctbreak", "indicpositionalcategory", "inpc", "indicsyllabiccategory", "insc",
    "isc", "isocomment", "jamoshortname", "jsn", "jg", "joininggroup", "jt", "joiningtype", "lb",
    "linebreak", "lc", "lowercasemapping", "na", "name", "na1", "unicode1name", "namealias",
    "nfcqc", "nfcquickcheck", "nfdqc", "nfdquickcheck", "nfkcqc", "nfkcquickcheck", "nfkdqc",
    "nfkdquickcheck", "nfkccasefold", "nfkccf", "nt", "numerictype", "nv", "numericvalue", "sb",
    "sentencebreak", "sc", "script", "scf", "simplecasefolding", "sfc", "scriptextensions", "scx",
    "simplelowercasemapping", "slc", "simpletitlecasemapping", "stc", "simpleuppercasemapping",
    "suc", "tc", "titlecasemapping", "uc", "uppercasemapping", "verticalorientation", "vo", "wb",
    "wordbreak"]

/-- The set that a single name stands for. Three abbreviations name a category rather than a
property. -/
def setOf (name : String) : Except Cause CharSet :=
  let name := canonical name
  let property := if name = "cf" || name = "sc" || name = "lc" then none else Property.named? name
  let hidden := otherNames.contains name && name != "cf" && name != "sc" && name != "lc"
  if isHollow name then .error .propertyValueUnknown
  else if hidden then .error .propertyUnknown
  else
    match property.or ((category? name).or ((WritingSystem.named? name).map (·.characters))) with
    | some set => .ok set
    | none => .error .propertyUnknown

/-- The set that a property with a value stands for. -/
def setOfValue (name value : String) : Except Cause CharSet :=
  let name := canonical name
  let value := canonical value
  let found (set : Option CharSet) : Except Cause CharSet :=
    match set with
    | some set => .ok set
    | none => .error .propertyValueUnknown
  if name = "gc" || name = "generalcategory" then found (category? value)
  else if name = "sc" || name = "script" then
    found ((WritingSystem.named? value).map (·.characters))
  else if name = "scx" || name = "scriptextensions" then
    found ((WritingSystem.named? value).map (·.extended))
  else if (Property.named? name).isSome then
    if ["y", "yes", "t", "true", "n", "no", "f", "false"].contains value then
      .error .propertyUnknown
    else .error .propertyValueUnknown
  else if otherNames.contains name then .error .propertyValueUnknown
  else .error .propertyUnknown

/-- The set that a property escape asks for. -/
def toCharSet : PropertyName → Except Cause CharSet
  | named name => setOf name
  | valued name value => setOfValue name value

end PropertyName

end ComponentAtlas.Pattern
