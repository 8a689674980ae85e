import ComponentAtlas.Charset.Word
import ComponentAtlas.Glob
import ComponentAtlas.Json.Basic
import ComponentAtlas.Pattern.NamePattern

/-! # The grammar of configurations

Which documents are configurations, said without the check that looks for faults in them:

* a predicate is an object with one key, built up from six kinds of test by `and`, `or` and
  `inClassWith` to any depth;
* a rule is the mark of a slot that is not used, or a sort of declaration with a predicate;
* a module has eight keys: a name, a glob and a rule for each of six slots;
* a configuration is an object with a list of modules, no two of one name. -/

namespace ComponentAtlas.Config

open Json

/-- The members have exactly these keys. -/
def HasKeys (keys : List String) (members : List (String × Json)) : Prop :=
  ∀ key, key ∈ members.map (·.1) ↔ key ∈ keys

/-- A text with at least one character. -/
def IsText (v : Json) : Prop := ∃ s, v = .string s ∧ s ≠ ""

/-- One text, or a list of some. -/
inductive NamesDecorators : Json → Prop
  | one {v : Json} (text : IsText v) : NamesDecorators v
  | anyOf {items : List Json} (nonempty : items ≠ []) (texts : ∀ v ∈ items, IsText v) :
      NamesDecorators (.array items)

/-- An object with one key, under which a text stands. -/
def IsTextRecord (key : String) (v : Json) : Prop :=
  ∃ members text, v = .object members ∧ HasKeys [key] members ∧
    memberOf? members key = some text ∧ IsText text

/-- The documents of predicates. -/
inductive IsPredicate : Json → Prop
  | hasDecorator {members : List (String × Json)} {names : Json}
      (keys : ∀ m ∈ members, m.1 = "name" ∨ m.1 = "from")
      (name : memberOf? members "name" = some names) (named : NamesDecorators names)
      (source : ∀ v, memberOf? members "from" = some v → IsText v) :
      IsPredicate (.object [("hasDecorator", .object members)])
  | hasDocTag {body : Json} (h : IsTextRecord "tag" body) :
      IsPredicate (.object [("hasJSDoc", body)])
  | extendsClass {body : Json} (h : IsTextRecord "name" body) :
      IsPredicate (.object [("extendsClass", body)])
  | implementsInterface {body : Json} (h : IsTextRecord "name" body) :
      IsPredicate (.object [("implementsInterface", body)])
  | nameEndsWith {body : Json} (h : IsTextRecord "suffix" body) :
      IsPredicate (.object [("nameEndsWith", body)])
  | nameMatches {members : List (String × Json)} {text : String} {matcher : Pattern.Matcher}
      (keys : HasKeys ["pattern"] members)
      (pattern : memberOf? members "pattern" = some (.string text)) (nonempty : text ≠ "")
      (compiles : Pattern.compile text = .ok matcher) :
      IsPredicate (.object [("nameMatches", .object members)])
  | all {items : List Json} (nonempty : items ≠ []) (each : ∀ v ∈ items, IsPredicate v) :
      IsPredicate (.object [("and", .array items)])
  | any {items : List Json} (nonempty : items ≠ []) (each : ∀ v ∈ items, IsPredicate v) :
      IsPredicate (.object [("or", .array items)])
  | inClassWith {body : Json} (h : IsPredicate body) :
      IsPredicate (.object [("inClassWith", body)])

/-- The documents of rules. -/
inductive IsRule : Json → Prop
  | notUsed : IsRule (.object [("notUsed", .bool true)])
  | detect {members : List (String × Json)} {find : String} {test : Json}
      (keys : HasKeys ["find", "where"] members)
      (sort : memberOf? members "find" = some (.string find))
      (allowed : find ∈ ["classes", "methods", "functions"])
      (condition : memberOf? members "where" = some test) (h : IsPredicate test) :
      IsRule (.object members)

/-- The keys of a module under which rules stand. -/
def slotKeys : List String := ["api", "useCase", "domainOp", "event", "eventHandler", "ui"]

/-- The text holds a character that is no blank. -/
def NotBlank (s : String) : Prop := ∃ c ∈ s.toList, Charset.isBlank c = false

/-- The documents of modules. -/
inductive IsModule : Json → Prop
  | mk {members : List (String × Json)} {name path : String} {glob : Glob}
      (keys : HasKeys (["name", "path"] ++ slotKeys) members)
      (named : memberOf? members "name" = some (.string name)) (nameNotBlank : NotBlank name)
      (noColon : ':' ∉ name.toList)
      (placed : memberOf? members "path" = some (.string path)) (pathNotBlank : NotBlank path)
      (compiles : Glob.read path = .ok glob)
      (rules : ∀ key ∈ slotKeys, ∃ rule, memberOf? members key = some rule ∧ IsRule rule) :
      IsModule (.object members)

/-- The documents of configurations. -/
inductive IsConfig : Json → Prop
  | mk {members : List (String × Json)} {modules : List Json}
      (listed : memberOf? members "modules" = some (.array modules))
      (each : ∀ m ∈ modules, IsModule m)
      (distinct : modules.Pairwise fun a b => a.get? "name" ≠ b.get? "name") :
      IsConfig (.object members)

end ComponentAtlas.Config
