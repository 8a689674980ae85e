import ComponentAtlas.Config.Basic
import ComponentAtlas.Json.Basic

/-! # Configurations as documents

The document of a configuration. Optional members that have no value are left out. -/

namespace ComponentAtlas.Config

/-- An object with one member. -/
def single (key : String) (v : Json) : Json := .object [(key, v)]

def DecoratorNames.encode : DecoratorNames → Json
  | one name => .string name
  | anyOf names => .array (names.map .string)

mutual

def Predicate.encode : Predicate → Json
  | .hasDecorator names source =>
    single "hasDecorator"
      (.object (Json.optional "from" (source.map .string) ++ [("name", names.encode)]))
  | .hasDocTag tag => single "hasJSDoc" (single "tag" (.string tag))
  | .extendsClass name => single "extendsClass" (single "name" (.string name))
  | .implementsInterface name => single "implementsInterface" (single "name" (.string name))
  | .nameEndsWith ending => single "nameEndsWith" (single "suffix" (.string ending))
  | .nameMatches pattern => single "nameMatches" (single "pattern" (.string pattern.text))
  | .all items => single "and" (.array (Predicate.encodeAll items))
  | .any items => single "or" (.array (Predicate.encodeAll items))
  | .inClassWith test => single "inClassWith" test.encode

def Predicate.encodeAll : List Predicate → List Json
  | [] => []
  | p :: rest => p.encode :: Predicate.encodeAll rest

end

def Rule.encode : Rule → Json
  | notUsed flag => single "notUsed" (.bool flag)
  | detect find test => .object [("find", .string find.plural), ("where", test.encode)]

def Module.encode (m : Module) : Json :=
  .object [("api", m.api.encode), ("domainOp", m.domainOp.encode), ("event", m.event.encode),
    ("eventHandler", m.eventHandler.encode), ("name", .string m.name), ("path", .string m.path),
    ("ui", m.ui.encode), ("useCase", m.useCase.encode)]

end ComponentAtlas.Config

namespace ComponentAtlas

/-- The document of a configuration. -/
def Config.encode (c : Config) : Json :=
  .object (Json.optional "$schema" (c.schema.map .string) ++
    [("modules", .array (c.modules.map Config.Module.encode))])

end ComponentAtlas
