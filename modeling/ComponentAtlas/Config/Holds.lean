import ComponentAtlas.Config.Predicate
import ComponentAtlas.Source.Declaration

/-! # When a predicate holds

A predicate is decided on a declaration, given the file's imports and the class that the
declaration stands in. Nothing but decorators depends on the imports. The test that is put on the
class itself sees no enclosing class. -/

namespace ComponentAtlas.Config

open Source

/-- A decorator has one of the names and comes from the source, if one is given. -/
def decoratorFits (names : DecoratorNames) (source : Option String) (d : ResolvedDecorator) :
    Bool :=
  names.contains d.name && (source.isNone || d.source = source)

/-- The text without the at signs in front. -/
def withoutAtSigns (tag : String) : String := String.ofList (tag.toList.dropWhile (· = '@'))

/-- The name has that ending. -/
def hasEnding (ending name : String) : Bool := ending.toList.isSuffixOf name.toList

mutual

/-- The predicate holds of a declaration `d`. -/
def Predicate.holds (imports : ImportTable) (enclosing : Option Declaration) (d : Declaration) :
    Predicate → Bool
  | .hasDecorator names source =>
    d.decorators.any fun x => decoratorFits names source (imports.resolve x)
  | .hasDocTag tag => d.docTags.contains (withoutAtSigns tag)
  | .extendsClass name => d.extended = some name
  | .implementsInterface name => d.implemented.contains name
  | .nameEndsWith ending => d.name.any (hasEnding ending)
  | .nameMatches pattern => d.name.any pattern.matchesName
  | .all items => Predicate.allHold imports enclosing d items
  | .any items => Predicate.anyHolds imports enclosing d items
  | .inClassWith test =>
    match enclosing with
    | some c => Predicate.holds imports none c test
    | none => false

/-- Every one of the predicates holds. -/
def Predicate.allHold (imports : ImportTable) (enclosing : Option Declaration) (d : Declaration) :
    List Predicate → Bool
  | [] => true
  | p :: rest => p.holds imports enclosing d && Predicate.allHold imports enclosing d rest

/-- Some of the predicates holds. -/
def Predicate.anyHolds (imports : ImportTable) (enclosing : Option Declaration)
    (d : Declaration) : List Predicate → Bool
  | [] => false
  | p :: rest => p.holds imports enclosing d || Predicate.anyHolds imports enclosing d rest

end

end ComponentAtlas.Config
