import ComponentAtlas.Pattern.NamePattern

/-! # Predicates of detection rules

A predicate is a test on a declaration. Tests on its decorators, its doc tags, its heritage and its
name are combined with `all` and `any`; `inClassWith` puts a test on the class that the declaration
stands in. -/

namespace ComponentAtlas.Config

open Pattern

/-- The decorator names that a rule asks for: one, or any of several. -/
inductive DecoratorNames where
  | one (name : String)
  | anyOf (names : List String)
deriving DecidableEq, Repr

/-- The names ask for this one. -/
def DecoratorNames.contains : DecoratorNames → String → Bool
  | one expected, name => expected = name
  | anyOf expected, name => expected.contains name

/-- A test on a declaration. -/
inductive Predicate where
  /-- It has a decorator with one of the names, imported from the source if one is given. -/
  | hasDecorator (names : DecoratorNames) (source : Option String)
  /-- Its doc comment has the block tag. -/
  | hasDocTag (tag : String)
  | extendsClass (name : String)
  | implementsInterface (name : String)
  | nameEndsWith (ending : String)
  | nameMatches (pattern : NamePattern)
  | all (items : List Predicate)
  | any (items : List Predicate)
  /-- It stands in a class for which the test holds. -/
  | inClassWith (test : Predicate)
deriving Repr

mutual

/-- Some part of the predicate tests the enclosing class. -/
def Predicate.usesEnclosingClass : Predicate → Bool
  | .inClassWith _ => true
  | .all items | .any items => Predicate.someUseEnclosingClass items
  | _ => false

/-- Some part of one of the predicates tests the enclosing class. -/
def Predicate.someUseEnclosingClass : List Predicate → Bool
  | [] => false
  | p :: rest => p.usesEnclosingClass || Predicate.someUseEnclosingClass rest

end

end ComponentAtlas.Config
