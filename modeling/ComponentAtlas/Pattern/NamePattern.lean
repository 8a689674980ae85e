import ComponentAtlas.Pattern.Meaning

/-! # Name patterns

A name pattern is a text that compiles, kept together with its matcher. Two name patterns are the
same when their texts are. -/

namespace ComponentAtlas.Pattern

/-- A text that compiles as a pattern, and its matcher. -/
structure NamePattern where
  text : String
  matcher : Matcher
  compiles : compile text = .ok matcher

namespace NamePattern

theorem ext_text {p q : NamePattern} (h : p.text = q.text) : p = q := by
  obtain ⟨s, a, ha⟩ := p
  obtain ⟨t, b, hb⟩ := q
  subst h
  have : (Except.ok a : Except Problem Matcher) = .ok b := ha.symm.trans hb
  cases this
  rfl

instance : DecidableEq NamePattern := fun p q =>
  if h : p.text = q.text then isTrue (ext_text h) else isFalse fun e => h (congrArg text e)

instance : Repr NamePattern where
  reprPrec p _ := repr p.text

/-- The name pattern of a text, or why there is none. -/
def ofText (text : String) : Except Problem NamePattern :=
  match h : compile text with
  | .ok a => .ok ⟨text, a, h⟩
  | .error p => .error p

/-- The pattern describes some part of the name. -/
def matchesName (p : NamePattern) (name : String) : Bool := p.matcher.occursIn name.toList

end NamePattern

end ComponentAtlas.Pattern
