import ComponentAtlas.Proofs.Script.Rows
import ComponentAtlas.Script.Lexeme

/-! # What readers keep

A reader that starts at a cursor within the last row ends at one, and what it has read lies within
the last row too. Every way of putting readers together keeps this, so a rule of the grammar has it
from its parts. -/

namespace ComponentAtlas.Script

open ComponentAtlas.Tree

variable {last : Nat} {α β : Type} {p : α → Prop} {q : β → Prop}

/-- Nonterminals are read within the last row. -/
def Env.Within (last : Nat) (env : Env) : Prop :=
  ∀ n cursor, cursor.Within last → ∀ f after, env.derive n cursor = some (f, after) →
    f.Within last ∧ after.Within last

/-- Within the last row the reader gives results of which the property holds, and stays there. -/
structure Keeps (last : Nat) (p : α → Prop) (r : Reader α) : Prop where
  run : ∀ env : Env, env.Within last → ∀ cursor : Cursor, cursor.Within last →
    ∀ a after, r env cursor = some (a, after) → p a ∧ after.Within last

/-- The reader reads fragments within the last row. -/
abbrev Reads (last : Nat) (r : Reader Fragment) : Prop := Keeps last (Fragment.Within last) r

/-- Each of the readers reads fragments within the last row. -/
def ReadsAll (last : Nat) : List (Reader Fragment) → Prop
  | [] => True
  | [r] => Reads last r
  | r :: rest => Reads last r ∧ ReadsAll last rest

theorem ReadsAll.each {parts : List (Reader Fragment)} (h : ReadsAll last parts) :
    ∀ r ∈ parts, Reads last r := by
  induction parts with
  | nil => exact List.forall_mem_nil _
  | cons first rest ih =>
    cases rest with
    | nil => exact List.forall_mem_singleton.2 h
    | cons second rest => exact List.forall_mem_cons.2 ⟨h.1, ih h.2⟩

theorem ReadsAll.map {words : List α} {f : α → Reader Fragment} (h : ∀ w, Reads last (f w)) :
    ReadsAll last (words.map f) := by
  induction words with
  | nil => exact trivial
  | cons first rest ih =>
    cases rest with
    | nil => exact h first
    | cons second rest => exact ⟨h first, ih⟩

namespace Keeps

/-! ## Steps -/

theorem pure {a : α} (h : p a) : Keeps last p (Pure.pure a) := by
  refine ⟨fun env _ cursor within b after run => ?_⟩
  cases run
  exact ⟨h, within⟩

theorem failure : Keeps last p (Alternative.failure : Reader α) := by
  refine ⟨fun env _ cursor _ a after run => ?_⟩
  cases run

theorem bind {r : Reader α} {f : α → Reader β} (first : Keeps last p r)
    (next : ∀ a, p a → Keeps last q (f a)) : Keeps last q (r >>= f) := by
  refine ⟨fun env derives cursor within b after run => ?_⟩
  change ((r env cursor).bind fun (a, middle) => f a env middle) = some (b, after) at run
  obtain ⟨⟨a, middle⟩, here, rest⟩ := Option.bind_eq_some_iff.1 run
  obtain ⟨holds, between⟩ := first.run env derives cursor within a middle here
  exact (next a holds).run env derives middle between b after rest

theorem map {r : Reader α} {f : α → β} (h : Keeps last p r) (gives : ∀ a, p a → q (f a)) :
    Keeps last q (f <$> r) :=
  h.bind fun a holds => .pure (gives a holds)

theorem orElse {r s : Reader α} (first : Keeps last p r) (second : Keeps last p s) :
    Keeps last p (r <|> s) := by
  refine ⟨fun env derives cursor within a after run => ?_⟩
  change ((r env cursor).orElse fun _ => s env cursor) = some (a, after) at run
  cases here : r env cursor with
  | none =>
    rw [here] at run
    exact second.run env derives cursor within a after run
  | some found =>
    rw [here] at run
    cases run
    exact first.run env derives cursor within a after here

theorem ite {c : Prop} [Decidable c] {r s : Reader α} (yes : Keeps last p r)
    (no : Keeps last p s) : Keeps last p (if c then r else s) := by
  split
  · exact yes
  · exact no

theorem read : Keeps last (fun _ => True) (MonadReader.read : Reader Env) := by
  refine ⟨fun env _ cursor within a after run => ?_⟩
  cases run
  exact ⟨trivial, within⟩

theorem get : Keeps last (fun _ => True) (MonadState.get : Reader Cursor) := by
  refine ⟨fun env _ cursor within a after run => ?_⟩
  cases run
  exact ⟨trivial, within⟩

theorem ahead {test : List Char → Bool} : Keeps last (fun _ => True) (Reader.ahead test) := by
  refine .bind (p := fun _ => True) ?_ fun _ _ => .ite (.pure trivial) .failure
  refine ⟨fun env _ cursor within a after run => ?_⟩
  cases run
  exact ⟨trivial, within⟩

theorem nonterminal {n : Nonterminal} : Reads last (nonterminal n) :=
  ⟨fun _ derives cursor within => derives n cursor within⟩

/-! ## Sequences and choices -/

variable {r : Reader Fragment} {parts : List (Reader Fragment)}

theorem nothing : Reads last Reader.nothing := .pure .empty

theorem sequence (h : ReadsAll last parts) : Reads last (Reader.sequence parts) := by
  suffices ∀ done : Fragment, done.Within last → Reads last
      (parts.foldlM (fun done part => return done ++ (← part)) done) from this .empty .empty
  have each := h.each
  clear h
  induction parts with
  | nil => exact fun done within => .pure within
  | cons first rest ih =>
    intro done within
    rw [List.forall_mem_cons] at each
    rw [List.foldlM_cons]
    refine .bind (each.1.bind fun f holds => .pure (within.append holds)) fun longer holds => ?_
    exact ih each.2 longer holds

theorem choice (h : ReadsAll last parts) : Reads last (Reader.choice parts) := by
  have each := h.each
  clear h
  induction parts with
  | nil => exact .failure
  | cons first rest ih =>
    rw [List.forall_mem_cons] at each
    exact each.1.orElse (ih each.2)

theorem optional (h : Reads last r) : Reads last (Reader.optional r) := h.orElse .nothing

theorem node {kind : Kind} (h : ReadsAll last parts) : Reads last (Reader.node kind parts) :=
  (sequence h).bind fun _ holds => .pure (holds.close kind)

theorem other {label : String} (h : ReadsAll last parts) : Reads last (Reader.other label parts) :=
  .node h

theorem field {f : Field} (h : Reads last r) : Reads last (Reader.field f r) :=
  h.bind fun _ holds => .pure (holds.withField f)

theorem repeatUpTo (h : Reads last r) (count : Nat) : Reads last (Reader.repeatUpTo count r) := by
  induction count with
  | zero => exact .nothing
  | succ count ih =>
    refine ⟨fun env derives cursor within f after run => ?_⟩
    simp only [Reader.repeatUpTo] at run
    split at run
    · cases run
      exact ⟨.empty, within⟩
    · next first middle here =>
      obtain ⟨holds, between⟩ := h.run env derives cursor within first middle here
      split at run
      · cases run
        exact ⟨.empty, within⟩
      · split at run
        · cases run
          exact ⟨holds, between⟩
        · next more end_ later =>
          cases run
          obtain ⟨others, behind⟩ := ih.run env derives middle between more after later
          exact ⟨holds.append others, behind⟩

theorem many (h : Reads last r) : Reads last (Reader.many r) :=
  ⟨fun env derives cursor within => (h.repeatUpTo _).run env derives cursor within⟩

theorem typed (h : Reads last r) : Reads last (Reader.typed r) :=
  .bind .read fun _ _ => .ite h .failure

/-- A reader whose result counts only if the next token passes a test. -/
theorem guarded {test : List Char → Bool} (h : Reads last r) :
    Reads last (do let f ← r; Reader.ahead test; return f) :=
  h.bind fun _ holds => bind ahead fun _ _ => .pure holds

/-- A reader that may fail without an end to the reading. -/
theorem attempt (h : Reads last r) :
    Keeps last (fun found => ∀ f, found = some f → f.Within last)
      (some <$> r <|> Pure.pure none) := by
  refine .orElse (h.map fun f holds g same => ?_) (.pure fun f same => nomatch same)
  cases same
  exact holds

/-! ## Tokens -/

theorem lexeme {kind : Kind} {length : List Char → Option Nat} :
    Reads last (Reader.lexeme kind length) := by
  refine ⟨fun env _ cursor within f after run => ?_⟩
  obtain ⟨before, token⟩ := within.toToken
  rw [Reader.lexeme] at run
  split at run
  next comments start same =>
    rw [same] at before token
    split at run
    · cases run
    · next count _ =>
      cases run
      exact ⟨.token before token.row_le _ _, token.advance count⟩

theorem rawText {kind : Kind} {length : List Char → Option Nat} :
    Reads last (Reader.rawText kind length) := by
  refine ⟨fun env _ cursor within f after run => ?_⟩
  rw [Reader.rawText] at run
  split at run
  · cases run
  · next count _ =>
    cases run
    exact ⟨.token (List.forall_mem_nil _) within.row_le _ _,
      within.advance count⟩

theorem separated {separator item : Reader Fragment} (between : Reads last separator)
    (h : Reads last item) : Reads last (Reader.separated separator item) :=
  .sequence ⟨h, .many (.sequence ⟨between, h⟩), .optional between⟩

theorem commaList {item : Reader Fragment} (h : Reads last item) :
    Reads last (Reader.commaList item) :=
  .optional (.separated .lexeme h)

theorem openBrace : Reads last Reader.openBrace := show Reads last (.mark "\x7b") from .lexeme

theorem closeBrace : Reads last Reader.closeBrace := show Reads last (.mark "\x7d") from .lexeme

theorem template {label : String} {inner : Reader Fragment} (h : Reads last inner) :
    Reads last (Reader.template label inner) :=
  .other ⟨.lexeme, .many (.orElse .rawText (.other ⟨.rawText, h, .closeBrace⟩)), .rawText⟩

/-! ## Implied semicolons -/

theorem impliedAfter {l : Language} {site : SemicolonSite} {count : Nat} {cursor after : Cursor}
    {f : Fragment} (within : cursor.Within last)
    (run : Reader.impliedAfter l site count cursor = some (f, after)) :
    f.Within last ∧ after.Within last := by
  induction count generalizing cursor f after with
  | zero => cases run
  | succ count ih =>
    rw [Reader.impliedAfter] at run
    split at run
    · cases run
      exact ⟨.mark within.row_le, within⟩
    · split at run
      · cases run
      · next comment behind found =>
        obtain ⟨here, between⟩ := within.comment found
        obtain ⟨⟨rest, end_⟩, later, same⟩ := Option.map_eq_some_iff.1 run
        cases same
        obtain ⟨others, stays⟩ := ih between later
        exact ⟨⟨List.forall_mem_cons.2 ⟨here, others.lead⟩, others.nodes, others.span⟩, stays⟩

theorem impliedSemicolon {site : SemicolonSite} : Reads last (Reader.impliedSemicolon site) :=
  ⟨fun _ _ _ within _ _ run => impliedAfter within run⟩

theorem semicolon {site : SemicolonSite} : Reads last (Reader.semicolon site) :=
  .orElse .impliedSemicolon .lexeme

theorem semicolonIsImplied {site : SemicolonSite} :
    Keeps last (fun _ => True) (Reader.semicolonIsImplied site) := by
  refine ⟨fun env _ cursor within a after run => ?_⟩
  cases run
  exact ⟨trivial, within⟩

/-- A reader that is tried only where no semicolon is implied. -/
theorem unlessImplied {site : SemicolonSite} {r : Reader α} (h : Keeps last p r) :
    Keeps last p (do
      if (← Reader.semicolonIsImplied site) then Alternative.failure
      r) :=
  .bind .semicolonIsImplied fun _ _ =>
    .ite (.bind (p := fun _ => True) .failure fun _ _ => h) h

theorem goesOn (mode : Mode) : Keeps last (fun _ => True) (Reader.goesOn mode) :=
  .ite (.bind .semicolonIsImplied fun _ _ => .ite .failure (.pure trivial)) (.pure trivial)

end Keeps

end ComponentAtlas.Script
