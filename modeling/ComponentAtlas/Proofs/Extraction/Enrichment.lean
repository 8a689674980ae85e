import ComponentAtlas.Proofs.Extraction.Sight

/-! # Declarations that say more

Predicates are monotone: what holds of a declaration holds of every one that says more, in a class
that says more or where there was none. No test looks at the place of a decorator, a tag or an
interface in its list, at their number, or at what is missing; and the ways to combine tests have no
negation. So the order of such lists and what is repeated in them never matter, and a file whose
declarations say more keeps its drafts. -/

namespace ComponentAtlas

open Source

/-! ## More and less -/

/-- The second declaration says what the first one does and maybe more: it has all of its
decorators, doc tags and interfaces, and its name and the class that it extends, if any. -/
structure Enriched (d d' : Declaration) : Prop where
  decorators : d.decorators ⊆ d'.decorators
  docTags : d.docTags ⊆ d'.docTags
  implemented : d.implemented ⊆ d'.implemented
  name : d.name = none ∨ d.name = d'.name
  extended : d.extended = none ∨ d.extended = d'.extended

/-- Any class says more than none, and otherwise the classes are compared as declarations. -/
inductive EnrichedClass : Option Declaration → Option Declaration → Prop
  | none (enclosing : Option Declaration) : EnrichedClass none enclosing
  | some {c c' : Declaration} (more : Enriched c c') : EnrichedClass (some c) (some c')

/-- The declarations say the same, up to the order and the repetition of decorators, doc tags and
interfaces. -/
structure Rearranged (d d' : Declaration) : Prop where
  decorators : ∀ x, x ∈ d.decorators ↔ x ∈ d'.decorators
  docTags : ∀ tag, tag ∈ d.docTags ↔ tag ∈ d'.docTags
  implemented : ∀ name, name ∈ d.implemented ↔ name ∈ d'.implemented
  name : d.name = d'.name
  extended : d.extended = d'.extended

variable {d d' : Declaration} {enclosing enclosing' : Option Declaration}

theorem Rearranged.symm (same : Rearranged d d') : Rearranged d' d where
  decorators x := (same.decorators x).symm
  docTags tag := (same.docTags tag).symm
  implemented name := (same.implemented name).symm
  name := same.name.symm
  extended := same.extended.symm

theorem Rearranged.enriched (same : Rearranged d d') : Enriched d d' where
  decorators x := (same.decorators x).1
  docTags tag := (same.docTags tag).1
  implemented name := (same.implemented name).1
  name := .inr same.name
  extended := .inr same.extended

theorem EnrichedClass.of_rel (each : Option.Rel Enriched enclosing enclosing') :
    EnrichedClass enclosing enclosing' := by
  cases each with
  | none => exact .none _
  | some more => exact .some more

theorem EnrichedClass.of_rearranged (same : Option.Rel Rearranged enclosing enclosing') :
    EnrichedClass enclosing enclosing' := by
  cases same with
  | none => exact .none _
  | some same => exact .some same.enriched

/-! ## Predicates -/

/-- What is there stays there. -/
theorem any_of_enriched {o o' : Option String} {test : String → Bool} (more : o = none ∨ o = o')
    (h : o.any test = true) : o'.any test = true := by
  rcases more with absent | same
  · rw [absent] at h
    cases h
  · rw [← same]
    exact h

namespace Config

mutual

/-- What holds of a declaration holds of one that says more. -/
theorem Predicate.holds_of_enriched {d d' : Declaration} {enclosing enclosing' : Option Declaration}
    (imports : ImportTable) (more : Enriched d d') (classes : EnrichedClass enclosing enclosing')
    (p : Predicate) (h : p.holds imports enclosing d = true) :
    p.holds imports enclosing' d' = true := by
  match p with
  | .hasDecorator names source =>
    rw [holds, List.any_eq_true] at h ⊢
    obtain ⟨x, written, fits⟩ := h
    exact ⟨x, more.decorators written, fits⟩
  | .hasDocTag tag =>
    rw [holds, List.contains_iff_mem] at h ⊢
    exact more.docTags h
  | .extendsClass name =>
    rw [holds, decide_eq_true_iff] at h ⊢
    rcases more.extended with absent | same
    · rw [absent] at h
      cases h
    · rw [← same]
      exact h
  | .implementsInterface name =>
    rw [holds, List.contains_iff_mem] at h ⊢
    exact more.implemented h
  | .nameEndsWith ending => exact any_of_enriched more.name h
  | .nameMatches pattern => exact any_of_enriched more.name h
  | .all items => exact Predicate.allHold_of_enriched imports more classes items h
  | .any items => exact Predicate.anyHolds_of_enriched imports more classes items h
  | .inClassWith test =>
    cases classes with
    | none => cases h
    | some moreClass =>
      exact Predicate.holds_of_enriched imports moreClass (.none none) test h

theorem Predicate.allHold_of_enriched {d d' : Declaration}
    {enclosing enclosing' : Option Declaration} (imports : ImportTable) (more : Enriched d d')
    (classes : EnrichedClass enclosing enclosing') (items : List Predicate)
    (h : Predicate.allHold imports enclosing d items = true) :
    Predicate.allHold imports enclosing' d' items = true := by
  match items with
  | [] => rfl
  | p :: rest =>
    rw [allHold, Bool.and_eq_true] at h ⊢
    exact ⟨Predicate.holds_of_enriched imports more classes p h.1,
      Predicate.allHold_of_enriched imports more classes rest h.2⟩

theorem Predicate.anyHolds_of_enriched {d d' : Declaration}
    {enclosing enclosing' : Option Declaration} (imports : ImportTable) (more : Enriched d d')
    (classes : EnrichedClass enclosing enclosing') (items : List Predicate)
    (h : Predicate.anyHolds imports enclosing d items = true) :
    Predicate.anyHolds imports enclosing' d' items = true := by
  match items with
  | [] => cases h
  | p :: rest =>
    rw [anyHolds, Bool.or_eq_true] at h ⊢
    rcases h with first | later
    · exact .inl (Predicate.holds_of_enriched imports more classes p first)
    · exact .inr (Predicate.anyHolds_of_enriched imports more classes rest later)

end

/-- Predicates see neither order nor repetition. -/
theorem Predicate.holds_rearranged (imports : ImportTable) (same : Rearranged d d')
    (classes : Option.Rel Rearranged enclosing enclosing') (p : Predicate) :
    p.holds imports enclosing d = p.holds imports enclosing' d' := by
  have back : Option.Rel Rearranged enclosing' enclosing := by
    cases classes with
    | none => exact .none
    | some same => exact .some same.symm
  rw [Bool.eq_iff_iff]
  constructor
  · intro h
    exact p.holds_of_enriched imports same.enriched (.of_rearranged classes) h
  · intro h
    exact p.holds_of_enriched imports same.symm.enriched (.of_rearranged back) h

end Config

/-! ## Rules -/

/-- In the second file every declaration says more, or the same; it is of the same sort and on the
same line, and a declaration that stands in a class still stands in that class. -/
structure SourceFile.Enriched (file file' : SourceFile) : Prop where
  path : file.path = file'.path
  imports : file.imports = file'.imports
  each : List.Forall₂ (fun d d' => ComponentAtlas.Enriched d d' ∧ d.kind = d'.kind ∧
    d.line = d'.line ∧ (d.enclosing = none ∨ d.enclosing = d'.enclosing))
    file.declarations file'.declarations

/-- The second file differs at most in the order and the repetition of decorators, doc tags and
interfaces. -/
structure SourceFile.Rearranged (file file' : SourceFile) : Prop where
  path : file.path = file'.path
  imports : file.imports = file'.imports
  each : List.Forall₂ (fun d d' => ComponentAtlas.Rearranged d d' ∧ d.kind = d'.kind ∧
    d.line = d'.line ∧ d.enclosing = d'.enclosing) file.declarations file'.declarations

variable {file file' : SourceFile} {slot : Slot} {rule : Config.Rule} {m : Config.Module}

theorem SourceFile.Enriched.enclosing? (more : file.Enriched file')
    (class' : d.enclosing = none ∨ d.enclosing = d'.enclosing) :
    EnrichedClass (file.enclosing? d) (file'.enclosing? d') := by
  rw [SourceFile.enclosing?, SourceFile.enclosing?]
  rcases class' with absent | same
  · rw [absent]
    exact .none _
  · rw [← same]
    cases d.enclosing with
    | none => exact .none _
    | some i =>
      exact .of_rel (rel_getElem?_of_forall₂ (more.each.imp fun _ _ each => each.1) i)

theorem SourceFile.Rearranged.enclosing? (same : file.Rearranged file')
    (class' : d.enclosing = d'.enclosing) :
    Option.Rel ComponentAtlas.Rearranged (file.enclosing? d) (file'.enclosing? d') := by
  rw [SourceFile.enclosing?, SourceFile.enclosing?, ← class']
  cases d.enclosing with
  | none => exact .none
  | some i => exact rel_getElem?_of_forall₂ (same.each.imp fun _ _ each => each.1) i

/-- A declaration that says more keeps the draft that it becomes. -/
theorem draft?_of_enriched {find : DeclarationKind} {test : Config.Predicate} {draft : Draft}
    (more : file.Enriched file')
    (each : Enriched d d' ∧ d.kind = d'.kind ∧ d.line = d'.line ∧
      (d.enclosing = none ∨ d.enclosing = d'.enclosing))
    (found : draft? file m slot find test d = some draft) :
    draft? file' m slot find test d' = some draft := by
  obtain ⟨richer, kind, line, class'⟩ := each
  rw [draft?] at found ⊢
  split at found
  · next passes =>
    obtain ⟨name, named, rfl⟩ := Option.map_eq_some_iff.1 found
    rw [Bool.and_eq_true] at passes
    have holds := test.holds_of_enriched file.imports richer (more.enclosing? class') passes.2
    have named' : d'.name = some name := by
      rcases richer.name with absent | same
      · rw [absent] at named
        cases named
      · rw [← same]
        exact named
    have passes' := Bool.and_eq_true_iff.2 ⟨passes.1, holds⟩
    rw [← kind, ← more.imports, if_pos passes', named', Option.map_some, more.path, line]
  · cases found

/-- A file whose declarations say more keeps its drafts, in their order. -/
theorem matchRule_sublist_of_enriched (more : file.Enriched file') :
    (matchRule slot rule m file).Sublist (matchRule slot rule m file') := by
  cases rule with
  | notUsed flag => exact .slnil
  | detect find test =>
    exact filterMap_sublist_of_forall₂ (more.each.imp fun _ _ each _ found =>
      draft?_of_enriched more each found)

theorem matchRule_rearranged (same : file.Rearranged file') :
    matchRule slot rule m file = matchRule slot rule m file' := by
  refine matchRule_eq fun find test _ => same.each.imp fun d d' each => ?_
  obtain ⟨arranged, kind, line, class'⟩ := each
  have passes := test.holds_rearranged file.imports arranged (same.enclosing? class')
  rw [same.imports] at passes
  refine draft?_eq same.path kind arranged.name line ?_
  rw [same.imports, passes]

/-- Predicates are monotone. What holds of a declaration holds of one that says more, in a class
that says more or where there was none; what says the same, up to the order and the repetition of
decorators, doc tags and interfaces, passes the same tests. So a rule makes all the drafts of a
file, and in their order, of a file whose declarations say more, and the same drafts of a file whose
declarations say the same. -/
theorem holds_monotone :
    (∀ imports d d' enclosing enclosing', Enriched d d' → EnrichedClass enclosing enclosing' →
      ∀ p : Config.Predicate,
        p.holds imports enclosing d = true → p.holds imports enclosing' d' = true) ∧
    (∀ imports d d' enclosing enclosing', Rearranged d d' →
      Option.Rel Rearranged enclosing enclosing' → ∀ p : Config.Predicate,
        p.holds imports enclosing d = p.holds imports enclosing' d') ∧
    (∀ file file' : SourceFile, file.Enriched file' → ∀ slot rule m,
      (matchRule slot rule m file).Sublist (matchRule slot rule m file')) ∧
    ∀ file file' : SourceFile, file.Rearranged file' → ∀ slot rule m,
      matchRule slot rule m file = matchRule slot rule m file' := by
  refine ⟨?_, ?_, ?_, ?_⟩
  · intro imports d d' enclosing enclosing' more classes p h
    exact p.holds_of_enriched imports more classes h
  · intro imports d d' enclosing enclosing' same classes p
    exact p.holds_rearranged imports same classes
  · intro file file' more slot rule m
    exact matchRule_sublist_of_enriched more
  · intro file file' same slot rule m
    exact matchRule_rearranged same

/-- A cart and a way to check it out. -/
def cartFile : SourceFile where
  path := "cart.ts"
  declarations := [
    { kind := .classes, decorators := [{ name := "Aggregate" }, { name := "Entity" }] },
    { kind := .methods, name := some "checkout", line := 3, docTags := ["command"] }]
  imports := .empty

/-- The cart has a name now, and the way to check it out stands in it. -/
def namedCartFile : SourceFile where
  path := "cart.ts"
  declarations := [
    { kind := .classes, name := some "Cart", docTags := ["root"],
      decorators := [{ name := "Entity" }, { name := "Logged" }, { name := "Aggregate" }] },
    { kind := .methods, name := some "checkout", line := 3, enclosing := some 0,
      docTags := ["throws", "command"] }]
  imports := .empty

/-- The cart with its decorators the other way round, and one of them twice. -/
def shuffledCartFile : SourceFile where
  path := "cart.ts"
  declarations := [
    { kind := .classes,
      decorators := [{ name := "Entity" }, { name := "Aggregate" }, { name := "Entity" }] },
    { kind := .methods, name := some "checkout", line := 3, docTags := ["command", "command"] }]
  imports := .empty

/-- A command, of an aggregate or by itself. -/
def commandTest : Config.Predicate :=
  .any [.inClassWith (.hasDecorator (.one "Aggregate") none), .hasDocTag "@command"]

/-- The way to check out passes the test by its tag, whether or not it stands in the cart, and the
order of the cart's decorators does not matter. -/
theorem holds_monotone_cart :
    cartFile.Enriched namedCartFile ∧ cartFile.Rearranged shuffledCartFile ∧
    (∀ d d', cartFile.declarations[1]? = some d → namedCartFile.declarations[1]? = some d' →
      Enriched d d' ∧ EnrichedClass (cartFile.enclosing? d) (namedCartFile.enclosing? d') ∧
      commandTest.holds .empty (cartFile.enclosing? d) d = true ∧
      commandTest.holds .empty (namedCartFile.enclosing? d') d' = true) ∧
    (∀ d d', cartFile.declarations[0]? = some d → shuffledCartFile.declarations[0]? = some d' →
      Rearranged d d' ∧ Option.Rel Rearranged (some d) (some d') ∧
      commandTest.holds .empty (some d) d = commandTest.holds .empty (some d') d') ∧
    ∀ slot rule m,
      (matchRule slot rule m cartFile).Sublist (matchRule slot rule m namedCartFile) ∧
      matchRule slot rule m cartFile = matchRule slot rule m shuffledCartFile := by
  obtain ⟨holds, alike, drafts, same⟩ := holds_monotone
  have named : cartFile.Enriched namedCartFile :=
    ⟨rfl, rfl, .cons ⟨⟨by decide, by decide, by decide, .inl rfl, .inl rfl⟩, rfl, rfl, .inl rfl⟩
      (.cons ⟨⟨by decide, by decide, by decide, .inr rfl, .inl rfl⟩, rfl, rfl, .inl rfl⟩ .nil)⟩
  have shuffled : cartFile.Rearranged shuffledCartFile :=
    ⟨rfl, rfl, .cons ⟨⟨by simp, by simp, by simp, rfl, rfl⟩, rfl, rfl, rfl⟩
      (.cons ⟨⟨by simp, by simp, by simp, rfl, rfl⟩, rfl, rfl, rfl⟩ .nil)⟩
  refine ⟨named, shuffled, ?_, ?_, ?_⟩
  · rintro d d' ⟨⟩ ⟨⟩
    have more := (List.forall₂_cons.1 (List.forall₂_cons.1 named.each).2).1.1
    have classes : EnrichedClass none (namedCartFile.declarations[0]?) := .none _
    exact ⟨more, classes, rfl, holds .empty _ _ _ _ more classes commandTest rfl⟩
  · rintro d d' ⟨⟩ ⟨⟩
    have arranged := (List.forall₂_cons.1 shuffled.each).1.1
    have classes := Option.Rel.some arranged
    exact ⟨arranged, classes, alike .empty _ _ _ _ arranged classes commandTest⟩
  · intro slot rule m
    exact ⟨drafts _ _ named slot rule m, same _ _ shuffled slot rule m⟩

end ComponentAtlas
