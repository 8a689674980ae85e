import ComponentAtlas.Proofs.Config.Acceptance

/-! # Faults of typed configurations

A typed configuration is checked by way of its document. What the check finds there is said here
about the configuration itself: every value of a document comes from a typed one, so nothing is
missing, nothing has a wrong form and every pattern compiles. What remains are empty texts and
lists, blank names and paths, colons in names, repeated names, texts that are no globs and marks
that say false. The faults are listed in the order of the check, and there are none if and only if
the configuration is well formed. -/

namespace ComponentAtlas.Config

open Json

/-! ## Faults -/

/-- The fault of an empty text. -/
def textFaults (place : Pointer) (text : String) : List Violation :=
  if text = "" then [⟨place, .emptyText⟩] else []

/-- There is a name, and no name is empty. -/
def DecoratorNames.isProper : DecoratorNames → Bool
  | one name => name != ""
  | anyOf names => !names.isEmpty && names.all (· != "")

mutual

/-- The faults of a predicate that stands at a place. -/
def Predicate.faults (place : Pointer) : Predicate → List Violation
  | .hasDecorator names source =>
    let inside := place.member "hasDecorator"
    (if names.isProper then [] else [⟨inside.member "name", .badDecoratorNames⟩]) ++
      source.toList.flatMap (textFaults (inside.member "from"))
  | .hasDocTag tag => textFaults ((place.member "hasJSDoc").member "tag") tag
  | .extendsClass name => textFaults ((place.member "extendsClass").member "name") name
  | .implementsInterface name =>
    textFaults ((place.member "implementsInterface").member "name") name
  | .nameEndsWith ending => textFaults ((place.member "nameEndsWith").member "suffix") ending
  | .nameMatches pattern => textFaults ((place.member "nameMatches").member "pattern") pattern.text
  | .all items =>
    if items.isEmpty then [⟨place.member "and", .noPredicates "and"⟩]
    else Predicate.faultsOfAll (place.member "and") 0 items
  | .any items =>
    if items.isEmpty then [⟨place.member "or", .noPredicates "or"⟩]
    else Predicate.faultsOfAll (place.member "or") 0 items
  | .inClassWith test => test.faults (place.member "inClassWith")

/-- The faults of predicates in a list, the first of which has the index given. -/
def Predicate.faultsOfAll (place : Pointer) (index : Nat) : List Predicate → List Violation
  | [] => []
  | p :: rest => p.faults (place.item index) ++ Predicate.faultsOfAll place (index + 1) rest

end

def Rule.faults (place : Pointer) : Rule → List Violation
  | notUsed flag => if flag then [] else [⟨place.member "notUsed", .notTrue⟩]
  | detect _ test => test.faults (place.member "where")

/-- The text has no character but blanks. -/
def isBlankText (text : String) : Bool := text.toList.all Charset.isBlank

/-- The faults of a module's name behind other names. -/
def nameFaults (before : List String) (place : Pointer) (name : String) : List Violation :=
  if isBlankText name then [⟨place, .blank⟩]
  else
    (if name.toList.contains ':' then [⟨place, .colonInName name⟩] else []) ++
    (if before.contains name then [⟨place, .repeatedName name⟩] else [])

/-- The fault of a text that is no glob. -/
def globFaults (place : Pointer) (text : String) : List Violation :=
  match Glob.read text with
  | .ok _ => []
  | .error fault => [⟨place, .badGlob text fault⟩]

def pathFaults (place : Pointer) (path : String) : List Violation :=
  if isBlankText path then [⟨place, .blank⟩] else globFaults place path

def Module.faults (before : List String) (place : Pointer) (m : Module) : List Violation :=
  nameFaults before (place.member "name") m.name ++ pathFaults (place.member "path") m.path ++
    Slot.all.flatMap fun slot => (m.rule slot).faults (place.member slot.key)

/-- The faults of modules in a list, the first of which has the index given and stands behind
modules with certain names. -/
def modulesFaults (before : List String) (index : Nat) : List Module → List Violation
  | [] => []
  | m :: rest =>
    m.faults before [.key "modules", .index index] ++
      modulesFaults (before ++ if isBlankText m.name then [] else [m.name]) (index + 1) rest

/-- The faults of a configuration, module after module. -/
def faults (c : Config) : List Violation := modulesFaults [] 0 c.modules

/-! ## The check finds the faults -/

theorem additionalMembers_eq_nil {known : List String} {place : Pointer}
    {members : List (String × Json)} (h : ∀ key ∈ members.map (·.1), key ∈ known) :
    additionalMembers known place members = [] :=
  additionalMembers_eq_nil_iff.2 fun _ member => h _ (List.mem_map_of_mem member)

theorem checkTextRecord_single (key : String) (place : Pointer) (text : String) :
    checkTextRecord key place (single key (.string text)) = textFaults (place.member key) text := by
  have found : memberOf? [(key, Json.string text)] key = some (.string text) := by
    rw [memberOf?, Keyed.lookup_cons, if_pos rfl]
  have known : additionalMembers [key] place [(key, .string text)] = [] :=
    additionalMembers_eq_nil fun _ member => member
  rw [single, checkTextRecord, checkText, found, known, List.append_nil, textFaults]

theorem isText_string (text : String) : isText (.string text) = (text != "") := rfl

theorem isDecoratorNames_encode (names : DecoratorNames) :
    isDecoratorNames names.encode = names.isProper := by
  cases names with
  | one name => rfl
  | anyOf names =>
    rw [DecoratorNames.encode, isDecoratorNames, DecoratorNames.isProper, List.isEmpty_map,
      List.all_map]
    rfl

theorem checkDecoratorTest_encode (place : Pointer) (names : DecoratorNames)
    (source : Option String) :
    checkDecoratorTest place
        (.object (Json.optional "from" (source.map .string) ++ [("name", names.encode)])) =
      (if names.isProper then [] else [⟨place.member "name", .badDecoratorNames⟩]) ++
        source.toList.flatMap (textFaults (place.member "from")) := by
  cases source with
  | none =>
    show ((if isDecoratorNames names.encode then [] else _) ++ []) ++ additionalMembers _ _ _ = _
    rw [isDecoratorNames_encode, additionalMembers_eq_nil (by simp [Json.optional]),
      List.append_nil]
    rfl
  | some s =>
    show ((if isDecoratorNames names.encode then [] else _) ++
      if isText (.string s) then [] else _) ++ additionalMembers _ _ _ = _
    rw [isDecoratorNames_encode, isText_string,
      additionalMembers_eq_nil (by simp [Json.optional]), List.append_nil]
    by_cases empty : s = "" <;> simp [textFaults, empty]

theorem checkPattern_encode (place : Pointer) (pattern : Pattern.NamePattern) :
    checkPattern place (single "pattern" (.string pattern.text)) = [] := by
  have found : (single "pattern" (.string pattern.text)).get? "pattern" =
      some (.string pattern.text) := rfl
  simp only [checkPattern, found, pattern.compiles]

/-- A predicate of a kind that holds no others is checked by itself. -/
theorem checkPredicate_plain {kind : String} (plain : kind ∉ ["inClassWith", "and", "or"])
    (place : Pointer) (body : Json) :
    checkPredicate place (single kind body) = checkPlain place kind body := by
  simp only [List.mem_cons, List.not_mem_nil, or_false, not_or] at plain
  unfold single checkPredicate
  rw [if_neg plain.1, if_neg (by simp [plain.2])]

mutual

/-- The check of a predicate's document finds the faults of the predicate. -/
theorem checkPredicate_encode (place : Pointer) (p : Predicate) :
    checkPredicate place p.encode = p.faults place := by
  match p with
  | .hasDecorator names source =>
    rw [Predicate.encode, checkPredicate_plain (by decide), Predicate.faults]
    exact checkDecoratorTest_encode _ names source
  | .hasDocTag tag =>
    rw [Predicate.encode, checkPredicate_plain (by decide), Predicate.faults]
    exact checkTextRecord_single "tag" _ tag
  | .extendsClass name =>
    rw [Predicate.encode, checkPredicate_plain (by decide), Predicate.faults]
    exact checkTextRecord_single "name" _ name
  | .implementsInterface name =>
    rw [Predicate.encode, checkPredicate_plain (by decide), Predicate.faults]
    exact checkTextRecord_single "name" _ name
  | .nameEndsWith ending =>
    rw [Predicate.encode, checkPredicate_plain (by decide), Predicate.faults]
    exact checkTextRecord_single "suffix" _ ending
  | .nameMatches pattern =>
    rw [Predicate.encode, checkPredicate_plain (by decide), Predicate.faults]
    show checkTextRecord "pattern" _ _ ++ checkPattern _ _ = _
    rw [checkTextRecord_single, checkPattern_encode, List.append_nil]
  | .all items =>
    have each := checkPredicates_encode (place.member "and") 0 items
    rw [Predicate.encode, Predicate.faults, ← each, single]
    unfold checkPredicate
    cases items <;> rfl
  | .any items =>
    have each := checkPredicates_encode (place.member "or") 0 items
    rw [Predicate.encode, Predicate.faults, ← each, single]
    unfold checkPredicate
    cases items <;> rfl
  | .inClassWith test =>
    rw [Predicate.encode, Predicate.faults, single]
    unfold checkPredicate
    exact checkPredicate_encode _ test

theorem checkPredicates_encode (place : Pointer) (index : Nat) (items : List Predicate) :
    checkPredicates place index (Predicate.encodeAll items) =
      Predicate.faultsOfAll place index items := by
  match items with
  | [] => rfl
  | p :: rest =>
    rw [Predicate.encodeAll, checkPredicates, Predicate.faultsOfAll, checkPredicate_encode,
      checkPredicates_encode]

end

theorem ofPlural?_plural (find : Source.DeclarationKind) :
    Source.DeclarationKind.ofPlural? find.plural = some find := by
  cases find <;> decide

theorem checkRule_encode (place : Pointer) (r : Rule) :
    checkRule place r.encode = r.faults place := by
  cases r with
  | notUsed flag => cases flag <;> rfl
  | detect find test =>
    show ((if (Source.DeclarationKind.ofPlural? find.plural).isSome then [] else _) ++
      checkPredicate (place.member "where") test.encode) ++ additionalMembers _ _ _ = _
    rw [ofPlural?_plural, checkPredicate_encode, additionalMembers_eq_nil (by simp),
      List.append_nil]
    rfl

section Members

variable {members : List (String × Json)}

theorem requireText_of_string {key text : String}
    (found : memberOf? members key = some (.string text)) (place : Pointer) :
    requireText key place members =
      if isBlankText text then .error ⟨place.member key, .blank⟩ else .ok text := by
  rw [requireText, found]
  rfl

theorem checkName_of_string {name : String}
    (found : memberOf? members "name" = some (.string name)) (before : List String)
    (place : Pointer) :
    checkName before place members = nameFaults before (place.member "name") name := by
  rw [checkName, requireText_of_string found, nameFaults]
  by_cases blank : isBlankText name = true
  · rw [if_pos blank, if_pos blank]
  · rw [if_neg blank, if_neg blank]

theorem checkGlob_of_string {path : String}
    (found : memberOf? members "path" = some (.string path)) (place : Pointer) :
    checkGlob place members = pathFaults (place.member "path") path := by
  rw [checkGlob, requireText_of_string found, pathFaults]
  by_cases blank : isBlankText path = true
  · rw [if_pos blank, if_pos blank]
  · rw [if_neg blank, if_neg blank]
    rfl

theorem checkSlot_of_rule {slot : Slot} {r : Rule}
    (found : memberOf? members slot.key = some r.encode) (place : Pointer) :
    checkSlot place members slot = r.faults (place.member slot.key) := by
  rw [checkSlot, found]
  exact checkRule_encode _ r

end Members

theorem checkModule_encode (before : List String) (place : Pointer) (m : Module) :
    checkModule before place m.encode = m.faults before place := by
  have known : ∀ key ∈ ["api", "domainOp", "event", "eventHandler", "name", "path", "ui",
      "useCase"], key ∈ moduleKeys := by decide
  have additional : additionalMembers moduleKeys place [("api", m.api.encode),
      ("domainOp", m.domainOp.encode), ("event", m.event.encode),
      ("eventHandler", m.eventHandler.encode), ("name", .string m.name), ("path", .string m.path),
      ("ui", m.ui.encode), ("useCase", m.useCase.encode)] = [] := additionalMembers_eq_nil known
  rw [Module.encode, checkModule, checkName_of_string rfl, checkGlob_of_string rfl, additional,
    List.nil_append, Module.faults]
  refine congrArg _ (congrArg (List.flatMap · Slot.all) (funext fun slot => ?_))
  exact checkSlot_of_rule (by cases slot <;> rfl) place

theorem nameOf?_encode (m : Module) :
    (nameOf? m.encode).toList = if isBlankText m.name then [] else [m.name] := by
  rw [Module.encode, nameOf?, requireText_of_string rfl]
  by_cases blank : isBlankText m.name = true
  · rw [if_pos blank, if_pos blank]
    rfl
  · rw [if_neg blank, if_neg blank]
    rfl

theorem checkModules_encode (before : List String) (index : Nat) (modules : List Module) :
    checkModules before index (modules.map Module.encode) =
      modulesFaults before index modules := by
  induction modules generalizing before index with
  | nil => rfl
  | cons m rest ih =>
    rw [List.map_cons, checkModules, checkModule_encode, nameOf?_encode, ih, modulesFaults]

/-- The violations of a configuration are its faults. -/
theorem violations_eq_faults (c : Config) : c.violations = c.faults := by
  rw [faults, ← checkModules_encode, violations, Config.encode]
  cases c.schema <;> rfl

/-! ## Faults lie in the content -/

/-- The cause lies in what a document says and not in its form: not in a member that is missing or
additional, a value of the wrong type, a word that is none of those allowed or a pattern that does
not compile. -/
def Cause.isOfContent : Cause → Bool
  | .blank | .emptyText | .colonInName _ | .repeatedName _ | .badGlob _ _ | .notTrue
  | .badDecoratorNames | .noPredicates _ => true
  | _ => false

/-- Every one of the violations lies in the content. -/
def OfContent (violations : List Violation) : Prop :=
  ∀ v ∈ violations, v.cause.isOfContent = true

theorem OfContent.nil : OfContent [] := List.forall_mem_nil _

theorem OfContent.single {place : Pointer} {cause : Cause} (h : cause.isOfContent = true) :
    OfContent [⟨place, cause⟩] :=
  List.forall_mem_singleton.2 h

theorem OfContent.append {first second : List Violation} (h : OfContent first)
    (h' : OfContent second) : OfContent (first ++ second) :=
  List.forall_mem_append.2 ⟨h, h'⟩

theorem OfContent.ite {p : Prop} [Decidable p] {first second : List Violation}
    (h : OfContent first) (h' : OfContent second) : OfContent (if p then first else second) := by
  split
  · exact h
  · exact h'

theorem OfContent.flatMap {α : Type} {items : List α} {f : α → List Violation}
    (each : ∀ a, OfContent (f a)) : OfContent (items.flatMap f) := by
  intro v member
  obtain ⟨a, -, found⟩ := List.mem_flatMap.1 member
  exact each a v found

theorem textFaults_ofContent (place : Pointer) (text : String) :
    OfContent (textFaults place text) :=
  .ite (.single rfl) .nil

mutual

theorem Predicate.faults_ofContent (place : Pointer) (p : Predicate) :
    OfContent (p.faults place) := by
  match p with
  | .hasDecorator names source =>
    exact .append (.ite .nil (.single rfl)) (.flatMap fun s => textFaults_ofContent _ s)
  | .hasDocTag text | .extendsClass text | .implementsInterface text | .nameEndsWith text =>
    exact textFaults_ofContent _ text
  | .nameMatches pattern => exact textFaults_ofContent _ pattern.text
  | .all items | .any items =>
    exact .ite (.single rfl) (Predicate.faultsOfAll_ofContent _ 0 items)
  | .inClassWith test => exact Predicate.faults_ofContent _ test

theorem Predicate.faultsOfAll_ofContent (place : Pointer) (index : Nat)
    (items : List Predicate) : OfContent (Predicate.faultsOfAll place index items) := by
  match items with
  | [] => exact .nil
  | p :: rest =>
    exact .append (Predicate.faults_ofContent _ p) (Predicate.faultsOfAll_ofContent _ _ rest)

end

theorem Rule.faults_ofContent (place : Pointer) (r : Rule) : OfContent (r.faults place) := by
  cases r with
  | notUsed flag => exact .ite .nil (.single rfl)
  | detect find test => exact test.faults_ofContent _

theorem globFaults_ofContent (place : Pointer) (text : String) :
    OfContent (globFaults place text) := by
  unfold globFaults
  split
  · exact .nil
  · exact .single rfl

theorem Module.faults_ofContent (before : List String) (place : Pointer) (m : Module) :
    OfContent (m.faults before place) := by
  have named : OfContent (nameFaults before (place.member "name") m.name) :=
    .ite (.single rfl) (.append (.ite (.single rfl) .nil) (.ite (.single rfl) .nil))
  have placed : OfContent (pathFaults (place.member "path") m.path) :=
    .ite (.single rfl) (globFaults_ofContent _ _)
  exact .append (.append named placed) (.flatMap fun slot => (m.rule slot).faults_ofContent _)

theorem modulesFaults_ofContent (before : List String) (index : Nat) (modules : List Module) :
    OfContent (modulesFaults before index modules) := by
  induction modules generalizing before index with
  | nil => exact .nil
  | cons m rest ih => exact .append (m.faults_ofContent _ _) (ih _ _)

/-- What is wrong with a configuration is never the form of its document. -/
theorem faults_ofContent (c : Config) : OfContent c.faults := modulesFaults_ofContent _ _ _

end ComponentAtlas.Config
