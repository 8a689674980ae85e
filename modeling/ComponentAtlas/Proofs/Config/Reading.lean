import ComponentAtlas.Proofs.Config.Acceptance
import ComponentAtlas.Proofs.Json.Reading

/-! # Reading configurations

A document of the grammar is read, and what is read has that very document: nothing in a predicate,
a rule or a module is lost. The lemmas follow the grammar. -/

namespace ComponentAtlas.Config

open Json

/-! ## Predicates -/

theorem IsText.reads {v : Json} (h : IsText v) : ReadsAs decodeString .string v v := by
  obtain ⟨s, rfl, -⟩ := h
  exact readsAs_string s

theorem NamesDecorators.reads {v : Json} (h : NamesDecorators v) :
    ReadsAs DecoratorNames.decode DecoratorNames.encode v v := by
  cases h with
  | one text =>
    obtain ⟨s, rfl, -⟩ := text
    exact ⟨.one s, rfl, rfl⟩
  | @anyOf items nonempty texts =>
    obtain ⟨names, read, written⟩ := readsAs_list id fun v member =>
      (texts v member).reads
    refine ⟨.anyOf names, ?_, written.trans (by rw [List.map_id])⟩
    simp only [DecoratorNames.decode, read]

theorem decodeSingle_of_found {α : Type} {decode : Json → Decoded α} (inRule : Bool)
    (kind : String) {key : String} {members : List (String × Json)} {v : Json} {a : α}
    (found : memberOf? members key = some v) (read : decode v = .ok a) :
    decodeSingle inRule kind key decode (some (.object members)) = .ok a := by
  simp only [decodeSingle, decodeRecord, decodeMember_of_some found read]
  rfl

theorem object_eq_single {key : String} {members : List (String × Json)} {v : Json}
    (ordered : (Json.object members).Ordered) (keys : HasKeys [key] members)
    (found : memberOf? members key = some v) : Json.object members = single key v := by
  rw [ordered.eq_select (by simp) (hasKeys_iff.1 keys).1, select_found found]
  rfl

theorem IsTextRecord.reads {key : String} {v : Json} (h : IsTextRecord key v) (kind : String)
    (ordered : v.Ordered) :
    ReadsAs (fun body => decodeSingle true kind key decodeString (some body))
      (fun s => single key (.string s)) v v := by
  obtain ⟨members, text, rfl, keys, found, s, rfl, -⟩ := h
  exact ⟨s, decodeSingle_of_found true kind found rfl, (object_eq_single ordered keys found).symm⟩

theorem ofText_of_compiles {text : String} {matcher : Pattern.Matcher}
    (h : Pattern.compile text = .ok matcher) :
    Pattern.NamePattern.ofText text = .ok ⟨text, matcher, h⟩ := by
  unfold Pattern.NamePattern.ofText
  split
  · next other found =>
    have same : other = matcher := by
      rw [h] at found
      cases found
      rfl
    subst same
    rfl
  · next found =>
    rw [h] at found
    cases found

/-- The object of a test on decorators, which has one key or two. -/
theorem decoratorTest_reads {members : List (String × Json)} {names : Json}
    (keys : ∀ m ∈ members, m.1 = "name" ∨ m.1 = "from")
    (name : memberOf? members "name" = some names) (named : NamesDecorators names)
    (source : ∀ v, memberOf? members "from" = some v → IsText v)
    (ordered : (Json.object members).Ordered) :
    ReadsAs (fun body => decodeDecoratorTest true (some body)) Predicate.encode
      (.object members) (single "hasDecorator" (.object members)) := by
  obtain ⟨list, readNames, written⟩ := named.reads
  have readName := decodeMember_of_some name readNames
  have known : ∀ m ∈ members, m.1 ∈ ["from", "name"] := by
    intro m member
    rcases keys m member with h | h <;> simp [h]
  have whole := ordered.eq_select (by decide) known
  -- the source is the only key that may be absent
  cases found : memberOf? members "from" with
  | none =>
    refine ⟨.hasDecorator list none, ?_, ?_⟩
    · simp only [decodeDecoratorTest, decodeRecord, decodeMember_of_none found, readName]
      rfl
    · rw [whole, select_missing found, select_found name, ← written]
      rfl
  | some v =>
    obtain ⟨s, rfl, -⟩ := source v found
    have readSource : decodeMember (decodeOption decodeString) members "from" =
        .ok (some (some s)) := decodeMember_of_some found rfl
    refine ⟨.hasDecorator list (some s), ?_, ?_⟩
    · simp only [decodeDecoratorTest, decodeRecord, readSource, readName]
      rfl
    · rw [whole, select_found found, select_found name, ← written]
      rfl

theorem decodeAll_eq (inRule : Bool) (items : List Json) :
    Predicate.decodeAll inRule items = decodeItems (Predicate.decode inRule) items := by
  induction items with
  | nil => rfl
  | cons v rest ih =>
    rw [Predicate.decodeAll, decodeItems, ih]

theorem encodeAll_eq (items : List Predicate) :
    Predicate.encodeAll items = items.map Predicate.encode := by
  induction items with
  | nil => rfl
  | cons p rest ih => rw [Predicate.encodeAll, ih, List.map_cons]

/-- Predicates in a list are read one by one. -/
theorem combined_reads {items : List Json}
    (each : ∀ v ∈ items, ReadsAs (Predicate.decode true) Predicate.encode v v) :
    ∃ list, Predicate.decodeAll true items = .ok list ∧
      Json.array (Predicate.encodeAll list) = .array items := by
  obtain ⟨list, read, written⟩ := readsAs_list id each
  refine ⟨list, (decodeAll_eq true items).trans read, ?_⟩
  rw [encodeAll_eq]
  exact written.trans (by rw [List.map_id])

/-- A predicate is read, and what is read has the same document. The induction is on the
derivation. -/
theorem IsPredicate.reads {v : Json} (h : IsPredicate v) (ordered : v.Ordered) :
    ReadsAs (Predicate.decode true) Predicate.encode v v := by
  have inside {kind : String} {body : Json} (whole : (Json.object [(kind, body)]).Ordered) :
      body.Ordered := by
    cases whole with
    | object _ each => exact each _ List.mem_cons_self
  induction h with
  | hasDecorator keys name named source =>
    exact decoratorTest_reads keys name named source (inside ordered)
  | hasDocTag h =>
    obtain ⟨s, read, written⟩ := h.reads "HasJsDoc" (inside ordered)
    exact ⟨.hasDocTag s, congrArg (Except.map _) read, congrArg (single "hasJSDoc") written⟩
  | extendsClass h =>
    obtain ⟨s, read, written⟩ := h.reads "ExtendsClass" (inside ordered)
    exact ⟨.extendsClass s, congrArg (Except.map _) read, congrArg (single "extendsClass") written⟩
  | implementsInterface h =>
    obtain ⟨s, read, written⟩ := h.reads "ImplementsInterface" (inside ordered)
    exact ⟨.implementsInterface s, congrArg (Except.map _) read,
      congrArg (single "implementsInterface") written⟩
  | nameEndsWith h =>
    obtain ⟨s, read, written⟩ := h.reads "NameEndsWith" (inside ordered)
    exact ⟨.nameEndsWith s, congrArg (Except.map _) read, congrArg (single "nameEndsWith") written⟩
  | @nameMatches members text matcher keys pattern nonempty compiles =>
    have readText : decodePattern (.string text) = .ok ⟨text, matcher, compiles⟩ := by
      simp only [decodePattern, decodeString, ok_bind, ofText_of_compiles compiles]
      rfl
    have read := decodeSingle_of_found true "NameMatches" pattern readText
    exact ⟨.nameMatches ⟨text, matcher, compiles⟩, congrArg (Except.map _) read,
      congrArg (single "nameMatches") (object_eq_single (inside ordered) keys pattern).symm⟩
  | all nonempty _ ih =>
    obtain ⟨list, read, written⟩ := combined_reads fun v member =>
      ih v member ((inside ordered).items v member)
    exact ⟨.all list, congrArg (Except.map _) read, congrArg (single "and") written⟩
  | any nonempty _ ih =>
    obtain ⟨list, read, written⟩ := combined_reads fun v member =>
      ih v member ((inside ordered).items v member)
    exact ⟨.any list, congrArg (Except.map _) read, congrArg (single "or") written⟩
  | inClassWith _ ih =>
    obtain ⟨test, read, written⟩ := ih (inside ordered)
    exact ⟨.inClassWith test, congrArg (Except.map _) read,
      congrArg (single "inClassWith") written⟩

/-! ## Rules -/

theorem decodeFind_of_allowed {find : String} (h : find ∈ ["classes", "methods", "functions"]) :
    ∃ sort, decodeFind (.string find) = .ok sort ∧ sort.plural = find := by
  obtain ⟨sort, found⟩ := Option.isSome_iff_exists.1 (ofPlural?_isSome_iff.2 h)
  exact ⟨sort, decodeName_of_found found, by simpa using List.find?_some found⟩

theorem IsRule.reads {v : Json} (h : IsRule v) (ordered : v.Ordered) :
    ReadsAs Rule.decode Rule.encode v v := by
  cases h with
  | notUsed => exact ⟨.notUsed true, rfl, rfl⟩
  | @detect members find test keys found allowed condition isTest =>
    obtain ⟨sort, readFind, plural⟩ := decodeFind_of_allowed allowed
    obtain ⟨p, readTest, written⟩ := isTest.reads (ordered.member condition)
    -- the keys leave one object in ascending order
    have whole := ordered.eq_select (by decide) (hasKeys_iff.1 keys).1
    rw [select_found found, select_found condition] at whole
    change members = [("find", .string find), ("where", test)] at whole
    subst whole
    refine ⟨.detect sort p, ?_, ?_⟩
    · have parts : Rule.ofParts? (.string find) test = some (.detect sort p) := by
        simp only [Rule.ofParts?, readFind, readTest]
      have detected : (Rule.notUsed? (.object [("find", .string find), ("where", test)])).or
          (Rule.detect? (.object [("find", .string find), ("where", test)])) =
          some (.detect sort p) := parts
      simp only [Rule.decode, detected]
    · rw [Rule.encode, plural, written]

/-! ## Modules -/

/-- The keys of a module in ascending order. -/
def orderedModuleKeys : List String :=
  ["api", "domainOp", "event", "eventHandler", "name", "path", "ui", "useCase"]

theorem IsModule.reads {v : Json} (h : IsModule v) (ordered : v.Ordered) :
    ReadsAs Module.decode Module.encode v v := by
  cases h with
  | @mk members name path glob keys named _ _ placed _ _ rules =>
    have slot (key : String) (listed : key ∈ slotKeys) :
        ∃ rule r, memberOf? members key = some rule ∧ Rule.decode rule = .ok r ∧
          r.encode = rule := by
      obtain ⟨rule, found, isRule⟩ := rules key listed
      obtain ⟨r, read, written⟩ := isRule.reads (ordered.member found)
      exact ⟨rule, r, found, read, written⟩
    -- the slots one by one, in the order in which a module has them
    obtain ⟨_, api, hasApi, readApi, rfl⟩ := slot "api" (by decide)
    obtain ⟨_, useCase, hasUseCase, readUseCase, rfl⟩ := slot "useCase" (by decide)
    obtain ⟨_, domainOp, hasDomainOp, readDomainOp, rfl⟩ := slot "domainOp" (by decide)
    obtain ⟨_, event, hasEvent, readEvent, rfl⟩ := slot "event" (by decide)
    obtain ⟨_, handler, hasHandler, readHandler, rfl⟩ := slot "eventHandler" (by decide)
    obtain ⟨_, ui, hasUi, readUi, rfl⟩ := slot "ui" (by decide)
    refine ⟨⟨name, path, api, useCase, domainOp, event, handler, ui⟩, ?_, ?_⟩
    · have readName : decodeMember decodeString members "name" = .ok (some name) :=
        decodeMember_of_some named rfl
      have readPath : decodeMember decodeString members "path" = .ok (some path) :=
        decodeMember_of_some placed rfl
      simp only [Module.decode, Module.decodeMembers, decodeMember_of_some hasApi readApi,
        decodeMember_of_some hasUseCase readUseCase, decodeMember_of_some hasDomainOp readDomainOp,
        decodeMember_of_some hasEvent readEvent, decodeMember_of_some hasHandler readHandler,
        decodeMember_of_some hasUi readUi, readName, readPath]
      rfl
    · have known : ∀ m ∈ members, m.1 ∈ orderedModuleKeys := by
        intro m member
        have same : orderedModuleKeys.Perm (["name", "path"] ++ slotKeys) := by decide
        exact same.mem_iff.2 ((hasKeys_iff.1 keys).1 m member)
      rw [ordered.eq_select (by decide) known, orderedModuleKeys, select_found hasApi,
        select_found hasDomainOp, select_found hasEvent, select_found hasHandler,
        select_found named, select_found placed, select_found hasUi, select_found hasUseCase]
      rfl

/-! ## Configurations -/

/-- The members of a document are read as a configuration when its modules and its schema are. -/
theorem decode_of_parts {members : List (String × Json)} {modules : List Json}
    {schema : Option (Option String)} {list : List Module}
    (listed : memberOf? members "modules" = some (.array modules))
    (readModules : decodeList Module.decode (.array modules) = .ok list)
    (readSchema : decodeMember (decodeOption decodeString) members "$schema" = .ok schema) :
    Config.decode (.object members) = .ok ⟨schema.getD none, list⟩ := by
  simp only [Config.decode, readSchema, decodeMember_of_some listed readModules]
  rfl

theorem modules_read {modules : List Json} (each : ∀ m ∈ modules, IsModule m)
    (ordered : ∀ m ∈ modules, m.Ordered) :
    ∃ list, decodeList Module.decode (.array modules) = .ok list ∧
      list.map Module.encode = modules := by
  obtain ⟨list, read, written⟩ := readsAs_list id fun m member =>
    (each m member).reads (ordered m member)
  injection written with written
  exact ⟨list, read, written.trans (List.map_id modules)⟩

end ComponentAtlas.Config
