import ComponentAtlas.Proofs.Config.Gate

/-! # Configurations come back from their documents

Every typed configuration is read from the document that it is written as, whether or not it has
violations. Where a type has several forms and no name tells them apart, no form reads what another
one wrote: a rule that is not used has another key than a detection rule, and one decorator name is
a text where several are a list. -/

namespace ComponentAtlas.Config

open Json

/-! ## Predicates -/

theorem DecoratorNames.decode_encode (names : DecoratorNames) :
    DecoratorNames.decode names.encode = .ok names := by
  cases names with
  | one name => rfl
  | anyOf names =>
    have items : decodeList decodeString (.array (names.map .string)) = .ok names :=
      decodeList_map names fun _ _ => rfl
    simp only [encode, decode, items]

theorem decodePattern_text (p : Pattern.NamePattern) : decodePattern (.string p.text) = .ok p := by
  rw [decodePattern, decodeString, ok_bind, ofText_of_compiles p.compiles]
  rfl

/-- A record with one member is read from that member. -/
theorem decodeSingle_single {α : Type} {decode : Json → Decoded α} (inRule : Bool)
    (kind key : String) {v : Json} {a : α} (read : decode v = .ok a) :
    decodeSingle inRule kind key decode (some (single key v)) = .ok a :=
  decodeSingle_of_found inRule kind (by simp [memberOf?]) read

theorem decodeSingle_text (inRule : Bool) (kind key s : String) :
    decodeSingle inRule kind key decodeString (some (single key (.string s))) = .ok s :=
  decodeSingle_single inRule kind key rfl

theorem decodeDecoratorTest_encode (inRule : Bool) (names : DecoratorNames)
    (source : Option String) :
    decodeDecoratorTest inRule
        (some (.object (Json.optional "from" (source.map .string) ++ [("name", names.encode)]))) =
      .ok (.hasDecorator names source) := by
  cases source with
  | none =>
    have name : decodeMember DecoratorNames.decode [("name", names.encode)] "name" =
        .ok (some names) := decodeMember_of_some rfl names.decode_encode
    show (decodeMember DecoratorNames.decode [("name", names.encode)] "name" >>= _) = _
    rw [name]
    rfl
  | some s =>
    have name : decodeMember DecoratorNames.decode
        [("from", .string s), ("name", names.encode)] "name" = .ok (some names) :=
      decodeMember_of_some rfl names.decode_encode
    show (decodeMember DecoratorNames.decode
      [("from", .string s), ("name", names.encode)] "name" >>= _) = _
    rw [name]
    rfl

mutual

/-- A predicate comes back from its document, in a rule and by itself. -/
theorem Predicate.decode_encode (inRule : Bool) (p : Predicate) :
    Predicate.decode inRule p.encode = .ok p := by
  match p with
  | .hasDecorator names source =>
    exact decodeDecoratorTest_encode inRule names source
  | .hasDocTag tag =>
    exact congrArg (Except.map Predicate.hasDocTag) (decodeSingle_text inRule "HasJsDoc" "tag" tag)
  | .extendsClass name =>
    exact congrArg (Except.map Predicate.extendsClass)
      (decodeSingle_text inRule "ExtendsClass" "name" name)
  | .implementsInterface name =>
    exact congrArg (Except.map Predicate.implementsInterface)
      (decodeSingle_text inRule "ImplementsInterface" "name" name)
  | .nameEndsWith ending =>
    exact congrArg (Except.map Predicate.nameEndsWith)
      (decodeSingle_text inRule "NameEndsWith" "suffix" ending)
  | .nameMatches pattern =>
    exact congrArg (Except.map Predicate.nameMatches)
      (decodeSingle_single inRule "NameMatches" "pattern" (decodePattern_text pattern))
  | .all items =>
    exact congrArg (Except.map Predicate.all) (Predicate.decodeAll_encodeAll inRule items)
  | .any items =>
    exact congrArg (Except.map Predicate.any) (Predicate.decodeAll_encodeAll inRule items)
  | .inClassWith test =>
    exact congrArg (Except.map Predicate.inClassWith) (Predicate.decode_encode inRule test)

theorem Predicate.decodeAll_encodeAll (inRule : Bool) (items : List Predicate) :
    Predicate.decodeAll inRule (Predicate.encodeAll items) = .ok items := by
  match items with
  | [] => rfl
  | p :: rest =>
    rw [encodeAll, decodeAll, Predicate.decode_encode inRule p,
      Predicate.decodeAll_encodeAll inRule rest]
    rfl

end

/-! ## Rules -/

/-- What marks a slot as not used is read by the form for such rules only. -/
theorem Rule.read_notUsed (flag : Bool) :
    notUsed? (notUsed flag).encode = some (notUsed flag) ∧ detect? (notUsed flag).encode = none :=
  ⟨rfl, rfl⟩

theorem decodeFind_plural (find : Source.DeclarationKind) :
    decodeFind (.string find.plural) = .ok find :=
  decodeName_of_found (by cases find <;> decide)

/-- A detection rule is read by the form for such rules only. -/
theorem Rule.read_detect (find : Source.DeclarationKind) (test : Predicate) :
    notUsed? (detect find test).encode = none ∧
      detect? (detect find test).encode = some (detect find test) := by
  refine ⟨rfl, ?_⟩
  show ofParts? (.string find.plural) test.encode = some (detect find test)
  simp only [ofParts?, decodeFind_plural, Predicate.decode_encode]

theorem Rule.decode_encode (r : Rule) : Rule.decode r.encode = .ok r := by
  cases r with
  | notUsed flag => rfl
  | detect find test =>
    obtain ⟨other, own⟩ := read_detect find test
    rw [decode, other, own]
    rfl

/-! ## Modules -/

theorem Module.encode_members (m : Module) :
    ∃ members, m.encode = .object members ∧ memberOf? members "name" = some (.string m.name) ∧
      memberOf? members "path" = some (.string m.path) ∧
      ∀ slot : Slot, memberOf? members slot.key = some (m.rule slot).encode := by
  refine ⟨_, rfl, rfl, rfl, fun slot => ?_⟩
  cases slot <;> rfl

theorem Module.decode_encode (m : Module) : Module.decode m.encode = .ok m := by
  obtain ⟨members, written, named, placed, ruled⟩ := m.encode_members
  have name : decodeMember decodeString members "name" = .ok (some m.name) :=
    decodeMember_of_some named rfl
  have path : decodeMember decodeString members "path" = .ok (some m.path) :=
    decodeMember_of_some placed rfl
  have slot (s : Slot) : decodeMember Rule.decode members s.key = .ok (some (m.rule s)) :=
    decodeMember_of_some (ruled s) (m.rule s).decode_encode
  have api := slot .api
  have useCase := slot .useCase
  have domainOp := slot .domainOp
  have event := slot .event
  have eventHandler := slot .eventHandler
  have ui := slot .ui
  simp only [Slot.key] at api useCase domainOp event eventHandler ui
  simp only [written, decode, decodeMembers, name, path, api, useCase, domainOp, event,
    eventHandler, ui]
  rfl

/-! ## Documents that are written -/

theorem ordered_single {key : String} {v : Json} (h : v.Ordered) : (single key v).Ordered := by
  rw [single, ordered_object_iff]
  exact ⟨List.pairwise_singleton _ _, List.forall_mem_singleton.2 h⟩

/-- The keys of two members ascend, whether or not the first one is there. -/
theorem ordered_optional {key other : String} {o : Option Json} {v : Json} (below : key < other)
    (first : ∀ w, o = some w → w.Ordered) (second : v.Ordered) :
    (Json.object (Json.optional key o ++ [(other, v)])).Ordered := by
  cases o with
  | none => exact ordered_single second
  | some w =>
    refine ordered_object_iff.2 ⟨?_, ?_⟩
    · exact List.pairwise_pair.2 below
    · exact List.forall_mem_cons.2 ⟨first w rfl, List.forall_mem_singleton.2 second⟩

theorem DecoratorNames.encode_ordered (names : DecoratorNames) : names.encode.Ordered := by
  cases names with
  | one name => exact ordered_string name
  | anyOf names =>
    refine ordered_array_iff.2 fun v member => ?_
    obtain ⟨name, -, rfl⟩ := List.mem_map.1 member
    exact ordered_string name

mutual

theorem Predicate.encode_ordered (p : Predicate) : p.encode.Ordered := by
  match p with
  | .hasDecorator names source =>
    refine ordered_single (ordered_optional (by decide) ?_ names.encode_ordered)
    intro w given
    obtain ⟨s, -, rfl⟩ := Option.map_eq_some_iff.1 given
    exact ordered_string s
  | .hasDocTag s | .extendsClass s | .implementsInterface s | .nameEndsWith s =>
    exact ordered_single (ordered_single (ordered_string s))
  | .nameMatches pattern => exact ordered_single (ordered_single (ordered_string pattern.text))
  | .all items | .any items =>
    exact ordered_single (ordered_array_iff.2 (Predicate.encodeAll_ordered items))
  | .inClassWith test => exact ordered_single (Predicate.encode_ordered test)

theorem Predicate.encodeAll_ordered (items : List Predicate) :
    ∀ v ∈ Predicate.encodeAll items, v.Ordered := by
  match items with
  | [] => exact List.forall_mem_nil _
  | p :: rest =>
    rw [encodeAll]
    exact List.forall_mem_cons.2 ⟨Predicate.encode_ordered p, Predicate.encodeAll_ordered rest⟩

end

theorem Rule.encode_ordered (r : Rule) : r.encode.Ordered := by
  cases r with
  | notUsed flag => exact ordered_single (ordered_bool flag)
  | detect find test =>
    have ascending : ["find", "where"].Pairwise (· < ·) := by decide
    refine ordered_object_iff.2 ⟨ascending, ?_⟩
    exact List.forall_mem_cons.2
      ⟨ordered_string find.plural, List.forall_mem_singleton.2 test.encode_ordered⟩

theorem Module.encode_ordered (m : Module) : m.encode.Ordered := by
  have ascending : orderedModuleKeys.Pairwise (· < ·) := by decide
  refine ordered_object_iff.2 ⟨ascending, ?_⟩
  simp [Rule.encode_ordered]

end ComponentAtlas.Config

namespace ComponentAtlas

open Json

theorem Config.encode_ordered (c : Config) : c.encode.Ordered := by
  refine Config.ordered_optional (by decide) ?_ ?_
  · intro w given
    obtain ⟨s, -, rfl⟩ := Option.map_eq_some_iff.1 given
    exact ordered_string s
  · refine ordered_array_iff.2 fun v member => ?_
    obtain ⟨m, -, rfl⟩ := List.mem_map.1 member
    exact m.encode_ordered

/-! ## Configurations -/

theorem Config.decode_encode (c : Config) : Config.decode c.encode = .ok c := by
  obtain ⟨schema, modules⟩ := c
  have list : decodeList Config.Module.decode (.array (modules.map Config.Module.encode)) =
      .ok modules := decodeList_map modules fun m _ => m.decode_encode
  cases schema with
  | none => exact Config.decode_of_parts rfl list (decodeMember_of_none rfl)
  | some s => exact Config.decode_of_parts rfl list (decodeMember_of_some rfl rfl)

theorem Config.encode_inj {c d : Config} : c.encode = d.encode ↔ c = d := by
  constructor
  · intro same
    have read := c.decode_encode
    rw [same, d.decode_encode] at read
    cases read
    rfl
  · rintro rfl
    rfl

/-- A configuration passes the gate as it was written if and only if it has no violations. -/
theorem Config.ofJson_encode_eq_ok_iff (c : Config) :
    Config.ofJson c.encode = .ok c ↔ c.violations = [] := by
  constructor
  · intro passed
    exact (Config.ofJson_eq_ok passed).1
  · intro valid
    have checked : Config.check c.encode = [] := valid
    rw [Config.ofJson_of_valid checked, c.decode_encode]
    rfl

/-- Typed configurations survive writing. The document of any configuration, with violations or
without, is read as that very configuration, and it passes the gate if and only if there are no
violations; so different configurations have different documents. Predicates come back in rules and
by themselves, and decorator names as one or as a list. A rule comes back in the form it had, which
is the only one that reads its document. -/
theorem Config.encode_exact :
    (∀ c : Config, c.encode.Ordered ∧ Config.decode c.encode = .ok c ∧
      (Config.ofJson c.encode = .ok c ↔ c.violations = [])) ∧
    (∀ c d : Config, c.encode = d.encode ↔ c = d) ∧
    (∀ r : Config.Rule, Config.Rule.decode r.encode = .ok r) ∧
    (∀ flag, Config.Rule.notUsed? (Config.Rule.notUsed flag).encode = some (.notUsed flag) ∧
      Config.Rule.detect? (Config.Rule.notUsed flag).encode = none) ∧
    (∀ find test, Config.Rule.notUsed? (Config.Rule.detect find test).encode = none ∧
      Config.Rule.detect? (Config.Rule.detect find test).encode = some (.detect find test)) ∧
    (∀ inRule p, Config.Predicate.decode inRule p.encode = .ok p) ∧
    ∀ names : Config.DecoratorNames, Config.DecoratorNames.decode names.encode = .ok names := by
  refine ⟨fun c => ?_, fun c d => ?_, fun r => ?_, fun flag => ?_, fun find test => ?_,
    fun inRule p => ?_, fun names => ?_⟩
  · exact ⟨c.encode_ordered, c.decode_encode, c.ofJson_encode_eq_ok_iff⟩
  · exact Config.encode_inj
  · exact r.decode_encode
  · exact Config.Rule.read_notUsed flag
  · exact Config.Rule.read_detect find test
  · exact p.decode_encode inRule
  · exact names.decode_encode

end ComponentAtlas
