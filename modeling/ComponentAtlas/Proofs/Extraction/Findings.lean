import ComponentAtlas.Proofs.Extraction.Routing
import ComponentAtlas.Proofs.Sorting

/-! # Findings

What is found in a file, and in which order. A finding is a declaration that the rule of a slot in a
module makes a draft of. Every finding gives one draft. The drafts of a file are put in the order of
their lines, and where lines are the same, modules come before slots and slots before declarations:
the sort keeps the order in which the findings are made. -/

namespace ComponentAtlas

open Source

/-! ## Order -/

/-- The place of the slot's rule among those of a module. -/
def Slot.rank : Slot → Nat
  | .api => 0
  | .useCase => 1
  | .domainOp => 2
  | .event => 3
  | .eventHandler => 4
  | .ui => 5

theorem Slot.all_pairwise : Slot.all.Pairwise fun a b => a.rank < b.rank := by
  decide

/-- Where something is found: the index of a module, a slot, and the index of a declaration. -/
structure Finding where
  module : Nat
  slot : Slot
  declaration : Nat
deriving DecidableEq, Repr

/-- The order of modules, then of slots, then of declarations. -/
def Finding.Before (a b : Finding) : Prop :=
  a.module < b.module ∨
    a.module = b.module ∧ (a.slot.rank < b.slot.rank ∨
      a.slot = b.slot ∧ a.declaration < b.declaration)

theorem Finding.Before.irrefl (a : Finding) : ¬ a.Before a := by
  simp [Finding.Before]

/-! ## The findings of a file -/

/-- The declaration of a finding becomes the draft under the rule of its slot in its module: the
file belongs to the module, the rule looks for declarations of that sort, its test holds, and there
is a name. -/
inductive Extractor.Finds (e : Extractor) (file : SourceFile) : Finding → Draft → Prop
  | mk {i j : Nat} {slot : Slot} {m : Config.Module} {find : DeclarationKind}
      {test : Config.Predicate} {d : Declaration} {name : String}
      (routed : i ∈ e.router.route file.path) (configured : e.config.modules[i]? = some m)
      (rule : m.rule slot = .detect find test) (declared : file.declarations[j]? = some d)
      (sort : d.kind = find) (passes : test.holds file.imports (file.enclosing? d) d = true)
      (named : d.name = some name) :
      Finds e file ⟨i, slot, j⟩ ⟨slot, name, ⟨file.path, d.line⟩, m.name, m.name⟩

/-- The findings under one rule, each with its draft. -/
def ruleFindings (file : SourceFile) (i : Nat) (m : Config.Module) (slot : Slot) :
    List (Finding × Draft) :=
  match m.rule slot with
  | .notUsed _ => []
  | .detect find test =>
    file.declarations.zipIdx.filterMap fun (d, j) =>
      (draft? file m slot find test d).map fun draft => (⟨i, slot, j⟩, draft)

/-- The findings in one module, slot after slot. -/
def moduleFindings (file : SourceFile) (i : Nat) (m : Config.Module) : List (Finding × Draft) :=
  Slot.all.flatMap (ruleFindings file i m)

/-- The findings in a file, module after module. -/
def Extractor.findings (e : Extractor) (file : SourceFile) : List (Finding × Draft) :=
  (e.router.route file.path).flatMap fun i =>
    (e.config.modules[i]?).toList.flatMap (moduleFindings file i)

/-! ### Their drafts -/

theorem map_snd_ruleFindings (file : SourceFile) (i : Nat) (m : Config.Module) (slot : Slot) :
    (ruleFindings file i m slot).map Prod.snd = matchRule slot (m.rule slot) m file := by
  unfold ruleFindings matchRule
  cases m.rule slot with
  | notUsed => rfl
  | detect find test =>
    simp only [List.map_filterMap, Option.map_map, Function.comp_def, Option.map_id']
    calc file.declarations.zipIdx.filterMap (fun e => draft? file m slot find test e.1)
        = (file.declarations.zipIdx.map Prod.fst).filterMap (draft? file m slot find test) := by
          rw [List.filterMap_map]
          rfl
      _ = file.declarations.filterMap (draft? file m slot find test) := by
          rw [List.zipIdx_map_fst]

theorem map_snd_moduleFindings (file : SourceFile) (i : Nat) (m : Config.Module) :
    (moduleFindings file i m).map Prod.snd = Extractor.moduleDrafts file m := by
  simp only [moduleFindings, Extractor.moduleDrafts, List.map_flatMap, map_snd_ruleFindings]

theorem Extractor.map_snd_findings (e : Extractor) (file : SourceFile) :
    (e.findings file).map Prod.snd = e.unordered file := by
  simp only [findings, unordered, List.map_flatMap, map_snd_moduleFindings,
    List.filterMap_eq_flatMap_toList, List.flatMap_assoc]

/-! ### Which they are -/

theorem draft?_eq_some_iff {file : SourceFile} {m : Config.Module} {slot : Slot}
    {find : DeclarationKind} {test : Config.Predicate} {d : Declaration} {draft : Draft} :
    draft? file m slot find test d = some draft ↔
      d.kind = find ∧ test.holds file.imports (file.enclosing? d) d = true ∧
        ∃ name, d.name = some name ∧
          draft = ⟨slot, name, ⟨file.path, d.line⟩, m.name, m.name⟩ := by
  rw [draft?, Option.ite_none_right_eq_some, Bool.and_eq_true, decide_eq_true_iff, and_assoc,
    Option.map_eq_some_iff]
  simp only [eq_comm]

theorem mem_ruleFindings_iff {file : SourceFile} {i : Nat} {m : Config.Module} {slot : Slot}
    {f : Finding} {draft : Draft} :
    (f, draft) ∈ ruleFindings file i m slot ↔
      ∃ find test d j, m.rule slot = .detect find test ∧ file.declarations[j]? = some d ∧
        draft? file m slot find test d = some draft ∧ f = ⟨i, slot, j⟩ := by
  unfold ruleFindings
  cases rule : m.rule slot with
  | notUsed => simp
  | detect find test =>
    simp only [List.mem_filterMap, Option.map_eq_some_iff]
    constructor
    · rintro ⟨⟨d, j⟩, declared, draft, found, same⟩
      cases same
      exact ⟨find, test, d, j, rfl, List.mem_zipIdx_iff_getElem?.1 declared, found, rfl⟩
    · rintro ⟨_, _, d, j, same, declared, found, rfl⟩
      cases same
      exact ⟨(d, j), List.mem_zipIdx_iff_getElem?.2 declared, draft, found, rfl⟩

theorem Extractor.mem_findings_iff {e : Extractor} {file : SourceFile} {f : Finding}
    {draft : Draft} : (f, draft) ∈ e.findings file ↔ e.Finds file f draft := by
  simp only [findings, moduleFindings, List.mem_flatMap, Option.mem_toList]
  constructor
  · rintro ⟨i, routed, m, configured, slot, -, found⟩
    obtain ⟨find, test, d, j, rule, declared, made, rfl⟩ := mem_ruleFindings_iff.1 found
    obtain ⟨sort, passes, name, named, rfl⟩ := draft?_eq_some_iff.1 made
    exact .mk routed configured rule declared sort passes named
  · rintro ⟨routed, configured, rule, declared, sort, passes, named⟩
    exact ⟨_, routed, _, configured, _, Slot.mem_all _, mem_ruleFindings_iff.2
      ⟨_, _, _, _, rule, declared, draft?_eq_some_iff.2 ⟨sort, passes, _, named, rfl⟩, rfl⟩⟩

/-! ### Their order -/

theorem ruleFindings_pairwise (file : SourceFile) (i : Nat) (m : Config.Module) (slot : Slot) :
    (ruleFindings file i m slot).Pairwise fun a b => a.1.Before b.1 := by
  unfold ruleFindings
  cases m.rule slot with
  | notUsed => exact .nil
  | detect find test =>
    refine List.pairwise_filterMap.2 ((pairwise_zipIdx file.declarations).imp ?_)
    intro a b lower _ foundA _ foundB
    obtain ⟨_, -, rfl⟩ := Option.map_eq_some_iff.1 foundA
    obtain ⟨_, -, rfl⟩ := Option.map_eq_some_iff.1 foundB
    exact .inr ⟨rfl, .inr ⟨rfl, lower⟩⟩

theorem moduleFindings_pairwise (file : SourceFile) (i : Nat) (m : Config.Module) :
    (moduleFindings file i m).Pairwise fun a b => a.1.Before b.1 := by
  refine List.pairwise_flatMap.2 ⟨fun slot _ => ruleFindings_pairwise file i m slot, ?_⟩
  refine Slot.all_pairwise.imp fun lower x inX y inY => ?_
  obtain ⟨_, _, _, _, -, -, -, placeX⟩ := mem_ruleFindings_iff.1 inX
  obtain ⟨_, _, _, _, -, -, -, placeY⟩ := mem_ruleFindings_iff.1 inY
  rw [placeX, placeY]
  exact .inr ⟨rfl, .inl lower⟩

theorem module_of_mem_moduleFindings {file : SourceFile} {i : Nat} {m : Config.Module}
    {x : Finding × Draft} (h : x ∈ moduleFindings file i m) : x.1.module = i := by
  obtain ⟨slot, -, found⟩ := List.mem_flatMap.1 h
  obtain ⟨_, _, _, _, -, -, -, place⟩ := mem_ruleFindings_iff.1 found
  rw [place]

theorem Extractor.findings_pairwise (e : Extractor) (file : SourceFile) :
    (e.findings file).Pairwise fun a b => a.1.Before b.1 := by
  have module {i : Nat} {x : Finding × Draft}
      (h : x ∈ (e.config.modules[i]?).toList.flatMap (moduleFindings file i)) :
      x.1.module = i := by
    obtain ⟨m, -, found⟩ := List.mem_flatMap.1 h
    exact module_of_mem_moduleFindings found
  refine List.pairwise_flatMap.2 ⟨fun i _ => ?_, ?_⟩
  · cases e.config.modules[i]? with
    | none => exact .nil
    | some m =>
      rw [Option.toList_some, List.flatMap_singleton]
      exact moduleFindings_pairwise file i m
  · refine (e.router.route_pairwise file.path).imp fun lower x inX y inY => .inl ?_
    rw [module inX, module inY]
    exact lower

/-! ## The drafts of a file -/

namespace Extractor

theorem map_snd_sorted_findings (e : Extractor) (file : SourceFile) :
    ((e.findings file).mergeSort fun a b => a.2.location.line ≤ b.2.location.line).map Prod.snd =
      e.extractSource file := by
  rw [extractSource, ← e.map_snd_findings file]
  exact List.map_mergeSort fun _ _ _ _ => rfl

theorem nodup_findings (e : Extractor) (file : SourceFile) :
    ((e.findings file).map Prod.fst).Nodup := by
  refine List.pairwise_map.2 ((e.findings_pairwise file).imp fun {a b} before same => ?_)
  rw [same] at before
  exact Finding.Before.irrefl b.1 before

/-- Extraction of a file is exact and ordered. The drafts of a file are those of its findings, one
for each, in the order of lines, then of modules, slots and declarations. -/
theorem extractSource_exact {c : Config} (valid : c.violations = []) :
    ∃ e, Extractor.ofConfig c = .ok e ∧ e.config = c ∧ ∀ file : SourceFile,
      (∀ i ∈ e.router.route file.path, i < c.modules.length) ∧
      ∃ found : List (Finding × Draft), found.map Prod.snd = e.extractSource file ∧
        (∀ f draft, (f, draft) ∈ found ↔ e.Finds file f draft) ∧
        (found.map Prod.fst).Nodup ∧
        found.Pairwise fun a b => a.2.location.line < b.2.location.line ∨
          a.2.location.line = b.2.location.line ∧ a.1.Before b.1 := by
  obtain ⟨r, routes, made⟩ := Extractor.ofConfig_of_valid valid
  refine ⟨⟨c, r⟩, made, rfl, fun file => ?_⟩
  let e : Extractor := ⟨c, r⟩
  have perm := List.mergeSort_perm (e.findings file) fun a b =>
    decide (a.2.location.line ≤ b.2.location.line)
  refine ⟨fun i routed => Router.lt_length_of_mem_route routes routed, _,
    e.map_snd_sorted_findings file, fun f draft => ?_, ?_, ?_⟩
  · rw [perm.mem_iff]
    exact mem_findings_iff
  · exact (perm.map Prod.fst).nodup_iff.2 (e.nodup_findings file)
  · exact pairwise_mergeSort_of_pairwise (e.findings_pairwise file)

/-- Two modules share the files of the shop. -/
def shopConfig : Config :=
  let unused : Config.Rule := .notUsed true
  let module (name path ending : String) : Config.Module :=
    ⟨name, path, unused, .detect .classes (.nameEndsWith ending), unused, unused, unused, unused⟩
  ⟨none, [module "Orders" "**" "Order", module "Sales" "shop/**" "r"]⟩

/-- Classes that do not stand in the order of their lines, one of them without a name. -/
def shopFile : SourceFile :=
  ⟨"shop/orders.ts", [{ kind := .classes, name := some "CancelOrder", line := 7 },
    { kind := .classes, line := 3 }, { kind := .classes, name := some "Offer", line := 2 },
    { kind := .classes, name := some "PlaceOrder", line := 2, enclosing := some 9 }], ⟨[]⟩⟩

/-- The first and the last class of the file are found by both modules, the third by one, and the
class without a name by none. -/
theorem extractSource_exact_shop :
    shopConfig.violations = [] ∧ ∃ e, Extractor.ofConfig shopConfig = .ok e ∧
      ∃ found : List (Finding × Draft), found.map Prod.snd = e.extractSource shopFile ∧
        (∀ f, f ∈ found.map Prod.fst ↔ f ∈ [⟨0, .useCase, 0⟩, ⟨0, .useCase, 3⟩, ⟨1, .useCase, 0⟩,
          ⟨1, .useCase, 2⟩, ⟨1, .useCase, 3⟩]) ∧
        (found.map Prod.fst).Nodup ∧
        found.Pairwise fun a b => a.2.location.line < b.2.location.line ∨
          a.2.location.line = b.2.location.line ∧ a.1.Before b.1 := by
  have valid : shopConfig.violations = [] := by decide +kernel
  have computed : (Extractor.ofConfig shopConfig).toOption.all fun e =>
      (e.findings shopFile).map Prod.fst = [⟨0, .useCase, 0⟩, ⟨0, .useCase, 3⟩, ⟨1, .useCase, 0⟩,
        ⟨1, .useCase, 2⟩, ⟨1, .useCase, 3⟩] := by decide +kernel
  obtain ⟨e, made, -, exact⟩ := extractSource_exact valid
  obtain ⟨-, found, drafts, finds, once, ordered⟩ := exact shopFile
  refine ⟨valid, e, made, found, drafts, fun f => ?_, once, ordered⟩
  rw [made] at computed
  rw [← of_decide_eq_true computed]
  simp only [List.mem_map, Prod.exists, finds, mem_findings_iff]

end Extractor

end ComponentAtlas
