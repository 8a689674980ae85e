import ComponentAtlas.Proofs.Extraction.Findings
import ComponentAtlas.Proofs.Extraction.Routes
import Mathlib.Data.List.Perm.Subperm

/-! # Modules on their own

What a module makes of a file depends on no other module. A configuration with some of the modules
of another one, in any order, makes of every file those drafts that the other makes for these
modules. If the modules keep their order, so do the drafts, because a sort that keeps the order of
equals may as well come after a selection. -/

namespace ComponentAtlas

/-! ## Selecting modules -/

namespace Config

/-- The names of the modules. -/
def moduleNames (c : Config) : List String := c.modules.map (·.name)

theorem WellFormed.of_subperm {c d : Config} (h : c.WellFormed)
    (part : d.modules.Subperm c.modules) : d.WellFormed := by
  refine ⟨fun m member => h.each m (part.subset member), ?_⟩
  obtain ⟨kept, perm, sub⟩ := part
  have distinct : kept.Pairwise fun a b => a.name ≠ b.name := h.distinct.sublist sub
  exact (perm.pairwise_iff fun apart => apart.symm).1 distinct

/-- Modules are found again by their names among others with different names. -/
theorem filter_names_of_sublist {kept modules : List Module} (sub : kept.Sublist modules)
    (distinct : modules.Pairwise fun a b => a.name ≠ b.name) :
    (modules.filter fun m => m.name ∈ kept.map (·.name)) = kept := by
  induction sub with
  | slnil => rfl
  | @cons kept modules m sub ih =>
    rw [List.pairwise_cons] at distinct
    have left : m.name ∉ kept.map (·.name) := by
      intro named
      obtain ⟨n, member, same⟩ := List.mem_map.1 named
      exact distinct.1 n (sub.subset member) same.symm
    rw [List.filter_cons_of_neg (by simpa using left), ih distinct.2]
  | @cons_cons kept modules m sub ih =>
    rw [List.pairwise_cons] at distinct
    have rest : (modules.filter fun n => n.name ∈ (m :: kept).map (·.name)) =
        modules.filter fun n => n.name ∈ kept.map (·.name) := by
      refine List.filter_congr fun n member => ?_
      have other : n.name ≠ m.name := (distinct.1 n member).symm
      simp [other]
    rw [List.filter_cons_of_pos (by simp), rest, ih distinct.2]

theorem filter_names_perm {kept modules : List Module} (part : kept.Subperm modules)
    (distinct : modules.Pairwise fun a b => a.name ≠ b.name) :
    (modules.filter fun m => m.name ∈ kept.map (·.name)).Perm kept := by
  obtain ⟨inOrder, perm, sub⟩ := part
  have names : (modules.filter fun m => m.name ∈ kept.map (·.name)) =
      modules.filter fun m => m.name ∈ inOrder.map (·.name) := by
    refine List.filter_congr fun m _ => ?_
    rw [decide_eq_decide]
    exact (perm.map (·.name)).mem_iff.symm
  rw [names, filter_names_of_sublist sub distinct]
  exact perm

end Config

/-! ## Drafts of selected modules -/

namespace Extractor

theorem module_of_mem_moduleDrafts {file : SourceFile} {m : Config.Module} {draft : Draft}
    (h : draft ∈ moduleDrafts file m) : draft.module = m.name := by
  rw [← map_snd_moduleFindings file 0 m, List.mem_map] at h
  obtain ⟨⟨f, found⟩, member, rfl⟩ := h
  obtain ⟨slot, -, member⟩ := List.mem_flatMap.1 member
  obtain ⟨_, _, _, _, -, -, made, -⟩ := mem_ruleFindings_iff.1 member
  obtain ⟨-, -, _, -, rfl⟩ := draft?_eq_some_iff.1 made
  rfl

theorem filter_moduleDrafts (file : SourceFile) (m : Config.Module) (names : List String) :
    ((moduleDrafts file m).filter fun draft => draft.module ∈ names) =
      if m.name ∈ names then moduleDrafts file m else [] := by
  split
  · next named =>
    refine List.filter_eq_self.2 fun draft member => ?_
    rw [module_of_mem_moduleDrafts member, decide_eq_true named]
  · next unnamed =>
    refine List.filter_eq_nil_iff.2 fun draft member => ?_
    rw [module_of_mem_moduleDrafts member, decide_eq_true_iff]
    exact unnamed

/-- The drafts for some names are those of the modules with these names. -/
theorem filter_flatMap_moduleDrafts (file : SourceFile) (modules : List Config.Module)
    (names : List String) :
    ((modules.flatMap (moduleDrafts file)).filter fun draft => draft.module ∈ names) =
      (modules.filter fun m => m.name ∈ names).flatMap (moduleDrafts file) := by
  rw [List.filter_flatMap]
  induction modules with
  | nil => rfl
  | cons m rest ih =>
    rw [List.flatMap_cons, ih, filter_moduleDrafts, List.filter_cons]
    by_cases named : m.name ∈ names
    · simp [named]
    · simp [named]

theorem unordered_eq {c : Config} {r : Router} (made : Router.ofConfig c = .ok r)
    (file : SourceFile) :
    unordered ⟨c, r⟩ file = (c.modulesFor file.path).flatMap (moduleDrafts file) := by
  have modules : (r.route file.path).filterMap (fun i => c.modules[i]?) =
      c.modulesFor file.path := by
    calc (r.route file.path).filterMap (fun i => c.modules[i]?)
        = ((r.route file.path).map fun i => c.modules[i]?).filterMap id := by
          rw [List.filterMap_map]
          rfl
      _ = c.modulesFor file.path := by
          rw [Router.map_route made, List.filterMap_map]
          exact List.filterMap_some
  rw [unordered, modules]

variable {c d : Config} {r s : Router}

theorem extractSource_eq (made : Router.ofConfig c = .ok r) (file : SourceFile) :
    extractSource ⟨c, r⟩ file =
      ((c.modules.filter fun m => selectsPath m.path file.path).flatMap
        (moduleDrafts file)).mergeSort fun a b => a.location.line ≤ b.location.line := by
  rw [extractSource, unordered_eq made, Config.modulesFor]

/-- The drafts of a file for some names come from the modules with these names. -/
theorem filter_extractSource (made : Router.ofConfig c = .ok r) (file : SourceFile)
    (names : List String) :
    ((extractSource ⟨c, r⟩ file).filter fun draft => draft.module ∈ names) =
      (((c.modules.filter fun m => m.name ∈ names).filter fun m =>
        selectsPath m.path file.path).flatMap (moduleDrafts file)).mergeSort fun a b =>
          a.location.line ≤ b.location.line := by
  rw [extractSource_eq made, filter_mergeSort, filter_flatMap_moduleDrafts, List.filter_comm]

theorem extractSource_of_sublist (madeC : Router.ofConfig c = .ok r)
    (madeD : Router.ofConfig d = .ok s) (distinct : c.modules.Pairwise fun a b => a.name ≠ b.name)
    (sub : d.modules.Sublist c.modules) (file : SourceFile) :
    extractSource ⟨d, s⟩ file =
      (extractSource ⟨c, r⟩ file).filter fun draft => draft.module ∈ d.moduleNames := by
  rw [filter_extractSource madeC, Config.moduleNames, Config.filter_names_of_sublist sub distinct,
    extractSource_eq madeD]

theorem extractSource_of_subperm (madeC : Router.ofConfig c = .ok r)
    (madeD : Router.ofConfig d = .ok s) (distinct : c.modules.Pairwise fun a b => a.name ≠ b.name)
    (part : d.modules.Subperm c.modules) (file : SourceFile) :
    (extractSource ⟨d, s⟩ file).Perm
      ((extractSource ⟨c, r⟩ file).filter fun draft => draft.module ∈ d.moduleNames) := by
  rw [filter_extractSource madeC, extractSource_eq madeD]
  have modules := ((Config.filter_names_perm part distinct).symm.filter fun m =>
    selectsPath m.path file.path).flatMap_right (moduleDrafts file)
  exact (List.mergeSort_perm _ _).trans (modules.trans (List.mergeSort_perm _ _).symm)

/-- The drafts of a single module do not depend on the modules around it. -/
theorem filter_module_extractSource (madeC : Router.ofConfig c = .ok r)
    (distinct : c.modules.Pairwise fun a b => a.name ≠ b.name) {m : Config.Module}
    (member : m ∈ c.modules) (file : SourceFile) :
    ((extractSource ⟨c, r⟩ file).filter fun draft => draft.module = m.name) =
      (([m].filter fun m => selectsPath m.path file.path).flatMap
        (moduleDrafts file)).mergeSort fun a b => a.location.line ≤ b.location.line := by
  have single : (c.modules.filter fun n => n.name ∈ [m.name]) = [m] :=
    Config.filter_names_of_sublist (List.singleton_sublist.2 member) distinct
  have drafts := filter_extractSource madeC file [m.name]
  rw [single] at drafts
  simpa only [List.mem_singleton] using drafts

/-- Modules do not interfere. A configuration with some modules of a valid one, in any order, is
valid; of every file it makes, up to order, the drafts that the other one makes for these modules,
and in the same order if the modules keep theirs. Each of its modules makes the same drafts, in the
same order, with either configuration. -/
theorem extractSource_restrict (valid : c.violations = [])
    (part : d.modules.Subperm c.modules) :
    d.violations = [] ∧ ∃ e f, ofConfig c = .ok e ∧ ofConfig d = .ok f ∧ ∀ file : SourceFile,
      (f.extractSource file).Perm
        ((e.extractSource file).filter fun draft => draft.module ∈ d.moduleNames) ∧
      (d.modules.Sublist c.modules → f.extractSource file =
        (e.extractSource file).filter fun draft => draft.module ∈ d.moduleNames) ∧
      ∀ m ∈ d.modules, ((f.extractSource file).filter fun draft => draft.module = m.name) =
        (e.extractSource file).filter fun draft => draft.module = m.name := by
  have formed := Config.violations_eq_nil_iff.1 valid
  have formedPart := formed.of_subperm part
  have validPart := Config.violations_eq_nil_iff.2 formedPart
  obtain ⟨r, routes, made⟩ := ofConfig_of_valid valid
  obtain ⟨s, routesPart, madePart⟩ := ofConfig_of_valid validPart
  refine ⟨validPart, _, _, made, madePart, fun file => ⟨?_, fun sub => ?_, fun m member => ?_⟩⟩
  · exact extractSource_of_subperm routes routesPart formed.distinct part file
  · exact extractSource_of_sublist routes routesPart formed.distinct sub file
  · rw [filter_module_extractSource routesPart formedPart.distinct member,
      filter_module_extractSource routes formed.distinct (part.subset member)]

/-- The modules of the shop in the opposite order, and the second one alone. -/
def turnedShop : Config := ⟨some "turned", shopConfig.modules.reverse⟩

def salesConfig : Config := ⟨none, shopConfig.modules.drop 1⟩

/-- Turning the modules of the shop around changes the order of drafts at most, and for each module
not even that. Sales alone has the drafts that the shop has for it. -/
theorem extractSource_restrict_shop :
    shopConfig.violations = [] ∧ turnedShop.modules.Subperm shopConfig.modules ∧
    salesConfig.modules.Sublist shopConfig.modules ∧
    (turnedShop.violations = [] ∧ ∃ e f, ofConfig shopConfig = .ok e ∧ ofConfig turnedShop = .ok f ∧
      (f.extractSource shopFile).Perm
        ((e.extractSource shopFile).filter fun draft => draft.module ∈ ["Sales", "Orders"]) ∧
      ((f.extractSource shopFile).filter fun draft => draft.module = "Sales") =
        (e.extractSource shopFile).filter fun draft => draft.module = "Sales") ∧
    salesConfig.violations = [] ∧ ∃ e f, ofConfig shopConfig = .ok e ∧
      ofConfig salesConfig = .ok f ∧ f.extractSource shopFile =
        (e.extractSource shopFile).filter fun draft => draft.module ∈ ["Sales"] := by
  have valid : shopConfig.violations = [] := by decide +kernel
  have turned : turnedShop.modules.Subperm shopConfig.modules := (List.reverse_perm _).subperm
  have sales : salesConfig.modules.Sublist shopConfig.modules := List.drop_sublist _ _
  obtain ⟨validTurned, e, f, made, madeTurned, drafts⟩ := extractSource_restrict valid turned
  obtain ⟨validSales, e', g, made', madeSales, kept⟩ := extractSource_restrict valid sales.subperm
  obtain ⟨perm, -, each⟩ := drafts shopFile
  exact ⟨valid, turned, sales,
    ⟨validTurned, e, f, made, madeTurned, perm, each _ List.mem_cons_self⟩,
    validSales, e', g, made', madeSales, (kept shopFile).2.1 sales⟩

end Extractor

end ComponentAtlas
