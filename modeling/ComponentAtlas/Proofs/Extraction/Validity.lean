import ComponentAtlas.Proofs.Extraction.Routing
import ComponentAtlas.Proofs.Glob

/-! # No configuration gets past its check

However a typed configuration was made, an extractor takes it exactly when its check finds nothing,
and that is when it is well formed. The router reads the globs once more. It has nothing to add: the
check reports every glob that cannot be read, and a blank one, which it reports as such, can be
read. -/

namespace ComponentAtlas

open Config Json

/-! ## What a router complains about -/

/-- What is wrong with a path as a glob is among its faults. Nothing of the kind is wrong with a
blank path, which is reported as blank. -/
theorem Config.globFaults_sublist_pathFaults (place : Pointer) (path : String) :
    (globFaults place path).Sublist (pathFaults place path) := by
  unfold pathFaults
  split
  · next blank =>
    obtain ⟨g, compiles⟩ := Glob.read_of_blank (List.all_eq_true.1 blank)
    rw [globFaults, compiles]
    exact List.nil_sublist _
  · exact List.Sublist.refl _

/-- A blank path is a fault of a configuration, and still it can be read. -/
example : pathFaults [] " " = [⟨[], .blank⟩] ∧ globFaults [] " " = [] := by decide +kernel

theorem Config.Module.globFaults_sublist_faults (before : List String) (place : Pointer)
    (m : Config.Module) :
    (globFaults (place.member "path") m.path).Sublist (m.faults before place) := by
  have path := globFaults_sublist_pathFaults (place.member "path") m.path
  exact path.trans ((List.sublist_append_right _ _).trans (List.sublist_append_left _ _))

namespace Router

theorem globViolations_cons (index : Nat) (m : Config.Module) (rest : List Config.Module) :
    globViolations index (m :: rest) =
      globFaults (Pointer.member [.key "modules", .index index] "path") m.path ++
        globViolations (index + 1) rest := rfl

/-- A router's complaints are among the faults of the modules, in their order. -/
theorem globViolations_sublist (before : List String) (index : Nat)
    (modules : List Config.Module) :
    (globViolations index modules).Sublist (modulesFaults before index modules) := by
  induction modules generalizing before index with
  | nil => exact List.Sublist.refl _
  | cons m rest ih =>
    rw [globViolations_cons, modulesFaults]
    exact (m.globFaults_sublist_faults before _).append (ih _ (index + 1))

theorem globViolations_eq_of_error {c : Config} {found : List Violation}
    (h : ofConfig c = .error found) : globViolations 0 c.modules = found := by
  rw [ofConfig] at h
  split at h
  · cases h
  · injection h

theorem sublist_of_error {c : Config} {found : List Violation} (h : ofConfig c = .error found) :
    found.Sublist c.violations := by
  rw [← globViolations_eq_of_error h, violations_eq_faults]
  exact globViolations_sublist [] 0 c.modules

end Router

/-! ## What an extractor takes -/

namespace Extractor

theorem ofConfig_of_violations {c : Config} (h : c.violations ≠ []) :
    ofConfig c = .error c.violations := by
  rw [ofConfig]
  split
  · next none => exact absurd none h
  · rfl

theorem exists_ofConfig_iff {c : Config} : (∃ e, ofConfig c = .ok e) ↔ c.violations = [] := by
  constructor
  · rintro ⟨e, made⟩
    refine Classical.byContradiction fun some => ?_
    rw [ofConfig_of_violations some] at made
    cases made
  · intro none
    obtain ⟨r, -, made⟩ := ofConfig_of_valid none
    exact ⟨⟨c, r⟩, made⟩

theorem eq_violations_of_error {c : Config} {found : List Violation}
    (h : ofConfig c = .error found) : found = c.violations := by
  by_cases none : c.violations = []
  · obtain ⟨r, -, made⟩ := ofConfig_of_valid none
    rw [made] at h
    cases h
  · rw [ofConfig_of_violations none] at h
    injection h with same
    exact same.symm

/-- A typed configuration has no violations exactly when it is well formed; what the check reports
is what is wrong with the configuration itself, never with the form of its document. An extractor
takes it exactly when there are no violations, and else it fails with all of them in order. What a
router would report is among them, so in an extractor no router fails. -/
theorem ofConfig_exact (c : Config) :
    (c.violations = [] ↔ c.WellFormed) ∧
    (c.violations = c.faults ∧ OfContent c.violations) ∧
    ((∃ e, ofConfig c = .ok e) ↔ c.violations = []) ∧
    (∀ found, ofConfig c = .error found → found = c.violations) ∧
    (∀ found, Router.ofConfig c = .error found → found.Sublist c.violations) ∧
    (c.violations = [] → ∃ r, Router.ofConfig c = .ok r) := by
  have same := violations_eq_faults c
  refine ⟨violations_eq_nil_iff, ⟨same, ?_⟩, exists_ofConfig_iff, fun _ => eq_violations_of_error,
    fun _ => Router.sublist_of_error, fun none => ?_⟩
  · rw [same]
    exact faults_ofContent c
  · obtain ⟨r, routed, -⟩ := ofConfig_of_valid none
    exact ⟨r, routed⟩

end Extractor

end ComponentAtlas
