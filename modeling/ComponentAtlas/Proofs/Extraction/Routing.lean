import ComponentAtlas.Extraction.Extractor
import ComponentAtlas.Proofs.Config.WellFormed

/-! # Routers of checked configurations

A router leads a path to modules of its configuration, in their order and to none twice. A
configuration without violations has a router, so it has an extractor: its check reads every glob
that the router reads. Its modules have names of their own. -/

namespace ComponentAtlas

namespace Router

theorem globViolations_eq_nil_iff {index : Nat} {modules : List Config.Module} :
    globViolations index modules = [] ↔ ∀ m ∈ modules, ∃ g, Glob.read m.path = .ok g := by
  induction modules generalizing index with
  | nil => simp [globViolations]
  | cons m rest ih =>
    rw [globViolations, List.append_eq_nil_iff, ih, List.forall_mem_cons]
    cases Glob.read m.path <;> simp

theorem indices_eq (path : String) (index : Nat) (globs : List Glob) :
    indices path index globs =
      ((globs.zipIdx index).filter fun e => e.1.selects path).map Prod.snd := by
  induction globs generalizing index with
  | nil => rfl
  | cons g rest ih =>
    rw [indices, ih, List.zipIdx_cons, List.filter_cons]
    by_cases selected : g.selects path = true <;> simp [selected]

theorem route_sublist (r : Router) (path : String) :
    (r.route path).Sublist (List.range' 0 r.globs.length) := by
  rw [route, indices_eq, ← List.zipIdx_map_snd]
  exact List.filter_sublist.map Prod.snd

/-- A path is routed to modules one after another, and to none twice. -/
theorem route_pairwise (r : Router) (path : String) : (r.route path).Pairwise (· < ·) :=
  List.Pairwise.sublist (r.route_sublist path) (List.pairwise_lt_range' 1)

theorem lt_of_mem_route {r : Router} {path : String} {i : Nat} (routed : i ∈ r.route path) :
    i < r.globs.length := by
  have inside := (r.route_sublist path).subset routed
  rw [List.mem_range'_1] at inside
  omega

/-- The router of a configuration leads to its modules only. -/
theorem lt_length_of_mem_route {c : Config} {r : Router} (made : ofConfig c = .ok r)
    {path : String} {i : Nat} (routed : i ∈ r.route path) : i < c.modules.length := by
  rw [ofConfig] at made
  split at made
  · cases made
    exact Nat.lt_of_lt_of_le (lt_of_mem_route routed) (List.length_filterMap_le _ _)
  · cases made

end Router

/-- No two modules of a configuration without violations have the same name. -/
theorem Config.name_ne_of_valid {c : Config} (h : c.violations = []) {i j : Nat} {m n : Module}
    (first : c.modules[i]? = some m) (second : c.modules[j]? = some n) (apart : i ≠ j) :
    m.name ≠ n.name := by
  obtain ⟨_, rfl⟩ := List.getElem?_eq_some_iff.1 first
  obtain ⟨_, rfl⟩ := List.getElem?_eq_some_iff.1 second
  have distinct := List.pairwise_iff_getElem.1 (violations_eq_nil_iff.1 h).distinct
  rcases Nat.lt_or_gt_of_ne apart with before | behind
  · exact distinct _ _ _ _ before
  · exact (distinct _ _ _ _ behind).symm

/-- The globs of a configuration without violations can all be read. -/
theorem Config.globs_of_valid {c : Config} (h : c.violations = []) :
    ∀ m ∈ c.modules, ∃ g, Glob.read m.path = .ok g :=
  fun m member => ((violations_eq_nil_iff.1 h).each m member).glob

/-- A configuration without violations has a router and an extractor. -/
theorem Extractor.ofConfig_of_valid {c : Config} (h : c.violations = []) :
    ∃ r, Router.ofConfig c = .ok r ∧ Extractor.ofConfig c = .ok ⟨c, r⟩ := by
  have routed : Router.ofConfig c = .ok ⟨Router.readGlobs c.modules⟩ := by
    rw [Router.ofConfig, Router.globViolations_eq_nil_iff.2 (Config.globs_of_valid h)]
  refine ⟨_, routed, ?_⟩
  rw [Extractor.ofConfig, h]
  show (Router.ofConfig c).map _ = _
  rw [routed]
  rfl

end ComponentAtlas
