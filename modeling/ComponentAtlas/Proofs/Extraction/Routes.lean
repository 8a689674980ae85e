import ComponentAtlas.Proofs.Extraction.Files
import ComponentAtlas.Proofs.Extraction.Validity
import ComponentAtlas.Proofs.Json.Pointer
import ComponentAtlas.Proofs.Path.Spellings
import ComponentAtlas.Proofs.Sorting

/-! # Routes

A router addresses modules by their places in the configuration, and only has their globs. The
modules that it leads a path to are those whose globs, read anew, select the path. Paths that are
spelled in different ways have the same routes and are recorded alike. A configuration has no router
when some of its globs cannot be read, and then each of these is reported where it stands. -/

namespace ComponentAtlas

open Json

theorem Glob.isOk_read_iff {text : String} :
    (Glob.read text).isOk = true ↔ ∃ g, Glob.read text = .ok g := by
  cases Glob.read text with
  | ok g => exact iff_of_true rfl ⟨g, rfl⟩
  | error f => exact iff_of_false nofun nofun

/-! ## Modules by their places -/

namespace Router

theorem indices_readGlobs (path : String) (index : Nat) {modules : List Config.Module}
    (compile : ∀ m ∈ modules, ∃ g, Glob.read m.path = .ok g) :
    indices path index (readGlobs modules) =
      ((modules.zipIdx index).filter fun e => selectsPath e.1.path path).map Prod.snd := by
  induction modules generalizing index with
  | nil => rfl
  | cons m rest ih =>
    rw [List.forall_mem_cons] at compile
    obtain ⟨⟨g, read⟩, later⟩ := compile
    have head : selectsPath m.path path = g.selects path := by rw [selectsPath, read]
    have globs : readGlobs (m :: rest) = g :: readGlobs rest := by
      rw [readGlobs, List.filterMap_cons, read]
      rfl
    rw [globs, indices, ih (index + 1) later, List.zipIdx_cons, List.filter_cons, head]
    split <;> rfl

variable {c : Config} {r : Router}

theorem globs_compile (made : ofConfig c = .ok r) :
    ∀ m ∈ c.modules, ∃ g, Glob.read m.path = .ok g := by
  rw [ofConfig] at made
  split at made
  · next none => exact globViolations_eq_nil_iff.1 none
  · cases made

theorem ofConfig_of_globs (compile : ∀ m ∈ c.modules, ∃ g, Glob.read m.path = .ok g) :
    ofConfig c = .ok ⟨readGlobs c.modules⟩ := by
  rw [ofConfig, globViolations_eq_nil_iff.2 compile]

/-- A router leads a path to the places of the modules whose globs, read anew, select it. -/
theorem route_eq (made : ofConfig c = .ok r) (path : String) :
    r.route path =
      (c.modules.zipIdx.filter fun e => selectsPath e.1.path path).map Prod.snd := by
  have compile := globs_compile made
  rw [ofConfig_of_globs compile] at made
  cases made
  exact indices_readGlobs path 0 compile

theorem mem_route_iff (made : ofConfig c = .ok r) {path : String} {i : Nat} :
    i ∈ r.route path ↔ ∃ m, c.modules[i]? = some m ∧ selectsPath m.path path = true := by
  rw [route_eq made, List.mem_map]
  constructor
  · rintro ⟨⟨m, j⟩, routed, rfl⟩
    obtain ⟨placed, selected⟩ := List.mem_filter.1 routed
    exact ⟨m, List.mem_zipIdx_iff_getElem?.1 placed, selected⟩
  · rintro ⟨m, placed, selected⟩
    exact ⟨(m, i), List.mem_filter.2 ⟨List.mem_zipIdx_iff_getElem?.2 placed, selected⟩, rfl⟩

/-- At the places that a router leads to stand the modules that the path belongs to, in order. -/
theorem map_route (made : ofConfig c = .ok r) (path : String) :
    (r.route path).map (fun i => c.modules[i]?) = (c.modulesFor path).map some := by
  let selected (e : Config.Module × Nat) : Bool := selectsPath e.1.path path
  have placed : ∀ e ∈ c.modules.zipIdx.filter selected, c.modules[e.2]? = some e.1 :=
    fun e routed => List.mem_zipIdx_iff_getElem?.1 (List.mem_filter.1 routed).1
  calc (r.route path).map (fun i => c.modules[i]?)
      = (c.modules.zipIdx.filter selected).map fun e => c.modules[e.2]? := by
        rw [route_eq made, List.map_map]
        rfl
    _ = (c.modules.zipIdx.filter selected).map fun e => some e.1 := List.map_congr_left placed
    _ = (((c.modules.zipIdx.map Prod.fst).filter fun m => selectsPath m.path path)).map some := by
        rw [List.filter_map, List.map_map]
        rfl
    _ = (c.modulesFor path).map some := by rw [List.zipIdx_map_fst, Config.modulesFor]

end Router

/-! ## Globs that cannot be read -/

/-- A glob that cannot be read: the place of its module, its text, and what is wrong with it. -/
structure BadGlob where
  index : Nat
  text : String
  fault : Glob.Fault

namespace BadGlob

/-- The complaint about the glob, at the path of its module. -/
def violation (b : BadGlob) : Config.Violation :=
  ⟨[.key "modules", .index b.index, .key "path"], .badGlob b.text b.fault⟩

/-- The glob is that of a module of the configuration. -/
def IsIn (b : BadGlob) (c : Config) : Prop :=
  ∃ m, c.modules[b.index]? = some m ∧ m.path = b.text ∧ Glob.read b.text = .error b.fault

/-- The bad glob of a module at a place, if its glob is bad. -/
def of? (e : Config.Module × Nat) : Option BadGlob :=
  match Glob.read e.1.path with
  | .ok _ => none
  | .error fault => some ⟨e.2, e.1.path, fault⟩

/-- The bad globs of a configuration, in the order of its modules. -/
def all (c : Config) : List BadGlob := c.modules.zipIdx.filterMap of?

theorem of?_eq_some_iff {e : Config.Module × Nat} {b : BadGlob} :
    of? e = some b ↔
      b.index = e.2 ∧ e.1.path = b.text ∧ Glob.read b.text = .error b.fault := by
  rw [of?]
  constructor
  · intro found
    split at found
    · cases found
    · next bad =>
      cases found
      exact ⟨rfl, rfl, bad⟩
  · rcases b with ⟨index, text, fault⟩
    rintro ⟨rfl, rfl, bad⟩
    rw [bad]

theorem mem_all_iff {c : Config} {b : BadGlob} : b ∈ all c ↔ b.IsIn c := by
  simp only [all, List.mem_filterMap, of?_eq_some_iff]
  constructor
  · rintro ⟨⟨m, i⟩, placed, rfl, path, bad⟩
    exact ⟨m, List.mem_zipIdx_iff_getElem?.1 placed, path, bad⟩
  · rintro ⟨m, placed, path, bad⟩
    exact ⟨(m, b.index), List.mem_zipIdx_iff_getElem?.2 placed, rfl, path, bad⟩

theorem all_pairwise (c : Config) : (all c).Pairwise fun a b => a.index < b.index := by
  refine List.pairwise_filterMap.2 ((pairwise_zipIdx c.modules).imp ?_)
  intro d e lower a foundA b foundB
  rw [(of?_eq_some_iff.1 foundA).1, (of?_eq_some_iff.1 foundB).1]
  exact lower

theorem violation_text (b : BadGlob) :
    b.violation.text =
      "/modules/" ++ toString b.index ++ "/path: " ++ Glob.complaint b.text b.fault := by
  have place : b.violation.place.text = "/" ++ "modules" ++ "/" ++ toString b.index ++ "/" ++
      "path" := Pointer.text_item_member (by decide) (by decide) b.index
  have first : "/modules/" = "/" ++ "modules" ++ "/" := by decide +kernel
  have last : "/path: " = "/" ++ "path" ++ ": " := by decide +kernel
  rw [Config.Violation.text, place, first, last]
  simp only [String.append_assoc]
  rfl

end BadGlob

namespace Router

theorem globViolations_eq_map (index : Nat) (modules : List Config.Module) :
    globViolations index modules =
      ((modules.zipIdx index).filterMap BadGlob.of?).map BadGlob.violation := by
  induction modules generalizing index with
  | nil => rfl
  | cons m rest ih =>
    rw [globViolations, ih, List.zipIdx_cons, List.filterMap_cons, BadGlob.of?]
    cases Glob.read m.path <;> rfl

/-- A router fails with the complaints about the bad globs of its configuration. -/
theorem violations_eq_of_error {c : Config} {found : List Config.Violation}
    (failed : ofConfig c = .error found) : found = (BadGlob.all c).map BadGlob.violation := by
  rw [← globViolations_eq_of_error failed, globViolations_eq_map, BadGlob.all]

theorem exists_error_iff {c : Config} :
    (∃ found, ofConfig c = .error found) ↔ ∃ m ∈ c.modules, ∃ f, Glob.read m.path = .error f := by
  constructor
  · rintro ⟨found, failed⟩
    refine Classical.byContradiction fun none => ?_
    have compile : ∀ m ∈ c.modules, ∃ g, Glob.read m.path = .ok g := by
      intro m member
      cases read : Glob.read m.path with
      | ok g => exact ⟨g, rfl⟩
      | error f => exact absurd ⟨m, member, f, read⟩ none
    rw [ofConfig_of_globs compile] at failed
    cases failed
  · rintro ⟨m, member, f, bad⟩
    cases made : ofConfig c with
    | error found => exact ⟨found, rfl⟩
    | ok r =>
      obtain ⟨g, read⟩ := globs_compile made m member
      rw [bad] at read
      cases read

end Router

/-! ## Paths spelled in different ways -/

section Spelling

variable {p q : String} (alike : Path.normalize p = Path.normalize q)

include alike

theorem Router.route_of_normalize (r : Router) : r.route p = r.route q := by
  rw [← r.route_normalize p, alike, r.route_normalize]

theorem selectsPath_of_normalize (glob : String) : selectsPath glob p = selectsPath glob q := by
  unfold selectsPath
  cases Glob.read glob with
  | error _ => rfl
  | ok g =>
    show g.selects p = g.selects q
    rw [← g.selects_normalize p, alike, g.selects_normalize]

theorem Config.modulesFor_of_normalize (c : Config) : c.modulesFor p = c.modulesFor q := by
  unfold modulesFor
  exact congrArg (c.modules.filter ·) (funext fun m => selectsPath_of_normalize alike m.path)

end Spelling

theorem SourceFile.path_of_parse {path content : String} {file : SourceFile}
    (parsed : parse path content = .ok file) : file.path = Path.normalize path := by
  rw [parse] at parsed
  split at parsed
  · cases parsed
    rfl
  · cases parsed

/-! ## Routing as a whole -/

namespace Router

/-- A router agrees with globs read anew. It leads a path, in ascending order, to the places of the
modules whose globs select the path, and these are the modules that the path belongs to. Paths with
the same normal spelling belong to the same modules and are recorded alike; such are a path with
slashes written as backslashes, a path behind dots, and the normal spelling itself. A configuration
has no router exactly when one of its globs cannot be read; then there is one complaint for every
such glob, in the order of the modules. -/
theorem route_exact (c : Config) :
    ((∀ m ∈ c.modules, ∃ g, Glob.read m.path = .ok g) →
      ∃ r, ofConfig c = .ok r ∧ ∀ path,
        (r.route path).Pairwise (· < ·) ∧
        (∀ i, i ∈ r.route path ↔
          ∃ m, c.modules[i]? = some m ∧ selectsPath m.path path = true) ∧
        (r.route path).map (fun i => c.modules[i]?) = (c.modulesFor path).map some) ∧
    (∀ p q, Path.normalize p = Path.normalize q →
      (∀ r : Router, r.route p = r.route q) ∧
      (∀ glob, selectsPath glob p = selectsPath glob q) ∧
      c.modulesFor p = c.modulesFor q ∧
      (∀ declarations imports, (SourceFile.ofParts p declarations imports).path =
        (SourceFile.ofParts q declarations imports).path) ∧
      ∀ content other file again, SourceFile.parse p content = .ok file →
        SourceFile.parse q other = .ok again → file.path = again.path) ∧
    (∀ p, (∀ q, Path.BackslashedAs p q → Path.normalize p = Path.normalize q) ∧
      (∀ dots, Path.AreLeadingDots dots →
        Path.normalize p = Path.normalize (String.join dots ++ p)) ∧
      Path.normalize p = Path.normalize (Path.normalize p)) ∧
    ((∃ found, ofConfig c = .error found) ↔
      ∃ m ∈ c.modules, ∃ f, Glob.read m.path = .error f) ∧
    ∀ found, ofConfig c = .error found →
      ∃ bad : List BadGlob, found = bad.map BadGlob.violation ∧
        (∀ b, b ∈ bad ↔ b.IsIn c) ∧ (bad.Pairwise fun a b => a.index < b.index) ∧
        found.map Config.Violation.text = bad.map fun b =>
          "/modules/" ++ toString b.index ++ "/path: " ++ Glob.complaint b.text b.fault := by
  refine ⟨fun compile => ?_, fun p q alike => ?_, fun p => ?_, exists_error_iff,
    fun found failed => ?_⟩
  · have made := ofConfig_of_globs compile
    exact ⟨_, made, fun path =>
      ⟨route_pairwise _ path, fun _ => mem_route_iff made, map_route made path⟩⟩
  · refine ⟨fun r => r.route_of_normalize alike, selectsPath_of_normalize alike,
      c.modulesFor_of_normalize alike, fun _ _ => alike, fun _ _ _ _ parsed likewise => ?_⟩
    rw [SourceFile.path_of_parse parsed, SourceFile.path_of_parse likewise, alike]
  · exact ⟨fun q h => (Path.normalize_of_backslashedAs h).symm,
      fun dots leading => (Path.normalize_dots leading p).symm, (Path.normalize_normalize p).symm⟩
  · have complaints := violations_eq_of_error failed
    refine ⟨BadGlob.all c, complaints, fun _ => BadGlob.mem_all_iff, BadGlob.all_pairwise c, ?_⟩
    rw [complaints, List.map_map]
    exact List.map_congr_left fun b _ => b.violation_text

/-- Modules without rules: one for the files below a directory, and another with a glob of its
own. -/
def depotConfig (glob : String) : Config :=
  let unused : Config.Rule := .notUsed true
  let module (name path : String) : Config.Module :=
    ⟨name, path, unused, unused, unused, unused, unused, unused⟩
  ⟨none, [module "Depot" "depot/**", module "Orders" glob]⟩

/-- A file in the directory itself belongs to both modules, in whichever way its path is spelled.
With stars that do not stand alone between slashes there is no router. -/
theorem route_exact_depot :
    (∀ m ∈ (depotConfig "depot/*.ts").modules, ∃ g, Glob.read m.path = .ok g) ∧
    (∃ r, ofConfig (depotConfig "depot/*.ts") = .ok r ∧
      0 ∈ r.route "depot/in/order.ts" ∧ 1 ∉ r.route "depot/in/order.ts" ∧
      r.route "./.\\depot\\order.ts" = r.route "depot/order.ts" ∧
      (r.route "depot/order.ts").map (fun i => (depotConfig "depot/*.ts").modules[i]?) =
        (depotConfig "depot/*.ts").modules.map some) ∧
    ∃ found, ofConfig (depotConfig "depot/**.ts") = .error found := by
  have readable : ((depotConfig "depot/*.ts").modules.all fun m => (Glob.read m.path).isOk) =
      true := by decide
  have compile : ∀ m ∈ (depotConfig "depot/*.ts").modules, ∃ g, Glob.read m.path = .ok g :=
    fun m member => Glob.isOk_read_iff.1 (List.all_eq_true.1 readable m member)
  have same : Path.normalize "./.\\depot\\order.ts" = Path.normalize "depot/order.ts" := by
    decide +kernel
  have both : (depotConfig "depot/*.ts").modulesFor "depot/order.ts" =
      (depotConfig "depot/*.ts").modules :=
    List.filter_eq_self.2 (List.all_eq_true.1 (by decide))
  obtain ⟨routes, spelled, -⟩ := route_exact (depotConfig "depot/*.ts")
  obtain ⟨r, made, each⟩ := routes compile
  obtain ⟨-, leads, -⟩ := each "depot/in/order.ts"
  obtain ⟨-, -, modules⟩ := each "depot/order.ts"
  obtain ⟨-, -, -, fails, -⟩ := route_exact (depotConfig "depot/**.ts")
  refine ⟨compile, ⟨r, made, (leads 0).2 ⟨_, rfl, by decide⟩, ?_, (spelled _ _ same).1 r, ?_⟩,
    fails.2 ⟨_, List.mem_cons_of_mem _ List.mem_cons_self, ⟨.starsInComponent, 8⟩, by decide⟩⟩
  · intro routed
    obtain ⟨m, second, selected⟩ := (leads 1).1 routed
    cases second
    exact absurd selected (by decide)
  · rw [modules, both]

end Router

end ComponentAtlas
