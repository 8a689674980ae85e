import ComponentAtlas.Extraction.Workspace
import ComponentAtlas.Proofs.Extraction.Files
import ComponentAtlas.Proofs.FileSystem
import Mathlib.Data.List.Forall2

/-! # Extraction from a workspace

A workspace is extracted as a whole or not at all. A path belongs to it when it really leads to a
text file below the workspace's place, and what a path leads to is decided after all links have been
followed: neither dots nor links get a file of another place in. -/

namespace ComponentAtlas

open FileSystem ComponentAtlas.Path

/-! ## Paths in a workspace -/

/-- The path, as seen from the root, leads to a file that really lies below the root's place. The
file is told by its path below that place and its text. -/
inductive LeadsTo (fs : FileSystem) (root : String) (base : Place) (path : String) :
    String × String → Prop
  | file {below : Place} {bytes : List UInt8} {text : String}
      (lies : fs.resolve (Path.join root path) = .ok (base ++ below))
      (stands : fs.root.at? (base ++ below) = some (.file bytes))
      (reads : String.fromUTF8? ⟨bytes.toArray⟩ = some text) :
      LeadsTo fs root base path ("/".intercalate below, text)

/-- The path leads to a text file of the workspace. -/
def InWorkspace (fs : FileSystem) (root : String) (base : Place) (path : String) : Prop :=
  ∃ file, LeadsTo fs root base path file

/-- What is wrong with a path that does not lead to a text file of the workspace. -/
inductive Offends (fs : FileSystem) (root : String) (base : Place) (path : String) :
    WorkspaceFailure → Prop
  /-- It leads to another place. -/
  | outside {place : Place} (lies : fs.resolve (Path.join root path) = .ok place)
      (beyond : ¬ base <+: place) : Offends fs root base path (.outside (pathOf place) (pathOf base))
  | directory {below : Place} (lies : fs.resolve (Path.join root path) = .ok (base ++ below))
      (stands : IsDirectory fs.root (base ++ below)) :
      Offends fs root base path (.unreadable (Path.join root path) .isDirectory)
  | notText {below : Place} {bytes : List UInt8}
      (lies : fs.resolve (Path.join root path) = .ok (base ++ below))
      (stands : fs.root.at? (base ++ below) = some (.file bytes))
      (unread : String.fromUTF8? ⟨bytes.toArray⟩ = none) :
      Offends fs root base path (.unreadable (Path.join root path) .notText)
  /-- It leads nowhere, but is written as one below the root. -/
  | nowhere {reason : FileSystem.Failure} (lost : fs.resolve (Path.join root path) = .error reason)
      (written : components root <+: components (Path.join root path)) :
      Offends fs root base path (.unreadable (Path.join root path) reason)
  /-- It leads nowhere, and is not even written as one below the root. -/
  | elsewhere {reason : FileSystem.Failure}
      (lost : fs.resolve (Path.join root path) = .error reason)
      (written : ¬ components root <+: components (Path.join root path)) :
      Offends fs root base path (.outside (Path.join root path) root)

section

variable {fs : FileSystem} {root path : String} {base : Place}

/-- What is read of a path that can be resolved, file or not. -/
theorem readText_of_resolved {place : Place} {whole : String} (lies : fs.resolve whole = .ok place) :
    fs.readText whole = match fs.root.at? place with
      | some (.file bytes) =>
        match String.fromUTF8? ⟨bytes.toArray⟩ with
        | some text => .ok text
        | none => .error .notText
      | some (.directory _) => .error .isDirectory
      | _ => .error .missing := by
  rw [readText, lies]
  rfl

theorem relative_of_resolved {place : Place} {whole : String} (based : fs.resolve root = .ok base)
    (lies : fs.resolve whole = .ok place) :
    fs.relative whole root = match below? (pathOf base) (pathOf place) with
      | some s => .ok s
      | none => .error (pathOf place, pathOf base) := by
  cases found : below? (pathOf base) (pathOf place) with
  | none => simp only [FileSystem.relative, resolveBoth, lies, based, found]
  | some s => simp only [FileSystem.relative, resolveBoth, lies, based, found]

theorem relative_of_lost {reason : FileSystem.Failure} {whole : String}
    (lost : fs.resolve whole = .error reason) :
    fs.relative whole root = match below? root whole with
      | some s => .ok s
      | none => .error (whole, root) := by
  cases found : below? root whole with
  | none => simp only [FileSystem.relative, resolveBoth, lost, found]
  | some s => simp only [FileSystem.relative, resolveBoth, lost, found]

theorem readText_of_lost {reason : FileSystem.Failure} {whole : String}
    (lost : fs.resolve whole = .error reason) : fs.readText whole = .error reason := by
  rw [readText, lost]
  rfl

/-! ## What is read of a path -/

variable {below : Place}

theorem readBelow_eq (fs : FileSystem) (root path : String) :
    readBelow fs root path = match fs.relative (Path.join root path) root with
      | .error (p, r) => .error (.outside p r)
      | .ok relative =>
        match fs.readText (Path.join root path) with
        | .ok text => .ok (relative, text)
        | .error reason => .error (.unreadable (Path.join root path) reason) := by
  unfold readBelow
  dsimp only
  cases fs.relative (Path.join root path) root with
  | error paths => rfl
  | ok relative => rfl

/-- The root and what is resolved have names of their own. -/
theorem relative_below (named : AreNames fs.working) (based : fs.resolve root = .ok base)
    {whole : String} (lies : fs.resolve whole = .ok (base ++ below)) :
    fs.relative whole root = .ok ("/".intercalate below) := by
  have baseNames := (resolve_isResolved named based).names
  have names := (resolve_isResolved named lies).names
  have found := (below?_pathOf_eq_some_iff baseNames names).2 ⟨below, rfl, rfl⟩
  rw [relative_of_resolved based lies, found]

theorem readBelow_of_leadsTo (named : AreNames fs.working) (based : fs.resolve root = .ok base)
    {file : String × String} (leads : LeadsTo fs root base path file) :
    readBelow fs root path = .ok file := by
  cases leads with
  | @file below bytes text lies stands reads =>
    have read : fs.readText (Path.join root path) = .ok text := by
      rw [readText_of_resolved lies, stands]
      simp only [reads]
    rw [readBelow_eq, relative_below named based lies, read]

theorem readBelow_of_offends (named : AreNames fs.working) (based : fs.resolve root = .ok base)
    {failure : WorkspaceFailure} (offends : Offends fs root base path failure) :
    readBelow fs root path = .error failure := by
  cases offends with
  | @outside place lies beyond =>
    have baseNames := (resolve_isResolved named based).names
    have names := (resolve_isResolved named lies).names
    have apart := (below?_pathOf_eq_none_iff baseNames names).2 beyond
    rw [readBelow_eq, relative_of_resolved based lies, apart]
  | @directory below lies stands =>
    obtain ⟨entries, found⟩ := stands
    rw [readBelow_eq, relative_below named based lies, readText_of_resolved lies, found]
  | @notText below bytes lies stands unread =>
    have failed : fs.readText (Path.join root path) = .error .notText := by
      rw [readText_of_resolved lies, stands]
      simp only [unread]
    rw [readBelow_eq, relative_below named based lies, failed]
  | @nowhere reason lost written =>
    have found : below? root (Path.join root path) = some _ :=
      if_pos (List.isPrefixOf_iff_prefix.2 written)
    rw [readBelow_eq, relative_of_lost lost, found, readText_of_lost lost]
  | @elsewhere reason lost written =>
    have apart : below? root (Path.join root path) = none :=
      if_neg fun begins => written (List.isPrefixOf_iff_prefix.1 begins)
    rw [readBelow_eq, relative_of_lost lost, apart]

/-- A path leads to a text file of the workspace or there is something wrong with it. -/
theorem inWorkspace_or_offends (named : AreNames fs.working) (root : String) (base : Place)
    (path : String) :
    InWorkspace fs root base path ∨ ∃ failure, Offends fs root base path failure := by
  cases found : fs.resolve (Path.join root path) with
  | error reason =>
    right
    by_cases written : components root <+: components (Path.join root path)
    · exact ⟨_, .nowhere found written⟩
    · exact ⟨_, .elsewhere found written⟩
  | ok place =>
    by_cases begins : base <+: place
    · obtain ⟨below, rfl⟩ := begins
      rcases (resolve_isResolved named found).stands with ⟨bytes, stands⟩ | stands
      · cases reads : String.fromUTF8? ⟨bytes.toArray⟩ with
        | none => exact .inr ⟨_, .notText found stands reads⟩
        | some text => exact .inl ⟨_, .file found stands reads⟩
      · exact .inr ⟨_, .directory found stands⟩
    · exact .inr ⟨_, .outside found begins⟩

theorem readBelow_eq_ok_iff (named : AreNames fs.working) (based : fs.resolve root = .ok base)
    {file : String × String} :
    readBelow fs root path = .ok file ↔ LeadsTo fs root base path file := by
  refine ⟨fun read => ?_, readBelow_of_leadsTo named based⟩
  rcases inWorkspace_or_offends named root base path with ⟨other, leads⟩ | ⟨_, offends⟩
  · rw [readBelow_of_leadsTo named based leads] at read
    cases read
    exact leads
  · rw [readBelow_of_offends named based offends] at read
    cases read

theorem readBelow_eq_error_iff (named : AreNames fs.working) (based : fs.resolve root = .ok base)
    {failure : WorkspaceFailure} :
    readBelow fs root path = .error failure ↔ Offends fs root base path failure := by
  refine ⟨fun read => ?_, readBelow_of_offends named based⟩
  rcases inWorkspace_or_offends named root base path with ⟨_, leads⟩ | ⟨other, offends⟩
  · rw [readBelow_of_leadsTo named based leads] at read
    cases read
  · rw [readBelow_of_offends named based offends] at read
    cases read
    exact offends

end

/-! ## Paths in turn -/

section

variable {α β ε : Type} {f : α → Except ε β} {items : List α}

/-- Items are answered as a whole when each of them is. -/
theorem mapM_eq_ok_iff {results : List β} :
    items.mapM f = .ok results ↔ List.Forall₂ (fun a b => f a = .ok b) items results := by
  induction items generalizing results with
  | nil =>
    simp [pure, Except.pure, eq_comm]
  | cons a rest ih =>
    rw [List.mapM_cons, List.forall₂_cons_left_iff]
    simp only [← ih]
    cases f a with
    | error failure => simp [bind, Except.bind]
    | ok b =>
      cases rest.mapM f with
      | error failure => simp [bind, Except.bind]
      | ok others =>
        constructor
        · intro answered
          exact ⟨b, others, rfl, rfl, (Except.ok.inj answered).symm⟩
        · rintro ⟨_, _, first, later, rfl⟩
          cases first
          cases later
          rfl

/-- There is a list of what items are in relation to when there is something for each. -/
theorem exists_forall₂_iff {related : α → β → Prop} :
    (∃ others, List.Forall₂ related items others) ↔ ∀ a ∈ items, ∃ b, related a b := by
  induction items with
  | nil => simp
  | cons a rest ih =>
    rw [List.forall_mem_cons, ← ih]
    constructor
    · rintro ⟨_, all⟩
      cases all with
      | cons first later => exact ⟨⟨_, first⟩, _, later⟩
    · rintro ⟨⟨b, first⟩, others, later⟩
      exact ⟨b :: others, .cons first later⟩

theorem exists_mem_of_forall₂ {related : α → β → Prop} {others : List β}
    (all : List.Forall₂ related items others) {b : β} (member : b ∈ others) :
    ∃ a ∈ items, related a b := by
  induction all with
  | nil => cases member
  | cons first _ ih =>
    rcases List.mem_cons.1 member with rfl | member
    · exact ⟨_, List.mem_cons_self, first⟩
    · obtain ⟨a, listed, own⟩ := ih member
      exact ⟨a, List.mem_cons_of_mem _ listed, own⟩

/-- The first item that fails decides how all of them do. -/
theorem mapM_eq_error_iff {failure : ε} :
    items.mapM f = .error failure ↔ ∃ front a back, items = front ++ a :: back ∧
      (∀ b ∈ front, ∃ result, f b = .ok result) ∧ f a = .error failure := by
  induction items with
  | nil =>
    simp [pure, Except.pure]
  | cons a rest ih =>
    rw [List.mapM_cons]
    cases first : f a with
    | error other =>
      constructor
      · intro failed
        cases failed
        exact ⟨[], a, rest, rfl, List.forall_mem_nil _, first⟩
      · rintro ⟨front, b, back, whole, fine, failed⟩
        cases front with
        | nil =>
          obtain ⟨rfl, -⟩ := List.cons.inj whole
          rw [first] at failed
          cases failed
          rfl
        | cons c front =>
          obtain ⟨rfl, -⟩ := List.cons.inj whole
          obtain ⟨result, passed⟩ := fine _ List.mem_cons_self
          rw [first] at passed
          cases passed
    | ok result =>
      have step : (do let r ← Except.ok result; let rs ← rest.mapM f; pure (r :: rs)) =
          Except.error failure ↔ rest.mapM f = .error failure := by
        cases rest.mapM f <;> simp [bind, Except.bind, pure, Except.pure]
      rw [step, ih]
      constructor
      · rintro ⟨front, b, back, rfl, fine, failed⟩
        exact ⟨a :: front, b, back, rfl, List.forall_mem_cons.2 ⟨⟨result, first⟩, fine⟩, failed⟩
      · rintro ⟨front, b, back, whole, fine, failed⟩
        cases front with
        | nil =>
          obtain ⟨rfl, -⟩ := List.cons.inj whole
          rw [first] at failed
          cases failed
        | cons c front =>
          obtain ⟨-, rfl⟩ := List.cons.inj whole
          exact ⟨front, b, back, rfl, (List.forall_mem_cons.1 fine).2, failed⟩

end

/-! ## Drafts of a workspace -/

/-- A draft is recorded at the path of its file. -/
theorem location_of_mem_matchRule {slot : Slot} {rule : Config.Rule} {m : Config.Module}
    {file : SourceFile} {d : Draft} (member : d ∈ matchRule slot rule m file) :
    d.location.file = file.path := by
  cases rule with
  | notUsed flag => cases member
  | detect find test =>
    obtain ⟨declaration, -, found⟩ := List.mem_filterMap.1 member
    rw [draft?] at found
    split at found
    · obtain ⟨name, -, rfl⟩ := Option.map_eq_some_iff.1 found
      rfl
    · cases found

namespace Extractor

theorem location_of_mem_parsedDrafts {e : Extractor} {path content : String} {d : Draft}
    (member : d ∈ e.parsedDrafts path content) : d.location.file = Path.normalize path := by
  rw [parsedDrafts] at member
  cases dialect : Path.language? path with
  | none =>
    rw [SourceFile.parse_of_no_language dialect] at member
    cases member
  | some language =>
    rw [SourceFile.parse_of_language dialect] at member
    dsimp only at member
    rw [extractSource, List.mem_mergeSort, unordered] at member
    obtain ⟨m, -, drafted⟩ := List.mem_flatMap.1 member
    obtain ⟨slot, -, matched⟩ := List.mem_flatMap.1 drafted
    exact location_of_mem_matchRule matched

section

variable {fs : FileSystem} {root : String} {base : Place} {paths : List String}

theorem extractWorkspace_eq (e : Extractor) (fs : FileSystem) (root : String)
    (paths : List String) :
    e.extractWorkspace fs root paths = (paths.mapM (readBelow fs root)).map fun files =>
      (files.map fun file => e.parsedDrafts file.1 file.2).flatten := by
  unfold extractWorkspace
  cases paths.mapM (readBelow fs root) with
  | error failure => rfl
  | ok files =>
    simp only [bind, Except.bind, e.extractFiles_eq files]
    rfl

/-- The drafts of a workspace are those of the files that its paths lead to, in order. -/
theorem extractWorkspace_eq_ok_iff (e : Extractor) (named : AreNames fs.working)
    (based : fs.resolve root = .ok base) {drafts : List Draft} :
    e.extractWorkspace fs root paths = .ok drafts ↔
      ∃ files, List.Forall₂ (LeadsTo fs root base) paths files ∧
        drafts = (files.map fun file => e.parsedDrafts file.1 file.2).flatten := by
  have read {files : List (String × String)} :
      paths.mapM (readBelow fs root) = .ok files ↔
        List.Forall₂ (LeadsTo fs root base) paths files := by
    simp only [mapM_eq_ok_iff, readBelow_eq_ok_iff named based]
  simp only [← read]
  rw [extractWorkspace_eq]
  cases paths.mapM (readBelow fs root) with
  | error failure =>
    constructor
    · intro drafted
      cases drafted
    · rintro ⟨_, same, -⟩
      cases same
  | ok files =>
    constructor
    · intro drafted
      exact ⟨files, rfl, (Except.ok.inj drafted).symm⟩
    · rintro ⟨_, same, rfl⟩
      cases same
      rfl

/-- Extracted one by one, files have the drafts of the parsed files. -/
theorem forall₂_extractFile_iff (e : Extractor) {files : List (String × String)}
    {parts : List (List Draft)} :
    List.Forall₂ (fun file part => e.extractFile file.1 file.2 = .ok part) files parts ↔
      parts = files.map fun file => e.parsedDrafts file.1 file.2 := by
  simp only [extractFile_eq, Except.ok.injEq]
  rw [← List.forall₂_map_left_iff (R := Eq), List.forall₂_eq_eq_eq, eq_comm]

theorem extractWorkspace_eq_error_iff (e : Extractor) (named : AreNames fs.working)
    (based : fs.resolve root = .ok base) {failure : WorkspaceFailure} :
    e.extractWorkspace fs root paths = .error failure ↔ ∃ front path back,
      paths = front ++ path :: back ∧ (∀ other ∈ front, InWorkspace fs root base other) ∧
        Offends fs root base path failure := by
  have failed : paths.mapM (readBelow fs root) = .error failure ↔ ∃ front path back,
      paths = front ++ path :: back ∧ (∀ other ∈ front, InWorkspace fs root base other) ∧
        Offends fs root base path failure := by
    simp only [mapM_eq_error_iff, readBelow_eq_ok_iff named based,
      readBelow_eq_error_iff named based, InWorkspace]
  rw [← failed, extractWorkspace_eq]
  cases paths.mapM (readBelow fs root) with
  | error other => simp [Except.map]
  | ok files => simp [Except.map]

/-- The extraction of a workspace succeeds when all its paths lead to text files below the place of
its root, wherever they seem to lead. Then its drafts are those of the files in order, and each
of them is recorded below that place. Otherwise there are no drafts, but a complaint about the first
path that leads elsewhere, whatever modules there are. -/
theorem extractWorkspace_exact {c : Config} (valid : c.violations = []) {fs : FileSystem}
    (named : AreNames fs.working) {root : String} {base : Place}
    (based : fs.resolve root = .ok base) :
    ∃ e, ofConfig c = .ok e ∧ ∀ paths,
      ((∃ drafts, e.extractWorkspace fs root paths = .ok drafts) ↔
        ∀ path ∈ paths, InWorkspace fs root base path) ∧
      (∀ drafts, e.extractWorkspace fs root paths = .ok drafts ↔ ∃ files parts,
        List.Forall₂ (LeadsTo fs root base) paths files ∧
        List.Forall₂ (fun file part => e.extractFile file.1 file.2 = .ok part) files parts ∧
        drafts = parts.flatten) ∧
      (∀ drafts, e.extractWorkspace fs root paths = .ok drafts → ∀ d ∈ drafts,
        ∃ path ∈ paths, ∃ file, LeadsTo fs root base path file ∧
          d.location.file = Path.normalize file.1) ∧
      ∀ failure, e.extractWorkspace fs root paths = .error failure ↔ ∃ front path back,
        paths = front ++ path :: back ∧ (∀ other ∈ front, InWorkspace fs root base other) ∧
          Offends fs root base path failure := by
  obtain ⟨r, -, made⟩ := ofConfig_of_valid valid
  refine ⟨⟨c, r⟩, made, fun paths => ⟨?_, fun drafts => ?_, fun drafts drafted d member => ?_,
    fun failure => extractWorkspace_eq_error_iff _ named based⟩⟩
  · simp only [extractWorkspace_eq_ok_iff _ named based]
    rw [exists_comm]
    simp only [exists_and_left, exists_eq, and_true, exists_forall₂_iff, InWorkspace]
  · simp only [extractWorkspace_eq_ok_iff _ named based, forall₂_extractFile_iff]
    constructor
    · rintro ⟨files, lead, rfl⟩
      exact ⟨files, _, lead, rfl, rfl⟩
    · rintro ⟨files, parts, lead, rfl, whole⟩
      exact ⟨files, lead, whole⟩
  · obtain ⟨files, lead, rfl⟩ := (extractWorkspace_eq_ok_iff _ named based).1 drafted
    obtain ⟨file, listed, found⟩ := List.mem_flatMap.1 (List.flatMap_def ▸ member)
    obtain ⟨path, given, leads⟩ := exists_mem_of_forall₂ lead listed
    exact ⟨path, given, file, leads, location_of_mem_parsedDrafts found⟩

end

/-- A directory with a file, a link to it and a link to a file of another directory. -/
def depotFiles : FileSystem where
  root := .directory [
    ("depot", .directory [
      ("stock", .directory [("order.ts", .file "class RefillOrder {}".toUTF8.data.toList)]),
      ("first.ts", .link "stock/order.ts"), ("last.ts", .link "../private/order.ts")]),
    ("private", .directory [("order.ts", .file [])])]

theorem extractFile_order {e : Extractor} (made : ofConfig stockConfig = .ok e) :
    e.extractFile "stock/order.ts" "class RefillOrder {}" =
      .ok [⟨.useCase, "RefillOrder", ⟨"stock/order.ts", 1⟩, "Stock", "Stock"⟩] := by
  let file : SourceFile :=
    ⟨"stock/order.ts", [{ kind := .classes, name := some "RefillOrder", line := 1 }], ⟨[]⟩⟩
  have dialect : Path.language? "stock/order.ts" = some .typescript := by decide +kernel
  have text : SourceFile.ofText .typescript "stock/order.ts" "class RefillOrder {}" = file := by
    decide +kernel
  have computed : (ofConfig stockConfig).toOption.all fun e => e.unordered file =
      [⟨.useCase, "RefillOrder", ⟨"stock/order.ts", 1⟩, "Stock", "Stock"⟩] := by decide +kernel
  rw [made] at computed
  have unordered := of_decide_eq_true computed
  rw [extractFile_eq, parsedDrafts, SourceFile.parse_of_language dialect]
  dsimp only
  rw [text, extractSource, unordered, List.mergeSort_singleton]

/-- A link to a file of the directory leads to that file. A link out of the directory makes the
extraction fail. -/
theorem extractWorkspace_exact_depot :
    stockConfig.violations = [] ∧ AreNames depotFiles.working ∧
      depotFiles.resolve "/depot" = .ok ["depot"] ∧ ∃ e, ofConfig stockConfig = .ok e ∧
        e.extractWorkspace depotFiles "/depot" ["first.ts"] =
          .ok [⟨.useCase, "RefillOrder", ⟨"stock/order.ts", 1⟩, "Stock", "Stock"⟩] ∧
        e.extractWorkspace depotFiles "/depot" ["first.ts", "last.ts"] =
          .error (.outside "/private/order.ts" "/depot") := by
  have valid : stockConfig.violations = [] := by decide +kernel
  have named : AreNames depotFiles.working := List.forall_mem_nil _
  have based : depotFiles.resolve "/depot" = .ok ["depot"] := by decide +kernel
  obtain ⟨e, made, each⟩ := extractWorkspace_exact valid named based
  have inside : depotFiles.resolve (Path.join "/depot" "first.ts") =
      .ok (["depot"] ++ ["stock", "order.ts"]) := by decide +kernel
  have outside : depotFiles.resolve (Path.join "/depot" "last.ts") =
      .ok ["private", "order.ts"] := by decide +kernel
  have first : LeadsTo depotFiles "/depot" ["depot"] "first.ts"
      ("stock/order.ts", "class RefillOrder {}") := .file inside rfl (by decide +kernel)
  refine ⟨valid, named, based, e, made, ?_, ?_⟩
  · exact ((each ["first.ts"]).2.1 _).2 ⟨_, _, .cons first .nil, .cons (extractFile_order made) .nil,
      rfl⟩
  · exact ((each _).2.2.2 _).2 ⟨["first.ts"], "last.ts", [], rfl,
      List.forall_mem_singleton.2 ⟨_, first⟩, .outside outside (by decide)⟩

end Extractor

end ComponentAtlas
