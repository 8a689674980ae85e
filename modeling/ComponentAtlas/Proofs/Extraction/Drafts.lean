import ComponentAtlas.Proofs.Extraction.Files
import ComponentAtlas.Proofs.Script.Grammar

/-! # What drafts say

Extraction of files never fails, and what it finds is a declaration of one of the files in one of
the modules: a draft has the name of a module and a line of its file. -/

namespace ComponentAtlas

open Source

variable {last : Nat}

/-- The draft belongs to a module of the configuration and stands on a line up to the last. -/
structure Draft.Within (c : Config) (last : Nat) (d : Draft) : Prop where
  named : ∃ m ∈ c.modules, d.domain = m.name ∧ d.module = m.name
  line_pos : 1 ≤ d.location.line
  line_le : d.location.line ≤ last

theorem draft?_within {c : Config} {file : SourceFile} {m : Config.Module} {slot : Slot}
    {find : DeclarationKind} {test : Config.Predicate} {d : Declaration} {draft : Draft}
    (listed : m ∈ c.modules) (line : Tree.HasLine last d)
    (h : draft? file m slot find test d = some draft) : draft.Within c (last + 1) := by
  rw [draft?] at h
  split at h
  · obtain ⟨name, -, rfl⟩ := Option.map_eq_some_iff.1 h
    exact ⟨⟨m, listed, rfl, rfl⟩, line.1, line.2⟩
  · cases h

theorem matchRule_within {c : Config} {file : SourceFile} {m : Config.Module} {slot : Slot}
    {rule : Config.Rule} (listed : m ∈ c.modules)
    (lines : ∀ d ∈ file.declarations, Tree.HasLine last d) :
    ∀ draft ∈ matchRule slot rule m file, draft.Within c (last + 1) := by
  intro draft member
  cases rule with
  | notUsed flag => cases member
  | detect find test =>
    obtain ⟨d, declared, found⟩ := List.mem_filterMap.1 member
    exact draft?_within listed (lines d declared) found

namespace Extractor

theorem moduleDrafts_within {c : Config} {file : SourceFile} {m : Config.Module}
    (listed : m ∈ c.modules) (lines : ∀ d ∈ file.declarations, Tree.HasLine last d) :
    ∀ draft ∈ moduleDrafts file m, draft.Within c (last + 1) := by
  intro draft member
  obtain ⟨slot, -, found⟩ := List.mem_flatMap.1 member
  exact matchRule_within listed lines draft found

theorem extractSource_within {e : Extractor} {file : SourceFile}
    (lines : ∀ d ∈ file.declarations, Tree.HasLine last d) :
    ∀ draft ∈ e.extractSource file, draft.Within e.config (last + 1) := by
  intro draft member
  rw [extractSource, List.mem_mergeSort, unordered] at member
  obtain ⟨m, routed, found⟩ := List.mem_flatMap.1 member
  obtain ⟨i, -, indexed⟩ := List.mem_filterMap.1 routed
  exact moduleDrafts_within (List.mem_of_getElem? indexed) lines draft found

/-- The declarations of a parsed file stand on its lines. -/
theorem ofText_hasLine (language : Language) (path content : String) :
    ∀ d ∈ (SourceFile.ofText language path content).declarations,
      Tree.HasLine (content.toList.count '\n') d :=
  Tree.declarations_hasLine (Script.read_within language content)

/-- The drafts of one file. A file that no dialect reads has none. -/
theorem parsedDrafts_within (e : Extractor) (path content : String) :
    ∀ draft ∈ e.parsedDrafts path content,
      draft.Within e.config (content.toList.count '\n' + 1) := by
  rw [parsedDrafts]
  cases dialect : Path.language? path with
  | none =>
    rw [SourceFile.parse_of_no_language dialect]
    exact List.forall_mem_nil _
  | some language =>
    rw [SourceFile.parse_of_language dialect]
    exact extractSource_within (ofText_hasLine language path content)

/-- Extraction of files gives drafts of the configuration's modules, on lines up to the last if no
file has more line feeds than that allows. -/
theorem extractFiles_within (e : Extractor) {files : List (String × String)}
    (short : ∀ file ∈ files, file.2.toList.count '\n' < last) :
    ∃ drafts, e.extractFiles files = .ok drafts ∧ ∀ d ∈ drafts, d.Within e.config last := by
  refine ⟨_, e.extractFiles_eq files, fun d member => ?_⟩
  obtain ⟨file, listed, found⟩ := List.mem_flatMap.1 (List.flatMap_def ▸ member)
  obtain ⟨named, positive, bounded⟩ := e.parsedDrafts_within file.1 file.2 d found
  exact ⟨named, positive, Nat.le_trans bounded (short file listed)⟩

end Extractor

end ComponentAtlas
