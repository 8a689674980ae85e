import ComponentAtlas.Proofs.Extraction.Routing
import ComponentAtlas.Proofs.Glob
import Mathlib.Logic.Relation

/-! # Files one by one and in batches

The extraction of a file looks at its path before the text is read, and passes over a file without
a module or a dialect. It finds what is found in the parsed file all the same: the path that a
parsed file records is routed like the one that was given. So no file fails, and a batch comes to
the drafts of its files in order, whatever the order in which the files are looked at. -/

namespace ComponentAtlas

/-- A path is routed alike in every spelling. -/
@[simp] theorem Router.route_normalize (r : Router) (path : String) :
    r.route (Path.normalize path) = r.route path := by
  simp only [route, indices_eq, Glob.selects_normalize]

namespace SourceFile

variable {path content : String} {language : Language}

theorem parse_of_language (dialect : Path.language? path = some language) :
    parse path content = .ok (.ofText language path content) := by
  rw [parse, dialect]

theorem parse_of_no_language (silent : Path.language? path = none) :
    parse path content = .error (.unsupported path) := by
  rw [parse, silent]

theorem language?_of_error {failure : Failure} (failed : parse path content = .error failure) :
    Path.language? path = none := by
  cases dialect : Path.language? path with
  | none => rfl
  | some language =>
    rw [parse_of_language dialect] at failed
    cases failed

end SourceFile

namespace Extractor

/-! ## One file -/

theorem extractSource_of_unrouted {e : Extractor} {file : SourceFile}
    (unrouted : e.router.route file.path = []) : e.extractSource file = [] := by
  rw [extractSource, unordered, unrouted, List.filterMap_nil, List.flatMap_nil,
    List.mergeSort_nil]

/-- A file that a path's dialect reads has the drafts of the parsed file, also when it is passed
over. -/
theorem extractFile_of_language (e : Extractor) {path : String} {language : Language}
    (dialect : Path.language? path = some language) (content : String) :
    e.extractFile path content = .ok (e.extractSource (.ofText language path content)) := by
  rw [extractFile]
  split
  · next passed =>
    have unrouted : e.router.route (Path.normalize path) = [] := by
      rw [Router.route_normalize]
      exact List.isEmpty_iff.1 passed
    rw [extractSource_of_unrouted unrouted]
  · rw [dialect, if_neg (by simp), SourceFile.parse_of_language dialect]
    rfl

theorem extractFile_of_no_language (e : Extractor) {path : String}
    (silent : Path.language? path = none) (content : String) :
    e.extractFile path content = .ok [] := by
  rw [extractFile, silent]
  split <;> rfl

/-- The drafts of the file that a text is, if it can be parsed. -/
def parsedDrafts (e : Extractor) (path content : String) : List Draft :=
  match SourceFile.parse path content with
  | .ok file => e.extractSource file
  | .error _ => []

/-- The extraction of a file never fails. -/
theorem extractFile_eq (e : Extractor) (path content : String) :
    e.extractFile path content = .ok (e.parsedDrafts path content) := by
  rw [parsedDrafts]
  cases dialect : Path.language? path with
  | none =>
    rw [SourceFile.parse_of_no_language dialect, e.extractFile_of_no_language dialect]
  | some language =>
    rw [SourceFile.parse_of_language dialect, e.extractFile_of_language dialect]

/-- The drafts of a file are those of the parsed file. A file that cannot be parsed, which is for
its extension, has none. -/
theorem extractFile_agrees (e : Extractor) (path content : String) :
    ∃ drafts, e.extractFile path content = .ok drafts ∧
      (∀ file, SourceFile.parse path content = .ok file → drafts = e.extractSource file) ∧
      ∀ failure, SourceFile.parse path content = .error failure →
        failure = .unsupported path ∧ Path.language? path = none ∧ drafts = [] := by
  refine ⟨_, e.extractFile_eq path content, fun file parsed => ?_, fun failure failed => ?_⟩
  · rw [parsedDrafts, parsed]
  · have silent := SourceFile.language?_of_error failed
    rw [SourceFile.parse_of_no_language silent] at failed
    injection failed with same
    rw [parsedDrafts, SourceFile.parse_of_no_language silent]
    exact ⟨same.symm, silent, rfl⟩

theorem extractFiles_eq (e : Extractor) (files : List (String × String)) :
    e.extractFiles files = .ok (files.map fun file => e.parsedDrafts file.1 file.2).flatten := by
  have each : (fun file : String × String => e.extractFile file.1 file.2) =
      fun file => pure (e.parsedDrafts file.1 file.2) :=
    funext fun file => e.extractFile_eq file.1 file.2
  show (files.mapM fun file => e.extractFile file.1 file.2).map List.flatten = _
  rw [each, List.mapM_pure]
  rfl

end Extractor

/-! ## Many files at once -/

namespace Batch

/-- What is known of the files of a batch: a place for each, empty until it has been looked at. -/
abbrev Answers := List (Option (Except SourceFile.Failure (List Draft)))

/-- No file has been looked at. -/
def start (files : List (String × String)) : Answers := files.map fun _ => none

/-- One more file is looked at. It may be any of those that have not been. -/
inductive Step (e : Extractor) (files : List (String × String)) : Answers → Answers → Prop
  | extract {answers : Answers} {i : Nat} {file : String × String} (listed : files[i]? = some file)
      (waiting : answers[i]? = some none) :
      Step e files answers (answers.set i (some (e.extractFile file.1 file.2)))

/-- What answers come to: any failure that is among them, or all drafts in order, once there is an
answer for every file. -/
inductive Outcome : Answers → Except SourceFile.Failure (List Draft) → Prop
  | failed {answers : Answers} {failure : SourceFile.Failure}
      (found : some (.error failure) ∈ answers) : Outcome answers (.error failure)
  | collected (lists : List (List Draft)) :
      Outcome (lists.map fun drafts => some (.ok drafts)) (.ok lists.flatten)

variable {e : Extractor} {files : List (String × String)} {answers next : Answers}

/-- Every answer is that of its own file. -/
structure Sound (e : Extractor) (files : List (String × String)) (answers : Answers) : Prop where
  length_eq : answers.length = files.length
  own : ∀ (i : Nat) (answer : Except SourceFile.Failure (List Draft)),
    answers[i]? = some (some answer) →
      ∃ file, files[i]? = some file ∧ answer = .ok (e.parsedDrafts file.1 file.2)

theorem sound_start (e : Extractor) (files : List (String × String)) :
    Sound e files (start files) := by
  refine ⟨List.length_map _, fun i answer found => ?_⟩
  rw [start, List.getElem?_map] at found
  obtain ⟨_, -, same⟩ := Option.map_eq_some_iff.1 found
  cases same

theorem Sound.step (h : Sound e files answers) (step : Step e files answers next) :
    Sound e files next := by
  cases step with
  | @extract i file listed waiting =>
    refine ⟨by rw [List.length_set, h.length_eq], fun j answer found => ?_⟩
    by_cases same : i = j
    · subst same
      have inside := (List.getElem?_eq_some_iff.1 waiting).1
      rw [List.getElem?_set_self inside, e.extractFile_eq] at found
      cases found
      exact ⟨file, listed, rfl⟩
    · rw [List.getElem?_set_ne same] at found
      exact h.own j answer found

/-- However far a batch has come, its answers are those of the files. -/
theorem sound_of_run (run : Relation.ReflTransGen (Step e files) (start files) answers) :
    Sound e files answers := by
  induction run with
  | refl => exact sound_start e files
  | tail _ step ih => exact ih.step step

/-- The answers to all files. -/
theorem Sound.eq_of_full (h : Sound e files answers) (full : none ∉ answers) :
    answers = (files.map fun file => e.parsedDrafts file.1 file.2).map fun d => some (.ok d) := by
  refine List.ext_getElem (by simp [h.length_eq]) fun i inside _ => ?_
  cases found : answers[i] with
  | none => exact absurd (found ▸ List.getElem_mem inside) full
  | some answer =>
    obtain ⟨file, listed, rfl⟩ := h.own i answer (List.getElem?_eq_some_iff.2 ⟨inside, found⟩)
    obtain ⟨_, rfl⟩ := List.getElem?_eq_some_iff.1 listed
    rw [List.getElem_map, List.getElem_map]

/-- Whatever answers come to, it is what the files come to one after another. -/
theorem Sound.outcome_eq {result : Except SourceFile.Failure (List Draft)}
    (h : Sound e files answers) (outcome : Outcome answers result) :
    result = e.extractFiles files := by
  rw [e.extractFiles_eq]
  cases outcome with
  | failed found =>
    obtain ⟨i, placed⟩ := List.mem_iff_getElem?.1 found
    obtain ⟨file, -, answered⟩ := h.own i _ placed
    cases answered
  | collected lists =>
    have all := h.eq_of_full (by simp)
    rw [(List.map_inj_right fun a b same => by injections).1 all]

/-- A batch that has come to nothing yet has a file to look at. -/
theorem Sound.progress (h : Sound e files answers) :
    (∃ result, Outcome answers result) ∨ ∃ next, Step e files answers next := by
  by_cases waiting : none ∈ answers
  · obtain ⟨i, placed⟩ := List.mem_iff_getElem?.1 waiting
    have inside : i < files.length := h.length_eq ▸ (List.getElem?_eq_some_iff.1 placed).1
    exact .inr ⟨_, .extract (List.getElem?_eq_getElem inside) placed⟩
  · rw [h.eq_of_full waiting]
    exact .inl ⟨_, .collected _⟩

/-- With every step there is one file less to look at. -/
theorem Step.waiting_lt (step : Step e files answers next) :
    next.countP Option.isNone < answers.countP Option.isNone := by
  cases step with
  | @extract i file listed waiting =>
    obtain ⟨inside, placed⟩ := List.getElem?_eq_some_iff.1 waiting
    have some : 0 < answers.countP Option.isNone :=
      List.countP_pos_iff.2 ⟨none, List.mem_of_getElem? waiting, rfl⟩
    rw [List.countP_set inside, placed]
    simp only [Option.isNone_none, Option.isNone_some, if_pos, Bool.false_eq_true, if_false]
    omega

/-- No batch goes on for ever. -/
theorem wellFounded_step (e : Extractor) (files : List (String × String)) :
    WellFounded fun next answers => Step e files answers next :=
  Subrelation.wf (fun step => step.waiting_lt)
    (measure fun answers : Answers => answers.countP Option.isNone).wf

/-- The batch comes to that result by every schedule: none gets stuck, none goes on for ever, and
there is no other result. -/
structure ComesTo (e : Extractor) (files : List (String × String))
    (result : Except SourceFile.Failure (List Draft)) : Prop where
  progress : ∀ answers, Relation.ReflTransGen (Step e files) (start files) answers →
    (∃ some, Outcome answers some) ∨ ∃ next, Step e files answers next
  ends : WellFounded fun next answers => Step e files answers next
  only : ∀ answers, Relation.ReflTransGen (Step e files) (start files) answers →
    ∀ some, Outcome answers some → some = result

/-- A batch comes to what its files come to one after another. -/
theorem comesTo_extractFiles (e : Extractor) (files : List (String × String)) :
    ComesTo e files (e.extractFiles files) where
  progress _ run := (sound_of_run run).progress
  ends := wellFounded_step e files
  only _ run _ outcome := (sound_of_run run).outcome_eq outcome

end Batch

namespace Extractor

/-- Extraction of files agrees with extraction of parsed files. With a configuration without
violations no file fails: it has the drafts of the parsed file, or none if it cannot be parsed, and
then because its extension selects no dialect. For every dialect that is selected there is a
grammar. A batch of files has their drafts in order, and comes to them by every schedule. -/
theorem extractFiles_exact {c : Config} (valid : c.violations = []) :
    ∃ e, ofConfig c = .ok e ∧
      (∀ path content, ∃ drafts, e.extractFile path content = .ok drafts ∧
        (∀ file, SourceFile.parse path content = .ok file → drafts = e.extractSource file) ∧
        ∀ failure, SourceFile.parse path content = .error failure →
          failure = .unsupported path ∧ Path.language? path = none ∧ drafts = []) ∧
      (∀ path language, Path.language? path = some language →
        Language.ofName? language.name = some language ∧
          ∀ content, SourceFile.parse path content = .ok (.ofText language path content)) ∧
      ∀ files, ∃ lists : List (List Draft),
        files.map (fun file => e.extractFile file.1 file.2) = lists.map .ok ∧
        e.extractFiles files = .ok lists.flatten ∧
        Batch.ComesTo e files (e.extractFiles files) := by
  obtain ⟨r, -, made⟩ := ofConfig_of_valid valid
  refine ⟨⟨c, r⟩, made, fun path content => ?_, fun path language dialect => ?_, fun files => ?_⟩
  · exact extractFile_agrees _ path content
  · exact ⟨language.ofName?_name, fun _ => SourceFile.parse_of_language dialect⟩
  · refine ⟨_, ?_, extractFiles_eq _ files, Batch.comesTo_extractFiles _ files⟩
    rw [List.map_map]
    exact List.map_congr_left fun file _ => extractFile_eq _ file.1 file.2

/-- The files below a directory belong to one module. -/
def stockConfig : Config :=
  let unused : Config.Rule := .notUsed true
  ⟨none, [⟨"Stock", "stock/**", unused, .detect .classes (.nameEndsWith "Order"), unused, unused,
    unused, unused⟩]⟩

/-- A file whose path is spelled with backslashes and a dot has the drafts of the parsed file, and
a file in no dialect has none. -/
theorem extractFiles_exact_stock :
    stockConfig.violations = [] ∧ ∃ e, ofConfig stockConfig = .ok e ∧
      e.extractFile ".\\stock\\order.ts" "class RefillOrder {}" =
        .ok [⟨.useCase, "RefillOrder", ⟨"stock/order.ts", 1⟩, "Stock", "Stock"⟩] ∧
      e.extractFile "stock/order.md" "class RefillOrder {}" = .ok [] := by
  have valid : stockConfig.violations = [] := by decide +kernel
  let file : SourceFile :=
    ⟨"stock/order.ts", [{ kind := .classes, name := some "RefillOrder", line := 1 }], ⟨[]⟩⟩
  have dialect : Path.language? ".\\stock\\order.ts" = some .typescript := by decide +kernel
  have text : SourceFile.ofText .typescript ".\\stock\\order.ts" "class RefillOrder {}" = file := by
    decide +kernel
  have parsed : SourceFile.parse ".\\stock\\order.ts" "class RefillOrder {}" = .ok _ :=
    SourceFile.parse_of_language dialect
  have failed : SourceFile.parse "stock/order.md" "class RefillOrder {}" = .error _ :=
    SourceFile.parse_of_no_language (by decide +kernel)
  have computed : (ofConfig stockConfig).toOption.all fun e => e.unordered file =
      [⟨.useCase, "RefillOrder", ⟨"stock/order.ts", 1⟩, "Stock", "Stock"⟩] := by decide +kernel
  obtain ⟨e, made, each, -⟩ := extractFiles_exact valid
  obtain ⟨drafts, found, agrees, -⟩ := each ".\\stock\\order.ts" "class RefillOrder {}"
  obtain ⟨rest, passed, -, silent⟩ := each "stock/order.md" "class RefillOrder {}"
  rw [made] at computed
  have unordered := of_decide_eq_true computed
  refine ⟨valid, e, made, ?_, ?_⟩
  · rw [found, agrees _ parsed, text, extractSource, unordered, List.mergeSort_singleton]
  · rw [passed, (silent _ failed).2.2]

end Extractor

end ComponentAtlas
