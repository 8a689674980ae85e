import ComponentAtlas.Proofs.Extraction.Identifiers
import ComponentAtlas.Proofs.Extraction.Routes
import ComponentAtlas.Proofs.Path.Extension

/-! # Files in different spellings

The drafts of a file whose path is spelled in another way. A path is routed and recorded by the text
that stands for all its spellings, and its dialect is told from the spelling itself. So the drafts
are the same if the dialect is, and there are none in a spelling without a dialect. The spellings of
a path all have the same drafts unless the text that stands for them is ambiguous. -/

namespace ComponentAtlas

open ComponentAtlas.Path (normalize language? IsAmbiguous)

/-- A text is the same file at every spelling of a path. -/
theorem SourceFile.ofText_of_normalize {p q : String} (alike : normalize p = normalize q)
    (language : Language) (content : String) :
    ofText language p content = ofText language q content := by
  rw [ofText, ofText, ofParts, ofParts, alike]

namespace Extractor

variable {p q : String}

theorem extractFile_of_language?_eq (e : Extractor) (alike : normalize p = normalize q)
    (same : language? p = language? q) (content : String) :
    e.extractFile p content = e.extractFile q content := by
  cases dialect : language? p with
  | none =>
    rw [e.extractFile_of_no_language dialect, e.extractFile_of_no_language (same ▸ dialect)]
  | some language =>
    rw [e.extractFile_of_language dialect, e.extractFile_of_language (same ▸ dialect),
      SourceFile.ofText_of_normalize alike]

/-- Spellings of a path have the same drafts, or one of them selects no dialect and has none. -/
theorem extractFile_of_normalize (e : Extractor) (alike : normalize p = normalize q)
    (content : String) :
    e.extractFile p content = e.extractFile q content ∨
      language? p = none ∧ e.extractFile p content = .ok [] ∨
      language? q = none ∧ e.extractFile q content = .ok [] := by
  cases first : language? p with
  | none => exact .inr (.inl ⟨rfl, e.extractFile_of_no_language first content⟩)
  | some l =>
    cases second : language? q with
    | none => exact .inr (.inr ⟨rfl, e.extractFile_of_no_language second content⟩)
    | some l' =>
      have same := Path.eq_of_language? alike first second
      refine .inl (e.extractFile_of_language?_eq alike ?_ content)
      rw [first, second, same]

/-! ## A configuration that tells spellings apart -/

/-- All files belong to one module. -/
def orderConfig : Config := ⟨none, [Draft.orderModule "Orders"]⟩

theorem orderConfig_valid : orderConfig.violations = [] := by decide +kernel

/-- Two stars select every path. -/
theorem selectsPath_deep (path : String) : selectsPath "**" path = true := by
  have read : Glob.read "**" = .ok ⟨[.deep]⟩ := by decide +kernel
  rw [selectsPath, read]
  show Glob.matchTokens [.deep] _ = true
  rw [Glob.matchTokens, Bool.or_eq_true]
  exact .inr rfl

theorem declarations_placeOrder (l : Language) :
    Tree.declarations (Script.read l "class PlaceOrder {}") =
      [{ kind := .classes, name := some "PlaceOrder", line := 1 }] := by
  cases l <;> decide +kernel

theorem extractSource_placeOrder {e : Extractor} (made : ofConfig orderConfig = .ok e)
    (l : Language) (path : String) :
    e.extractSource (.ofText l path "class PlaceOrder {}") ≠ [] := by
  obtain ⟨r, routed, ready⟩ := ofConfig_of_valid orderConfig_valid
  rw [ready] at made
  cases made
  let file : SourceFile := .ofText l path "class PlaceOrder {}"
  let draft : Draft := ⟨.useCase, "PlaceOrder", ⟨file.path, 1⟩, "Orders", "Orders"⟩
  have route : 0 ∈ r.route file.path :=
    (Router.mem_route_iff routed).2 ⟨_, rfl, selectsPath_deep file.path⟩
  have declared : file.declarations = _ := declarations_placeOrder l
  have found : draft ∈ moduleDrafts file (Draft.orderModule "Orders") := by
    refine List.mem_flatMap.2 ⟨.useCase, Slot.mem_all _, ?_⟩
    show draft ∈ file.declarations.filterMap _
    rw [declared, List.mem_filterMap]
    refine ⟨_, List.mem_singleton_self _, ?_⟩
    rw [draft?, Config.Predicate.holds, if_pos (by decide +kernel)]
    rfl
  have member : draft ∈ extractSource ⟨orderConfig, r⟩ file := by
    rw [extractSource, List.mem_mergeSort, unordered]
    exact List.mem_flatMap.2 ⟨_, List.mem_filterMap.2 ⟨0, route, rfl⟩, found⟩
  exact List.ne_nil_of_mem member

/-- The spellings of a path have the same drafts, or one of them selects no dialect and has none.
All of them have the same drafts, whatever the configuration and the text, if and only if the text
that stands for them is not ambiguous. -/
theorem extractFile_of_spellings (p : String) :
    (∀ e : Extractor, ∀ q, normalize q = normalize p → ∀ content,
      e.extractFile q content = e.extractFile p content ∨
        language? q = none ∧ e.extractFile q content = .ok [] ∨
        language? p = none ∧ e.extractFile p content = .ok []) ∧
    ((∀ c e, ofConfig c = .ok e → ∀ q, normalize q = normalize p → ∀ content,
        e.extractFile q content = e.extractFile p content) ↔
      ¬ IsAmbiguous (normalize p).toList) := by
  refine ⟨fun e q alike content => e.extractFile_of_normalize alike content, ?_, ?_⟩
  · intro always ambiguous
    obtain ⟨q, q', l, alike, alike', spoken, silent⟩ := Path.exists_spellings ambiguous
    obtain ⟨r, -, made⟩ := ofConfig_of_valid orderConfig_valid
    have same := (always _ _ made q alike "class PlaceOrder {}").trans
      (always _ _ made q' alike' "class PlaceOrder {}").symm
    rw [extractFile_of_language _ spoken, extractFile_of_no_language _ silent] at same
    exact extractSource_placeOrder made l q (Except.ok.inj same)
  · intro clear c e _ q alike content
    exact e.extractFile_of_language?_eq alike
      (Path.language?_of_normalize alike (alike ▸ clear)) content

/-- A file that is named by its extension alone has a draft in one spelling and none in another. -/
theorem spellings_differ :
    orderConfig.violations = [] ∧ ∃ e, ofConfig orderConfig = .ok e ∧
      normalize "orders\\.ts" = normalize "orders/.ts" ∧
      e.extractFile "orders\\.ts" "class PlaceOrder {}" =
        .ok [⟨.useCase, "PlaceOrder", ⟨"orders/.ts", 1⟩, "Orders", "Orders"⟩] ∧
      e.extractFile "orders/.ts" "class PlaceOrder {}" = .ok [] := by
  let file : SourceFile :=
    ⟨"orders/.ts", [{ kind := .classes, name := some "PlaceOrder", line := 1 }], ⟨[]⟩⟩
  have dialect : language? "orders\\.ts" = some .typescript := by decide +kernel
  have silent : language? "orders/.ts" = none := by decide +kernel
  have text : SourceFile.ofText .typescript "orders\\.ts" "class PlaceOrder {}" = file := by
    decide +kernel
  have computed : (ofConfig orderConfig).toOption.all fun e => e.unordered file =
      [⟨.useCase, "PlaceOrder", ⟨"orders/.ts", 1⟩, "Orders", "Orders"⟩] := by decide +kernel
  obtain ⟨r, -, made⟩ := ofConfig_of_valid orderConfig_valid
  rw [made] at computed
  have unordered := of_decide_eq_true computed
  refine ⟨orderConfig_valid, _, made, by decide +kernel, ?_, ?_⟩
  · rw [extractFile_of_language _ dialect, text, extractSource, unordered,
      List.mergeSort_singleton]
  · exact extractFile_of_no_language _ silent _

end Extractor

end ComponentAtlas
