import ComponentAtlas.Extraction.Extractor
import ComponentAtlas.Proofs.ComponentId
import ComponentAtlas.Proofs.Extraction.Routing

/-! # Identifiers of drafts

When drafts of different modules have the same identifier. Modules of a configuration without
violations have names of their own, but an identifier keeps only the segment that a name becomes,
and the check compares the names. So modules share identifiers if and only if their names differ and
become the same segment. -/

namespace ComponentAtlas

open ComponentId

/-- The draft is one of the module. -/
def Draft.Of (m : Config.Module) (d : Draft) : Prop := d.domain = m.name ∧ d.module = m.name

theorem Slot.segment_key_inj : ∀ s ∈ Slot.all, ∀ t ∈ Slot.all,
    segment s.key = segment t.key → s = t := by
  decide +kernel

namespace Draft

/-- Drafts have the same identifier if and only if their modules, slots and names agree, of modules
and names no more than the segment that they become. -/
theorem id_eq_iff {m n : Config.Module} {a b : Draft} (ofM : a.Of m) (ofN : b.Of n) :
    a.id = b.id ↔
      segment m.name = segment n.name ∧ a.slot = b.slot ∧ segment a.name = segment b.name := by
  rw [Draft.id, Draft.id, ofLabels_eq_iff, ofM.1, ofM.2, ofN.1, ofN.2]
  constructor
  · rintro ⟨same, -, keys, names⟩
    exact ⟨same, Slot.segment_key_inj _ a.slot.mem_all _ b.slot.mem_all keys, names⟩
  · rintro ⟨same, slots, names⟩
    exact ⟨same, same, by rw [slots], names⟩

/-- Modules of a configuration without violations share identifiers only if their names differ and
become the same segment. -/
theorem id_eq_iff_of_valid {c : Config} (valid : c.violations = []) {i j : Nat}
    {m n : Config.Module} (first : c.modules[i]? = some m) (second : c.modules[j]? = some n)
    (apart : i ≠ j) {a b : Draft} (ofM : a.Of m) (ofN : b.Of n) :
    a.id = b.id ↔ m.name ≠ n.name ∧ segment m.name = segment n.name ∧ a.slot = b.slot ∧
      segment a.name = segment b.name := by
  rw [id_eq_iff ofM ofN]
  exact ⟨fun agree => ⟨Config.name_ne_of_valid valid first second apart, agree⟩, And.right⟩

/-! ## Two modules with one identifier -/

/-- A module for all files that looks for orders. -/
def orderModule (name : String) : Config.Module :=
  ⟨name, "**", .notUsed true, .detect .classes (.nameEndsWith "Order"), .notUsed true,
    .notUsed true, .notUsed true, .notUsed true⟩

/-- Two modules with names that differ in the case of a letter. -/
def twinConfig : Config := ⟨none, [orderModule "Orders", orderModule "orders"]⟩

theorem twinConfig_valid : twinConfig.violations = [] := by decide +kernel

theorem segment_twins : segment "Orders" = segment "orders" := by decide +kernel

/-- The draft of an order under the name of a module. -/
def orderDraft (module : String) : Draft :=
  ⟨.useCase, "PlaceOrder", ⟨"shop.ts", 1⟩, module, module⟩

theorem orderDraft_of (name : String) : (orderDraft name).Of (orderModule name) := ⟨rfl, rfl⟩

/-- The names of the modules differ, and so the modules share the identifier of an order. -/
theorem id_eq_iff_of_valid_twins :
    twinConfig.violations = [] ∧ twinConfig.modules[0]? = some (orderModule "Orders") ∧
      twinConfig.modules[1]? = some (orderModule "orders") ∧ 0 ≠ 1 ∧
      (orderDraft "Orders").Of (orderModule "Orders") ∧
      (orderDraft "orders").Of (orderModule "orders") ∧
      (orderDraft "Orders").id = (orderDraft "orders").id := by
  have first : twinConfig.modules[0]? = some (orderModule "Orders") := rfl
  have second : twinConfig.modules[1]? = some (orderModule "orders") := rfl
  have shared := id_eq_iff_of_valid twinConfig_valid first second (by decide)
    (orderDraft_of "Orders") (orderDraft_of "orders")
  exact ⟨twinConfig_valid, first, second, by decide, orderDraft_of _, orderDraft_of _,
    shared.2 ⟨by decide, segment_twins, rfl, rfl⟩⟩

/-- Modules of a configuration without violations find drafts with the same identifier in a file. -/
theorem modules_share_id :
    twinConfig.violations = [] ∧
      twinConfig.modules = [orderModule "Orders", orderModule "orders"] ∧ ∃ e,
      Extractor.ofConfig twinConfig = .ok e ∧
        ∃ file, ∃ a ∈ e.extractSource file, ∃ b ∈ e.extractSource file,
          a.Of (orderModule "Orders") ∧ b.Of (orderModule "orders") ∧ a.id = b.id := by
  let file : SourceFile := ⟨"shop.ts", [{ kind := .classes, name := some "PlaceOrder" }], ⟨[]⟩⟩
  have computed : (Extractor.ofConfig twinConfig).toOption.all fun e =>
      e.unordered file = [orderDraft "Orders", orderDraft "orders"] := by decide +kernel
  obtain ⟨r, -, made⟩ := Extractor.ofConfig_of_valid twinConfig_valid
  rw [made] at computed
  have unordered := of_decide_eq_true computed
  have found (name : String)
      (member : orderDraft name ∈ [orderDraft "Orders", orderDraft "orders"]) :
      orderDraft name ∈ Extractor.extractSource ⟨twinConfig, r⟩ file := by
    rw [Extractor.extractSource, List.mem_mergeSort, unordered]
    exact member
  exact ⟨twinConfig_valid, rfl, _, made, file, _, found "Orders" (by decide), _,
    found "orders" (by decide), orderDraft_of _, orderDraft_of _,
    (id_eq_iff (orderDraft_of _) (orderDraft_of _)).2 ⟨segment_twins, rfl, rfl⟩⟩

end Draft

end ComponentAtlas
