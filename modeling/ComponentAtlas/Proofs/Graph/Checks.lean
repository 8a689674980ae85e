import ComponentAtlas.Graph.Schema
import ComponentAtlas.Proofs.Charset
import ComponentAtlas.Proofs.Keyed

/-! # Checks that find nothing

A check of the graph schema finds nothing in a value if and only if the value has the form that the
check asks for and the checks of its parts find nothing. There is one lemma for each way in which
checks are put together. -/

namespace ComponentAtlas.Graph.Schema

open Json

variable {place : Pointer} {v : Json} {given : List (String × Json)} {key : String}

/-! ## Texts and numbers -/

theorem textWith_eq_nil_iff {fault? : String → Option Cause} :
    textWith fault? place v = [] ↔ ∃ s, v = .string s ∧ fault? s = none := by
  cases v with
  | string s => cases found : fault? s <;> simp [textWith, found]
  | _ => simp [textWith]

theorem text_eq_nil_iff : text place v = [] ↔ ∃ s, v = .string s := by
  simp [text, textWith_eq_nil_iff]

theorem oneOf_eq_nil_iff {allowed : List String} :
    oneOf allowed place v = [] ↔ ∃ s, v = .string s ∧ s ∈ allowed := by
  simp [oneOf, textWith_eq_nil_iff]

theorem version_eq_nil_iff : version place v = [] ↔ ∃ s, v = .string s ∧ isVersion s = true := by
  simp [version, textWith_eq_nil_iff]

theorem isVersion_one_zero : isVersion "1.0" = true := by
  have cut : Text.pieces (· = '.') "1.0".toList = [['1'], ['0']] := rfl
  have one : Charset.digitRanges.has '1' = true := Charset.digitRanges_has (by decide) (by decide)
  have zero : Charset.digitRanges.has '0' = true := Charset.digitRanges_has (by decide) (by decide)
  rw [isVersion, cut]
  simp [one, zero]

theorem identifier_eq_nil_iff :
    identifier place v = [] ↔ ∃ s, v = .string s ∧ (ComponentId.ofText? s).isSome := by
  simp [identifier, textWith_eq_nil_iff, Option.isSome_iff_ne_none]

theorem oneOf_apiType (t : ApiType) :
    oneOf (ApiType.all.map (·.name)) place (.string t.name) = [] :=
  oneOf_eq_nil_iff.2 ⟨_, rfl, by cases t <;> decide⟩

theorem oneOf_systemType (t : SystemType) :
    oneOf (SystemType.all.map (·.name)) place (.string t.name) = [] :=
  oneOf_eq_nil_iff.2 ⟨_, rfl, by cases t <;> decide⟩

theorem oneOf_componentType (t : ComponentType) :
    oneOf (ComponentType.all.map (·.name)) place (.string t.name) = [] :=
  oneOf_eq_nil_iff.2 ⟨_, rfl, by cases t <;> decide⟩

theorem reference_eq_nil_iff {known : List String} :
    reference known place v = [] ↔ ∃ s, v = .string s ∧ s ∈ known := by
  simp [reference, textWith_eq_nil_iff]

theorem lineNumber_eq_nil_iff :
    lineNumber place v = [] ↔ ∃ n : Int, v = .int n ∧ 1 ≤ n ∧ n ≤ lineLimit := by
  cases v with
  | number n =>
    cases n with
    | whole n =>
      rw [lineNumber]
      constructor
      · intro h
        split at h
        · cases h
        · split at h
          · cases h
          · exact ⟨n, rfl, by omega, by omega⟩
      · rintro ⟨m, same, low, high⟩
        cases same
        rw [if_neg (by omega), if_neg (by omega)]
    | real bits => simp [lineNumber, int]
  | _ => simp [lineNumber, int]

/-! ## Objects and their members -/

theorem record_eq_nil_iff {members : List MemberCheck} :
    record members place v = [] ↔
      ∃ given, v = .object given ∧ ∀ check ∈ members, check place given = [] := by
  cases v <;> simp [record, List.flatMap_eq_nil_iff]

theorem each_eq_nil_iff {check : Check} :
    each check place v = [] ↔
      ∃ given, v = .object given ∧ ∀ m ∈ given, check (place.member m.1) m.2 = [] := by
  cases v <;> simp [each, List.flatMap_eq_nil_iff]

theorem required_eq_nil_iff {check : Check} :
    required key check place given = [] ↔
      ∃ v, memberOf? given key = some v ∧ check (place.member key) v = [] := by
  rw [required]
  cases memberOf? given key <;> simp

theorem optional_eq_nil_iff {check : Check} :
    optional key check place given = [] ↔
      ∀ v, memberOf? given key = some v → check (place.member key) v = [] := by
  rw [optional]
  cases memberOf? given key <;> simp

/-! ## Objects made of members -/

section Sorted

variable {members : List (String × Json)} {check : Check}

theorem required_sorted (distinct : (members.map (·.1)).Nodup)
    (found : members.lookup key = some v) (passes : check (place.member key) v = []) :
    required key check place (Keyed.sorted members) = [] :=
  required_eq_nil_iff.2 ⟨v, (Keyed.lookup_sorted distinct key).trans found, passes⟩

theorem optional_sorted (distinct : (members.map (·.1)).Nodup)
    (found : members.lookup key = some v) (passes : check (place.member key) v = []) :
    optional key check place (Keyed.sorted members) = [] := by
  refine optional_eq_nil_iff.2 fun w given => ?_
  rw [memberOf?, Keyed.lookup_sorted distinct, found] at given
  cases given
  exact passes

theorem optional_sorted_of_missing (distinct : (members.map (·.1)).Nodup)
    (missing : members.lookup key = none) :
    optional key check place (Keyed.sorted members) = [] := by
  refine optional_eq_nil_iff.2 fun v given => ?_
  rw [memberOf?, Keyed.lookup_sorted distinct, missing] at given
  cases given

end Sorted

/-! ## Lists -/

theorem checkItems_eq_nil_iff {check : List Json → Check} {before items : List Json} :
    checkItems check place before items = [] ↔
      ∀ front v back, items = front ++ v :: back →
        check (before ++ front) (place.item (before ++ front).length) v = [] := by
  induction items generalizing before with
  | nil => simp [checkItems]
  | cons first rest ih =>
    rw [checkItems, List.append_eq_nil_iff, ih]
    constructor
    · rintro ⟨here, later⟩ front v back split
      cases front with
      | nil =>
        cases split
        simpa using here
      | cons other front =>
        cases split
        simpa using later front v back rfl
    · intro all
      refine ⟨by simpa using all [] first rest rfl, fun front v back split => ?_⟩
      simpa using all (first :: front) v back (by rw [split]; rfl)

theorem list_eq_nil_iff {check : List Json → Check} :
    list check place v = [] ↔ ∃ items, v = .array items ∧
      ∀ front v back, items = front ++ v :: back →
        check front (place.item front.length) v = [] := by
  cases v <;> simp [list, checkItems_eq_nil_iff]

theorem list_text (texts : List String) :
    list (fun _ => text) place (.array (texts.map .string)) = [] := by
  refine list_eq_nil_iff.2 ⟨_, rfl, fun front v back split => ?_⟩
  have member : v ∈ texts.map Json.string := by
    rw [split]
    exact List.mem_append_right _ List.mem_cons_self
  obtain ⟨s, -, rfl⟩ := List.mem_map.1 member
  rfl

end ComponentAtlas.Graph.Schema
