import ComponentAtlas.Json.Pointer
import ComponentAtlas.Proofs.Text.Pieces

/-! # Pointers as texts

A key without tildes and slashes is written as it is, so that the text of a pointer to a member of
an item in a list can be read off its steps. Whatever the keys are, the text of a pointer is read as
the keys and numbers of its steps, and it leads where the pointer leads. So the texts of two
pointers into one document differ if the pointers do. -/

namespace ComponentAtlas

/-- There is nothing in the key that pointers write in another way. -/
def Step.IsPlain (key : String) : Prop := ∀ c ∈ key.toList, c ≠ '~' ∧ c ≠ '/'

-- Decided by going through the key, not through all characters.
instance (key : String) : Decidable (Step.IsPlain key) :=
  List.decidableBAll (fun c => c ≠ '~' ∧ c ≠ '/') key.toList

theorem Step.text_key {key : String} (plain : IsPlain key) : text (.key key) = key := by
  have same : ∀ s : List Char, (∀ c ∈ s, c ≠ '~' ∧ c ≠ '/') → s.flatMap escape = s := by
    intro s plain
    induction s with
    | nil => rfl
    | cons c rest ih =>
      rw [List.forall_mem_cons] at plain
      rw [List.flatMap_cons, ih plain.2, escape, if_neg plain.1.1, if_neg plain.1.2,
        List.singleton_append]
  rw [text, same key.toList plain, String.ofList_toList]

theorem Pointer.text_append (p q : Pointer) : text (p ++ q) = text p ++ text q := by
  rw [text, List.map_append, String.join_append]
  rfl

/-- The digits of an index tell which it is. -/
theorem Step.toString_inj {i j : Nat} (same : toString i = toString j) : i = j := by
  have digits : Nat.toDigits 10 i = Nat.toDigits 10 j := by
    rw [← Nat.toList_repr, ← Nat.toList_repr, ← Nat.toString_eq_repr, same, Nat.toString_eq_repr]
  rw [← Nat.ofDigitChars_ten_toDigits (n := i), digits, Nat.ofDigitChars_ten_toDigits]

/-- The pointer to a member of an item in a list that is a member of the document. -/
theorem Pointer.text_item_member {list key : String} (listPlain : Step.IsPlain list)
    (keyPlain : Step.IsPlain key) (i : Nat) :
    text [.key list, .index i, .key key] = "/" ++ list ++ "/" ++ toString i ++ "/" ++ key := by
  show String.join
    ["/" ++ Step.text (.key list), "/" ++ toString i, "/" ++ Step.text (.key key)] = _
  rw [Step.text_key listPlain, Step.text_key keyPlain]
  simp only [String.join_cons, String.join_nil, String.append_empty, String.append_assoc]

/-! ## Pointers read from their texts -/

/-- What a step is called: the key of a member, or the number of an item. -/
def Step.token : Step → String
  | key name => name
  | index n => toString n

/-- Where no key needs to be written in another way, steps are written as they are called. -/
theorem Pointer.text_eq_of_plain {p : Pointer} (plain : ∀ key, .key key ∈ p → Step.IsPlain key) :
    p.text = String.join ((p.map Step.token).map ("/" ++ ·)) := by
  rw [text, List.map_map]
  refine congrArg String.join (List.map_congr_left ?_)
  intro s step
  cases s with
  | key name =>
    show "/" ++ Step.text (.key name) = "/" ++ name
    rw [Step.text_key (plain name step)]
  | index n => rfl

namespace Pointer

/-- The key that is written so. A tilde is followed by a zero, which makes a tilde of it, or by a
one, which makes a slash. -/
def unescape? : List Char → Option (List Char)
  | [] => some []
  | '~' :: '0' :: rest => (unescape? rest).map ('~' :: ·)
  | '~' :: '1' :: rest => (unescape? rest).map ('/' :: ·)
  | c :: rest => if c = '~' then none else (unescape? rest).map (c :: ·)

/-- The tokens of a text by RFC 6901. A text that is not empty begins with a slash, and each token
stands behind a slash. -/
def tokens? (text : String) : Option (List String) :=
  match Text.pieces (· = '/') text.toList with
  | [] :: pieces => pieces.mapM fun piece => (unescape? piece).map String.ofList
  | _ => none

/-- The number of an item. It is written in digits, without zeros in front. -/
def index? (token : String) : Option Nat :=
  let n := Nat.ofDigitChars 10 token.toList 0
  if toString n = token then some n else none

/-- The part of a value that a token leads to: a member of an object or an item of an array. -/
def part? (token : String) : Json → Option Json
  | .object members => Json.memberOf? members token
  | .array items => (index? token).bind (items[·]?)
  | _ => none

/-- The value that tokens lead to. -/
def follow? : List String → Json → Option Json
  | [], v => some v
  | token :: rest, v => (part? token v).bind (follow? rest)

/-- The value that the text of a pointer leads to. -/
def locate? (text : String) (document : Json) : Option Json :=
  (tokens? text).bind fun tokens => follow? tokens document

/-! ### Tokens -/

theorem unescape?_cons {c : Char} (ne : c ≠ '~') (rest : List Char) :
    unescape? (c :: rest) = (unescape? rest).map (c :: ·) := by
  conv =>
    lhs
    unfold unescape?
  split
  · next same => cases same
  · next same =>
    cases same
    exact absurd rfl ne
  · next same =>
    cases same
    exact absurd rfl ne
  · next d more _ _ same =>
    cases same
    exact if_neg ne

theorem unescape?_escape (key : List Char) : unescape? (key.flatMap Step.escape) = some key := by
  induction key with
  | nil => rfl
  | cons c rest ih =>
    rw [List.flatMap_cons, Step.escape]
    by_cases tilde : c = '~'
    · rw [if_pos tilde, tilde]
      show (unescape? (rest.flatMap Step.escape)).map _ = _
      rw [ih]
      rfl
    · by_cases slash : c = '/'
      · rw [if_neg tilde, if_pos slash, slash]
        show (unescape? (rest.flatMap Step.escape)).map _ = _
        rw [ih]
        rfl
      · rw [if_neg tilde, if_neg slash, List.singleton_append, unescape?_cons tilde, ih]
        rfl

theorem unescape?_of_free {s : List Char} (free : '~' ∉ s) : unescape? s = some s := by
  induction s with
  | nil => rfl
  | cons c rest ih =>
    rw [List.mem_cons, not_or] at free
    rw [unescape?_cons (Ne.symm free.1), ih free.2]
    rfl

theorem isDigit_of_mem_toString {i : Nat} {c : Char} (member : c ∈ (toString i).toList) :
    c.isDigit = true := by
  rw [Nat.toString_eq_repr, Nat.toList_repr] at member
  exact Nat.isDigit_of_mem_toDigits (by decide) (by decide) member

theorem slash_not_mem_escape (key : List Char) : '/' ∉ key.flatMap Step.escape := by
  intro member
  obtain ⟨c, -, written⟩ := List.mem_flatMap.1 member
  unfold Step.escape at written
  split at written
  · exact absurd written (by decide)
  · split at written
    · exact absurd written (by decide)
    · next other => exact other (List.mem_singleton.1 written).symm

theorem slash_not_mem_text (s : Step) : '/' ∉ s.text.toList := by
  cases s with
  | key name =>
    rw [Step.text, String.toList_ofList]
    exact slash_not_mem_escape _
  | index n => exact fun member => absurd (isDigit_of_mem_toString member) (by decide)

/-- The text of a step is read as what the step is called. -/
theorem unescape?_text (s : Step) : unescape? s.text.toList = some s.token.toList := by
  cases s with
  | key name =>
    rw [Step.text, String.toList_ofList]
    exact unescape?_escape _
  | index n =>
    exact unescape?_of_free fun member => absurd (isDigit_of_mem_toString member) (by decide)

theorem text_cons (s : Step) (p : Pointer) : text (s :: p) = "/" ++ s.text ++ text p :=
  String.join_cons

theorem toList_text (p : Pointer) :
    p.text.toList = ['/'].intercalate ([] :: p.map fun s => s.text.toList) := by
  induction p with
  | nil => rfl
  | cons s p ih =>
    rw [text_cons, String.toList_append, String.toList_append, ih, List.map_cons,
      List.intercalate_cons_cons]
    cases p with
    | nil => simp
    | cons t p => simp [List.intercalate_cons_cons]

theorem mapM_unescape? (p : Pointer) :
    (p.map fun s => s.text.toList).mapM (fun piece => (unescape? piece).map String.ofList) =
      some (p.map Step.token) := by
  induction p with
  | nil => rfl
  | cons s p ih =>
    rw [List.map_cons, List.mapM_cons, unescape?_text, ih, Option.map_some, String.ofList_toList]
    rfl

/-- The text of a pointer is read as what its steps are called. -/
theorem tokens?_text (p : Pointer) : tokens? p.text = some (p.map Step.token) := by
  have cut : Text.pieces (· = '/') p.text.toList = [] :: p.map fun s => s.text.toList := by
    refine Text.pieces_eq_iff.2 ⟨List.cons_ne_nil _ _, ?_, toList_text p⟩
    rw [List.forall_mem_cons, List.forall_mem_map]
    exact ⟨List.not_mem_nil, fun s _ => slash_not_mem_text s⟩
  rw [tokens?, cut]
  exact mapM_unescape? p

/-! ### Values -/

theorem index?_toString (n : Nat) : index? (toString n) = some n := by
  have digits : Nat.ofDigitChars 10 (toString n).toList 0 = n := by
    rw [Nat.toString_eq_repr, Nat.toList_repr, Nat.ofDigitChars_ten_toDigits]
  rw [index?, digits]
  exact if_pos rfl

theorem part?_of_of? {s : Step} {v part : Json} (leads : s.of? v = some part) :
    part? s.token v = some part := by
  cases s with
  | key name =>
    cases v with
    | object members => exact leads
    | _ => cases leads
  | index n =>
    cases v with
    | array items =>
      rw [Step.token, part?, index?_toString]
      exact leads
    | _ => cases leads

theorem follow?_of_resolve? {p : Pointer} {v node : Json} (leads : p.resolve? v = some node) :
    follow? (p.map Step.token) v = some node := by
  induction p generalizing v with
  | nil => exact leads
  | cons s p ih =>
    obtain ⟨part, first, rest⟩ := Option.bind_eq_some_iff.1 leads
    rw [List.map_cons, follow?, part?_of_of? first]
    exact ih rest

/-- A pointer and its text lead to the same. -/
theorem locate?_text {p : Pointer} {v node : Json} (leads : p.resolve? v = some node) :
    locate? p.text v = some node := by
  rw [locate?, tokens?_text]
  exact follow?_of_resolve? leads

/-- Steps into one value are told apart by what they are called. -/
theorem eq_of_token_eq {s t : Step} {v a b : Json} (first : s.of? v = some a)
    (second : t.of? v = some b) (same : s.token = t.token) : s = t := by
  cases v with
  | object members =>
    cases s with
    | key name =>
      cases t with
      | key other => exact congrArg Step.key same
      | index _ => cases second
    | index _ => cases first
  | array items =>
    cases s with
    | key _ => cases first
    | index n =>
      cases t with
      | key _ => cases second
      | index m => exact congrArg Step.index (Step.toString_inj same)
  | _ => cases s <;> cases first

/-- Pointers into one document are told apart by their texts. -/
theorem eq_of_text_eq {p q : Pointer} {v a b : Json} (first : p.resolve? v = some a)
    (second : q.resolve? v = some b) (same : p.text = q.text) : p = q := by
  have tokens : p.map Step.token = q.map Step.token := by
    rw [← Option.some.injEq, ← tokens?_text, same, tokens?_text]
  clear same
  induction p generalizing q v with
  | nil =>
    rw [List.map_nil] at tokens
    exact (List.map_eq_nil_iff.1 tokens.symm).symm
  | cons s p ih =>
    cases q with
    | nil => cases tokens
    | cons t q =>
      obtain ⟨part, here, rest⟩ := Option.bind_eq_some_iff.1 first
      obtain ⟨other, there, more⟩ := Option.bind_eq_some_iff.1 second
      obtain ⟨token, later⟩ := List.cons.inj tokens
      obtain rfl := eq_of_token_eq here there token
      rw [here] at there
      cases there
      rw [ih rest more later]

end Pointer

/-- Pointers to members of items are told apart by their texts. -/
theorem Pointer.item_member_inj {list other key own : String} {i j : Nat}
    (same : text [.key list, .index i, .key key] = text [.key other, .index j, .key own]) :
    [Step.key list, .index i, .key key] = [.key other, .index j, .key own] := by
  have tokens := congrArg tokens? same
  rw [tokens?_text, tokens?_text] at tokens
  simp only [List.map_cons, List.map_nil, Step.token, Option.some.injEq, List.cons.injEq,
    and_true] at tokens
  obtain ⟨rfl, indices, rfl⟩ := tokens
  rw [Step.toString_inj indices]

end ComponentAtlas
