import ComponentAtlas.Json.Number

/-! # Reading JSON text

Reads a value from the bytes of a text. An error says what is wrong and where: lines are counted
from one, columns in bytes. A fault that is seen before the next byte is taken is placed on that
byte. Containers nest at most 127 deep. -/

namespace ComponentAtlas.Json

/-- What can be wrong with a text. -/
inductive ReadCause where
  | endInList
  | endInObject
  | endInString
  | endInValue
  | expectedColon
  | expectedListEnd
  | expectedObjectEnd
  | expectedWord
  | expectedValue
  | invalidEscape
  | invalidNumber
  | numberOutOfRange
  | controlCharacter
  | keyNotString
  | loneSurrogate
  | endOfEscape
  | trailingComma
  | trailingCharacters
  | nestedTooDeep
deriving DecidableEq, Repr

def ReadCause.message : ReadCause → String
  | endInList => "EOF while parsing a list"
  | endInObject => "EOF while parsing an object"
  | endInString => "EOF while parsing a string"
  | endInValue => "EOF while parsing a value"
  | expectedColon => "expected `:`"
  | expectedListEnd => "expected `,` or `]`"
  | expectedObjectEnd => "expected `,` or `\x7d`"
  | expectedWord => "expected ident"
  | expectedValue => "expected value"
  | invalidEscape => "invalid escape"
  | invalidNumber => "invalid number"
  | numberOutOfRange => "number out of range"
  | controlCharacter => "control character (\\u0000-\\u001F) found while parsing a string"
  | keyNotString => "key must be a string"
  | loneSurrogate => "lone leading surrogate in hex escape"
  | endOfEscape => "unexpected end of hex escape"
  | trailingComma => "trailing comma"
  | trailingCharacters => "trailing characters"
  | nestedTooDeep => "recursion limit exceeded"

/-- What is wrong with a text, and where. -/
structure ReadError where
  cause : ReadCause
  line : Nat
  column : Nat
deriving DecidableEq, Repr

def ReadError.message (e : ReadError) : String :=
  e.cause.message ++ " at line " ++ toString e.line ++ " column " ++ toString e.column

/-- A position in the bytes of a text. -/
structure ByteCursor where
  rest : List UInt8
  line : Nat := 1
  column : Nat := 0

namespace ByteCursor

/-- The cursor past the next byte. -/
def next (c : ByteCursor) : ByteCursor :=
  match c.rest with
  | [] => c
  | b :: rest => if b = 10 then ⟨rest, c.line + 1, 0⟩ else ⟨rest, c.line, c.column + 1⟩

def advance (c : ByteCursor) : Nat → ByteCursor
  | 0 => c
  | n + 1 => c.next.advance n

/-- A fault behind the bytes taken so far. -/
def fault (c : ByteCursor) (cause : ReadCause) : ReadError := ⟨cause, c.line, c.column⟩

/-- A fault on the next byte. -/
def faultAhead (c : ByteCursor) (cause : ReadCause) : ReadError := c.next.fault cause

def isBlankByte (b : UInt8) : Bool := b = 32 || b = 10 || b = 9 || b = 13

def skipBlanks (c : ByteCursor) : ByteCursor := c.advance (c.rest.takeWhile isBlankByte).length

end ByteCursor

/-- What a reader gives: a result and the position behind it, or an error. -/
abbrev Reading (α : Type) := Except ReadError (α × ByteCursor)

def isDigitByte (b : UInt8) : Bool := 48 ≤ b && b ≤ 57

/-- The value of a digit. -/
def digitOf (b : UInt8) : Nat := b.toNat - 48

/-- The number made of digits and an exponent. -/
def realOf (negative : Bool) (digits : Nat) (exponent : Int) (c : ByteCursor) :
    Reading JsonNumber :=
  match JsonNumber.ofParts? digits exponent with
  | none => .error (c.fault .numberOutOfRange)
  | some value => .ok (.real (if negative then (-value).toBits else value.toBits), c)

/-- The digits of an exponent: their value, or nothing when it is beyond 31 bits. -/
def exponentValue (value : Nat) : List UInt8 → Option Nat
  | [] => some value
  | b :: rest =>
    if isDigitByte b then
      if 0x80000000 ≤ value * 10 + digitOf b then none else exponentValue (value * 10 + digitOf b) rest
    else some value

/-- A number behind its `e`. -/
def readExponent (negative : Bool) (digits : Nat) (start : Int) (c : ByteCursor) :
    Reading JsonNumber :=
  let (down, c) := match c.rest with
    | 43 :: _ => (false, c.next)
    | 45 :: _ => (true, c.next)
    | _ => (false, c)
  match c.rest with
  | [] => .error (c.fault .endInValue)
  | b :: _ =>
    if !isDigitByte b then .error (c.next.fault .invalidNumber)
    else
      let count := (c.rest.takeWhile isDigitByte).length
      match exponentValue 0 c.rest with
      | some e => realOf negative digits (if down then start - e else start + e) (c.advance count)
      | none =>
        if digits ≠ 0 && !down then
          .error ((c.advance (overflowAt 0 c.rest)).fault .numberOutOfRange)
        else .ok (.real (if negative then (-0.0 : Float).toBits else 0), c.advance count)
where
  /-- How many digits are taken when the exponent overflows. -/
  overflowAt (value : Nat) : List UInt8 → Nat
    | [] => 0
    | b :: rest =>
      if isDigitByte b && value * 10 + digitOf b < 0x80000000 then
        1 + overflowAt (value * 10 + digitOf b) rest
      else 1

/-- A number behind its digits: an exponent may follow. -/
def readTail (negative : Bool) (digits : Nat) (exponent : Int) (c : ByteCursor) :
    Reading JsonNumber :=
  match c.rest with
  | 101 :: _ | 69 :: _ => readExponent negative digits exponent c.next
  | _ => realOf negative digits exponent c

/-- Takes digits into a count of 64 bits as long as they fit: the count, how many digits it took,
and the position. -/
def takeDigits (value taken : Nat) (c : ByteCursor) : Nat → Nat × Nat × ByteCursor
  | 0 => (value, taken, c)
  | n + 1 =>
    match c.rest with
    | b :: _ =>
      if isDigitByte b && value * 10 + digitOf b < UInt64.size then
        takeDigits (value * 10 + digitOf b) (taken + 1) c.next n
      else (value, taken, c)
    | [] => (value, taken, c)

/-- A number behind its point. Digits that do not fit the count any more are dropped. -/
def readFraction (negative : Bool) (digits : Nat) (exponent : Int) (c : ByteCursor) :
    Reading JsonNumber :=
  let (digits, taken, after) := takeDigits digits 0 c (c.rest.length + 1)
  let rest := after.advance (after.rest.takeWhile isDigitByte).length
  if taken = 0 && !(after.rest.head?.any isDigitByte) then
    .error (if c.rest.isEmpty then c.faultAhead .endInValue else c.faultAhead .invalidNumber)
  else readTail negative digits (exponent - taken) rest

/-- A number behind its sign. -/
def readNumber (negative : Bool) (c : ByteCursor) : Reading JsonNumber :=
  match c.rest with
  | [] => .error (c.fault .endInValue)
  | b :: _ =>
    if !isDigitByte b then .error (c.next.fault .invalidNumber)
    else if b = 48 && c.next.rest.head?.any isDigitByte then
      .error (c.next.faultAhead .invalidNumber)
    else
      let (digits, _, after) := takeDigits 0 0 c (c.rest.length + 1)
      let extra := (after.rest.takeWhile isDigitByte).length
      let rest := after.advance extra
      match rest.rest with
      | 46 :: _ => readFraction negative digits extra rest.next
      | 101 :: _ | 69 :: _ => readExponent negative digits extra rest.next
      | _ =>
        if extra ≠ 0 then realOf negative digits extra rest
        else if !negative then .ok (.whole digits, rest)
        else if digits = 0 || 0x8000000000000000 < digits then realOf true digits 0 rest
        else .ok (.whole (-(digits : Int)), rest)

/-- The rest of a word of which the first letter is taken. -/
def readWord (letters : List UInt8) (c : ByteCursor) : Reading Unit :=
  match letters with
  | [] => .ok ((), c)
  | l :: more =>
    match c.rest with
    | [] => .error (c.fault .endInValue)
    | b :: _ => if b = l then readWord more c.next else .error (c.next.fault .expectedWord)

/-- The value of a hexadecimal digit. -/
def hexOf? (b : UInt8) : Option Nat :=
  if isDigitByte b then some (digitOf b)
  else if 97 ≤ b && b ≤ 102 then some (b.toNat - 87)
  else if 65 ≤ b && b ≤ 70 then some (b.toNat - 55)
  else none

/-- Four hexadecimal digits. -/
def readHex (c : ByteCursor) : Reading Nat :=
  match c.rest with
  | a :: b :: d :: e :: _ =>
    match hexOf? a, hexOf? b, hexOf? d, hexOf? e with
    | some a, some b, some d, some e => .ok (((a * 16 + b) * 16 + d) * 16 + e, c.advance 4)
    | _, _, _, _ => .error ((c.advance 4).fault .invalidEscape)
  | _ => .error ((c.advance c.rest.length).fault .endInString)

/-- One byte of the escape that joins two halves of a character. -/
def readJoint (expected : UInt8) (c : ByteCursor) : Reading Unit :=
  match c.rest with
  | [] => .error (c.fault .endInString)
  | b :: _ => if b = expected then .ok ((), c.next) else .error (c.next.fault .endOfEscape)

/-- A character written by its number; one beyond 16 bits takes two numbers. -/
def readUnicode (c : ByteCursor) : Except ReadError (Char × ByteCursor) := do
  let (n, c) ← readHex c
  if 0xdc00 ≤ n && n ≤ 0xdfff then .error (c.fault .loneSurrogate)
  else if n < 0xd800 || 0xdbff < n then return (Char.ofNat n, c)
  else
    let (_, c) ← readJoint 92 c
    let (_, c) ← readJoint 117 c
    let (low, c) ← readHex c
    if low < 0xdc00 || 0xdfff < low then .error (c.fault .loneSurrogate)
    else return (Char.ofNat ((n - 0xd800) * 0x400 + (low - 0xdc00) + 0x10000), c)

/-- What stands behind a backslash. -/
def readEscape (c : ByteCursor) : Reading Char :=
  match c.rest with
  | [] => .error (c.fault .endInString)
  | b :: _ =>
    let plain (x : Char) : Reading Char := .ok (x, c.next)
    if b = 34 then plain '\x22'
    else if b = 92 then plain '\\'
    else if b = 47 then plain '/'
    else if b = 98 then plain '\x08'
    else if b = 102 then plain '\x0c'
    else if b = 110 then plain '\n'
    else if b = 114 then plain '\r'
    else if b = 116 then plain '\t'
    else if b = 117 then readUnicode c.next
    else .error (c.next.fault .invalidEscape)

/-- The bytes of a string up to its closing quote; the first argument bounds its parts. -/
def readStringBytes (done : ByteArray) (c : ByteCursor) : Nat → Reading ByteArray
  | 0 => .error (c.fault .endInString)
  | n + 1 =>
    match c.rest with
    | [] => .error (c.fault .endInString)
    | b :: _ =>
      if b = 34 then .ok (done, c.next)
      else if b = 92 then
        match readEscape c.next with
        | .error e => .error e
        | .ok (x, c) => readStringBytes (done ++ (String.singleton x).toUTF8) c n
      else if b < 32 then .error (c.next.fault .controlCharacter)
      else readStringBytes (done.push b) c.next n

/-- A string behind its opening quote. -/
def readString (c : ByteCursor) : Except ReadError (String × ByteCursor) := do
  let (bytes, c) ← readStringBytes .empty c (c.rest.length + 1)
  return ((String.fromUTF8? bytes).getD "", c)

/-- The items of a list behind its opening bracket; `first` says that none was read yet. -/
def readItems (item : ByteCursor → Reading Json) (first : Bool) (c : ByteCursor) :
    Nat → Except ReadError (List Json × ByteCursor)
  | 0 => .error (c.fault .endInList)
  | n + 1 => do
    let c := c.skipBlanks
    match c.rest with
    | [] => .error (c.faultAhead .endInList)
    | b :: _ =>
      if b = 93 then return ([], c.next)
      else if first then
        let (v, c) ← item c
        let (rest, c) ← readItems item false c n
        return (v :: rest, c)
      else if b = 44 then
        let c := c.next.skipBlanks
        match c.rest with
        | [] => .error (c.faultAhead .endInValue)
        | b :: _ =>
          if b = 93 then .error (c.faultAhead .trailingComma)
          else
            let (v, c) ← item c
            let (rest, c) ← readItems item false c n
            return (v :: rest, c)
      else .error (c.faultAhead .expectedListEnd)

/-- A colon and the value behind it. -/
def readMemberValue (item : ByteCursor → Reading Json) (c : ByteCursor) : Reading Json :=
  let c := c.skipBlanks
  match c.rest with
  | [] => .error (c.faultAhead .endInObject)
  | b :: _ => if b = 58 then item c.next else .error (c.faultAhead .expectedColon)

/-- The members of an object behind its opening brace, into those that are done. -/
def readMembers (item : ByteCursor → Reading Json) (done : List (String × Json)) (first : Bool)
    (c : ByteCursor) : Nat → Except ReadError (List (String × Json) × ByteCursor)
  | 0 => .error (c.fault .endInObject)
  | n + 1 => do
    let c := c.skipBlanks
    let member (c : ByteCursor) : Except ReadError (List (String × Json) × ByteCursor) := do
      let (key, c) ← readString c.next
      let (v, c) ← readMemberValue item c
      readMembers item (Keyed.set key v done) false c n
    match c.rest with
    | [] => .error (c.faultAhead .endInObject)
    | b :: _ =>
      if b = 125 then return (done, c.next)
      else if first then
        if b = 34 then member c else .error (c.faultAhead .keyNotString)
      else if b = 44 then
        let c := c.next.skipBlanks
        match c.rest with
        | [] => .error (c.faultAhead .endInValue)
        | b :: _ =>
          if b = 34 then member c
          else if b = 125 then .error (c.faultAhead .trailingComma)
          else .error (c.faultAhead .keyNotString)
      else .error (c.faultAhead .expectedObjectEnd)

/-- A value in which containers nest at most `depth` deep. -/
def readValue (depth : Nat) (c : ByteCursor) : Reading Json :=
  let c := c.skipBlanks
  match c.rest with
  | [] => .error (c.faultAhead .endInValue)
  | b :: _ =>
    if b = 110 then (readWord [117, 108, 108] c.next).map fun (_, c) => (.null, c)
    else if b = 116 then (readWord [114, 117, 101] c.next).map fun (_, c) => (.bool true, c)
    else if b = 102 then (readWord [97, 108, 115, 101] c.next).map fun (_, c) => (.bool false, c)
    else if b = 45 then (readNumber true c.next).map fun (n, c) => (.number n, c)
    else if isDigitByte b then (readNumber false c).map fun (n, c) => (.number n, c)
    else if b = 34 then (readString c.next).map fun (s, c) => (.string s, c)
    else if b = 91 then
      match depth with
      | 0 => .error (c.faultAhead .nestedTooDeep)
      | d + 1 =>
        (readItems (readValue d) true c.next (c.rest.length + 1)).map fun (vs, c) => (.array vs, c)
    else if b = 123 then
      match depth with
      | 0 => .error (c.faultAhead .nestedTooDeep)
      | d + 1 =>
        (readMembers (readValue d) [] true c.next (c.rest.length + 1)).map
          fun (ms, c) => (.object ms, c)
    else .error (c.faultAhead .expectedValue)

/-- The value that a text holds, and nothing else. -/
def readBytes (bytes : List UInt8) : Except ReadError Json := do
  let (value, c) ← readValue 127 { rest := bytes }
  let c := c.skipBlanks
  if c.rest.isEmpty then return value else .error (c.faultAhead .trailingCharacters)

def read (text : String) : Except ReadError Json := readBytes text.toUTF8.toList

end ComponentAtlas.Json
