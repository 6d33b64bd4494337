import EditBatch.Decimal.Literal
import EditBatch.Json.Basic

/-! Reading JSON text.

Beside the standard grammar the words `NaN`, `Infinity` and `-Infinity` are numbers, and a
byte order mark may precede the document. Control characters inside strings are refused.
-/

set_option autoImplicit false

namespace EditBatch.Json

open EditBatch.Decimal

def isSpace (c : Char) : Bool := c = ' ' || c = '\t' || c = '\n' || c = '\r'

def skipSpace (text : List Char) : List Char := text.dropWhile isSpace

def afterWord? (word text : List Char) : Option (List Char) :=
  if word.isPrefixOf text then some (text.drop word.length) else none

def readWhole : List Char → Option (List Char × List Char)
  | '0' :: rest => some (['0'], rest)
  | text =>
    let (digits, rest) := takeDigits text
    if digits.isEmpty then none else some (digits, rest)

def readUnsigned (negative : Bool) (text : List Char) : Option (Json × List Char) := do
  let (whole, rest) ← readWhole text
  let (fraction, rest) := readFraction rest
  let (exponent?, rest) := readExponent rest
  let digits := naturalOf (whole ++ fraction)
  match fraction, exponent? with
  | [], none =>
    if whole.length ≤ digitLimit then some (.int (signed negative digits), rest) else none
  | _, _ => some (.float (.ofDecimal negative digits (exponent?.getD 0 - fraction.length)), rest)

def readNumber (text : List Char) : Option (Json × List Char) :=
  match text with
  | '-' :: rest =>
    match afterWord? "Infinity".toList rest with
    | some rest => some (.float (.infinite true), rest)
    | none => readUnsigned true rest
  | _ => readUnsigned false text

def hexValue? (c : Char) : Option Nat :=
  if c.isDigit then some (c.toNat - '0'.toNat)
  else if 'a' ≤ c && c ≤ 'f' then some (c.toNat - 'a'.toNat + 10)
  else if 'A' ≤ c && c ≤ 'F' then some (c.toNat - 'A'.toNat + 10)
  else none

def hexUnit? (a b c d : Char) : Option Nat := do
  return 4096 * (← hexValue? a) + 256 * (← hexValue? b) + 16 * (← hexValue? c) + (← hexValue? d)

def isHighSurrogate (unit : Nat) : Bool := 0xD800 ≤ unit && unit < 0xDC00

def isLowSurrogate (unit : Nat) : Bool := 0xDC00 ≤ unit && unit < 0xE000

/-- A unit that is half of no pair stands for the replacement character. -/
def loneUnit (unit : Nat) : Char :=
  if isHighSurrogate unit || isLowSurrogate unit then '\ufffd' else Char.ofNat unit

def simpleEscape? : Char → Option Char
  | '\x22' => some '\x22'
  | '\\' => some '\\'
  | '/' => some '/'
  | 'b' => some '\x08'
  | 'f' => some '\x0c'
  | 'n' => some '\n'
  | 'r' => some '\r'
  | 't' => some '\t'
  | _ => none

/-- A string after its opening quote, behind the characters already read in reverse. -/
def readString (behind : List Char) : List Char → Option (String × List Char)
  | [] => none
  | '\x22' :: rest => some (String.ofList behind.reverse, rest)
  | '\\' :: 'u' :: a :: b :: c :: d :: '\\' :: 'u' :: e :: f :: g :: h :: rest =>
    match hexUnit? a b c d, hexUnit? e f g h with
    | some high, some low =>
      if isHighSurrogate high && isLowSurrogate low then
        readString (Char.ofNat (0x10000 + (high - 0xD800) * 1024 + (low - 0xDC00)) :: behind) rest
      else readString (loneUnit high :: behind) ('\\' :: 'u' :: e :: f :: g :: h :: rest)
    | _, _ => none
  | '\\' :: 'u' :: a :: b :: c :: d :: rest =>
    match hexUnit? a b c d with
    | some unit => readString (loneUnit unit :: behind) rest
    | none => none
  | '\\' :: c :: rest =>
    match simpleEscape? c with
    | some plain => readString (plain :: behind) rest
    | none => none
  | c :: rest => if c.toNat < 0x20 then none else readString (c :: behind) rest

def wordValues : List (List Char × Json) :=
  [("null".toList, .null), ("true".toList, .bool true), ("false".toList, .bool false),
   ("NaN".toList, .float .notANumber), ("Infinity".toList, .float (.infinite false))]

def readWord (text : List Char) : Option (Json × List Char) :=
  wordValues.findSome? fun (word, value) => (afterWord? word text).map fun rest => (value, rest)

inductive ReadFailure where
  | malformed
  /-- An array or an object lies inside too many others. -/
  | tooDeep (kind : String)
  deriving DecidableEq, Repr

/-- How many arrays and objects may lie one inside another. -/
def nestingLimit : Nat := 970

def orMalformed {α : Type} (result : Option α) : Except ReadFailure α :=
  result.elim (.error .malformed) .ok

mutual

/-- A value at the start of a text, inside which a number of arrays and objects may lie one
inside another. The depth bounds the recursion; two steps down take at least one character, so
twice the length of the text is always deep enough. -/
def readValue (nesting depth : Nat) (text : List Char) :
    Except ReadFailure (Json × List Char) :=
  match depth with
  | 0 => .error .malformed
  | depth + 1 =>
    match text with
    | '\x22' :: rest =>
      orMalformed ((readString [] rest).map fun (value, rest) => (.str value, rest))
    | '[' :: rest =>
      match nesting, skipSpace rest with
      | 0, _ => .error (.tooDeep "array")
      | _ + 1, ']' :: rest => .ok (.arr [], rest)
      | nesting + 1, rest =>
        (readItems nesting depth rest).map fun (items, rest) => (.arr items, rest)
    | '\x7b' :: rest =>
      match nesting, skipSpace rest with
      | 0, _ => .error (.tooDeep "object")
      | _ + 1, '\x7d' :: rest => .ok (.obj [], rest)
      | nesting + 1, rest =>
        (readMembers nesting depth rest).map fun (members, rest) => (ofMembers members, rest)
    | text => orMalformed (readWord text <|> readNumber text)

def readItems (nesting depth : Nat) (text : List Char) :
    Except ReadFailure (List Json × List Char) :=
  match depth with
  | 0 => .error .malformed
  | depth + 1 => do
    let (item, rest) ← readValue nesting depth text
    match skipSpace rest with
    | ']' :: rest => .ok ([item], rest)
    | ',' :: rest =>
      let (items, rest) ← readItems nesting depth (skipSpace rest)
      .ok (item :: items, rest)
    | _ => .error .malformed

def readMembers (nesting depth : Nat) (text : List Char) :
    Except ReadFailure (List (String × Json) × List Char) :=
  match depth with
  | 0 => .error .malformed
  | depth + 1 =>
    match text with
    | '\x22' :: rest => do
      let (name, rest) ← orMalformed (readString [] rest)
      match skipSpace rest with
      | ':' :: rest =>
        let (value, rest) ← readValue nesting depth (skipSpace rest)
        match skipSpace rest with
        | '\x7d' :: rest => .ok ([(name, value)], rest)
        | ',' :: rest =>
          let (members, rest) ← readMembers nesting depth (skipSpace rest)
          .ok ((name, value) :: members, rest)
        | _ => .error .malformed
      | _ => .error .malformed
    | _ => .error .malformed

end

def read (text : String) : Except ReadFailure Json := do
  let document :=
    match text.toList with
    | '\ufeff' :: rest => rest
    | chars => chars
  let (value, rest) ← readValue nestingLimit (2 * document.length + 2) (skipSpace document)
  if (skipSpace rest).isEmpty then .ok value else .error .malformed

def read? (text : String) : Option Json := (read text).toOption

example : (read? "\ufeff [1, -2.50, \x22\\u004f\\ud83d\\ude00\x22]").map literal =
    some "[1, -2.5, 'O😀']" := by decide +kernel
example : (read? "[07]").isNone = true ∧ (read? "1 x").isNone = true := by decide +kernel
example : (readValue 1 9 "[[]]".toList).isOk = false ∧
    (readValue 2 9 "[[]]".toList).isOk = true := by decide +kernel

end EditBatch.Json
