import EditBatch.Text.Split

/-! Hosts given by numeric addresses.

An IPv4 address is four numbers below 256 without leading zeros. An IPv6 address is eight groups
of up to four hexadecimal digits; two colons once stand for groups of zeros, and an IPv4 address
may take the place of the last two groups.
-/

set_option autoImplicit false

namespace EditBatch.Http

open EditBatch.Text

def isByteNumber (part : List Char) : Bool :=
  !part.isEmpty && part.all Char.isDigit && part.length ≤ 3 &&
    (part = ['0'] || part.head? ≠ some '0') &&
    part.foldl (fun value c => 10 * value + (c.toNat - '0'.toNat)) 0 ≤ 255

def isIpv4 (text : List Char) : Bool :=
  let parts := splitAt '.' text
  parts.length = 4 && parts.all isByteNumber

def digitRuns : List Char → List Nat
  | [] => [0]
  | c :: rest =>
    match digitRuns rest with
    | [] => []
    | run :: runs => if c.isDigit then (run + 1) :: runs else 0 :: run :: runs

/-- Whether a text can be cut into four runs of digits with one character between each. Such a
text is taken for an IPv4 address, so that it has to be one. -/
def looksLikeIpv4 (text : List Char) : Bool :=
  let runs := digitRuns text
  runs.all (0 < ·) && runs.length ≤ 4 &&
    4 ≤ runs.foldl (fun pairs run => pairs + (run - 1) / 2) runs.length

def isHexDigit (c : Char) : Bool :=
  c.isDigit || ('a' ≤ c && c ≤ 'f') || ('A' ≤ c && c ≤ 'F')

def isGroup (part : List Char) : Bool :=
  !part.isEmpty && part.length ≤ 4 && part.all isHexDigit

/-- The groups of an IPv6 address, where an IPv4 address at the end counts as two groups. -/
def groups? (text : List Char) : Option (List (List Char)) :=
  let parts := splitAt ':' text
  match parts.getLast? with
  | some last =>
    if parts.length < 3 then none
    else if last.contains '.' then
      if isIpv4 last then some (parts.dropLast ++ [['0'], ['0']]) else none
    else some parts
  | none => none

/-- The groups before and behind two colons, if they occur. An empty group at an end of the
address belongs to the colons. -/
def isCompressed (groups : List (List Char)) : Bool :=
  let inner := (groups.drop 1).dropLast
  match inner.idxOf? [] with
  | none => groups.length = 8 && groups.all isGroup
  | some index =>
    let before := groups.take (index + 1)
    let behind := groups.drop (index + 2)
    let before := if before = [[]] then [] else before
    let behind := if behind = [[]] then [] else behind
    before.all isGroup && behind.all isGroup && before.length + behind.length ≤ 7

def isIpv6 (text : List Char) : Bool :=
  let address := text.takeWhile (· ≠ '%')
  let zone := text.dropWhile (· ≠ '%')
  let zoneFits := zone.isEmpty || (1 < zone.length && !(zone.drop 1).contains '%')
  zoneFits && (groups? address).any isCompressed

example : isIpv4 "10.0.0.255".toList = true ∧ isIpv4 "10.0.0.256".toList = false := by
  decide +kernel
example : looksLikeIpv4 "1234567".toList = true ∧ looksLikeIpv4 "1.2.3".toList = false := by
  decide +kernel
example : isIpv6 "::1".toList = true ∧ isIpv6 "1::2::3".toList = false := by decide +kernel
example : isIpv6 "::ffff:1.2.3.4%eth0".toList = true ∧ isIpv6 ":1::2".toList = false := by
  decide +kernel

end EditBatch.Http
