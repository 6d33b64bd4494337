import EditBatch.Decimal.Shortest
import EditBatch.Text.Quoted

/-! JSON values, and how they read inside messages.

Integers are unbounded and distinct from the numbers written with a fraction or an exponent.
The members of an object keep their order; a name occurs once.
-/

set_option autoImplicit false

namespace EditBatch

open EditBatch.Decimal EditBatch.Text

inductive Json where
  | null
  | bool (value : Bool)
  | int (value : Int)
  | float (value : Double)
  | str (value : String)
  | arr (items : List Json)
  | obj (members : List (String × Json))
  deriving Repr, Inhabited

namespace Json

mutual

def same : Json → Json → Bool
  | .null, .null => true
  | .bool one, .bool other => one == other
  | .int one, .int other => one == other
  | .float one, .float other => one == other
  | .str one, .str other => one == other
  | .arr ones, .arr others => sameItems ones others
  | .obj ones, .obj others => sameMembers ones others
  | _, _ => false

def sameItems : List Json → List Json → Bool
  | [], [] => true
  | one :: ones, other :: others => one.same other && sameItems ones others
  | _, _ => false

def sameMembers : List (String × Json) → List (String × Json) → Bool
  | [], [] => true
  | (name, one) :: ones, (again, other) :: others =>
    name == again && one.same other && sameMembers ones others
  | _, _ => false

end

instance : BEq Json where
  beq := same

/-- Null, false, zero and whatever is empty hold for nothing. -/
def holds : Json → Bool
  | .null => false
  | .bool value => value
  | .int value => value != 0
  | .float value => !value.isZero
  | .str value => value != ""
  | .arr items => !items.isEmpty
  | .obj members => !members.isEmpty

def kind : Json → String
  | .null => "NoneType"
  | .bool _ => "bool"
  | .int _ => "int"
  | .float _ => "float"
  | .str _ => "str"
  | .arr _ => "list"
  | .obj _ => "dict"

def boolWord (value : Bool) : String := if value then "True" else "False"

mutual

def literal : Json → String
  | .null => "None"
  | .bool value => boolWord value
  | .int value => toString value
  | .float value => value.text
  | .str value => quoted value
  | .arr items => "[" ++ ", ".intercalate (itemLiterals items) ++ "]"
  | .obj members => "\x7b" ++ ", ".intercalate (memberLiterals members) ++ "\x7d"

def itemLiterals : List Json → List String
  | [] => []
  | item :: rest => item.literal :: itemLiterals rest

def memberLiterals : List (String × Json) → List String
  | [] => []
  | (name, value) :: rest => (quoted name ++ ": " ++ value.literal) :: memberLiterals rest

end

def text : Json → String
  | .str value => value
  | value => value.literal

def setMember (name : String) (value : Json) : List (String × Json) → List (String × Json)
  | [] => [(name, value)]
  | (other, old) :: rest =>
    if other = name then (other, value) :: rest else (other, old) :: setMember name value rest

/-- The members of an object text, where a repeated name keeps its first place and last value. -/
def ofMembers (members : List (String × Json)) : Json :=
  .obj (members.foldl (fun kept member => setMember member.1 member.2 kept) [])

def member? (name : String) : Json → Option Json
  | .obj members => members.lookup name
  | _ => none

example : literal (.obj [("k", .arr [.int 1, .null, .str "it's", .bool true])]) =
    "\x7b'k': [1, None, \x22it's\x22, True]\x7d" := by decide +kernel

end Json

end EditBatch
