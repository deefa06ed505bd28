import Calculator.Number.Layout
import Calculator.Text.Quoted

/-!
# JSON values

The values of JSON documents.  Whole numbers and numbers with a fraction or an exponent are kept
apart, and objects keep the order of their members.

## Main definitions

* `Json`: the values
* `Json.members l`: an object of which a repeated name keeps its first place and its last value
* `Json.describe v`: the text by which messages quote a value
-/

namespace Calculator

/-- A JSON value. -/
inductive Json where
  /-- The value `null`. -/
  | null
  /-- A truth value. -/
  | bool (b : Bool)
  /-- A number without a fraction and an exponent. -/
  | integer (n : Int)
  /-- Any other number. -/
  | real (x : Float)
  /-- A string. -/
  | text (s : CodePoints)
  /-- An array. -/
  | array (items : List Json)
  /-- An object, its members in order. -/
  | object (members : List (CodePoints × Json))
deriving Inhabited

namespace Json

/-- The members with `name` set to `value`: in place of an earlier value, or else at the end. -/
def setMember (name : CodePoints) (value : Json) :
    List (CodePoints × Json) → List (CodePoints × Json)
  | [] => [(name, value)]
  | (key, old) :: rest =>
    if key = name then (key, value) :: rest else (key, old) :: setMember name value rest

/-- The members that a list of names and values leaves, the later ones in force. -/
def members (l : List (CodePoints × Json)) : List (CodePoints × Json) :=
  l.foldl (fun kept member => setMember member.1 member.2 kept) []

/-- The value of a member. -/
def member? (name : String) : Json → Option Json
  | object l => l.lookup (CodePoints.ofString name)
  | _ => none

/-- The words for infinity and what is not a number in messages. -/
def messageStyle : RealStyle := ⟨"inf", "nan"⟩

mutual

/-- The text by which messages quote a value. -/
def describe : Json → String
  | null => "None"
  | bool true => "True"
  | bool false => "False"
  | integer n => toString n
  | real x => realText messageStyle x
  | text s => Quoted.codePoints s
  | array items => "[" ++ ", ".intercalate (describeAll items) ++ "]"
  | object l => "\x7b" ++ ", ".intercalate (describeMembers l) ++ "\x7d"

/-- The texts of the items of an array. -/
def describeAll : List Json → List String
  | [] => []
  | v :: rest => describe v :: describeAll rest

/-- The texts of the members of an object. -/
def describeMembers : List (CodePoints × Json) → List String
  | [] => []
  | (name, v) :: rest => (Quoted.codePoints name ++ ": " ++ describe v) :: describeMembers rest

end

end Json

end Calculator
