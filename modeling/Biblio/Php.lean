import Mathlib.Data.List.Basic
import Mathlib.Data.Int.Notation

/-!
# PHP values

The part of PHP the handlers rely on: decoded JSON bodies with `empty`, `isset` and the coercion
of an argument to a `string` parameter, the truth value of a string, and `array_unique`.
-/

namespace Biblio

/-- The result of `json_decode($body, true)`; `null` also stands for a body that is not JSON.  A
floating-point number is given by its PHP text. -/
inductive Json where
  | null
  | bool (b : Bool)
  | int (n : ℤ)
  | float (text : String)
  | str (s : String)
  | arr (elems : List Json)
  | obj (fields : List (String × Json))

namespace Json

/-- `$data['key'] ?? null`: a later duplicate of a key wins; only an object has string keys. -/
def get (data : Json) (key : String) : Json :=
  match data with
  | obj fields => ((fields.reverse.find? fun f => f.1 == key).map Prod.snd).getD null
  | _ => null

/-- `isset($v)`. -/
def isset : Json → Bool
  | null => false
  | _ => true

/-- `empty($v)`. -/
def empty : Json → Bool
  | null => true
  | bool b => !b
  | int n => n == 0
  | float text => text == "0" || text == "-0"
  | str s => s == "" || s == "0"
  | arr elems => elems.isEmpty
  | obj fields => fields.isEmpty

/-- The coercion of an argument to a `string` parameter; `none` is a `TypeError`. -/
def toStringParam : Json → Option String
  | null => none
  | bool b => some (if b then "1" else "")
  | int n => some (toString n)
  | float text => some text
  | str s => some s
  | arr _ => none
  | obj _ => none

/-- The strings a value is compared with in `findOneBy`: an array stands for any of its
elements. -/
def criteria : Json → List String
  | arr elems => elems.filterMap toStringParam
  | obj fields => fields.filterMap fun f => f.2.toStringParam
  | v => v.toStringParam.toList

/-- `$v === $s`. -/
def identical (v : Json) (s : String) : Bool :=
  match v with
  | str t => t == s
  | _ => false

end Json

/-- The truth value of a `?string`: null, the empty string and `"0"` are false. -/
def truthy : Option String → Bool
  | none => false
  | some s => s != "" && s != "0"

/-- `array_unique`: the first occurrence of every value, under its old key. -/
def arrayUnique (l : List String) : List (ℕ × String) :=
  go 0 l
where
  /-- The entries from key `k` on, those already seen removed. -/
  go (k : ℕ) : List String → List (ℕ × String)
    | [] => []
    | v :: l => (k, v) :: (go (k + 1) l).filter fun e => e.2 != v

end Biblio
