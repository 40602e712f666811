import HostProbe.Error.Number
import HostProbe.Json
import HostProbe.Number.Integer
import HostProbe.Number.Real
import HostProbe.Text.Utf8

/-! How recordings of hosts hold numbers, texts and bytes. Members that are missing or of another kind count as zero,
empty or false. -/
namespace HostProbe.Json

def int? : Json → Option Int
  | .int n => some n
  | _ => none

def nat? (j : Json) : Option Nat := j.int?.map Int.toNat

def real? : Json → Option Float
  | .int n => some (Real.ofInt n)
  | .real x => some x
  | _ => none

def text? : Json → Option String
  | .text s => some s
  | _ => none

def items : Json → List Json
  | .list items => items
  | _ => []

def members : Json → List (String × Json)
  | .object members => members
  | _ => []

def get (j : Json) (key : String) : Json := (j.get? key).getD .null

def intAt (j : Json) (key : String) (default : Int := 0) : Int := (j.get key).int?.getD default

def natAt (j : Json) (key : String) (default : Nat := 0) : Nat := (j.get key).nat?.getD default

def realAt (j : Json) (key : String) (default : Float := 0.0) : Float := (j.get key).real?.getD default

def textAt (j : Json) (key : String) (default : String := "") : String := (j.get key).text?.getD default

def holds (j : Json) (key : String) : Bool :=
  match j.get key with
  | .bool b => b
  | _ => false

def itemsAt (j : Json) (key : String) : List Json := (j.get key).items

def intsAt (j : Json) (key : String) : List Int := (j.itemsAt key).filterMap int?

def natsAt (j : Json) (key : String) : List Nat := (j.itemsAt key).filterMap nat?

def textsAt (j : Json) (key : String) : List String := (j.itemsAt key).filterMap text?

def item (j : Json) (index : Nat) : Json := j.items.getD index .null

end HostProbe.Json

namespace HostProbe.Recording

def hexBytes (s : String) : Bytes :=
  let rec go : List Char → Bytes → Bytes
    | a :: b :: rest, found =>
      go rest (UInt8.ofNat ((Integer.digit? 16 a).getD 0 * 16 + (Integer.digit? 16 b).getD 0) :: found)
    | _, found => found.reverse
  go s.toList []

def textBytes (s : String) : Bytes := Utf8.encode s.toList

def repeated (piece : Bytes) (times : Nat) : Bytes := (List.replicate times piece).flatten

def sparsePiece : Json → Bytes
  | .text digits => hexBytes digits
  | .int zeros => List.replicate zeros.toNat 0
  | .list [.text digits, .int times] => repeated (hexBytes digits) times.toNat
  | _ => []

def repeatedText : Json → Bytes
  | .list [.text s, .int times] => repeated (textBytes s) times.toNat
  | _ => []

def bytesOf (j : Json) : Bytes :=
  match j.get? "hex", j.get? "sparse", j.get? "rep" with
  | some digits, _, _ => hexBytes (digits.text?.getD "")
  | none, some pieces, _ => (pieces.items.map sparsePiece).flatten
  | none, none, some pieces => (pieces.items.map repeatedText).flatten
  | none, none, none => textBytes (j.textAt "text")

def answered {α : Type} (read : Json → α) (j : Json) : Except ErrorNumber α :=
  match (j.get "errno").int? with
  | some number => .error number
  | none => .ok (read j)

def answeredAt {α : Type} (kernel : Json) (key : String) (read : Json → α) : Option (Except ErrorNumber α) :=
  (kernel.get? key).map (answered read)

def padded (length : Nat) (bytes : Bytes) : Bytes := bytes ++ List.replicate (length - bytes.length) 0

end HostProbe.Recording
