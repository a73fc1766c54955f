import DockerLens.Acquisition.Acquire
import DockerLens.Target.Graph

namespace DockerLens.Render

open DockerLens.Text
open DockerLens.Acquisition
open DockerLens.Observation
open DockerLens.Target

/-- The text that the renderer pushes together. -/
abbrev Chars := List Char

/-- The two errors of the renderer, and an abort: a failed `expect`, an `unreachable!`
or an index out of bounds. -/
inductive RenderFailure
  | invalidGraph
  | missingNativeProvenance
  | aborted
  deriving DecidableEq, Repr

abbrev Rendered (α : Type) := Except RenderFailure α

def push (text : String) : Rendered Chars := .ok text.toList

/-- Several pushes in a row. -/
def pushes (parts : List (Rendered Chars)) : Rendered Chars := (parts.mapM id).map List.flatten

/-- The elements of a loop that pushes a comma before each one but the first. -/
def separated {α : Type} (render : α → Rendered Chars) (values : List α) : Rendered Chars :=
  (values.mapM render).map (List.intercalate [','])

/-- Pushes that stand under a condition. -/
def pushIf (condition : Bool) (text : Rendered Chars) : Rendered Chars :=
  if condition then text else .ok []

/-- Pushes for a value that may be absent. -/
def pushSome {α : Type} (render : α → Rendered Chars) : Option α → Rendered Chars
  | none => .ok []
  | some value => render value

/-- `{}` of an unsigned integer. -/
def decimal (value : Nat) : Chars := Nat.toDigits 10 value

/-- `{:04x}`. -/
def hex4 (value : Nat) : Chars :=
  let digits := Nat.toDigits 16 value
  List.replicate (4 - digits.length) '0' ++ digits

def escape (char : Char) : Chars :=
  if char = '"' then ['\\', '"']
  else if char = '\\' then ['\\', '\\']
  else if char = '\n' then ['\\', 'n']
  else if char = '\r' then ['\\', 'r']
  else if char = '\t' then ['\\', 't']
  else if char.toNat ≤ 0x1f then '\\' :: 'u' :: hex4 char.toNat
  else [char]

/-- Bytes that are not UTF-8 fail the `expect`. -/
def jsonString (bytes : Bytes) : Rendered Chars :=
  match fromUtf8 bytes with
  | none => .error .aborted
  | some value => .ok ('"' :: value.toList.flatMap escape ++ ['"'])

def percentEncode (bytes : Bytes) : Chars := bytes.flatMap encodeByte

/-- One `"key":"value"` of a loop over a map. -/
def jsonPair (key value : Bytes) : Rendered Chars :=
  pushes [jsonString key, push ":", jsonString value]

/-- The network that an attachment names. -/
def networkOf (resources : List TargetResource) (reference : ResourceRef) :
    Rendered NetworkIntent :=
  match resourceOf resources reference with
  | some (.network network) => .ok network
  | _ => .error .invalidGraph

end DockerLens.Render
