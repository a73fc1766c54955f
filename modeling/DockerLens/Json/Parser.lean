import DockerLens.Json.Value
import DockerLens.Text

namespace DockerLens.Json

open DockerLens.Text

def isSpace (char : Char) : Bool :=
  char == ' ' || char == '\t' || char == '\n' || char == '\r'

def skipSpace (text : List Char) : List Char := text.dropWhile isSpace

/-- Four hexadecimal digits. -/
def hexCode (a b c d : Char) : Option Nat :=
  match toDigit 16 a, toDigit 16 b, toDigit 16 c, toDigit 16 d with
  | some a, some b, some c, some d => some (((a * 16 + b) * 16 + c) * 16 + d)
  | _, _, _, _ => none

/-- The character behind a one-letter escape. -/
def simpleEscape : Char → Option Char
  | '"' => some '"'
  | '\\' => some '\\'
  | '/' => some '/'
  | 'b' => some '\x08'
  | 'f' => some '\x0c'
  | 'n' => some '\n'
  | 'r' => some '\r'
  | 't' => some '\t'
  | _ => none

/-- The character of a surrogate pair. -/
def surrogatePair (high low : Nat) : Option Char :=
  if 0xD800 ≤ high ∧ high < 0xDC00 ∧ 0xDC00 ≤ low ∧ low < 0xE000 then
    some (Char.ofNat (0x10000 + (high - 0xD800) * 0x400 + (low - 0xDC00)))
  else none

/-- The characters up to the closing quote and what follows it. -/
def parseString : List Char → Option (List Char × List Char)
  | [] => none
  | '"' :: rest => some ([], rest)
  | '\\' :: 'u' :: a :: b :: c :: d :: rest =>
      match hexCode a b c d with
      | none => none
      | some code =>
          if code < 0xD800 ∨ 0xE000 ≤ code then
            (parseString rest).map fun (text, after) => (Char.ofNat code :: text, after)
          else
            match rest with
            | '\\' :: 'u' :: e :: f :: g :: h :: rest =>
                match (hexCode e f g h).bind (surrogatePair code) with
                | none => none
                | some char =>
                    (parseString rest).map fun (text, after) => (char :: text, after)
            | _ => none
  | '\\' :: escape :: rest =>
      match simpleEscape escape with
      | none => none
      | some char => (parseString rest).map fun (text, after) => (char :: text, after)
  | char :: rest =>
      if char.toNat < 0x20 ∨ char = '\\' then none
      else (parseString rest).map fun (text, after) => (char :: text, after)

/-- The decimal value of digits. -/
def digitsValue (digits : List Char) : Nat := Nat.ofDigitChars 10 digits 0

/-- An integer in the range of `u64` or `i64`; every other one is a float. -/
def integer (negative : Bool) (digits : List Char) : Number :=
  let value := digitsValue digits
  if negative then
    if 0 < value ∧ value ≤ 2 ^ 63 then .negInt value else .float ('-' :: digits)
  else if value < 2 ^ 64 then .posInt value
  else .float digits

/-- A fraction, if there is one. -/
def fraction (text : List Char) : Option (List Char × List Char) :=
  match text with
  | '.' :: rest =>
      let digits := rest.takeWhile Char.isDigit
      if digits.isEmpty then none else some ('.' :: digits, rest.dropWhile Char.isDigit)
  | _ => some ([], text)

/-- The sign of an exponent, if there is one. -/
def exponentSign (text : List Char) : List Char × List Char :=
  match text with
  | '+' :: rest => (['+'], rest)
  | '-' :: rest => (['-'], rest)
  | _ => ([], text)

/-- An exponent, if there is one. -/
def exponent (text : List Char) : Option (List Char × List Char) :=
  match text with
  | letter :: rest =>
      if letter = 'e' ∨ letter = 'E' then
        let (sign, rest) := exponentSign rest
        let digits := rest.takeWhile Char.isDigit
        if digits.isEmpty then none
        else some (letter :: sign ++ digits, rest.dropWhile Char.isDigit)
      else some ([], text)
  | [] => some ([], [])

/-- The digits of the integral part: nonempty, and no leading zero before others. -/
def integral (text : List Char) : Option (List Char × List Char) :=
  match text.takeWhile Char.isDigit with
  | [] => none
  | ['0'] => some (['0'], text.dropWhile Char.isDigit)
  | '0' :: _ => none
  | digits => some (digits, text.dropWhile Char.isDigit)

/-- A number after its sign. -/
def parseUnsignedNumber (negative : Bool) (text : List Char) : Option (Number × List Char) := do
  let (digits, rest) ← integral text
  let (fraction, rest) ← fraction rest
  let (exponent, rest) ← exponent rest
  if fraction.isEmpty && exponent.isEmpty then some (integer negative digits, rest)
  else
    some (.float ((if negative then ['-'] else []) ++ digits ++ fraction ++ exponent), rest)

def parseNumber (text : List Char) : Option (Number × List Char) :=
  match text with
  | '-' :: rest => parseUnsignedNumber true rest
  | _ => parseUnsignedNumber false text

mutual

/-- A value and what follows it; `fuel` bounds the depth of the recursion. -/
def parseValue : Nat → List Char → Option (Value × List Char)
  | 0, _ => none
  | fuel + 1, text =>
      match skipSpace text with
      | 'n' :: 'u' :: 'l' :: 'l' :: rest => some (.null, rest)
      | 't' :: 'r' :: 'u' :: 'e' :: rest => some (.bool true, rest)
      | 'f' :: 'a' :: 'l' :: 's' :: 'e' :: rest => some (.bool false, rest)
      | '"' :: rest =>
          (parseString rest).map fun (text, rest) => (.string (String.ofList text), rest)
      | '[' :: rest =>
          match skipSpace rest with
          | ']' :: rest => some (.array [], rest)
          | rest => (parseElements fuel rest).map fun (values, rest) => (.array values, rest)
      | '\x7b' :: rest =>
          match skipSpace rest with
          | '\x7d' :: rest => some (.object [], rest)
          | rest => (parseMembers fuel rest).map fun (members, rest) => (.object members, rest)
      | rest => (parseNumber rest).map fun (number, rest) => (.number number, rest)

/-- The elements of a nonempty array and what follows its bracket. -/
def parseElements : Nat → List Char → Option (List Value × List Char)
  | 0, _ => none
  | fuel + 1, text =>
      match parseValue fuel text with
      | none => none
      | some (value, rest) =>
          match skipSpace rest with
          | ']' :: rest => some ([value], rest)
          | ',' :: rest =>
              (parseElements fuel rest).map fun (values, rest) => (value :: values, rest)
          | _ => none

/-- The members of a nonempty object and what follows its brace. -/
def parseMembers : Nat → List Char → Option (List (String × Value) × List Char)
  | 0, _ => none
  | fuel + 1, text =>
      match skipSpace text with
      | '"' :: rest =>
          match parseString rest with
          | none => none
          | some (key, rest) =>
              match skipSpace rest with
              | ':' :: rest =>
                  match parseValue fuel rest with
                  | none => none
                  | some (value, rest) =>
                      match skipSpace rest with
                      | '\x7d' :: rest => some ([(String.ofList key, value)], rest)
                      | ',' :: rest =>
                          (parseMembers fuel rest).map fun (members, rest) =>
                            ((String.ofList key, value) :: members, rest)
                      | _ => none
              | _ => none
      | _ => none

end

/-- A whole document, with nothing but white space after it. -/
def parse (text : List Char) : Option Value :=
  match parseValue (2 * text.length + 2) text with
  | none => none
  | some (value, rest) => if (skipSpace rest).isEmpty then some value else none

end DockerLens.Json
