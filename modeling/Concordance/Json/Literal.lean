import Concordance.Text.Octets

/-!
# JSON literals

The inside of a text literal, written and read. Writing replaces the quotation mark, the backslash
and the controls by escapes and leaves every other character alone. Reading accepts any escape and
joins a pair of surrogates to the character that it stands for; a surrogate alone stands for
nothing, and what the escapes leave must be UTF-8.

Of number literals only those of natural numbers are read: digits without a leading zero.
-/

namespace Concordance.Json

/-- The written form of a character inside a text literal. -/
def escapeChar (c : Char) : List Char :=
  if c = '"' || c = '\\' then ['\\', c]
  else if c = '\x08' then ['\\', 'b']
  else if c = '\t' then ['\\', 't']
  else if c = '\n' then ['\\', 'n']
  else if c = '\x0c' then ['\\', 'f']
  else if c = '\r' then ['\\', 'r']
  else if c.toNat < 0x20 then
    ['\\', 'u', '0', '0', Nat.digitChar (c.toNat / 16), Nat.digitChar (c.toNat % 16)]
  else [c]

/-- The written form of a text, without its quotation marks. -/
def escape (s : List Char) : List Char :=
  s.flatMap escapeChar

/-- The character of an octet, for comparison with the characters of the grammar. -/
def charOf (o : UInt8) : Char := Char.ofUInt8 o

/-- The value of a hexadecimal digit. -/
def hexDigit? (o : UInt8) : Option Nat :=
  let c := charOf o
  if '0' ≤ c ∧ c ≤ '9' then some (c.toNat - '0'.toNat)
  else if 'a' ≤ c ∧ c ≤ 'f' then some (c.toNat - 'a'.toNat + 10)
  else if 'A' ≤ c ∧ c ≤ 'F' then some (c.toNat - 'A'.toNat + 10)
  else none

/-- The value of four hexadecimal digits. -/
def codeUnit? (a b c d : UInt8) : Option Nat := do
  return (((← hexDigit? a) * 16 + (← hexDigit? b)) * 16 + (← hexDigit? c)) * 16 + (← hexDigit? d)

/-- The character that a letter after a backslash stands for. -/
def shortEscape? (o : UInt8) : Option Char :=
  match charOf o with
  | '"' => some '"'
  | '\\' => some '\\'
  | '/' => some '/'
  | 'b' => some '\x08'
  | 'f' => some '\x0c'
  | 'n' => some '\n'
  | 'r' => some '\r'
  | 't' => some '\t'
  | _ => none

/-- The octets of the character with the given code point. -/
def codePoint (n : Nat) : Octets := String.utf8EncodeChar (Char.ofNat n)

/-- The octets of a text literal with its escapes replaced by what they stand for. -/
def unescape? : Octets → Option Octets
  | [] => some []
  | 0x5C :: 0x75 :: a :: b :: c :: d :: rest => do
    let hi ← codeUnit? a b c d
    if 0xD800 ≤ hi ∧ hi < 0xDC00 then
      match rest with
      | 0x5C :: 0x75 :: a :: b :: c :: d :: rest =>
        let lo ← codeUnit? a b c d
        if 0xDC00 ≤ lo ∧ lo < 0xE000 then
          return codePoint (0x10000 + (hi - 0xD800) * 0x400 + (lo - 0xDC00)) ++ (← unescape? rest)
        else none
      | _ => none
    else if 0xDC00 ≤ hi ∧ hi < 0xE000 then none
    else return codePoint hi ++ (← unescape? rest)
  | 0x5C :: e :: rest => do
    let c ← shortEscape? e
    return String.utf8EncodeChar c ++ (← unescape? rest)
  | o :: rest => do
    if o = 0x5C then none else return o :: (← unescape? rest)

/-- The text of a text literal. -/
def textLiteral? (literal : Octets) : Option String :=
  (unescape? literal).bind textOf?

/-- The digit of an octet. -/
def digit? (o : UInt8) : Option Nat :=
  let c := charOf o
  if '0' ≤ c ∧ c ≤ '9' then some (c.toNat - '0'.toNat) else none

/-- The number with the given decimal digits, after the digits of `n`. -/
def digitsFrom? (n : Nat) : Octets → Option Nat
  | [] => some n
  | o :: rest => do digitsFrom? (n * 10 + (← digit? o)) rest

/-- The natural number of a number literal: digits, the first of which is not zero unless it stands
alone. -/
def naturalLiteral? : Octets → Option Nat
  | [] => none
  | [o] => digit? o
  | 0x30 :: _ => none
  | literal => digitsFrom? 0 literal

end Concordance.Json
