/-!
# Identifiers of documents

A document is identified by a number of 64 bits, which manifests give in decimal. Leading zeros and
one plus sign are accepted, so several spellings name the same document; the canonical spelling has
neither.
-/

namespace Concordance

/-- The identifier of a document. -/
abbrev DocId := UInt64

/-- Why a text is not the identifier of a document. -/
inductive DocIdFault where
  /-- The text is empty. -/
  | empty
  /-- A character is not a digit. -/
  | invalidDigit
  /-- The number does not fit into 64 bits. -/
  | tooLarge
  deriving DecidableEq, Repr

/-- The text of a fault. -/
def DocIdFault.message : DocIdFault → String
  | empty => "cannot parse integer from empty string"
  | invalidDigit => "invalid digit found in string"
  | tooLarge => "number too large to fit in target type"

namespace DocId

/-- The canonical spelling, as a list of characters. -/
def digits (id : DocId) : List Char := Nat.toDigits 10 id.toNat

/-- The canonical spelling: decimal, without leading zeros. -/
def text (id : DocId) : String := String.ofList id.digits

/-- The identifier with the given digits after the digits of `n`. The first character that cannot
be accepted decides the fault. -/
def ofDigits (n : Nat) : List Char → Except DocIdFault DocId
  | [] => .ok (UInt64.ofNat n)
  | c :: rest =>
    if c.isDigit then
      let m := n * 10 + (c.toNat - '0'.toNat)
      if m < UInt64.size then ofDigits m rest else .error .tooLarge
    else .error .invalidDigit

/-- The identifier that a text spells. -/
def parse : List Char → Except DocIdFault DocId
  | [] => .error .empty
  | ['+'] => .error .invalidDigit
  | '+' :: c :: rest => ofDigits 0 (c :: rest)
  | s => ofDigits 0 s

end DocId

end Concordance
