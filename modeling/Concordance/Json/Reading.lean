import Concordance.Json.Literal
import Concordance.Json.Value

/-!
# Reading JSON

Octets are read one at a time by a machine that keeps the containers that are still open. A run over
`s ++ t` is a run over `s` followed by a run over `t`, by definition, and once the outermost value
is complete only blanks are accepted; so of two documents of which one begins the other, the longer
one has nothing but blanks to add.

Literals are kept as they were written. Of a text literal only its extent is checked here: no
controls, and every escape complete. The depth of containers is not limited.
-/

namespace Concordance

/-- A JSON value as it was read: its literals are kept as they were written. -/
abbrev RawJson := Json Octets Octets

namespace Json

/-- A container that is still open, with what it holds so far, nearest first. -/
inductive Frame where
  /-- An array that awaits an item. -/
  | array (before : List RawJson)
  /-- An object that awaits the value of the member `name`. -/
  | object (before : List (Octets × RawJson)) (name : Octets)

/-- How far an escape inside a text literal has been read. -/
inductive Escape where
  /-- There is no escape. -/
  | none
  /-- The backslash was read. -/
  | begun
  /-- This many hexadecimal digits are missing. -/
  | digits (missing : Nat)

/-- How far a number literal has been read. -/
inductive NumberPart where
  | minus
  | zero
  | integer
  | point
  | fraction
  | exponent
  | exponentSign
  | exponentDigits

/-- What the machine has read of the value, the name or the separator that it is at. -/
inductive Phase where
  /-- A value is awaited. -/
  | value
  /-- An array was opened: an item or its end is awaited. -/
  | firstItem
  /-- An object awaits a name, or its end if no name must follow. -/
  | name (before : List (Octets × RawJson)) (mayEnd : Bool)
  /-- Inside the name of a member. The literal is held backwards. -/
  | inName (before : List (Octets × RawJson)) (literal : Octets) (escape : Escape)
  /-- A colon is awaited. -/
  | colon (before : List (Octets × RawJson)) (name : Octets)
  /-- Inside a text. The literal is held backwards. -/
  | inText (literal : Octets) (escape : Escape)
  /-- Inside a number. The literal is held backwards. -/
  | inNumber (literal : Octets) (part : NumberPart)
  /-- Inside a word of the grammar, of which `rest` is missing. -/
  | inWord (rest : List Char) (v : RawJson)
  /-- A value was read. -/
  | complete (v : RawJson)

/-- A state of the machine: the open containers, innermost first, and the phase. -/
structure Reader where
  /-- The open containers, innermost first. -/
  frames : List Frame
  /-- What was read of the value, the name or the separator that the machine is at. -/
  phase : Phase

/-- The blanks between the parts of a document. -/
def isSpace (o : UInt8) : Bool :=
  o = 0x20 || o = 0x09 || o = 0x0A || o = 0x0D

/-- One octet inside a text literal: the escape state after it, or `none` if it may not stand there.
The end of the literal is not its concern. -/
def Escape.next? : Escape → UInt8 → Option Escape
  | .none, o => if o = 0x5C then some .begun else if o < 0x20 then Option.none else some .none
  | .begun, o =>
    if o = 0x75 then some (.digits 4)
    else if (shortEscape? o).isSome then some .none else Option.none
  | .digits n, o =>
    if (hexDigit? o).isSome then some (if n ≤ 1 then .none else .digits (n - 1)) else Option.none

/-- One octet inside a number literal: the part after it, or `none` if it does not continue the
literal. -/
def NumberPart.next? : NumberPart → UInt8 → Option NumberPart
  | .minus, o => if o = 0x30 then some .zero else if (digit? o).isSome then some .integer else none
  | .zero, o => afterInteger? o
  | .integer, o => if (digit? o).isSome then some .integer else afterInteger? o
  | .point, o => if (digit? o).isSome then some .fraction else none
  | .fraction, o =>
    if (digit? o).isSome then some .fraction
    else if o = 0x65 || o = 0x45 then some .exponent else none
  | .exponent, o =>
    if o = 0x2B || o = 0x2D then some .exponentSign
    else if (digit? o).isSome then some .exponentDigits else none
  | .exponentSign, o => if (digit? o).isSome then some .exponentDigits else none
  | .exponentDigits, o => if (digit? o).isSome then some .exponentDigits else none
where
  /-- What may follow the integer part. -/
  afterInteger? (o : UInt8) : Option NumberPart :=
    if o = 0x2E then some .point else if o = 0x65 || o = 0x45 then some .exponent else none

/-- May a number literal end here? -/
def NumberPart.mayEnd : NumberPart → Bool
  | .zero | .integer | .fraction | .exponentDigits => true
  | .minus | .point | .exponent | .exponentSign => false

/-- The state after the first octet of a value inside the given containers. -/
def beginValue? (frames : List Frame) (o : UInt8) : Option Reader :=
  match charOf o with
  | '\x7b' => some ⟨frames, .name [] true⟩
  | '[' => some ⟨frames, .firstItem⟩
  | '"' => some ⟨frames, .inText [] .none⟩
  | '-' => some ⟨frames, .inNumber [o] .minus⟩
  | '0' => some ⟨frames, .inNumber [o] .zero⟩
  | 'n' => some ⟨frames, .inWord ['u', 'l', 'l'] .null⟩
  | 't' => some ⟨frames, .inWord ['r', 'u', 'e'] (.bool true)⟩
  | 'f' => some ⟨frames, .inWord ['a', 'l', 's', 'e'] (.bool false)⟩
  | _ => if (digit? o).isSome then some ⟨frames, .inNumber [o] .integer⟩ else none

/-- The state after an octet that follows the value `v` inside the given containers. -/
def afterValue? (frames : List Frame) (v : RawJson) (o : UInt8) : Option Reader :=
  if isSpace o then some ⟨frames, .complete v⟩
  else
    match frames, charOf o with
    | .array before :: outer, ',' => some ⟨.array (v :: before) :: outer, .value⟩
    | .array before :: outer, ']' => some ⟨outer, .complete (.array (v :: before).reverse)⟩
    | .object before name :: outer, ',' => some ⟨outer, .name ((name, v) :: before) false⟩
    | .object before name :: outer, '\x7d' =>
      some ⟨outer, .complete (.object ((name, v) :: before).reverse)⟩
    | _, _ => none

/-- One octet. -/
def Reader.step? (r : Reader) (o : UInt8) : Option Reader :=
  match r.phase with
  | .value => if isSpace o then some r else beginValue? r.frames o
  | .firstItem =>
    if isSpace o then some r
    else if o = 0x5D then some ⟨r.frames, .complete (.array [])⟩
    else beginValue? (.array [] :: r.frames) o
  | .name before mayEnd =>
    if isSpace o then some r
    else if o = 0x22 then some ⟨r.frames, .inName before [] .none⟩
    else if o = 0x7D && mayEnd then some ⟨r.frames, .complete (.object before.reverse)⟩
    else none
  | .inName before literal .none =>
    if o = 0x22 then some ⟨r.frames, .colon before literal.reverse⟩
    else (Escape.none.next? o).map fun e ↦ ⟨r.frames, .inName before (o :: literal) e⟩
  | .inName before literal escape =>
    (escape.next? o).map fun e ↦ ⟨r.frames, .inName before (o :: literal) e⟩
  | .colon before name =>
    if isSpace o then some r
    else if o = 0x3A then some ⟨.object before name :: r.frames, .value⟩
    else none
  | .inText literal .none =>
    if o = 0x22 then some ⟨r.frames, .complete (.text literal.reverse)⟩
    else (Escape.none.next? o).map fun e ↦ ⟨r.frames, .inText (o :: literal) e⟩
  | .inText literal escape =>
    (escape.next? o).map fun e ↦ ⟨r.frames, .inText (o :: literal) e⟩
  | .inNumber literal part =>
    match part.next? o with
    | some part => some ⟨r.frames, .inNumber (o :: literal) part⟩
    | none =>
      if part.mayEnd then afterValue? r.frames (.number literal.reverse) o else none
  | .inWord rest v =>
    match rest with
    | [] => none
    | [c] => if charOf o = c then some ⟨r.frames, .complete v⟩ else none
    | c :: rest => if charOf o = c then some ⟨r.frames, .inWord rest v⟩ else none
  | .complete v => afterValue? r.frames v o

/-- A run of the machine. -/
def Reader.run? (r : Reader) (s : Octets) : Option Reader :=
  s.foldlM step? r

/-- The value of a document that ends here, if it is complete. -/
def Reader.result? (r : Reader) : Option RawJson :=
  match r.frames, r.phase with
  | [], .complete v => some v
  | [], .inNumber literal part => if part.mayEnd then some (.number literal.reverse) else none
  | _, _ => none

/-- The value of a document. -/
def read? (s : Octets) : Option RawJson :=
  (Reader.run? ⟨[], .value⟩ s).bind Reader.result?

/-- **A run over two parts is a run over the first followed by a run over the second.** -/
theorem Reader.run?_append (r : Reader) (s t : Octets) :
    r.run? (s ++ t) = (r.run? s).bind (·.run? t) := by
  simp [run?, List.foldlM_append]

end Json

end Concordance
