/-!
# Octets

The content of a file is a list of octets. Text becomes octets by UTF-8, character by character, and
octets are text only if they are the UTF-8 form of one; that text is then unique.
-/

namespace Concordance

/-- The content of a file. -/
abbrev Octets := List UInt8

/-- The UTF-8 form of a list of characters. -/
def utf8 (s : List Char) : Octets := s.flatMap String.utf8EncodeChar

/-- The octets of a text. -/
def octetsOf (s : String) : Octets := utf8 s.toList

/-- The text with the given octets, if they are the UTF-8 form of one. -/
def textOf? (o : Octets) : Option String := String.fromUTF8? o.toByteArray

@[simp] theorem utf8_nil : utf8 [] = [] := rfl

@[simp] theorem utf8_cons (c : Char) (s : List Char) :
    utf8 (c :: s) = String.utf8EncodeChar c ++ utf8 s := rfl

@[simp] theorem utf8_append (s t : List Char) : utf8 (s ++ t) = utf8 s ++ utf8 t := by
  simp [utf8]

/-- The octets of a text are those that it is stored as. -/
theorem toByteArray_octetsOf (s : String) : (octetsOf s).toByteArray = s.toByteArray := by
  conv => rhs; rw [← String.ofList_toList (s := s), String.toByteArray_ofList]
  rfl

/-- **The octets of a text are read back as that text.** -/
@[simp] theorem textOf?_octetsOf (s : String) : textOf? (octetsOf s) = some s := by
  rw [textOf?, toByteArray_octetsOf]
  simp only [String.fromUTF8?, s.isValidUTF8, dite_true]
  rfl

end Concordance
