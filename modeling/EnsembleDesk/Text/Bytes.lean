/-!
# Texts and bytes

Files hold bytes. A text is kept in UTF-8: `utf8` encodes it, and `ofUtf8?` decodes bytes that are
valid UTF-8 and nothing else.

In a text, bytes are written in base64: every three bytes become four characters of the standard
alphabet, and the last group is padded with `=`.
-/

namespace EnsembleDesk

/-! ### UTF-8 -/

/-- The UTF-8 bytes of a text. -/
def utf8 (text : String) : List UInt8 := text.toUTF8.data.toList

/-- The text whose UTF-8 bytes are given. -/
def ofUtf8? (bytes : List UInt8) : Option String := String.fromUTF8? ⟨bytes.toArray⟩

/-- What was encoded is decoded again. -/
theorem ofUtf8?_utf8 (text : String) : ofUtf8? (utf8 text) = some text := by
  have h : (⟨(utf8 text).toArray⟩ : ByteArray) = text.toUTF8 := by simp [utf8]
  rw [ofUtf8?, h]
  exact dif_pos text.isValidUTF8

/-! ### Base64 -/

/-- The character of the standard alphabet for a six-bit number. -/
def base64Char (n : Nat) : Char :=
  if n < 26 then Char.ofNat ('A'.toNat + n)
  else if n < 52 then Char.ofNat ('a'.toNat + (n - 26))
  else if n < 62 then Char.ofNat ('0'.toNat + (n - 52))
  else if n = 62 then '+'
  else '/'

/-- The four characters of a group of 24 bits. -/
def base64Group (n : Nat) : List Char :=
  [base64Char (n / 262144 % 64), base64Char (n / 4096 % 64), base64Char (n / 64 % 64),
    base64Char (n % 64)]

/-- The base64 characters of a sequence of bytes. -/
def base64Chars : List UInt8 → List Char
  | [] => []
  | [a] => (base64Group (a.toNat * 65536)).take 2 ++ ['=', '=']
  | [a, b] => (base64Group (a.toNat * 65536 + b.toNat * 256)).take 3 ++ ['=']
  | a :: b :: c :: rest =>
    base64Group (a.toNat * 65536 + b.toNat * 256 + c.toNat) ++ base64Chars rest

/-- The base64 text of a text's UTF-8 bytes. -/
def base64 (text : String) : String :=
  String.ofList (base64Chars (utf8 text))

end EnsembleDesk
