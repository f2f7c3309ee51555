import TimeProbe.Bytes
import TimeProbe.Text.Printable

/-!
# Quoted text and quoted octets

Messages show a text or a byte string between quotes. The quote is the
apostrophe, unless the content has an apostrophe and no quotation mark. The
quote itself and the backslash are escaped, tab, line feed and carriage return
have short escapes, and anything else that is not printable is written by its
code point.
-/

namespace TimeProbe.Text

/-- The quote that stands around a content. -/
def quoteFor (apostrophe quotation : Bool) : Char :=
  if apostrophe && !quotation then '"' else '\''

/-- A number in lower-case hexadecimal digits, zero-padded to a width. -/
def hexPadded (width n : Nat) : String :=
  let digits := Nat.toDigits 16 n
  String.ofList (List.replicate (width - digits.length) '0' ++ digits)

/-- The escape of a code point: two, four or eight hexadecimal digits. -/
def escapeCode (n : Nat) : String :=
  if n < 0x100 then "\\x" ++ hexPadded 2 n
  else if n < 0x10000 then "\\u" ++ hexPadded 4 n
  else "\\U" ++ hexPadded 8 n

/-- A character as it stands between quotes `quote`. -/
def quoteChar (quote c : Char) : String :=
  if c = quote || c = '\\' then String.ofList ['\\', c]
  else if c = '\t' then "\\t"
  else if c = '\n' then "\\n"
  else if c = '\r' then "\\r"
  else if isPrintable c then c.toString
  else escapeCode c.toNat

/-- A text in quotes. -/
def quoted (s : String) : String :=
  let cs := s.toList
  let quote := quoteFor (cs.contains '\'') (cs.contains '"')
  String.ofList (quote :: cs.flatMap (fun c => (quoteChar quote c).toList) ++ [quote])

/-- An octet as it stands between quotes `quote`: all but printable ASCII is escaped. -/
def quoteByte (quote : Char) (b : UInt8) : String :=
  if b.toNat < 127 then quoteChar quote (Char.ofNat b.toNat)
  else escapeCode b.toNat

/-- A byte string in quotes, marked by a leading `b`. -/
def quotedBytes (bs : Bytes) : String :=
  let quote := quoteFor (bs.contains 39) (bs.contains 34)
  String.ofList ('b' :: quote :: bs.flatMap (fun b => (quoteByte quote b).toList) ++ [quote])

/-- The texts of a list's members in brackets. -/
def listed (members : List String) : String := "[" ++ String.intercalate ", " members ++ "]"

end TimeProbe.Text
