import TimeProbe.Binary64.Shortest
import TimeProbe.KeyExchange.Response
import TimeProbe.Packet.Basic

/-!
# Values under test

Expectations compare whatever a server sent with whatever a test asks for, and
failures show both. A value is a number, a text, a byte string, a sequence, or
one of the library's own messages. This file has its literal text, its truth,
its equality across the number types, and its partial order.
-/

namespace TimeProbe

/-- A value that a test looks at or a failure carries. -/
inductive Value
  | absent
  | bool (b : Bool)
  | int (i : Int)
  | float (x : Binary64)
  | text (s : String)
  | bytes (bs : Bytes)
  | list (members : List Value)
  | tuple (members : List Value)
  | object (members : List (String × Value))
  | mode (m : Mode)
  | packet (p : Packet)
  | field (f : ExtensionField)
  | record (r : Record)
  | response (r : KeResponse)
  /-- An interrupt, with what it carries. -/
  | interrupt (arguments : List Value)
deriving Inhabited

namespace Value

/-- The word for a truth value. -/
def truthWord (b : Bool) : String := if b then "True" else "False"

/-- A tuple's text: a single member keeps a comma behind it. -/
def tupled : List String → String
  | [member] => "(" ++ member ++ ",)"
  | members => "(" ++ String.intercalate ", " members ++ ")"

mutual

/-- The literal text of a value. -/
def literal : Value → String
  | absent => "None"
  | bool b => truthWord b
  | int i => toString i
  | float x => x.text
  | text s => Text.quoted s
  | bytes bs => Text.quotedBytes bs
  | list members => Text.listed (literals members)
  | tuple members => tupled (literals members)
  | object members => "\x7b" ++ String.intercalate ", " (entryLiterals members) ++ "\x7d"
  | mode m => "<Mode." ++ m.name ++ ": " ++ toString m.code ++ ">"
  | packet p => p.describe
  | field f => f.describe
  | record r => r.describe
  | response r => r.describe
  | interrupt arguments =>
    "KeyboardInterrupt(" ++ String.intercalate ", " (literals arguments) ++ ")"

/-- The literal texts of the members of a sequence. -/
def literals : List Value → List String
  | [] => []
  | v :: vs => literal v :: literals vs

/-- The literal texts of the entries of an object. -/
def entryLiterals : List (String × Value) → List String
  | [] => []
  | (k, v) :: rest => (Text.quoted k ++ ": " ++ literal v) :: entryLiterals rest

end

/-- The text of a value inside a message: a text stands without quotes. -/
def display : Value → String
  | text s => s
  | mode m => toString m.code
  | v => v.literal

/-- The name of a value's type. -/
def typeName : Value → String
  | absent => "NoneType"
  | bool _ => "bool"
  | int _ => "int"
  | float _ => "float"
  | text _ => "str"
  | bytes _ => "bytes"
  | list _ => "list"
  | tuple _ => "tuple"
  | object _ => "dict"
  | mode _ => "Mode"
  | packet _ => "NtpPacket"
  | field _ => "ExtensionField"
  | record _ => "NtsKeRecord"
  | response _ => "NtsKeResponse"
  | interrupt _ => "KeyboardInterrupt"

/-- A number of any of the number types. -/
inductive Number
  | exact (ticks : Int)
  | infinite (negative : Bool)
  | undefined

/-- The number that a value is. -/
def number? : Value → Option Number
  | bool b => some (.exact (if b then Binary64.ticksPerUnit else 0))
  | int i => some (.exact (i * Binary64.ticksPerUnit))
  | mode m => some (.exact (m.code * Binary64.ticksPerUnit))
  | float x =>
    if x.isNaN then some .undefined
    else if x.isInfinite then some (.infinite x.isNegative)
    else some (.exact x.ticks)
  | _ => none

/-- Equality of numbers; an undefined number equals nothing. -/
def Number.same : Number → Number → Bool
  | .exact a, .exact b => a == b
  | .infinite a, .infinite b => a == b
  | _, _ => false

/-- The order of numbers; an undefined number is below nothing. -/
def Number.precedes : Number → Number → Bool
  | .exact a, .exact b => decide (a < b)
  | .infinite true, .exact _ => true
  | .exact _, .infinite false => true
  | .infinite true, .infinite false => true
  | _, _ => false

/-- Whether a value counts as true: zero and what is empty or absent do not. -/
def truth : Value → Bool
  | absent => false
  | bool b => b
  | int i => i != 0
  | float x => x.isNonzero
  | text s => !s.isEmpty
  | bytes bs => !bs.isEmpty
  | list members => !members.isEmpty
  | tuple members => !members.isEmpty
  | object members => !members.isEmpty
  | mode m => m.code != 0
  | _ => true

mutual

/-- Equality of values; numbers are equal across their types. -/
def same (a b : Value) : Bool :=
  match a, b with
  | absent, absent => true
  | text a, text b => a == b
  | bytes a, bytes b => a == b
  | list as, list bs => sameAll as bs
  | tuple as, tuple bs => sameAll as bs
  | object as, object bs => sameEntries as bs
  | packet a, packet b => a == b
  | field a, field b => a == b
  | record a, record b => a == b
  | response a, response b => a == b
  | a, b => match number? a, number? b with
    | some m, some n => m.same n
    | _, _ => false

/-- Equality of sequences. -/
def sameAll : List Value → List Value → Bool
  | [], [] => true
  | a :: as, b :: bs => same a b && sameAll as bs
  | _, _ => false

/-- Equality of objects, entry by entry. -/
def sameEntries : List (String × Value) → List (String × Value) → Bool
  | [], [] => true
  | (k, a) :: as, (l, b) :: bs => k == l && same a b && sameEntries as bs
  | _, _ => false

end

/-- Two values of types that have no order between them. -/
structure Unordered where
  left : String
  right : String

/-- The order of two byte strings, by their first difference. -/
def bytesBelow : Bytes → Bytes → Bool
  | [], _ :: _ => true
  | a :: as, b :: bs => if a = b then bytesBelow as bs else decide (a < b)
  | _, [] => false

mutual

/-- The strict order of values, where their types have one: numbers, texts by code
points, byte strings, and sequences of one kind by their first difference. -/
def precedes (a b : Value) : Except Unordered Bool :=
  match a, b with
  | text a, text b => .ok (decide (a < b))
  | bytes a, bytes b => .ok (bytesBelow a b)
  | list as, list bs => precedesAll as bs
  | tuple as, tuple bs => precedesAll as bs
  | a, b => match number? a, number? b with
    | some m, some n => .ok (m.precedes n)
    | _, _ => .error ⟨a.typeName, b.typeName⟩

/-- The order of sequences, by their first difference. -/
def precedesAll : List Value → List Value → Except Unordered Bool
  | [], bs => .ok (!bs.isEmpty)
  | _ :: _, [] => .ok false
  | a :: as, b :: bs => if same a b then precedesAll as bs else precedes a b

end

end Value

end TimeProbe
