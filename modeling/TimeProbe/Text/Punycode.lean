import TimeProbe.Bytes

/-!
# Punycode

Punycode writes any text in ASCII. The characters of ASCII come first, as they are. Behind a hyphen
it is told where the others stand: they are inserted in the order of their code points, and each
insertion is told by how far it is from the one before, as a number of variable length in base 36.
-/

namespace TimeProbe.Punycode

/-- The digit for a number below 36. -/
def digit (d : Nat) : UInt8 := UInt8.ofNat (if d < 26 then 97 + d else 22 + d)

/-- The numbers from which a digit at a place is not the last one. -/
def threshold (bias place : Nat) : Nat := min 26 (max 1 (place - bias))

/-- The digits of a number, the lowest one first; `room` is more than there are. -/
def digits (bias : Nat) : (room place q : Nat) → Bytes
  | 0, _, _ => []
  | room + 1, place, q =>
    let t := threshold bias place
    if q < t then [digit q]
    else digit (t + (q - t) % (36 - t)) :: digits bias room (place + 36) ((q - t) / (36 - t))

/-- The bias for a distance; `room` is more than the divisions that it takes. -/
def settle : (room distance bias : Nat) → Nat
  | 0, _, bias => bias
  | room + 1, distance, bias =>
    if 455 < distance then settle room (distance / 35) (bias + 36)
    else bias + 36 * distance / (distance + 38)

/-- The bias behind an insertion, by its distance and by how many characters are there then. -/
def adapt (distance count : Nat) (first : Bool) : Nat :=
  let damped := if first then distance / 700 else distance / 2
  let distance := damped + damped / count
  settle (distance + 1) distance 0

/-- What has been told so far. -/
structure State where
  /-- The code point that may come next. -/
  next : Nat := 128
  distance : Nat := 0
  bias : Nat := 72
  /-- How many characters are there. -/
  count : Nat
  first : Bool := true
  output : Bytes := []

/-- Passes one character of the text while a code point is inserted. -/
def pass (point : Nat) (s : State) (c : Nat) : State :=
  if c < point then { s with distance := s.distance + 1 }
  else if c = point then
    { s with
      distance := 0, bias := adapt s.distance (s.count + 1) s.first, count := s.count + 1
      first := false, output := s.output ++ digits s.bias (s.distance + 1) 36 s.distance }
  else s

/-- Inserts a code point wherever it stands in the text. -/
def insert (text : List Nat) (s : State) (point : Nat) : State :=
  let s := { s with distance := s.distance + (point - s.next) * (s.count + 1) }
  let s := text.foldl (pass point) s
  { s with next := point + 1, distance := s.distance + 1 }

/-- Inserts the code points that are left, the lowest one first; there are no more than `room`. -/
def insertAll (text : List Nat) : (room : Nat) → State → State
  | 0, s => s
  | room + 1, s =>
    match (text.filter (s.next ≤ ·)).min? with
    | none => s
    | some point => insertAll text room (insert text s point)

/-- A text in ASCII octets. -/
def encode (text : List Char) : Bytes :=
  let points := text.map Char.toNat
  let plain := points.filter (· < 128)
  let s := insertAll points points.length { count := plain.length }
  plain.map UInt8.ofNat ++ (if plain.isEmpty then [] else "-".toUTF8.toList) ++ s.output

example : encode "bücher".toList = "bcher-kva".toUTF8.toList := by decide +kernel

end TimeProbe.Punycode
