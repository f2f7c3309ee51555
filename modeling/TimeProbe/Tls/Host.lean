import TimeProbe.KeyExchange.Record
import TimeProbe.Text.Punycode
import TimeProbe.Text.Split

/-!
# Host names and addresses

A host is an IP address of either version or a name. A name is announced to the
server in ASCII; its labels have at most 63 characters and only the last one may be
empty. The labels of a name with other characters are prepared and, where that does not
bring them into ASCII, written in Punycode. The tables of the preparation, which maps and
prohibits characters, are a parameter.
-/

namespace TimeProbe.Host

open TimeProbe.Text

/-- Whether a text is a number from 0 to 255 without leading zeros. -/
def isOctet (cs : List Char) : Bool :=
  !cs.isEmpty && cs.all Char.isDigit && decide (cs.length ≤ 3) &&
    (cs == ['0'] || cs.head? != some '0') &&
    decide (cs.foldl (fun n c => n * 10 + (c.toNat - 48)) 0 ≤ 255)

/-- Whether a text is four octets with points between them. -/
def isVersion4 (cs : List Char) : Bool :=
  let octets := split '.' cs
  octets.length == 4 && octets.all isOctet

/-- Whether a text is a group of one to four hexadecimal digits. -/
def isGroup (cs : List Char) : Bool :=
  !cs.isEmpty && decide (cs.length ≤ 4) && cs.all fun c => (Bytes.hexValue? c).isSome

/-- The number of groups that parts stand for, if they are well formed. The last part
may be an address of version 4, which stands for two groups. -/
def groups? : List (List Char) → Option Nat
  | [] => some 0
  | [last] => if isVersion4 last then some 2 else if isGroup last then some 1 else none
  | part :: parts => if isGroup part then (groups? parts).map (· + 1) else none

/-- The number of groups on one side of a gap, where there may be none. -/
def side? (cs : List Char) : Option Nat := if cs.isEmpty then some 0 else groups? (split ':' cs)

/-- The texts in front of the first double colon and behind it. -/
def splitGap? : List Char → Option (List Char × List Char)
  | ':' :: ':' :: rest => some ([], rest)
  | c :: rest => (splitGap? rest).map fun (before, behind) => (c :: before, behind)
  | [] => none

/-- Whether a text is eight groups with colons between them, or fewer groups around one
gap. -/
def isGrouped (cs : List Char) : Bool :=
  match splitGap? cs with
  | none => groups? (split ':' cs) == some 8
  | some (before, behind) =>
    before.all (· != '.') &&
      match side? before, side? behind with
      | some m, some n => decide (m + n ≤ 7)
      | _, _ => false

/-- Whether a text is an address of version 6, perhaps with a zone behind a percent
sign. -/
def isVersion6 (cs : List Char) : Bool :=
  let zone := (cs.dropWhile (· != '%'))
  !cs.contains '/' && isGrouped (cs.takeWhile (· != '%')) &&
    match zone with
    | [] => true
    | _ :: zone => !zone.isEmpty && !zone.contains '%'

/-- Whether a host is an IP address. -/
def isAddress (host : String) : Bool := isVersion4 host.toList || isVersion6 host.toList

/-- Why a name cannot be announced. -/
inductive NameError
  | emptyOrLong
  | long
  /-- A label that is not ASCII starts as the ones written in Punycode do. -/
  | marked
  /-- The characters of a label cannot be prepared. -/
  | unprepared (reason : String)
deriving DecidableEq

/-- What the error says. -/
def NameError.message (e : NameError) : String :=
  let reason := match e with
    | emptyOrLong => "label empty or too long"
    | long => "label too long"
    | marked => "Label starts with ACE prefix"
    | unprepared reason => reason
  "encoding with 'idna' codec failed (UnicodeError: " ++ reason ++ ")"

/-- How the characters of a label are prepared, or why they cannot be. -/
def Preparation : Type := List Char → Except String (List Char)

/-- The preparation of labels in which nothing but capitals of ASCII has to be mapped. -/
def ordinaryPreparation : Preparation := fun label => .ok (label.map Char.toLower)

/-- The mark of labels written in Punycode. -/
def mark : String := "xn--"

/-- Octets that may be a label. -/
def sized (label : Bytes) : Except NameError Bytes :=
  if 0 < label.length ∧ label.length < 64 then .ok label else .error .emptyOrLong

/-- One label in ASCII. -/
def announcedLabel (prepare : Preparation) (label : List Char) : Except NameError Bytes :=
  match Bytes.ofAscii? (String.ofList label) with
  | .ok octets => sized octets
  | .error _ =>
    match prepare label with
    | .error reason => .error (.unprepared reason)
    | .ok prepared =>
      match Bytes.ofAscii? (String.ofList prepared) with
      | .ok octets => sized octets
      | .error _ =>
        if mark.toList.isPrefixOf prepared then .error .marked
        else sized (mark.toUTF8.toList ++ Punycode.encode prepared)

/-- The point in place of the characters that count as points in names. -/
def plainPoint (c : Char) : Char :=
  if c.toNat = 0x3002 ∨ c.toNat = 0xFF0E ∨ c.toNat = 0xFF61 then '.' else c

/-- The octets under which a name that is not ASCII is announced. -/
def announcedLabels (prepare : Preparation) (labels : List (List Char)) :
    Except NameError Bytes := do
  let point := ".".toUTF8.toList
  if labels.getLast? = some [] then
    return point.intercalate (← labels.dropLast.mapM (announcedLabel prepare)) ++ point
  else return point.intercalate (← labels.mapM (announcedLabel prepare))

/-- The octets under which a name is announced. -/
def announced (prepare : Preparation) (host : String) : Except NameError Bytes :=
  match Bytes.ofAscii? host with
  | .error _ => announcedLabels prepare (split '.' (host.toList.map plainPoint))
  | .ok octets =>
    let labels := split '.' host.toList
    if !(labels.dropLast.all fun label => 0 < label.length && label.length < 64) then
      .error .emptyOrLong
    else if 63 < (labels.getLast?.getD []).length then .error .long
    else .ok octets

example : (announced ordinaryPreparation "bücher.example").toOption =
    some "xn--bcher-kva.example".toUTF8.toList := by decide +kernel

end TimeProbe.Host
