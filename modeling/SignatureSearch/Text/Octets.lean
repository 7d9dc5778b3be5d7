/-!
# Octets

Texts as they arrive from outside: written in hexadecimal, or as octets that need not be sound
UTF-8.  Reading octets leniently puts one replacement character in the place of each longest run
that begins a character and cannot end it.
-/

namespace SignatureSearch
namespace Text

/-- The value of a hexadecimal digit. -/
def hexValue? (c : Char) : Option Nat :=
  if c.isDigit then some (c.toNat - '0'.toNat)
  else if 'a'.toNat ≤ c.toNat ∧ c.toNat ≤ 'f'.toNat then some (c.toNat - 'a'.toNat + 10)
  else if 'A'.toNat ≤ c.toNat ∧ c.toNat ≤ 'F'.toNat then some (c.toNat - 'A'.toNat + 10)
  else none

/-- The octets that a text of hexadecimal digits writes, two digits to each. -/
def octetsOfHex? : List Char → Option (List UInt8)
  | [] => some []
  | high :: low :: rest => do
      let high ← hexValue? high
      let low ← hexValue? low
      let octets ← octetsOfHex? rest
      return UInt8.ofNat (16 * high + low) :: octets
  | [_] => none

/-- A character of more than one octet that has begun. -/
structure Unfinished where
  /-- Octets still owed, the next one included. -/
  owed : Nat
  /-- The least value that the next octet may have. -/
  low : Nat
  /-- The greatest value that the next octet may have. -/
  high : Nat
  /-- The code point as far as it has been read. -/
  value : Nat

/-- What an octet begins, when it begins a character of more than one octet. -/
def Unfinished.begin? (octet : Nat) : Option Unfinished :=
  if 0xC2 ≤ octet ∧ octet ≤ 0xDF then some ⟨1, 0x80, 0xBF, octet - 0xC0⟩
  else if octet = 0xE0 then some ⟨2, 0xA0, 0xBF, 0⟩
  else if octet = 0xED then some ⟨2, 0x80, 0x9F, 0xD⟩
  else if 0xE1 ≤ octet ∧ octet ≤ 0xEF then some ⟨2, 0x80, 0xBF, octet - 0xE0⟩
  else if octet = 0xF0 then some ⟨3, 0x90, 0xBF, 0⟩
  else if 0xF1 ≤ octet ∧ octet ≤ 0xF3 then some ⟨3, 0x80, 0xBF, octet - 0xF0⟩
  else if octet = 0xF4 then some ⟨3, 0x80, 0x8F, 4⟩
  else none

/-- The character that stands for octets which are no character. -/
def replacement : Char :=
  Char.ofNat 0xFFFD

/-- The characters that are complete after an octet at which no character is unfinished, and the
character that it leaves unfinished. -/
def beginOctet (octet : Nat) : List Char × Option Unfinished :=
  if octet < 0x80 then ([Char.ofNat octet], none)
  else
    match Unfinished.begin? octet with
    | some begun => ([], some begun)
    | none => ([replacement], none)

/-- The characters that are complete after an octet, and the character that it leaves
unfinished. -/
def nextOctet (unfinished : Option Unfinished) (octet : Nat) : List Char × Option Unfinished :=
  match unfinished with
  | none => beginOctet octet
  | some begun =>
      if begun.low ≤ octet ∧ octet ≤ begun.high then
        let value := begun.value * 0x40 + (octet - 0x80)
        if begun.owed ≤ 1 then ([Char.ofNat value], none)
        else ([], some ⟨begun.owed - 1, 0x80, 0xBF, value⟩)
      else
        let next := beginOctet octet
        (replacement :: next.1, next.2)

/-- Octets read leniently, after an unfinished character. -/
def decodeFrom : Option Unfinished → List UInt8 → List Char
  | none, [] => []
  | some _, [] => [replacement]
  | unfinished, octet :: octets =>
      let next := nextOctet unfinished octet.toNat
      next.1 ++ decodeFrom next.2 octets

/-- Octets read leniently. -/
def decodeLenient (octets : List UInt8) : String :=
  String.ofList (decodeFrom none octets)

/-- What is wrong with octets that are no UTF-8. -/
inductive OctetFault where
  /-- An octet begins no character. -/
  | noStart
  /-- An octet does not continue the character that has begun. -/
  | noContinuation
  /-- The last character is unfinished. -/
  | cutShort
  deriving DecidableEq, Repr

/-- A run of octets that is no character. -/
structure Undecodable where
  /-- What is wrong. -/
  fault : OctetFault
  /-- How many octets come before the run. -/
  start : Nat
  /-- The octets. -/
  run : List UInt8
  deriving DecidableEq, Repr

namespace Undecodable

/-- What is wrong, in words. -/
def reason : OctetFault → String
  | .noStart => "invalid start byte"
  | .noContinuation => "invalid continuation byte"
  | .cutShort => "unexpected end of data"

/-- The octets of a run and where they stand, in words. -/
def place (start : Nat) : List UInt8 → String
  | [octet] =>
      let digits := Nat.toDigits 16 octet.toNat
      "byte 0x" ++ String.ofList digits ++ " in position " ++ toString start
  | run => "bytes in position " ++ toString start ++ "-" ++ toString (start + run.length - 1)

/-- The whole of it in words. -/
def message (found : Undecodable) : String :=
  "'utf-8' codec can't decode " ++ place found.start found.run ++ ": " ++ reason found.fault

end Undecodable

/-- The first run that is no character among octets that come after so many others and after the
octets of an unfinished character. -/
def firstFault (start : Nat) (run : List UInt8) (unfinished : Option Unfinished) :
    List UInt8 → Option Undecodable
  | [] => unfinished.map fun _ => { fault := .cutShort, start, run }
  | octet :: octets =>
      match unfinished with
      | none =>
          if octet < 0x80 then firstFault (start + 1) [] none octets
          else
            match Unfinished.begin? octet.toNat with
            | some begun => firstFault start [octet] (some begun) octets
            | none => some { fault := .noStart, start, run := [octet] }
      | some begun =>
          if begun.low ≤ octet.toNat ∧ octet.toNat ≤ begun.high then
            if begun.owed ≤ 1 then firstFault (start + run.length + 1) [] none octets
            else
              let begun := { begun with owed := begun.owed - 1, low := 0x80, high := 0xBF }
              firstFault start (run ++ [octet]) (some begun) octets
          else some { fault := .noContinuation, start, run }

/-- The text that octets write in UTF-8, or what keeps them from writing one. -/
def decode (octets : List UInt8) : Except Undecodable String :=
  match firstFault 0 [] none octets with
  | some found => .error found
  | none => .ok (decodeLenient octets)

/-- The text that octets write in UTF-8, if they write one. -/
def decodeStrict? (octets : List UInt8) : Option String :=
  String.fromUTF8? ⟨octets.toArray⟩

end Text
end SignatureSearch
