import SignatureSearch.Catalog.Entry

/-!
# Slots

The place of an entry in the catalogue.  A signature is parsed, brought to canonical form and
written out only when an answer needs it; what has been worked out once is kept in the slot and read
from there afterwards.
-/

namespace SignatureSearch
namespace Catalog

/-- A place of the catalogue: an entry, and what has been worked out of its signature. -/
structure Slot where
  /-- The entry. -/
  entry : Entry
  /-- What came of parsing the signature, once it has been parsed. -/
  outcome : Option Signature.Outcome := none
  /-- The canonical form of the type, once it is known. -/
  normalized : Option Signature.TypeExpr := none
  /-- The type as it is shown, once it has been written. -/
  typeText : Option String := none
  deriving Repr, Inhabited

namespace Slot

/-- The slot of an entry whose signature has not been looked at. -/
def untouched (entry : Entry) : Slot :=
  { entry }

/-- Whether the canonical form of the entry is known. -/
def isNormalized (slot : Slot) : Bool :=
  slot.normalized.isSome

/-- What comes of parsing the signature, and the slot that keeps it. -/
def readOutcome (slot : Slot) : Signature.Outcome × Slot :=
  match slot.outcome with
  | some outcome => (outcome, slot)
  | none =>
      let outcome := Signature.outcome slot.entry.signature
      (outcome, { slot with outcome := some outcome })

/-- The canonical form of the type, and the slot that keeps it; a signature that stands for itself
is left as it is. -/
def readNormalized (slot : Slot) : Signature.TypeExpr × Slot :=
  match slot.normalized with
  | some type => (type, slot)
  | none =>
      match slot.readOutcome with
      | (outcome, slot) =>
          let type := if outcome.isFallback then outcome.type else outcome.type.canonical
          (type, { slot with normalized := some type })

/-- The type as it is shown, without modules, and the slot that keeps it. -/
def readTypeText (slot : Slot) : String × Slot :=
  match slot.typeText with
  | some text => (text, slot)
  | none =>
      match slot.readOutcome with
      | (outcome, slot) =>
          let text := outcome.type.text .bare
          (text, { slot with typeText := some text })

/-- The slot after its canonical form has been worked out. -/
def settle (slot : Slot) : Slot :=
  slot.readNormalized.2

/-- Why the signature cannot be parsed, when that has been found out between two states of a
slot. -/
def discovery? (before after : Slot) : Option Signature.SyntaxError :=
  if before.outcome.isNone then after.outcome.bind Signature.Outcome.error? else none

end Slot

/-- What has been found out about signatures that cannot be parsed between two states of slots, in
order. -/
def discoveries (before after : List Slot) : List Signature.SyntaxError :=
  (before.zip after).filterMap fun (before, after) => before.discovery? after

/-- What an entry shows to whoever looks at all of it. -/
structure View where
  /-- The entry. -/
  entry : Entry
  /-- Whether the canonical form of its type was known before. -/
  known : Bool
  /-- Whether the signature had to stand for itself. -/
  isFallback : Bool
  /-- The type as it is shown. -/
  typeText : String
  /-- The canonical form of the type. -/
  normalized : Signature.TypeExpr
  deriving DecidableEq, Repr

/-- What the entry of a slot shows, and the slot that keeps what it took. -/
def Slot.view (slot : Slot) : View × Slot :=
  match slot.readOutcome with
  | (outcome, parsed) =>
      match parsed.readTypeText with
      | (typeText, written) =>
          match written.readNormalized with
          | (normalized, settled) =>
              ({ entry := slot.entry
                 known := slot.isNormalized
                 isFallback := outcome.isFallback
                 typeText
                 normalized },
                settled)

end Catalog
end SignatureSearch
