import SignatureSearch.Signature.TypeExpr
import SignatureSearch.Text.Occurrence

/-!
# Comparing type expressions

Two measures of how alike two types are.  Similarity grows with the names that agree and is what
search results are ordered by; distance adds a penalty for each disagreement.  Both compare names
first as wholes and then as parts of one another, and neither puts a type for a variable.
-/

namespace SignatureSearch
namespace Signature

/-- Whether one of two names is part of the other. -/
def overlap (a b : String) : Bool :=
  Text.occurs a.toList b.toList || Text.occurs b.toList a.toList

/-- How alike two names are: ten when equal, one when one is part of the other. -/
def compareNames (a b : String) : Nat :=
  if a = b then 10 else if overlap a b then 1 else 0

/-- The penalty for two names: none when equal, one when one is part of the other. -/
def namePenalty (mismatch : Nat) (a b : String) : Nat :=
  if a = b then 0 else if overlap a b then 1 else mismatch

/-- The difference of two counts. -/
def gap (m n : Nat) : Nat :=
  (m - n) + (n - m)

namespace TypeExpr

mutual

/-- How alike two types are; records, and types of two kinds, are not alike at all. -/
def similarity : TypeExpr → TypeExpr → Nat
  | function params result, function params' result' =>
      if params.length = params'.length then
        similaritySum params params' + similarity result result'
      else 0
  | var name, var name' => compareNames name name'
  | apply head args, apply head' args' =>
      if args.length = args'.length then
        compareNames head.name head'.name + similaritySum args args'
      else 0
  | tuple elements, tuple elements' => similaritySum elements elements'
  | _, _ => 0

/-- How alike types are pair by pair, as far as both lists go. -/
def similaritySum : List TypeExpr → List TypeExpr → Nat
  | t :: ts, u :: us => similarity t u + similaritySum ts us
  | _, _ => 0

end

mutual

/-- The penalties for the disagreements of two types. -/
def distance : TypeExpr → TypeExpr → Nat
  | function params result, function params' result' =>
      if params.length = params'.length then distanceSum params params' + distance result result'
      else 10 * gap params.length params'.length
  | var name, var name' => namePenalty 5 name name'
  | apply head args, apply head' args' =>
      if args.isEmpty ∧ args'.isEmpty then namePenalty 2 head.name head'.name
      else if args.length = args'.length then
        namePenalty 2 head.home head'.home + namePenalty 2 head.name head'.name
          + distanceSum args args'
      else 10
  | tuple elements, tuple elements' => distanceSum elements elements'
  | _, _ => 100

/-- The penalties for the disagreements of types pair by pair, as far as both lists go. -/
def distanceSum : List TypeExpr → List TypeExpr → Nat
  | t :: ts, u :: us => distance t u + distanceSum ts us
  | _, _ => 0

end

end TypeExpr
end Signature
end SignatureSearch
