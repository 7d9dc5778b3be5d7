import SignatureSearch.Proofs.Signature.Composition

/-!
# Chains of results

The result of a function may be a function again, and so on to a result that is none.  A function
put together from parameters and a result takes the parameters of the whole chain into its own list,
in the order in which they are met, and ends in the last result.  So it has no chain of its own, and
it makes no difference which of the parameters are taken in first.
-/

namespace SignatureSearch
namespace Signature
namespace TypeExpr

/-- The parameters that a type takes along its chain of results, and the result at the end of the
chain. -/
inductive Chain : TypeExpr → List TypeExpr → TypeExpr → Prop
  /-- A type that is not a function takes none. -/
  | last {type : TypeExpr} (plain : type.isFunction = false) : Chain type [] type
  /-- A function takes its own parameters before those of its result. -/
  | function {params more : List TypeExpr} {result last : TypeExpr}
      (rest : Chain result more last) : Chain (.function params result) (params ++ more) last

namespace Chain

variable {type last : TypeExpr} {params : List TypeExpr}

theorem isFunction_last (chain : Chain type params last) : last.isFunction = false := by
  induction chain with
  | last plain => exact plain
  | function _ ih => exact ih

theorem unique (chain : Chain type params last) {others : List TypeExpr} {final : TypeExpr}
    (other : Chain type others final) : others = params ∧ final = last := by
  induction chain generalizing others with
  | last plain =>
      cases other with
      | last _ => exact ⟨rfl, rfl⟩
      | function _ => cases plain
  | function rest ih =>
      cases other with
      | last plain => cases plain
      | function rest' =>
          obtain ⟨rfl, rfl⟩ := ih rest'
          exact ⟨rfl, rfl⟩

end Chain

/-- Parameters before a result that is not a function are kept as they are. -/
theorem arrows_of_plain {result : TypeExpr} (plain : result.isFunction = false)
    (params : List TypeExpr) : arrows params result = function params result := by
  cases result with
  | function _ _ => cases plain
  | _ => rfl

/-- The parameters of a chain are taken in after the given ones. -/
theorem Chain.arrows_eq {type last : TypeExpr} {more : List TypeExpr}
    (chain : Chain type more last) (params : List TypeExpr) :
    arrows params type = .function (params ++ more) last := by
  induction chain generalizing params with
  | last plain => rw [arrows_of_plain plain, List.append_nil]
  | function _ ih => rw [arrows, ih, List.append_assoc]

/-- Every chain of results comes to an end. -/
theorem exists_chain (type : TypeExpr) : ∃ params last, Chain type params last := by
  induction type with
  | function params result _ ih =>
      obtain ⟨more, last, chain⟩ := ih
      exact ⟨params ++ more, last, .function chain⟩
  | _ => exact ⟨[], _, .last rfl⟩

/-- A function that is put together from parameters and a result lists the parameters and, after
them, those along the chain of the result, and ends where the chain ends, in a type that is not a
function.  Put together again from its own parts it is the same function, and parameters may be
given all at once or the last of them first. -/
theorem arrows_chain (front params : List TypeExpr) (type : TypeExpr) :
    (∃ more last, Chain type more last ∧
      (∀ others final, Chain type others final → others = more ∧ final = last) ∧
      last.isFunction = false ∧ arrows params type = function (params ++ more) last) ∧
    (∀ all last, arrows params type = function all last →
      arrows all last = function all last) ∧
    arrows (front ++ params) type = arrows front (arrows params type) := by
  obtain ⟨more, last, chain⟩ := exists_chain type
  have whole := chain.arrows_eq params
  refine ⟨⟨more, last, chain, fun _ _ => chain.unique, chain.isFunction_last, whole⟩, ?_,
    (arrows_arrows front params type).symm⟩
  intro all final same
  rw [whole, TypeExpr.function.injEq] at same
  rw [← same.1, ← same.2]
  exact arrows_of_plain chain.isFunction_last _

end TypeExpr
end Signature
end SignatureSearch
