import SampleTypes.Proofs.Failure
import SampleTypes.Proofs.FunctionScope
import SampleTypes.Proofs.InferredTypes

/-!
# Texts of inferred types

The text that is written for a value is read as the inferred type again exactly if no union of that type has
a function type for a member.
-/

namespace SampleTypes.Graph

variable {graph : Graph} {settings : Settings} {value : Value} {depth : Int} {type : TypeExpr}

theorem inferText_of_infer (inferred : graph.infer settings value depth = .ok type) :
    graph.inferText settings value depth = .ok (type.render settings) := by
  rw [inferText, inferred]
  rfl

/-- A value has a text, unless the contents of a container inside it cannot be listed, and the text is read as
the inferred type exactly if no union of the type has a function type for a member. -/
theorem inferText_reads_back_iff (graph : Graph) (settings : Settings) (value : Value) (depth : Int) :
    (∃ type text, graph.infer settings value depth = .ok type ∧
        graph.inferText settings value depth = .ok text ∧
        (Grammar.read .widest text = some type.written ↔ type.written.FunctionsStandAlone)) ∨
      ∃ fault, graph.infer settings value depth = .error fault ∧
        graph.inferText settings value depth = .error fault ∧ graph.FailsBelow value fault := by
  rcases infer_cases graph settings value depth with ⟨type, inferred⟩ | ⟨fault, failed, below⟩
  · left
    exact ⟨type, type.render settings, inferred, inferText_of_infer inferred,
      Grammar.read_render_iff settings (regular_of_infer inferred)⟩
  · right
    refine ⟨fault, failed, ?_, below⟩
    rw [inferText, failed]
    rfl

/-- The result of the function takes the other member of the union. -/
example :
    Grammar.readTokens .widest (TypeExpr.tokens {} (.array (.union [.callable, .circular] 0 false))) =
      some (.array (.function (.union [.name "unknown", .circular]))) := by
  rfl

end SampleTypes.Graph
