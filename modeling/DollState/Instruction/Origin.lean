import DollState.State.Text

/-!
# Actors and origins of instructions

Who acts and where an instruction comes from. The capability gate and the instruction-origin records
name the same actors and origins.
-/

namespace DollState.Instruction

inductive ActorType where
  | system | user | retriever | extractor | importer | tool | runtime | model | unknown
deriving DecidableEq, Repr

inductive OriginClass where
  | systemPolicy
  | currentUserInstruction
  | durableUserPolicy
  | userManagementAction
  | externalContent
  | importedData
  | toolResult
  | runtimeOutput
  | modelProposal
  | unknown
deriving DecidableEq, Repr

def ActorType.name : ActorType → String
  | .system => "system"
  | .user => "user"
  | .retriever => "retriever"
  | .extractor => "extractor"
  | .importer => "importer"
  | .tool => "tool"
  | .runtime => "runtime"
  | .model => "model"
  | .unknown => "unknown"

def OriginClass.name : OriginClass → String
  | .systemPolicy => "system_policy"
  | .currentUserInstruction => "current_user_instruction"
  | .durableUserPolicy => "durable_user_policy"
  | .userManagementAction => "user_management_action"
  | .externalContent => "external_content"
  | .importedData => "imported_data"
  | .toolResult => "tool_result"
  | .runtimeOutput => "runtime_output"
  | .modelProposal => "model_proposal"
  | .unknown => "unknown"

/-- The text of an actor, as metadata stores it. -/
def ActorType.text (actor : ActorType) : Text := actor.name.toList

/-- The text of an origin, as metadata stores it. -/
def OriginClass.text (origin : OriginClass) : Text := origin.name.toList

theorem ActorType.text_injective : Function.Injective ActorType.text := by
  intro a b h
  cases a <;> cases b <;> first | rfl | exact absurd h (by decide)

theorem OriginClass.text_injective : Function.Injective OriginClass.text := by
  intro a b h
  cases a <;> cases b <;> first | rfl | exact absurd h (by decide)

end DollState.Instruction
