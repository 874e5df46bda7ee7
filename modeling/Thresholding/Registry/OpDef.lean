import Thresholding.Graph.Arena
import Thresholding.Typing.ResultShape
import Thresholding.Typing.Rule

/-!
# Thresholding.Registry.OpDef

**Operator definitions**: everything that a host needs to know of an operator.
-/

namespace Thresholding

/-- How freely an operator can be fused with its neighbours, from most to least. -/
inductive FusionClass
  /-- One element of the result from one element of each operand. -/
  | elementWise
  /-- The same after broadcasting an operand. -/
  | broadcast
  /-- Each element of the result from one element of the operand. -/
  | injective
  /-- A commutative reduction. -/
  | commutativeReduce
  /-- Element-wise operators can be fused into its result. -/
  | outputFusable
  /-- Never fused. -/
  | unfusable
  deriving Repr, DecidableEq

/-- The place of a class in the order. -/
def FusionClass.rank : FusionClass → Nat
  | elementWise => 0
  | broadcast => 1
  | injective => 2
  | commutativeReduce => 3
  | outputFusable => 4
  | unfusable => 5

instance : Ord FusionClass := ⟨fun a b => compare a.rank b.rank⟩

/-- What an operator says of an operand. -/
structure Argument where
  /-- Its name. -/
  name : String
  /-- The kind of type it has. -/
  typeInfo : String
  /-- What it is. -/
  description : String
  deriving Repr, DecidableEq

/-- The kind of value an attribute has. -/
inductive AttributeKind
  /-- A text. -/
  | text
  /-- A floating-point number. -/
  | number
  deriving Repr, DecidableEq

/-- What an operator says of an attribute. -/
structure Attribute where
  /-- Its name. -/
  name : String
  /-- The kind of value it has. -/
  kind : AttributeKind
  /-- What it is. -/
  description : String
  deriving Repr, DecidableEq

/-- Why a call was not built or an operator not registered. -/
inductive RegistryError
  /-- The name is taken. -/
  | duplicate (name : String)
  /-- No operator has the name. -/
  | unknownOp (name : String)
  /-- The operator takes another number of inputs. -/
  | arity (op : String) (expected found : Nat)
  /-- The attributes are those of another operator. -/
  | attrsMismatch (op : String)
  deriving Repr, DecidableEq

/-- The message for a cause. -/
def RegistryError.message : RegistryError → String
  | duplicate name => s!"operator `{name}` is already registered"
  | unknownOp name => s!"unknown operator `{name}`"
  | arity op expected found => s!"`{op}` takes {expected} inputs, got {found}"
  | attrsMismatch op => s!"attributes do not belong to `{op}`"

/-- A definition of an operator. -/
structure OpDef where
  /-- The name it is registered under. -/
  name : String
  /-- What the operator does. -/
  description : String
  /-- The number of its inputs. -/
  numInputs : Nat
  /-- Its operands, in order. -/
  arguments : List Argument
  /-- Its attributes. -/
  attributes : List Attribute
  /-- How well it is supported. -/
  supportLevel : Nat
  /-- How it fuses. -/
  fusion : FusionClass
  /-- Its typing relation. -/
  relation : Relation
  /-- The shape of its result, from the shapes of its operands. -/
  shape : List Shape → Except ShapeError Shape
  /-- Build a call of it in an arena, from its inputs and an operator that carries the
  attributes. The answer comes with the arena as it is then. -/
  make : Arena → List NodeId → Op → Except RegistryError NodeId × Arena

/-- Build a thresholding call. It takes two inputs, and a thresholding operator to take the
attributes from; a failure leaves the arena alone. -/
def makeMultiThreshold (a : Arena) : List NodeId → Op → Except RegistryError NodeId × Arena
  | [data, thresholds], .multiThreshold attrs =>
    let (id, a) := a.addMultiThreshold data thresholds attrs
    (.ok id, a)
  | [_, _], _ => (.error (.attrsMismatch Op.multiThresholdName), a)
  | inputs, _ => (.error (.arity Op.multiThresholdName 2 inputs.length), a)

/-- The definition of the thresholding operator. -/
def OpDef.multiThreshold : OpDef where
  name := Op.multiThresholdName
  description := "Threshold the input data to map it from one domain to another."
  numInputs := 2
  arguments := [
    { name := "data", typeInfo := "Tensor", description := "The input tensor." },
    { name := "thresholds", typeInfo := "Tensor",
      description := "The thresholds for thresholding." }]
  attributes := [
    { name := "out_dtype", kind := .text, description := "The output dtype of the data" },
    { name := "out_bias", kind := .number,
      description := "The bias added to the data (typically for unsigned integer)" }]
  supportLevel := 9
  fusion := .broadcast
  relation := thresholdRelation
  shape := thresholdShape
  make := makeMultiThreshold

end Thresholding
