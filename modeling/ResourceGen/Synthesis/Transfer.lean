import ResourceGen.Config
import ResourceGen.Identifier
import ResourceGen.Synthesis

/-!
# Transfers

A program moves single values: a value of some layout is copied, or a value is handed over as it
is. `Synthesizer` first settles the transfers of a program, which is where errors can come up,
and then turns them into statements, which always works. Every transfer is guarded on the
presence of its source.
-/

namespace ResourceGen

/-- One value to be moved by a program. -/
inductive Transfer where
  /-- Copies a value of a layout. -/
  | copied (dest source : Accessor) (layout : Layout)
  /-- Hands a value over. -/
  | handed (dest source : Accessor) (kind : AssignKind)
  deriving Repr

/-- The statement that hands a value over when it is present. -/
def guarded (dest source : Accessor) (kind : AssignKind) : Statement :=
  .ifPresent source [.assign dest source kind]

namespace Copier

/-- The statements of a transfer. -/
def transfer (c : Copier) : Transfer → Nat → List Statement × Nat
  | .copied dest source l, n => c.copy dest source l n
  | .handed dest source kind, n => ([guarded dest source kind], n)

/-- The statements of transfers in order. -/
def transfers (c : Copier) : List Transfer → Nat → List Statement
  | [], _ => []
  | t :: rest, n =>
    let (one, n) := c.transfer t n
    one ++ c.transfers rest n

end Copier

/-- The place of the ARN below a Status. -/
def arnSlot (status : Accessor) : Accessor := (status.field metadataField).field metadataArn

/-- The place of the owning account below a Status. -/
def ownerSlot (status : Accessor) : Accessor :=
  (status.field metadataField).field metadataOwnerAccountId

/-- What programs are made from, besides the resource. -/
structure Synthesizer where
  config : Config
  types : TypeResolver

namespace Synthesizer

/-- The service model. -/
def model (s : Synthesizer) : ServiceModel := s.types.model

/-- The shape that an operation names as its input or output. -/
def payload (s : Synthesizer) (o : Operation) : Option String → Result (Option Shape)
  | none => .ok none
  | some reference => (s.model.resolve reference o.name).map some

/-- The transfer that copies a value of a shape; none when the shape has no type. -/
def copyOf (s : Synthesizer) (path : List String) (dest source : Accessor) (shape : Shape) :
    Result (Option Transfer) := do
  return (← s.model.layout path shape).map (.copied dest source)

/-- The program of the given transfers, behind given statements. -/
def program (s : Synthesizer) (d : Direction) (first : List Statement) (ts : List Transfer) :
    Program :=
  ⟨d, first ++ (Copier.mk d s.types).transfers ts 0⟩

end Synthesizer

end ResourceGen
