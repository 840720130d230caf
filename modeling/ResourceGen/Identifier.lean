import ResourceGen.Naming

/-!
# Primary identifiers

The ARN of a resource comes from a member of an operation's output or from a key of its
attribute map. A member holds it when it is called `Arn`, or the resource's name followed by
`Arn`, in any case (`isArnMember`).
-/

namespace ResourceGen

/-- Where the ARN of a resource comes from. -/
inductive PrimaryIdentifier where
  /-- A member of the output of an operation. -/
  | member (operation name : String)
  /-- A key of the attribute map. -/
  | attributeKey (key : String)
  deriving DecidableEq, Repr

namespace PrimaryIdentifier

/-- The name of the member or key that holds the ARN. -/
def sourceName : PrimaryIdentifier → String
  | member _ name => name
  | attributeKey key => key

end PrimaryIdentifier

/-- The member of every Status that holds the metadata of a resource. -/
def metadataField : String := "ACKResourceMetadata"

/-- The place of the ARN in the metadata. -/
def metadataArn : String := "ARN"

/-- The place of the owning account in the metadata. -/
def metadataOwnerAccountId : String := "OwnerAccountID"

/-- Equality of texts without regard to the case of the letters A to Z. -/
def sameIgnoringCase (a b : String) : Bool :=
  Naming.lowerAscii a.toList == Naming.lowerAscii b.toList

/-- Whether an output member holds the ARN of a resource. -/
def isArnMember (resource member : String) : Bool :=
  sameIgnoringCase member "arn" || sameIgnoringCase member (resource ++ "arn")

end ResourceGen
