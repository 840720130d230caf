import ResourceGen.Config

/-!
# Routes of attribute keys

Some resources are set through one map of text keys. The configuration says which keys exist;
here each goes to the Spec, to the Status or to a place in the metadata. Keys are routed in key
order, and only the first key of each special kind is bound; later ones are dropped.
-/

namespace ResourceGen

/-- Where a key belongs. -/
inductive KeyRoute where
  | primaryIdentifier
  | ownerAccountId
  | status
  | spec
  deriving DecidableEq, Repr

/-- Where the configured keys of an attribute map go. -/
structure AttributeRoutes where
  /-- The member that holds the map. -/
  mapMember : String
  /-- Keys that can be written. -/
  spec : List String
  /-- Keys that are only observed. -/
  status : List String
  /-- The key that holds the ARN. -/
  primaryIdentifier : Option String
  /-- The key that holds the owning account. -/
  ownerAccountId : Option String
  deriving DecidableEq, Repr

/-- The route of a key. -/
def AttributeFieldConfig.route (f : AttributeFieldConfig) : KeyRoute :=
  if f.isPrimaryIdentifier then .primaryIdentifier
  else if f.containsOwnerAccountId then .ownerAccountId
  else if f.isReadOnly then .status
  else .spec

namespace AttributeRoutes

/-- The keys with a given route, ascending. -/
def keysFor (c : AttributeMapConfig) (r : KeyRoute) : List String :=
  (c.fields.entries.filter fun e => e.2.route = r).map Prod.fst

/-- The routes of a configured map. -/
def ofConfig (c : AttributeMapConfig) : AttributeRoutes where
  mapMember := c.mapMember
  spec := keysFor c .spec
  status := keysFor c .status
  primaryIdentifier := (keysFor c .primaryIdentifier).head?
  ownerAccountId := (keysFor c .ownerAccountId).head?

/-- Whether a key goes to the metadata. -/
def isSpecial (r : AttributeRoutes) (key : String) : Bool :=
  r.primaryIdentifier == some key || r.ownerAccountId == some key

end AttributeRoutes

end ResourceGen
