import ResourceGen.Config
import ResourceGen.DocumentReader
import ResourceGen.Text.Category
import ResourceGen.Yaml.Decode

/-!
# Reading configurations

`Config.ofText` reads a configuration in YAML. A text of white space, of comments, or with an
empty document is the configuration without settings.
-/

namespace ResourceGen

open Yaml

/-- Reads a role. -/
def readRole (d : Document) (n : Node) : Option Role := (d.constant? n).bind Role.ofKey?

/-- Reads what is left out. -/
def IgnoreConfig.ofYaml? (d : Document) (n : Node) : Option IgnoreConfig := do
  let [resources, operations, shapes] ←
    d.slots? ["resource_names", "operations", "shape_names"] n | none
  let names (s : Option Node) := Document.withDefault s (d.list? d.text?) []
  return ⟨← names resources, ← names operations, ← names shapes⟩

/-- Reads the override of an operation. -/
def OperationOverride.ofYaml? (d : Document) (n : Node) : Option OperationOverride := do
  let [role, resource] ← d.slots? ["operation_type", "resource_name"] n | none
  return ⟨← Document.required role (readRole d), ← Document.required resource d.text?⟩

/-- Reads the override of a pattern. -/
def OperationPattern.ofYaml? (d : Document) (n : Node) : Option OperationPattern := do
  let [pattern, role, resource] ←
    d.slots? ["pattern", "operation_type", "resource_name"] n | none
  return ⟨← Document.required pattern d.text?, ← Document.required role (readRole d),
    ← Document.required resource d.text?⟩

/-- Reads what is known of a key. -/
def AttributeFieldConfig.ofYaml? (d : Document) (n : Node) : Option AttributeFieldConfig := do
  let [readOnly, primary, owner] ←
    d.slots? ["is_read_only", "is_primary_identifier", "contains_owner_account_id"] n | none
  let flag (s : Option Node) := Document.withDefault s d.bool? false
  return ⟨← flag readOnly, ← flag primary, ← flag owner⟩

/-- Reads an attribute map. -/
def AttributeMapConfig.ofYaml? (d : Document) (n : Node) : Option AttributeMapConfig := do
  let [member, fields] ← d.slots? ["map_member", "fields"] n | none
  return ⟨← Document.withDefault member d.text? "Attributes",
    ← Document.withDefault fields (d.dict? (AttributeFieldConfig.ofYaml? d)) .empty⟩

/-- Reads the renames of an operation. -/
def OperationRenames.ofYaml? (d : Document) (n : Node) : Option OperationRenames := do
  let [input, output] ← d.slots? ["input_fields", "output_fields"] n | none
  return ⟨← Document.withDefault input (d.dict? d.text?) .empty,
    ← Document.withDefault output (d.dict? d.text?) .empty⟩

/-- Reads the renames of a resource. -/
def ResourceConfig.readRenames (d : Document) (n : Node) : Option (Dict OperationRenames) := do
  let [operations] ← d.slots? ["operations"] n | none
  Document.withDefault operations (d.dict? (OperationRenames.ofYaml? d)) .empty

/-- Reads the settings of a resource. -/
def ResourceConfig.ofYaml? (d : Document) (n : Node) : Option ResourceConfig := do
  let [attributes, renames] ← d.slots? ["unpack_attributes_map", "renames"] n | none
  return ⟨← Document.withDefault attributes (d.optional? (AttributeMapConfig.ofYaml? d)) none,
    ← Document.withDefault renames (d.optional? (ResourceConfig.readRenames d)) none⟩

namespace Config

/-- Reads the settings of a service. -/
def ofYaml? (d : Document) (n : Node) : Option Config := do
  let [ignore, operations, patterns, resources] ←
    d.slots? ["ignore", "operations", "operation_patterns", "resources"] n | none
  return ⟨← Document.withDefault ignore (IgnoreConfig.ofYaml? d) {},
    ← Document.withDefault operations (d.dict? (OperationOverride.ofYaml? d)) .empty,
    ← Document.withDefault patterns (d.list? (OperationPattern.ofYaml? d)) [],
    ← Document.withDefault resources (d.dict? (ResourceConfig.ofYaml? d)) .empty⟩

/-- Reads the text of a configuration. -/
def ofText [DocumentReader] (text : String) : Result Config :=
  if text.toList.all Text.isBlank then .ok {}
  else
    let config := do
      let d ← DocumentReader.yaml? text
      match d.root with
      | none => some ({} : Config)
      | some n => ofYaml? d n
    match config with
    | some c => .ok c
    | none => .error .yaml

/-- Reads the content of a configuration file, if the file can be read at all. -/
def ofFile [DocumentReader] (content : Option String) : Result Config :=
  match content with
  | none => .error .unreadableConfig
  | some text =>
    match ofText text with
    | .ok c => .ok c
    | .error _ => .error .malformedConfig

end Config

end ResourceGen
