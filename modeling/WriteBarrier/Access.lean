/-
Reference stores, by the kind of access that made them. The kind decides what
a barrier needs to know of the store: of a field the object that holds it, of
array elements and of bulk writes the addresses written.
-/
import WriteBarrier.Region

namespace WriteBarrier

inductive AccessKind where
  | plainField
  | arrayElement
  | bulkRegion
  deriving DecidableEq

/-- A store into a field at `slot` of the object that starts at `object`. -/
structure FieldWrite where
  object : Address
  slot : Address
  deriving DecidableEq

/-- What a store of this kind names. -/
abbrev AccessKind.Target : AccessKind → Type
  | plainField => FieldWrite
  | arrayElement => Region
  | bulkRegion => Region

instance : (kind : AccessKind) → DecidableEq kind.Target
  | .plainField => inferInstanceAs (DecidableEq FieldWrite)
  | .arrayElement => inferInstanceAs (DecidableEq Region)
  | .bulkRegion => inferInstanceAs (DecidableEq Region)

def AccessKind.name : AccessKind → String
  | plainField => "PlainField"
  | arrayElement => "ArrayElement"
  | bulkRegion => "BulkRegion"

/-- A store whose kind is only known where it happens. -/
inductive WriteTarget where
  | field (write : FieldWrite)
  | elements (region : Region)
  | region (region : Region)
  deriving DecidableEq

namespace WriteTarget

def kind : WriteTarget → AccessKind
  | field _ => .plainField
  | elements _ => .arrayElement
  | region _ => .bulkRegion

def text : WriteTarget → String
  | field w => s!"Field(FieldWrite \x7b object: {w.object}, slot: {w.slot} \x7d)"
  | elements r => s!"Elements({r})"
  | region r => s!"Region({r})"

end WriteTarget

end WriteBarrier
