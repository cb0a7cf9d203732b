import ShownText.OrderedMap

namespace ShownText

structure Record where
  content : Option String
  metadata : OrderedMap String (List String)
  deriving Repr

namespace Record

def empty : Record := ⟨none, ∅⟩

instance : Inhabited Record := ⟨empty⟩

def ofContent (content : String) : Record := ⟨some content, ∅⟩

def resourceNameKey : String := "resourceName"

def withContent (r : Record) (content : Option String) : Record := { r with content }

def takeContent (r : Record) : Option String × Record := (r.content, r.withContent none)

def addValue (r : Record) (key value : String) : Record :=
  { r with metadata := r.metadata.upsert key fun values ↦ values.getD [] ++ [value] }

def setValues (r : Record) (key : String) (values : List String) : Record :=
  { r with metadata := r.metadata.insert key values }

def values? (r : Record) (key : String) : Option (List String) := r.metadata.get? key

def keys (r : Record) : List String := r.metadata.keys

/-- Equality without regard to the order of the keys. -/
instance : BEq Record where
  beq r s := r.content == s.content && r.metadata == s.metadata

end Record

end ShownText
