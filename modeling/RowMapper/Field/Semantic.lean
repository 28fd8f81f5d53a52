/-!
# Semantic types

What a column holds, independent of any database. Dialects turn it into a column type.
-/

namespace RowMapper

inductive SemanticType where
  | bool
  | int8
  | int16
  | int32
  | int64
  | uint8
  | uint16
  | uint32
  | uint64
  | float32
  | float64
  | text
  | bytes
  | timestamp
  | json
deriving DecidableEq

namespace SemanticType

def isInteger : SemanticType → Bool
  | int8 | int16 | int32 | int64 | uint8 | uint16 | uint32 | uint64 => true
  | _ => false

def isUnsigned : SemanticType → Bool
  | uint8 | uint16 | uint32 | uint64 => true
  | _ => false

/-- Whether an integer takes 64 bits. -/
def isWideInteger : SemanticType → Bool
  | int64 | uint64 => true
  | _ => false

end SemanticType

end RowMapper
