/-!
# Derived texts

Some operations on stored data often have nothing to do. Their result says so, so that a caller can
go on with what it has instead of a copy.
-/

namespace Uncomment

/-- A text obtained from some data, and whether it is that data, byte for byte and with no copy
    made. -/
structure Derived where
  text : String
  unchanged : Bool
deriving DecidableEq, Repr

end Uncomment
