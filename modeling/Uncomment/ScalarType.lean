/-!
# Scalar types

The scalar categories of a code generator and their spellings in C, for generators that emit C.

Results:
* `ScalarType.mem_all`: `all` leaves no category out.
* `ScalarType.cName_injective`: different categories are spelled differently.
-/

namespace Uncomment

/-- A scalar category. -/
inductive ScalarType where
  | i8 | i16 | i32 | i64
  | u8 | u16 | u32 | u64
  | bool
  | char
  /-- No value. -/
  | void
  /-- The null pointer constant. -/
  | null
deriving DecidableEq, Repr

namespace ScalarType

/-- Every category, in the order of their declaration. -/
def all : List ScalarType := [i8, i16, i32, i64, u8, u16, u32, u64, bool, char, void, null]

/-- The spelling in C; the integers and `bool` take their headers `stdint.h` and `stdbool.h`. -/
def cName : ScalarType → String
  | i8 => "int8_t"
  | i16 => "int16_t"
  | i32 => "int32_t"
  | i64 => "int64_t"
  | u8 => "uint8_t"
  | u16 => "uint16_t"
  | u32 => "uint32_t"
  | u64 => "uint64_t"
  | bool => "bool"
  | char => "char"
  | void => "void"
  | null => "NULL"

/-- The category's own name. -/
def name : ScalarType → String
  | i8 => "I8"
  | i16 => "I16"
  | i32 => "I32"
  | i64 => "I64"
  | u8 => "U8"
  | u16 => "U16"
  | u32 => "U32"
  | u64 => "U64"
  | bool => "Bool"
  | char => "Char"
  | void => "Void"
  | null => "Null"

/-- The category of a name. -/
def ofName? (name : String) : Option ScalarType := all.find? (·.name = name)

theorem mem_all (t : ScalarType) : t ∈ all := by cases t <;> decide

theorem cName_injective {s t : ScalarType} (h : s.cName = t.cName) : s = t := by
  have key : ∀ s ∈ all, ∀ t ∈ all, s.cName = t.cName → s = t := by decide
  exact key s (mem_all s) t (mem_all t) h

end ScalarType

end Uncomment
