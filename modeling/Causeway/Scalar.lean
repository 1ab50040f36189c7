/-!
# Causeway.Scalar

The primitive kinds that cross the boundary by value, with their names on both sides and their size,
which is also their alignment.
-/

namespace Causeway

inductive Scalar where
  | bool
  | u8
  | u16
  | u32
  | u64
  | usize
  | i8
  | i16
  | i32
  | i64
  | isize
  | f32
  | f64
  deriving DecidableEq, Repr

namespace Scalar

def all : List Scalar :=
  [bool, u8, u16, u32, u64, usize, i8, i16, i32, i64, isize, f32, f64]

/-- The name in interface texts. -/
def name : Scalar → String
  | .bool => "bool"
  | .u8 => "u8"
  | .u16 => "u16"
  | .u32 => "u32"
  | .u64 => "u64"
  | .usize => "usize"
  | .i8 => "i8"
  | .i16 => "i16"
  | .i32 => "i32"
  | .i64 => "i64"
  | .isize => "isize"
  | .f32 => "f32"
  | .f64 => "f64"

/-- The scalar with a given name. -/
def ofName? (name : String) : Option Scalar := all.find? fun s => s.name = name

/-- The type the foreign side declares. -/
def declaredAs : Scalar → String
  | .bool => "bool"
  | .u8 => "uint8_t"
  | .u16 => "uint16_t"
  | .u32 => "uint32_t"
  | .u64 => "uint64_t"
  | .usize => "size_t"
  | .i8 => "int8_t"
  | .i16 => "int16_t"
  | .i32 => "int32_t"
  | .i64 => "int64_t"
  | .isize => "ssize_t"
  | .f32 => "float"
  | .f64 => "double"

/-- The size in bytes on a 64-bit machine. -/
def size : Scalar → Nat
  | .bool | .u8 | .i8 => 1
  | .u16 | .i16 => 2
  | .u32 | .i32 | .f32 => 4
  | .u64 | .i64 | .f64 | .usize | .isize => 8

/-- A scalar is aligned to its size. -/
def align (s : Scalar) : Nat := s.size

theorem size_pos (s : Scalar) : 0 < s.size := by cases s <;> decide

end Scalar
end Causeway
