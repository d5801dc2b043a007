import Mathlib.Data.List.Range

/-!
# DWARF operations as `varlocs` reads them

The data `print_expr` of `tests/varlocs.c` works on: a location operation `Dwarf_Op`, with its
atom byte and its two operands, and the attributes, DIEs and blocks that libdw hands back for an
operation.

`print_expr` switches on the atom. `OpCase` has one constructor per group of `case` labels that
share a body, and `OpCase.atoms` lists the labels of each group with their `dwarf.h` values, so
that `opCase` picks the body the `switch` runs; an atom no label names falls to `default`.
-/

set_option autoImplicit false

namespace Elfutils.Varlocs

/-- A `Dwarf_Op`: its atom and its two operands. libdw keys what `dwarf_getlocation_*` returns
for an operation on its `offset`; those calls take the whole operation. -/
structure Op where
  atom : UInt8
  number : UInt64
  number2 : UInt64
  offset : UInt64
  deriving DecidableEq, Repr

/-- A `Dwarf_Attribute` as `print_expr` reads it: `dwarf_whatattr`, `dwarf_whatform`, and the
position `valp` of its value. -/
structure Attribute where
  code : Nat
  form : Nat
  valp : Nat
  deriving DecidableEq, Repr

/-- A `Dwarf_Die`, by its handle. -/
structure Die where
  handle : Nat
  deriving DecidableEq, Repr

/-- A `Dwarf_Block`: its bytes, `block.length` of them. -/
structure Block where
  data : List UInt8
  deriving DecidableEq, Repr

/-- `DW_AT_byte_size`. -/
def dwAtByteSize : Nat := 0x0b

/-- `DW_AT_bit_size`. -/
def dwAtBitSize : Nat := 0x0d

/-- `DW_AT_const_value`. -/
def dwAtConstValue : Nat := 0x1c

/-- `DW_AT_encoding`. -/
def dwAtEncoding : Nat := 0x3e

/-- `DW_TAG_formal_parameter`. -/
def dwTagFormalParameter : Nat := 0x05

/-- `DW_TAG_base_type`. -/
def dwTagBaseType : Nat := 0x24

/-- The groups of `case` labels of the `switch` of `print_expr` that share a body. The three
special operations without arguments (`form_tls_address`, `GNU_push_tls_address`,
`GNU_uninit`) have bodies of their own in the source, each the body of `noArgs`. -/
inductive OpCase where
  | noArgs | callFrameCfa | pushObjectAddress | addr | unsigned | call | signed | fbreg
  | bregx | bitPiece | implicitValue | implicitPointer | variableValue | entryValue
  | parameterRef | convert | regvalType | derefType | xderefType | constType | addrIndex
  | constIndex
  deriving DecidableEq, Repr

/-- The 32 atoms from `base` on: the ranges `lit0 ... lit31`, `reg0 ... reg31`,
`breg0 ... breg31`. -/
def atomRange (base : Nat) : List UInt8 :=
  (List.range 32).map fun i => (base + i).toUInt8

/-- The `case` labels of each group, by their `dwarf.h` values. -/
def OpCase.atoms : OpCase → List UInt8
  -- deref, dup, drop, over, swap, rot, xderef, abs, and, div, minus, mod, mul, neg, not, or,
  -- plus, shl, shr, shra, xor, eq, ge, gt, le, lt, ne, nop, stack_value, lit*, reg*;
  -- form_tls_address, GNU_push_tls_address, GNU_uninit
  | .noArgs => [0x06, 0x12, 0x13, 0x14, 0x16, 0x17, 0x18, 0x19, 0x1a, 0x1b, 0x1c, 0x1d, 0x1e,
      0x1f, 0x20, 0x21, 0x22, 0x24, 0x25, 0x26, 0x27, 0x29, 0x2a, 0x2b, 0x2c, 0x2d, 0x2e, 0x96,
      0x9f] ++ atomRange 0x30 ++ atomRange 0x50 ++ [0x9b, 0xe0, 0xf0]
  | .callFrameCfa => [0x9c]
  | .pushObjectAddress => [0x97]
  | .addr => [0x03]
  -- const1u, const2u, const4u, const8u, constu, pick, plus_uconst, regx, piece, deref_size,
  -- xderef_size
  | .unsigned => [0x08, 0x0a, 0x0c, 0x0e, 0x10, 0x15, 0x23, 0x90, 0x93, 0x94, 0x95]
  -- call2, call4, call_ref
  | .call => [0x98, 0x99, 0x9a]
  -- const1s, const2s, const4s, const8s, consts, skip, bra, breg*
  | .signed => [0x09, 0x0b, 0x0d, 0x0f, 0x11, 0x2f, 0x28] ++ atomRange 0x70
  | .fbreg => [0x91]
  | .bregx => [0x92]
  | .bitPiece => [0x9d]
  | .implicitValue => [0x9e]
  -- implicit_pointer, GNU_implicit_pointer
  | .implicitPointer => [0xa0, 0xf2]
  -- GNU_variable_value
  | .variableValue => [0xfd]
  -- entry_value, GNU_entry_value
  | .entryValue => [0xa3, 0xf3]
  -- GNU_parameter_ref
  | .parameterRef => [0xfa]
  -- convert, GNU_convert, reinterpret, GNU_reinterpret
  | .convert => [0xa8, 0xf7, 0xa9, 0xf9]
  -- regval_type, GNU_regval_type
  | .regvalType => [0xa5, 0xf5]
  -- deref_type, GNU_deref_type
  | .derefType => [0xa6, 0xf6]
  | .xderefType => [0xa7]
  -- const_type, GNU_const_type
  | .constType => [0xa4, 0xf4]
  -- GNU_addr_index, addrx
  | .addrIndex => [0xfb, 0xa1]
  -- GNU_const_index, constx
  | .constIndex => [0xfc, 0xa2]

/-- Every group, in the order of the `switch`. -/
def OpCase.all : List OpCase :=
  [.noArgs, .callFrameCfa, .pushObjectAddress, .addr, .unsigned, .call, .signed, .fbreg, .bregx,
    .bitPiece, .implicitValue, .implicitPointer, .variableValue, .entryValue, .parameterRef,
    .convert, .regvalType, .derefType, .xderefType, .constType, .addrIndex, .constIndex]

/-- The body `switch (atom)` runs: the group whose labels hold `atom`, or `none` for
`default`. -/
def opCase (atom : UInt8) : Option OpCase :=
  OpCase.all.find? fun c => c.atoms.contains atom

example : opCase 0x98 = some .call := by decide
example : opCase 0x4f = some .noArgs := by decide
example : opCase 0xf1 = none := by decide

end Elfutils.Varlocs
