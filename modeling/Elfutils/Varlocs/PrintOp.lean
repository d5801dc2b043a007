import Elfutils.Printf
import Elfutils.Varlocs.Op

/-!
# One operation of `print_expr`

What the `switch` of `print_expr` does for one operation: the checks it makes, the libdw calls it
issues and their error messages, and the text it prints. Seven cases go on to print a nested
block: `DW_OP_call_frame_cfa` the CFA expression of the frame at the address, the calls the
location of the DIE they name, the implicit pointers and `GNU_variable_value` the location of
the DIE they name at the address, the entry values their sub-expression. `printOp` returns that
block, and `print_expr` (in `Elfutils.Varlocs.PrintExpr`) prints it one level deeper.

libdw is `Libdw`: each call a function of its arguments, a failing one returning the message
`dwarf_errmsg (-1)` gives right after it.
-/

set_option autoImplicit false

namespace Elfutils.Varlocs

/-! ## What `print_expr` reads -/

/-- The libdw calls `print_expr` makes. A failing call returns the message `dwarf_errmsg (-1)`
gives right after it. With them, the two name tables `varlocs` builds from `dwarf.h`. -/
structure Libdw where
  getlocationAttr : Option Attribute → Op → Except String Attribute
  getlocationDie : Option Attribute → Op → Except String Die
  getlocation : Attribute → Except String (List Op)
  getlocationImplicitValue : Option Attribute → Op → Except String Block
  getlocationImplicitPointer : Option Attribute → Op → Except String Attribute
  /-- `dwarf_getlocation_addr` asked for one location: `none` when it finds none (`0`), the one
  it finds (`1`), or the failure (`-1`). -/
  getlocationAddr : Attribute → UInt64 → Except String (Option (List Op))
  formblock : Attribute → Except String Block
  formaddr : Attribute → Except String UInt64
  formudata : Attribute → Except String UInt64
  /-- `dwarf_attr`. -/
  attr : Die → Nat → Option Attribute
  tag : Die → Nat
  diename : Die → Option String
  dieoffset : Die → UInt64
  cuoffset : Die → UInt64
  /-- `dwarf_cfi_addrframe` on a CFI table, `none` for a null one, returning the frame. -/
  cfiAddrframe : Option Nat → UInt64 → Except String Nat
  /-- `dwarf_frame_cfa`: the CFA expression of a frame. -/
  frameCfa : Nat → Except String (List Op)
  /-- `dwarf_opcode_string`. -/
  opcodeString : UInt8 → String
  /-- `dwarf_encoding_string`. -/
  encodingString : UInt32 → String

/-- The globals of `varlocs` that `print_expr` reads. -/
structure Globals where
  cfiDebug : Option Nat
  cfiDebugBias : UInt64
  cfiEh : Option Nat
  cfiEhBias : UInt64
  isEtRel : Bool
  isDebug : Bool
  /-- Whether the current function has a `DW_AT_frame_base`. -/
  hasFrameBase : Bool

/-- Why an operation stopped the program: `error (EXIT_FAILURE, 0, ...)` with its message, or a
failed `assert` of the expression `expr`. -/
inductive Failure where
  | error (msg : String)
  | assertion (expr : String)
  deriving DecidableEq, Repr

/-- `error (EXIT_FAILURE, 0, msg)`. -/
def error {α : Type} (msg : String) : Out Failure α := Out.fail (.error msg)

/-- `assert (cond)`, where `expr` is the asserted expression. -/
def check (cond : Bool) (expr : String) : Out Failure Unit :=
  if cond then pure () else Out.fail (.assertion expr)

/-- A libdw call checked as `if (call != 0) error (EXIT_FAILURE, 0, ..., dwarf_errmsg (-1))`:
`msg` builds the message around libdw's. -/
def orError {α : Type} (msg : String → String) : Except String α → Out Failure α
  | .ok a => pure a
  | .error e => error (msg e)

/-- `if (attr == NULL) error (EXIT_FAILURE, 0, "%s used in CFI", opname)`: the operations that
never occur in call frame information. -/
def notInCfi (attr : Option Attribute) (opname : String) : Out Failure Unit :=
  if attr.isNone then error (opname ++ " used in CFI") else pure ()

/-! ## `print_base_type` -/

/-- `print_base_type`: the base type DIE a typed operation names, as `{name,encoding,bits@[offset]}`. -/
def printBaseType (lib : Libdw) (base : Die) : Out Failure Unit := do
  if lib.tag base ≠ dwTagBaseType then error "not a base type"
  let enctype ← match (lib.attr base dwAtEncoding).map lib.formudata with
    | some (.ok e) => pure e
    | _ => error "base type without encoding"
  let bits ← match (lib.attr base dwAtByteSize).map lib.formudata with
    | some (.ok b) => pure (b * 8)
    | _ => match (lib.attr base dwAtBitSize).map lib.formudata with
      | some (.ok b) => pure b
      | _ => error "base type without byte or bit size"
  -- a null name prints as glibc prints a null string
  Out.print ("\x7b" ++ (lib.diename base).getD "(null)" ++ "," ++
    lib.encodingString enctype.toUInt32 ++ "," ++ dec bits.toNat ++ "@[" ++
    hex (lib.dieoffset base).toNat ++ "]\x7d")

/-! ## The cases of the `switch` -/

/-- A block `print_expr` prints after an operation: the attribute, operations and address it
calls `print_expr_block` with. -/
structure Nested where
  attr : Option Attribute
  ops : List Op
  addr : UInt64

/-- The frame of `DW_OP_call_frame_cfa`: `dwarf_cfi_addrframe` on `.eh_frame`, then on
`.debug_frame` when that fails, each at `addr` plus its bias. -/
def cfiFrame (g : Globals) (lib : Libdw) (addr : UInt64) : Except String Nat :=
  match lib.cfiAddrframe g.cfiEh (addr + g.cfiEhBias) with
  | .ok frame => .ok frame
  | .error _ => lib.cfiAddrframe g.cfiDebug (addr + g.cfiDebugBias)

/-- The bytes of `DW_OP_implicit_value`, each in `%02x` and checked against the byte of
`block_impl` at its index. -/
def printImplicitBytes : List UInt8 → List UInt8 → Out Failure Unit
  | b :: bs, c :: cs => do
    Out.print (hex02 b)
    check (b == c) "block.data[i] == block_impl.data[i]"
    printImplicitBytes bs cs
  | _, _ => pure ()

/-- The end of the implicit pointer and `GNU_variable_value` cases: a constant, no location, or
the one location of `attrval` at `addr`, which is printed next. -/
def printLocationValue (lib : Libdw) (attrval : Attribute) (addr : UInt64) :
    Out Failure (Option Nested) :=
  if attrval.code = dwAtConstValue then do
    Out.print "<constant value>"
    pure none
  else
    match lib.getlocationAddr attrval addr with
    | .ok none => do
      Out.print "<no location>"
      pure none
    | .ok (some exprval) => pure (some ⟨some attrval, exprval, addr⟩)
    | .error e =>
      error ("dwarf_getlocation_addr attrval at addr 0x" ++ hex addr.toNat ++ ", locs (-1): " ++ e)

/-- The cases of `DW_OP_addrx` and `DW_OP_constx`: the value `form` reads from the attribute libdw
gives for the operation, printed after `label`. -/
def printIndexed (lib : Libdw) (attr : Option Attribute) (expr : Op)
    (form : Attribute → Except String UInt64) (formFailed label : String) :
    Out Failure (Option Nested) := do
  let addrAttr ← orError (fun e => "dwarf_getlocation_attr for addr: " ++ e)
    (lib.getlocationAttr attr expr)
  let value ← orError (fun e => formFailed ++ e) (form addrAttr)
  Out.print (label ++ hex value.toNat)
  pure none

/-- The `switch` of `print_expr` on the operation `expr`, with the attribute `attr` it belongs to
(`none` in call frame information) at the address `addr`: what it prints, and the block it
prints next, if any. -/
def printOp (g : Globals) (lib : Libdw) (attr : Option Attribute) (expr : Op) (addr : UInt64) :
    Out Failure (Option Nested) :=
  let opname := lib.opcodeString expr.atom
  match opCase expr.atom with
  | some .noArgs => do
    Out.print opname
    pure none
  | some .callFrameCfa => do
    notInCfi attr opname
    Out.print (opname ++ " ")
    if g.cfiEh.isNone && g.cfiDebug.isNone && !g.isDebug then
      error "DW_OP_call_frame_cfa used but no cfi found."
    match cfiFrame g lib addr with
    | .ok frame => do
      let cfaOps ← orError (fun e => "dwarf_frame_cfa 0x" ++ hex addr.toNat ++ ": " ++ e)
        (lib.frameCfa frame)
      if cfaOps.length < 1 then error "dwarf_frame_cfa no ops"
      pure (some ⟨none, cfaOps, 0⟩)
    | .error e =>
      if g.isEtRel || g.isDebug then do
        Out.print "\x7b...\x7d"
        pure none
      else error ("dwarf_cfi_addrframe 0x" ++ hex addr.toNat ++ ": " ++ e)
  | some .pushObjectAddress => do
    notInCfi attr opname
    Out.print opname
    pure none
  | some .addr => do
    Out.print (opname ++ "(0x" ++ hex expr.number.toNat ++ ")")
    pure none
  | some .unsigned => do
    Out.print (opname ++ "(" ++ dec expr.number.toNat ++ ")")
    pure none
  | some .call => do
    notInCfi attr opname
    let callAttr ← orError (fun e => "dwarf_getlocation_attr for " ++ opname ++ " error " ++ e)
      (lib.getlocationAttr attr expr)
    let callDie ← orError (fun e => "dwarf_getlocation_die for " ++ opname ++ " error " ++ e)
      (lib.getlocationDie attr expr)
    let callOps ← orError (fun e => "dwarf_getlocation for entry: " ++ e)
      (lib.getlocation callAttr)
    Out.print (opname ++ "([" ++ hex (lib.dieoffset callDie).toNat ++ "]) ")
    pure (some ⟨some callAttr, callOps, addr⟩)
  | some .signed => do
    Out.print (opname ++ "(" ++ sdec expr.number ++ ")")
    pure none
  | some .fbreg => do
    notInCfi attr opname
    if !g.hasFrameBase then error "DW_OP_fbreg used without a frame base"
    Out.print (opname ++ "(" ++ sdec expr.number ++ ")")
    pure none
  | some .bregx => do
    Out.print (opname ++ "(" ++ dec expr.number.toNat ++ "," ++ sdec expr.number2 ++ ")")
    pure none
  | some .bitPiece => do
    Out.print (opname ++ "(" ++ dec expr.number.toNat ++ "," ++ dec expr.number2.toNat ++ ")")
    pure none
  | some .implicitValue => do
    let constAttr ← orError (fun e => "dwarf_getlocation_attr: " ++ e)
      (lib.getlocationAttr attr expr)
    let block ← orError (fun e => "dwarf_formblock: " ++ e) (lib.formblock constAttr)
    let blockImpl ← orError (fun e => "dwarf_getlocation_implicit_value: " ++ e)
      (lib.getlocationImplicitValue attr expr)
    check (expr.number.toNat == block.data.length) "expr->number == block.length"
    check (block.data.length == blockImpl.data.length) "block.length == block_impl.length"
    Out.print (opname ++ "(" ++ dec block.data.length ++ ")\x7b")
    printImplicitBytes block.data blockImpl.data
    Out.print "\x7d"
    pure none
  | some .implicitPointer => do
    notInCfi attr opname
    let attrval ← orError (fun e => "dwarf_getlocation_implicit_pointer: " ++ e)
      (lib.getlocationImplicitPointer attr expr)
    let attrval2 ← orError (fun e => "dwarf_getlocation_attr: " ++ e)
      (lib.getlocationAttr attr expr)
    check (attrval.code == attrval2.code)
      "dwarf_whatattr (&attrval) == dwarf_whatattr (&attrval2)"
    check (attrval.form == attrval2.form)
      "dwarf_whatform (&attrval) == dwarf_whatform (&attrval2)"
    check (attrval.valp == attrval2.valp) "attrval.valp == attrval2.valp"
    let implDie ← orError (fun e => "dwarf_getlocation_die: " ++ e)
      (lib.getlocationDie attr expr)
    Out.print (opname ++ "([" ++ hex (lib.dieoffset implDie).toNat ++ "]," ++
      sdec expr.number2 ++ ") ")
    printLocationValue lib attrval addr
  | some .variableValue => do
    notInCfi attr opname
    let attrval ← orError (fun e => "dwarf_getlocation_attr: " ++ e)
      (lib.getlocationAttr attr expr)
    let implDie ← orError (fun e => "dwarf_getlocation_die: " ++ e)
      (lib.getlocationDie attr expr)
    Out.print (opname ++ "([" ++ hex (lib.dieoffset implDie).toNat ++ "]) ")
    printLocationValue lib attrval addr
  | some .entryValue => do
    let entryAttr ← orError (fun e => "dwarf_getlocation_attr: " ++ e)
      (lib.getlocationAttr attr expr)
    let entryOps ← orError (fun e => "dwarf_getlocation for entry: " ++ e)
      (lib.getlocation entryAttr)
    Out.print (opname ++ "(" ++ dec entryOps.length ++ ") ")
    -- the sub-expression is printed with the operation's own attribute
    pure (some ⟨attr, entryOps, addr⟩)
  | some .parameterRef => do
    let param ← orError (fun e => "dwarf_getlocation_die: " ++ e) (lib.getlocationDie attr expr)
    Out.print (opname ++ "[" ++ hex (lib.dieoffset param).toNat ++ "]")
    check (expr.number == lib.cuoffset param) "expr->number == dwarf_cuoffset (&param)"
    if lib.tag param ≠ dwTagFormalParameter then error "Not a formal parameter"
    pure none
  | some .convert => do
    if expr.number ≠ 0 then do
      let type ← orError (fun e => "dwarf_getlocation_die: " ++ e)
        (lib.getlocationDie attr expr)
      check (expr.number == lib.cuoffset type) "expr->number == dwarf_cuoffset (&type)"
      Out.print opname
      printBaseType lib type
    else Out.print (opname ++ "[" ++ dec expr.number.toNat ++ "]")
    pure none
  | some .regvalType => do
    let type ← orError (fun e => "dwarf_getlocation_die: " ++ e) (lib.getlocationDie attr expr)
    check (expr.number2 == lib.cuoffset type) "expr->number2 == dwarf_cuoffset (&type)"
    Out.print (opname ++ "(reg" ++ dec expr.number.toNat ++ ")")
    printBaseType lib type
    pure none
  | some .derefType => do
    let type ← orError (fun e => "dwarf_getlocation_die: " ++ e) (lib.getlocationDie attr expr)
    check (expr.number2 == lib.cuoffset type) "expr->number2 == dwarf_cuoffset (&type)"
    Out.print (opname ++ "(" ++ dec expr.number.toNat ++ ")")
    printBaseType lib type
    pure none
  | some .xderefType => do
    let type ← orError (fun e => "dwarf_getlocation_die: " ++ e) (lib.getlocationDie attr expr)
    Out.print (opname ++ "(" ++ dec expr.number.toNat ++ ")")
    printBaseType lib type
    pure none
  | some .constType => do
    let type ← orError (fun e => "dwarf_getlocation_die: " ++ e) (lib.getlocationDie attr expr)
    check (expr.number == lib.cuoffset type) "expr->number == dwarf_cuoffset (&type)"
    let constAttr ← orError (fun e => "dwarf_getlocation_attr for type: " ++ e)
      (lib.getlocationAttr attr expr)
    let block ← orError (fun e => "dwarf_formblock for type: " ++ e) (lib.formblock constAttr)
    Out.print opname
    printBaseType lib type
    Out.print ("(" ++ dec block.data.length ++ ")[")
    block.data.forM fun b => Out.print (hex02 b)
    Out.print "]"
    pure none
  | some .addrIndex =>
    printIndexed lib attr expr lib.formaddr "dwarf_formaddr address failed: " "addr: 0x"
  | some .constIndex =>
    printIndexed lib attr expr lib.formudata "dwarf_formudata constant failed: " "const: 0x"
  | none => error ("unhandled opcode: DW_OP_" ++ opname ++ " (0x" ++ hex expr.atom.toNat ++ ")")

/-! ## A DIE whose location calls itself -/

/-- `DW_OP_call2` of the DIE at offset `0x2a`. -/
def selfCallOp : Op := ⟨0x98, 0x2a, 0, 0⟩

/-- The `DW_AT_location` attribute, in `DW_FORM_exprloc`, of the DIE at offset `0x2a`. -/
def selfCallAttr : Attribute := ⟨0x02, 0x18, 0⟩

/-- libdw over one DIE, at offset `0x2a`, whose location is `DW_OP_call2` of itself. -/
def selfCall : Libdw where
  getlocationAttr _ _ := .ok selfCallAttr
  getlocationDie _ _ := .ok ⟨0⟩
  getlocation _ := .ok [selfCallOp]
  getlocationImplicitValue _ _ := .error "invalid DWARF"
  getlocationImplicitPointer _ _ := .error "invalid DWARF"
  getlocationAddr _ _ := .ok none
  formblock _ := .error "invalid DWARF"
  formaddr _ := .error "invalid DWARF"
  formudata _ := .error "invalid DWARF"
  attr _ _ := none
  tag _ := 0
  diename _ := none
  dieoffset _ := 0x2a
  cuoffset _ := 0x2a
  cfiAddrframe _ _ := .error "no CFI"
  frameCfa _ := .error "no CFI"
  opcodeString a := if a = 0x98 then "call2" else "<unknown opcode>"
  encodingString _ := "<unknown encoding>"

/-- A file without call frame information, in a function with a frame base. -/
def noCfi : Globals := ⟨none, 0, none, 0, false, false, true⟩

-- Printed without an attribute, as a CFA expression is, `DW_OP_call2` stops the program with
-- "<name> used in CFI", having printed nothing.
example : printOp noCfi selfCall none selfCallOp 0 = error "call2 used in CFI" := rfl

end Elfutils.Varlocs
