import Elfutils.Varlocs.Stops

/-!
# `DW_OP_fbreg` and the frame base

`print_expr` stops the program on `DW_OP_fbreg` when the global `has_frame_base` is not set. The
function walk sets it from the function DIE (for an inlined instance, from the subprogram it is
inlined into: `FuncDie.frameBased`), so a variable of a function without a frame base that uses `DW_OP_fbreg` stops the
program. The `--exprlocs` walk instead starts `handle_die` with `outer_has_frame_base` true
("Passing true for has_frame_base is not really true. We do it because we want to resolve all
DIEs and all attributes"), and every DIE passes it on, or-ed with its own, to its children and
its siblings.

So the flag is set at every expression the walk prints, and no run of `varlocs --exprlocs` stops
with "DW_OP_fbreg used without a frame base" (`main_exprlocs_fbreg_accepted`), whatever the
DWARF: the text is foreign to every other stop of the program.

Without `--exprlocs` the check does its work: the function walk prints the frame base of a
function with `has_frame_base` set, and the variables with it set exactly when the function has a
frame base (`FuncDie.frameBased`), so a run stops with that message only at a function without
one (`main_fbreg_accepted_of_frameBased`).
-/

set_option autoImplicit false

namespace Elfutils.Varlocs

/-- The stop of `print_expr` on `DW_OP_fbreg` when `has_frame_base` is not set. -/
def noFrameBase : Failure := .error "DW_OP_fbreg used without a frame base"

theorem foreign_noFrameBase (lib : Libdw) : Foreign lib "DW_OP_fbreg used without a frame base" :=
  .of_last (by decide) (by decide) (by decide) (by decide)

/-- `varlocs --exprlocs` never stops with "DW_OP_fbreg used without a frame base", whatever the
DWARF: `main` starts the walk of every unit with the frame base passed as present, each DIE passes
it on to its children and its siblings, so every expression is printed with `has_frame_base` set,
and no other stop of the program has that message. -/
theorem main_exprlocs_fbreg_accepted (lib : Libdw) (w : Walk) (fuel : Nat) (args : List String)
    (units : List UnitData) (hexprlocs : (mainOptions args).1 = true) :
    (main lib w fuel args units).res ≠ .error (.failed noFrameBase) := by
  unfold main
  cases hopt : mainOptions args with
  | mk exprlocs isDebug =>
    simp only [hopt] at hexprlocs ⊢
    exact (foreign_noFrameBase lib).nextcu_res_ne w fuel (by decide) _ (.inr (by decide)) exprlocs
      units false (.inl hexprlocs)

/-- `DW_OP_fbreg -16`. -/
def fbregOp : Op := ⟨0x91, 0xfffffffffffffff0, 0, 0⟩

/-- libdw over one location, `DW_OP_fbreg -16`. -/
def fbregLib : Libdw :=
  { selfCall with
    getlocation := fun _ => .ok [fbregOp]
    opcodeString := fun a => if a = 0x91 then "fbreg" else "<unknown opcode>" }

/-- The `DW_AT_location` of a variable, in `DW_FORM_exprloc`. -/
def fbregAttr : Attribute := ⟨0x02, 0x18, 0⟩

/-- A compile unit of `a.out` whose DIE has no frame base and a location `DW_OP_fbreg -16`, and
whose one function, without a frame base, has a variable at that location. -/
def fbregUnit : UnitData where
  cuInfo := .ok (0x01, cu, cu)
  module := ⟨true, .ok ("a.out", "a.out"), none, 0, none, 0, false⟩
where
  cu : UnitDie :=
    ⟨⟨⟨0x0b, dwTagCompileUnit, some "a.c", .ok 0x1000⟩, some 0x1000, false, [fbregAttr],
      none⟩, .leaf, true, [⟨f, false, [], none⟩], none⟩
  f : FuncDie :=
    ⟨⟨0x20, dwTagSubprogram, some "f", .ok 0x1000⟩, false, .error "no DW_AT_frame_base",
      .error "not inlined", [(0x1000, 0x1010)], none,
      .ok [⟨⟨0x30, dwTagVariable, some "x", .ok 0x1000⟩, true, .ok fbregAttr, false⟩]⟩

theorem fbregUnit_exprlocs :
    (mainOptions ["--exprlocs", "a.out"]).1 = true ∧
      (main fbregLib noLocations 66 ["--exprlocs", "a.out"] [fbregUnit]).res = .ok () ∧
      (main fbregLib noLocations 66 ["--exprlocs", "a.out"] [fbregUnit]).res ≠
        .error (.failed noFrameBase) :=
  ⟨rfl, rfl, main_exprlocs_fbreg_accepted fbregLib noLocations 66 _ _ rfl⟩

-- Without `--exprlocs`, the variable of the function is printed without a frame base.
example : (main fbregLib noLocations 66 ["a.out"] [fbregUnit]).res = .error (.failed noFrameBase) :=
  rfl

/-- `varlocs` stops with "DW_OP_fbreg used without a frame base" only for a function it prints
without one: when every function of every unit has a frame base (an inlined instance: or one of
its scopes is a subprogram with one), no run does, with or without `--exprlocs`. -/
theorem main_fbreg_accepted_of_frameBased (lib : Libdw) (w : Walk) (fuel : Nat)
    (args : List String) (units : List UnitData) (hframed : ∀ u ∈ units, u.frameBased = true) :
    (main lib w fuel args units).res ≠ .error (.failed noFrameBase) := by
  unfold main
  cases mainOptions args with
  | mk exprlocs isDebug =>
    exact (foreign_noFrameBase lib).nextcu_res_ne w fuel (by decide) _ (.inr (by decide)) exprlocs
      units false (.inr (.inl hframed))

/-- The unit of `fbregUnit`, its function with the frame base `DW_OP_fbreg -16`. -/
def framedUnit : UnitData where
  cuInfo := .ok (0x01, cu, cu)
  module := fbregUnit.module
where
  cu : UnitDie := { fbregUnit.cu with funcs := [⟨f, false, [], none⟩] }
  f : FuncDie := { fbregUnit.f with hasFrameBase := true, frameBase := .ok ⟨0x40, 0x18, 0⟩ }

theorem framedUnit_functions :
    (∀ u ∈ [framedUnit], u.frameBased = true) ∧
      (main fbregLib noLocations 66 ["a.out"] [framedUnit]).res = .ok () ∧
      (main fbregLib noLocations 66 ["a.out"] [framedUnit]).res ≠ .error (.failed noFrameBase) :=
  ⟨by decide, rfl, main_fbreg_accepted_of_frameBased fbregLib noLocations 66 _ _ (by decide)⟩

end Elfutils.Varlocs
