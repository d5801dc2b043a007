import Elfutils.Varlocs.FrameBase

/-!
# `--debug` and call frame information

`print_expr` prints `DW_OP_call_frame_cfa` from the call frame information libdwfl gives for the
module. It stops the program with "DW_OP_call_frame_cfa used but no cfi found." when the module
has none, and with "dwarf_cfi_addrframe 0x...: ..." when neither table has a frame at the address.
`--debug` turns both off ("With --debug we ignore not being able to find .eh_frame"): the first
check passes, and a missing frame prints `{...}`.

So no run of `varlocs --debug` stops with one of those texts (`main_debug_cfi_ignored`), whatever
the DWARF and the call frame information. It needs one fact of the names `dwarf_opcode_string`
gives the operations (those of `dwarf.h` without `DW_OP_`, such as `deref` or `call_frame_cfa`):
none starts with "dwarf_cfi_addrframe", for the stop on an operation found in call frame
information has the operation's name followed by " used in CFI". No other stop has those texts.
-/

set_option autoImplicit false

namespace Elfutils.Varlocs

theorem CfiMissing.ne {t s : String} (ht : CfiMissing t) (hs : ¬CfiMissing s) : t ≠ s := by
  rintro rfl
  exact hs ht

/-- A text that starts with "dwarf_cfi_addrframe" starts with no name of `libdwCalls`. -/
theorem not_startsLibdw_of_cfiAddrframe {t : String}
    (ht : "dwarf_cfi_addrframe".data <+: t.data) : ¬StartsLibdw t := by
  rintro ⟨p, hp, hpt⟩
  have hcmp : ∀ p ∈ libdwCalls, ¬p.data <+: "dwarf_cfi_addrframe".data ∧
      ¬"dwarf_cfi_addrframe".data <+: p.data := by decide
  rcases List.prefix_or_prefix_of_prefix hpt ht with h | h
  · exact (hcmp p hp).1 h
  · exact (hcmp p hp).2 h

/-- A text that starts with "dwarf_cfi_addrframe" is no operation's name followed by
" used in CFI", unless the name itself starts so: "dwarf_cfi_addrframe" has no space. -/
theorem ne_usedInCfi_of_cfiAddrframe {t opname : String}
    (ht : "dwarf_cfi_addrframe".data <+: t.data)
    (hname : ¬"dwarf_cfi_addrframe".data <+: opname.data) : t ≠ opname ++ " used in CFI" := by
  rintro rfl
  rw [String.data_append] at ht
  rcases List.prefix_or_prefix_of_prefix ht (List.prefix_append _ _) with h | ⟨k, hk⟩
  · exact hname h
  · -- the name is a start of "dwarf_cfi_addrframe", which goes on as " used in CFI" does
    rw [← hk, List.prefix_append_right_inj] at ht
    cases k with
    | nil => exact hname ⟨[], by simpa using hk.symm⟩
    | cons c k =>
      have hc : c = ' ' := (List.cons_prefix_cons.mp ht).1
      have hspace : ' ' ∈ "dwarf_cfi_addrframe".data :=
        hk ▸ List.mem_append_right _ (hc ▸ List.mem_cons_self c k)
      exact absurd hspace (by decide)

/-- When no name of an operation starts with "dwarf_cfi_addrframe", the texts of the stops for
missing call frame information are foreign to every other stop. -/
theorem foreign_of_cfiMissing {lib : Libdw}
    (hnames : ∀ a, ¬"dwarf_cfi_addrframe".data <+: (lib.opcodeString a).data) {t : String}
    (ht : CfiMissing t) : Foreign lib t := by
  rcases ht with rfl | ht
  · exact .of_last (by decide) (by decide) (by decide) (by decide)
  · obtain ⟨r, hr⟩ := ht
    have hhead : t.data.head? = some 'd' := by rw [← hr]; rfl
    have hlit : ∀ l ∈ otherLiterals, l.data.head? ≠ some 'd' := by decide
    exact ⟨by rw [hhead]; decide, not_startsLibdw_of_cfiAddrframe ⟨r, hr⟩,
      fun a => ne_usedInCfi_of_cfiAddrframe ⟨r, hr⟩ (hnames a), fun hmem => hlit t hmem hhead⟩

/-- With `--debug` as its first argument, `varlocs` never stops because it finds no call frame
information: not with "DW_OP_call_frame_cfa used but no cfi found.", nor with a text that starts
with "dwarf_cfi_addrframe", whatever the DWARF and the call frame information, when no name of an
operation starts with "dwarf_cfi_addrframe". -/
theorem main_debug_cfi_ignored (lib : Libdw) (w : Walk) (fuel : Nat) (args : List String)
    (units : List UnitData) (hdebug : args.head? = some "--debug")
    (hnames : ∀ a, ¬"dwarf_cfi_addrframe".data <+: (lib.opcodeString a).data) (t : String)
    (hcfi : CfiMissing t) :
    (main lib w fuel args units).res ≠ .error (.failed (.error t)) := by
  have hopt := (mainOptions_debug_iff args).2 hdebug
  unfold main
  cases h : mainOptions args with
  | mk exprlocs isDebug =>
    rw [h] at hopt
    exact (foreign_of_cfiMissing hnames hcfi).nextcu_res_ne w fuel (hcfi.ne (by decide)) _
      (.inl hopt) exprlocs units false (.inr (.inr (hcfi.ne (by decide))))

/-- `DW_OP_call_frame_cfa`. -/
def cfaOp : Op := ⟨0x9c, 0, 0, 0⟩

/-- Some of the names `dwarf_opcode_string` gives: those of `dwarf.h` without `DW_OP_`. -/
def opcodeName (a : UInt8) : String :=
  match a with
  | 0x06 => "deref"
  | 0x12 => "dup"
  | 0x13 => "drop"
  | 0x1b => "div"
  | 0x91 => "fbreg"
  | 0x9c => "call_frame_cfa"
  | _ => "<unknown opcode>"

/-- libdw over one location, `DW_OP_call_frame_cfa`, and no call frame information. -/
def cfaLib : Libdw :=
  { fbregLib with
    getlocation := fun _ => .ok [cfaOp]
    opcodeString := opcodeName }

/-- The unit of `fbregUnit`, in a module with an `.eh_frame` that has no frame at the address. -/
def ehFrameUnit : UnitData :=
  { fbregUnit with module := ⟨true, .ok ("a.out", "a.out"), none, 0, some 0, 0, false⟩ }

theorem cfaLib_debug :
    ["--debug", "a.out"].head? = some "--debug" ∧
      (∀ a, ¬"dwarf_cfi_addrframe".data <+: (cfaLib.opcodeString a).data) ∧
      (main cfaLib noLocations 66 ["--debug", "a.out"] [fbregUnit, ehFrameUnit]).res = .ok () ∧
      (main cfaLib noLocations 66 ["--debug", "a.out"] [fbregUnit, ehFrameUnit]).res ≠
        .error (.failed (.error "DW_OP_call_frame_cfa used but no cfi found.")) := by
  have hnames : ∀ a, ¬"dwarf_cfi_addrframe".data <+: (cfaLib.opcodeString a).data := by
    intro a
    show ¬_ <+: (opcodeName a).data
    unfold opcodeName
    split <;> decide
  exact ⟨rfl, hnames, rfl,
    main_debug_cfi_ignored cfaLib noLocations 66 ["--debug", "a.out"] _ rfl hnames _
      (.inl rfl)⟩

-- Without `--debug`, the first unit stops the program for want of call frame information, and
-- the second for want of a frame at the address.
example :
    (main cfaLib noLocations 66 ["a.out"] [fbregUnit]).res =
        .error (.failed (.error "DW_OP_call_frame_cfa used but no cfi found.")) ∧
      (main cfaLib noLocations 66 ["a.out"] [ehFrameUnit]).res =
        .error (.failed (.error "dwarf_cfi_addrframe 0x1000: no CFI")) := ⟨rfl, rfl⟩

end Elfutils.Varlocs
