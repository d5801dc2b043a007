import Elfutils.Getmacros.Imports

/-!
# Reads of variables a failed call left unset

Three cases of `mac` read a variable that the libdw call before them sets only when it succeeds:
`files` after `dwarf_macro_getsrcfiles` on `DW_MACRO_start_file` (the failure is printed, and the
case goes on), `value` after `dwarf_macro_param2` on a define whose second operand is not a
string, and `paramcnt` after `dwarf_macro_getparamcnt` for an opcode the `switch` does not know.
The model stops there with `Stop.indeterminate`.

Those three are the only such reads: when libdw answers the call each of them makes on every
macro of every unit (`MacroEntry.answered`), no run of `dwarf-getmacros` reads an unset variable,
however its imports nest, whatever its arguments (`main_reads_no_unset`).
-/

set_option autoImplicit false

namespace Elfutils.Getmacros

/-- libdw gives `mac` what it reads on the macro: the source files of a `DW_MACRO_start_file`,
the string of a define, the parameter count of an opcode the `switch` does not know. -/
def MacroEntry.answered (e : MacroEntry) : Bool :=
  match macroCase e.opcode with
  | some .startFile => e.srcfiles.isOk
  | some .define =>
    match e.param2 with
    | some (.inr _) => true
    | _ => false
  | none => e.paramcnt.isSome
  | _ => true

-- A start of file whose line table libdw cannot read has `mac` print the failure, then read
-- `files`.
example (lib : Libdw) :
    (mac lib 1 0 ⟨0x03, none, some (.inl 1), .error "no line table", none⟩).out =
        ["dwarf_macro_getsrcfiles: no line table\n"] ∧
      (mac lib 1 0 ⟨0x03, none, some (.inl 1), .error "no line table", none⟩).res =
        .error (.indeterminate "files") := ⟨rfl, rfl⟩

section Answered

variable {lib : Libdw} (name : String)

/-- On a macro libdw answers, `mac` reads an unset variable only inside the unit it imports. -/
theorem macBody_res_ne_indeterminate {inc : UInt64 → Int → Out Stop Int} {level : Int}
    {e : MacroEntry} (he : e.answered = true)
    (hinc : ∀ w l, (inc w l).res ≠ .error (.indeterminate name)) :
    (macBody level e inc).res ≠ .error (.indeterminate name) := by
  unfold macBody
  unfold MacroEntry.answered at he
  cases hc : macroCase e.opcode with
  | none =>
    rw [hc] at he
    obtain ⟨paramcnt, hp⟩ := Option.isSome_iff_exists.1 he
    simp [hp]
  | some c =>
    rw [hc] at he
    cases c with
    | importUnit =>
      cases e.param0 with
      | none => simp [Out.fail]
      | some w =>
        simp only [Out.print_bind]
        exact Out.bind_res_ne (hinc w _) fun _ => by simp
    | startFile =>
      cases hs : e.srcfiles with
      | ok files => simp
      | error msg => simp [hs, Except.isOk, Except.toBool] at he
    | endFile => simp
    | define =>
      rcases hp : e.param2 with _ | _ | value
      all_goals simp_all
    | undef => simp

variable (hoff : ∀ off, ∀ e ∈ (lib.getmacrosOff off).entries, e.answered = true)
include hoff

theorem mac_res_ne_indeterminate : ∀ fuel level (e : MacroEntry), e.answered = true →
    (mac lib fuel level e).res ≠ .error (.indeterminate name)
  | 0, _, _, _ => by simp [Out.fail]
  | fuel + 1, _, _, he => macBody_res_ne_indeterminate name he fun w l =>
    forEntries_res_ne (fun l e he' => mac_res_ne_indeterminate fuel l e (hoff w e he')) l

variable (hdie : ∀ die newStyle, ∀ e ∈ (lib.getmacros die newStyle).entries, e.answered = true)
include hdie

theorem getmacros_res_ne_indeterminate (fuel : Nat) (die : Die) (newStyle : Bool) (level : Int) :
    (getmacros lib fuel die newStyle level).res ≠ .error (.indeterminate name) :=
  forEntries_res_ne (fun l e he => mac_res_ne_indeterminate name hoff fuel l e (hdie _ _ e he))
    level

theorem allUnits_res_ne_indeterminate (fuel : Nat) (newStyle : Bool) : ∀ units level,
    (allUnits lib fuel newStyle units level).res ≠ .error (.indeterminate name)
  | [], _ => by simp [allUnits]
  | u :: us, level => by
    unfold allUnits
    split
    · exact allUnits_res_ne_indeterminate fuel newStyle us level
    · exact Out.bind_res_ne (by simp) fun _ => Out.bind_res_ne
        (getmacros_res_ne_indeterminate name hoff hdie fuel u.die newStyle level)
        fun l => allUnits_res_ne_indeterminate fuel newStyle us l

end Answered

/-- `dwarf-getmacros` reads a variable that a failed libdw call left unset only after such a
failure: when libdw gives every `DW_MACRO_start_file` its source files, every define its string
and every opcode `mac` does not know its parameter count, on the macros of every unit DIE and of
every unit an import can name, no run reads one, however the imports nest, whatever the
arguments. -/
theorem main_reads_no_unset (lib : Libdw)
    (hoff : ∀ off, ∀ e ∈ (lib.getmacrosOff off).entries, e.answered = true)
    (hdie : ∀ die newStyle, ∀ e ∈ (lib.getmacros die newStyle).entries, e.answered = true)
    (fuel : Nat) (offdie : String → Except String Die) (units : List UnitInfo)
    (args : List String) (name : String) :
    (main lib fuel offdie units args).res ≠ .error (.indeterminate name) := by
  match args with
  | _ :: unitArg :: rest =>
    simp only [main]
    cases unitArg.isEmpty
    · cases offdie unitArg with
      | ok cudie =>
        exact Out.bind_res_ne
          (getmacros_res_ne_indeterminate name hoff hdie fuel cudie _ 0) fun _ => by simp
      | error _ => simp
    · exact Out.bind_res_ne
        (allUnits_res_ne_indeterminate name hoff hdie fuel _ units 0) fun _ => by simp
  | [] => simp [main, Out.fail]
  | [_] => simp [main, Out.fail]

/-- A unit DIE with an import of a unit of two defines, and a unit of a start of file and an end
of file that libdw gives the line table of. -/
def answeredLib : Libdw where
  getmacrosOff off := if off = 0x10 then ⟨[defineEntry "X 1", defineEntry "Y 2"], none⟩
    else ⟨[], none⟩
  getmacros _ _ := ⟨[⟨0x03, none, some (.inl 0), .ok ["a.c"], none⟩, importEntry 0x10,
    ⟨0x04, none, none, .ok ["a.c"], none⟩], none⟩
  hasattr _ a := a = dwAtMacros
  diename _ := some "a.c"

-- libdw answers every call `mac` makes on the macros of `answeredLib`, and the run returns.
example : (main answeredLib 2 (fun _ => .error "no DIE") [⟨0x01, ⟨0⟩, ⟨0⟩⟩] ["a.out", ""]).res =
    .ok 0 := rfl

end Elfutils.Getmacros
