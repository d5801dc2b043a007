import Mathlib.Logic.Basic

/-!
# Printing code

The test programs `varlocs` and `dwarf-getmacros` print with `printf` and `puts`, and stop the
whole program with `error (EXIT_FAILURE, ...)` or a failed `assert`. `Out ε α` is what such code
produces: the pieces written to standard output, in order, and either its value or the reason
`ε` it stopped. The text printed before a stop stays printed.

Besides its `Monad` instance, the module gives the lemmas the proofs over printing code use
instead of unfolding it: how `bind` builds its text and result, and how renaming the reasons for
stopping (`mapError`) passes through `bind`; and the `printf` conversions the programs use.
-/

set_option autoImplicit false

namespace Elfutils

/-- The text a run writes to standard output, and its value or why it stopped. -/
structure Out (ε α : Type) where
  out : List String
  res : Except ε α

namespace Out

variable {ε ε' ε'' α β : Type}

/-- Print nothing and return `a`. -/
def pure (a : α) : Out ε α := ⟨[], .ok a⟩

/-- Run `x`, then `f` on its value; a stop of `x` stops the whole run. -/
def bind (x : Out ε α) (f : α → Out ε β) : Out ε β :=
  match x.res with
  | .error e => ⟨x.out, .error e⟩
  | .ok a => ⟨x.out ++ (f a).out, (f a).res⟩

instance : Monad (Out ε) where
  pure := Out.pure
  bind := Out.bind

/-- `printf` of the text `s`. -/
def print (s : String) : Out ε Unit := ⟨[s], .ok ()⟩

/-- Stop for the reason `e`, printing nothing. -/
def fail (e : ε) : Out ε α := ⟨[], .error e⟩

/-- The same run, with its reasons for stopping renamed by `f`. -/
def mapError (f : ε → ε') (x : Out ε α) : Out ε' α := ⟨x.out, x.res.mapError f⟩

@[simp] theorem pure_eq (a : α) : (Pure.pure a : Out ε α) = ⟨[], .ok a⟩ := rfl

theorem bind_eq (x : Out ε α) (f : α → Out ε β) : x >>= f = x.bind f := rfl

@[simp] theorem bind_ok (out : List String) (a : α) (f : α → Out ε β) :
    (⟨out, .ok a⟩ : Out ε α) >>= f = ⟨out ++ (f a).out, (f a).res⟩ := rfl

@[simp] theorem bind_error (out : List String) (e : ε) (f : α → Out ε β) :
    (⟨out, .error e⟩ : Out ε α) >>= f = ⟨out, .error e⟩ := rfl

@[simp] theorem print_bind (s : String) (f : Unit → Out ε β) :
    print s >>= f = ⟨s :: (f ()).out, (f ()).res⟩ := rfl

@[simp] theorem fail_bind (e : ε) (f : α → Out ε β) : (fail e : Out ε α) >>= f = fail e := rfl

@[simp] theorem print_res (s : String) : (print s : Out ε Unit).res = .ok () := rfl

@[simp] theorem mapError_mk (f : ε → ε') (out : List String) (r : Except ε α) :
    mapError f ⟨out, r⟩ = ⟨out, r.mapError f⟩ := rfl

@[simp] theorem mapError_fail (f : ε → ε') (e : ε) :
    (fail e : Out ε α).mapError f = fail (f e) := rfl

@[simp] theorem mapError_print (f : ε → ε') (s : String) : (print s).mapError f = print s := rfl

@[simp] theorem mapError_pure (f : ε → ε') (a : α) :
    (Pure.pure a : Out ε α).mapError f = Pure.pure a := rfl

/-- Renaming the reasons for stopping passes through `bind`. -/
theorem mapError_bind (h : ε → ε') (x : Out ε α) (f : α → Out ε β) :
    (x >>= f).mapError h = x.mapError h >>= fun a => (f a).mapError h := by
  rcases x with ⟨out, _ | a⟩ <;> rfl

theorem mapError_mapError (f : ε → ε') (g : ε' → ε'') (x : Out ε α) :
    (x.mapError f).mapError g = x.mapError (g ∘ f) := by
  rcases x with ⟨out, _ | a⟩ <;> rfl

/-- A run stops for the reason `s` only if its first part does, or its first part returns and the
rest stops for `s`. -/
theorem bind_res_ne {s : ε} {x : Out ε α} {f : α → Out ε β} (hx : x.res ≠ .error s)
    (hf : ∀ a, (f a).res ≠ .error s) : (x >>= f).res ≠ .error s := by
  rcases x with ⟨out, e | a⟩
  · simpa using hx
  · exact hf a

/-- A run stops for the reason `s` only if its first part does, or its first part returns a value
from which the rest stops for `s`. -/
theorem bind_res_ne_of_ok {s : ε} {x : Out ε α} {f : α → Out ε β} (hx : x.res ≠ .error s)
    (hf : ∀ a, x.res = .ok a → (f a).res ≠ .error s) : (x >>= f).res ≠ .error s := by
  rcases x with ⟨out, e | a⟩
  · simpa using hx
  · exact hf a rfl

/-- A loop stops for the reason `s` only if its body does on an element. -/
theorem forM_res_ne {γ : Type} {s : ε} {f : γ → Out ε Unit} :
    ∀ {l : List γ}, (∀ a ∈ l, (f a).res ≠ .error s) → (l.forM f).res ≠ .error s
  | [], _ => by simp [List.forM]
  | a :: _, hf => bind_res_ne (hf a (List.mem_cons_self _ _)) fun _ =>
      forM_res_ne fun b hb => hf b (List.mem_cons_of_mem a hb)

/-- A run that does not stop for `s` has a first part that does not. -/
theorem res_ne_of_bind {s : ε} {x : Out ε α} {f : α → Out ε β} (h : (x >>= f).res ≠ .error s) :
    x.res ≠ .error s := by
  rcases x with ⟨out, e | a⟩
  · simpa using h
  · simp

/-- Running `x` then `f`, then `g`, is running `x`, then `f` followed by `g`. -/
theorem bind_assoc {γ : Type} (x : Out ε α) (f : α → Out ε β) (g : β → Out ε γ) :
    x >>= f >>= g = x >>= fun a => f a >>= g := by
  rcases x with ⟨out, e | a⟩
  · rfl
  · simp only [bind_ok]
    rcases f a with ⟨out', e' | b⟩ <;> simp

/-- A loop over two lists runs the loop over the first, then, if it returns, over the second. -/
theorem forM_append {γ : Type} (l₁ l₂ : List γ) (f : γ → Out ε Unit) :
    (l₁ ++ l₂).forM f = l₁.forM f >>= fun _ => l₂.forM f := by
  induction l₁ with
  | nil => rfl
  | cons a l ih =>
    show (f a >>= fun _ => (l ++ l₂).forM f) =
      (f a >>= fun _ => l.forM f) >>= fun _ => l₂.forM f
    rw [ih, bind_assoc]

/-- Printing each element of a list always returns. -/
@[simp] theorem forM_print_res {γ : Type} (l : List γ) (f : γ → String) :
    (l.forM fun a => (print (f a) : Out ε Unit)).res = .ok () := by
  induction l with
  | nil => rfl
  | cons a l ih => simpa using ih

/-- A run that returns had a first part that returned, and a rest that returned from it. -/
theorem res_ok_of_bind {x : Out ε α} {f : α → Out ε β} {b : β} (h : (x >>= f).res = .ok b) :
    ∃ a, x.res = .ok a ∧ (f a).res = .ok b := by
  rcases x with ⟨out, e | a⟩
  · simp at h
  · exact ⟨a, rfl, by simpa using h⟩

/-- A second part that changes only where the run would stop for `s` changes nothing. -/
theorem bind_congr_of_ne {s : ε} {x : Out ε α} {f g : α → Out ε β}
    (h : (x >>= f).res ≠ .error s) (hfg : ∀ a, (f a).res ≠ .error s → g a = f a) :
    x >>= g = x >>= f := by
  rcases x with ⟨out, e | a⟩
  · rfl
  · simp only [bind_ok] at h ⊢
    rw [hfg a h]

/-- A run on a fuel that more fuel changes only where it stops for `s`: once it does not stop for
`s`, any more fuel changes nothing. -/
theorem fuel_stable {s : ε} {run : Nat → Out ε α}
    (hsucc : ∀ n, (run n).res ≠ .error s → run (n + 1) = run n) {n : Nat}
    (hn : (run n).res ≠ .error s) : ∀ more, run (n + more) = run n
  | 0 => rfl
  | more + 1 => by
    have ih := fuel_stable hsucc hn more
    rw [← Nat.add_assoc, hsucc _ (ih ▸ hn), ih]

end Out

/-! ## Conversions of `printf` -/

/-- `%" PRIx64` and `%x`: lower-case hexadecimal, no prefix. -/
def hex (n : Nat) : String := String.mk (Nat.toDigits 16 n)

/-- `%02x` of a byte. -/
def hex02 (b : UInt8) : String := if b.toNat < 16 then "0" ++ hex b.toNat else hex b.toNat

/-- `%" PRIu64` and `%zd`. -/
def dec (n : Nat) : String := toString n

/-- `%" PRId64` of `(Dwarf_Sword) n`: the two's complement reading of `n`. -/
def sdec (n : UInt64) : String :=
  if n.toNat < 0x8000000000000000 then dec n.toNat else "-" ++ dec (UInt64.size - n.toNat)

example : hex 0x2a = "2a" ∧ hex02 7 = "07" ∧ sdec 0xfffffffffffffff8 = "-8" := by decide

/-- `printf ("%*s", n, "")` for a width `n ≥ 0`: `n` spaces. -/
def spaces (n : Nat) : String := String.mk (List.replicate n ' ')

/-- `%#" PRIx64`: hexadecimal with a `0x` prefix, except for zero. -/
def hexAlt (n : Nat) : String := if n = 0 then "0" else "0x" ++ hex n

end Elfutils
