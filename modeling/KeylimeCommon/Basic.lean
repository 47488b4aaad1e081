import Mathlib

/-! # Errors, constants and the `Except` steps of common.rs

Every fallible call of common.rs returns `Result<T>` over the crate's `Error`; here that is
`Except Error`. The lemmas at the end are the one inversion used for every chain of `?`
steps, so that no later proof unfolds a bind by hand.
-/
namespace KeylimeCommon

/-- crate::error::Error, with the variants common.rs builds or reaches through `?`. The
enum is declared outside common.rs; the error of a library keeps only its message. -/
inductive Error where
  | configuration (message : String)
  | other (message : String)
  | ini (message : String)
  | io (message : String)
  | serde (message : String)
  | parseBool
  | algorithm (message : String)
  deriving DecidableEq, Repr

def DEFAULT_CONFIG : String := "/etc/keylime.conf"
/-- Relative to WORK_DIR. -/
def DEFAULT_CA_PATH : String := "cv_ca/cacert.crt"
def MTLS_ENABLED : Bool := true
def WORK_DIR : String := "/var/lib/keylime"
def TPM_DATA : String := "tpmdata.json"
def REV_ACTIONS_DIR : String := "/usr/libexec/keylime"
def REV_ACTIONS : String := ""
def ALLOW_PAYLOAD_REV_ACTIONS : Bool := true
def ALLOW_INSECURE_PAYLOAD : Bool := false
def AGENT_UUID_LEN : Nat := 36
def AES_128_KEY_LEN : Nat := 16
def AES_256_KEY_LEN : Nat := 32

instance instDecidableEqExcept {ε α : Type} [DecidableEq ε] [DecidableEq α] :
    DecidableEq (Except ε α)
  | .ok a, .ok b => if h : a = b then isTrue (h ▸ rfl) else isFalse fun e => h (Except.ok.inj e)
  | .error a, .error b =>
    if h : a = b then isTrue (h ▸ rfl) else isFalse fun e => h (Except.error.inj e)
  | .ok _, .error _ => isFalse Except.noConfusion
  | .error _, .ok _ => isFalse Except.noConfusion

section ExceptSteps
variable {ε α β : Type}

theorem bind_eq_ok {x : Except ε α} {f : α → Except ε β} {b : β} :
    x >>= f = .ok b ↔ ∃ a, x = .ok a ∧ f a = .ok b := by
  cases x <;> simp [bind, Except.bind]

@[simp] theorem ok_bind (a : α) (f : α → Except ε β) : (Except.ok a : Except ε α) >>= f = f a := rfl
@[simp] theorem error_bind (e : ε) (f : α → Except ε β) :
    (Except.error e : Except ε α) >>= f = .error e := rfl
@[simp] theorem pure_eq_ok (a b : α) : (pure a : Except ε α) = .ok b ↔ a = b := by
  simp [pure, Except.pure]
@[simp] theorem tryCatch_ok (a : α) (h : ε → Except ε α) : (Except.ok a).tryCatch h = .ok a := rfl
@[simp] theorem tryCatch_error (e : ε) (h : ε → Except ε α) :
    (Except.error e : Except ε α).tryCatch h = h e := rfl

@[simp] theorem toOption_ok (a : α) : (Except.ok a : Except ε α).toOption = some a := rfl
@[simp] theorem toOption_error (e : ε) : (Except.error e : Except ε α).toOption = none := rfl

theorem tryCatch_const (x : Except ε α) (d : α) :
    x.tryCatch (fun _ => .ok d) = .ok (x.toOption.getD d) := by
  cases x <;> rfl

theorem tryCatch_eq_ok {x : Except ε α} {h : ε → Except ε α} {a : α} (hx : x.tryCatch h = .ok a) :
    x = .ok a ∨ ∃ e, x = .error e ∧ h e = .ok a := by
  cases x with
  | ok a' => exact .inl hx
  | error e => exact .inr ⟨e, rfl, hx⟩

theorem isOk_iff_exists {x : Except ε α} : x.isOk = true ↔ ∃ a, x = .ok a := by
  cases x <;> simp [Except.isOk, Except.toBool]

theorem toOption_eq_none {x : Except ε α} (h : x.isOk = false) : x.toOption = none := by
  cases x <;> simp_all [Except.isOk, Except.toBool, Except.toOption]

/-- Every error `x` can return satisfies `P`. -/
def ErrorsIn (P : ε → Prop) (x : Except ε α) : Prop := ∀ e, x = .error e → P e

namespace ErrorsIn

variable {P : ε → Prop}

theorem ok (a : α) : ErrorsIn P (.ok a : Except ε α) := fun _ h => Except.noConfusion h

theorem pure (a : α) : ErrorsIn P (Pure.pure a : Except ε α) := ok a

theorem bind {x : Except ε α} {f : α → Except ε β} (hx : ErrorsIn P x)
    (hf : ∀ a, x = .ok a → ErrorsIn P (f a)) : ErrorsIn P (x >>= f) := by
  cases x with
  | error e => exact fun _ h => Except.error.inj h ▸ hx e rfl
  | ok a => exact hf a rfl

theorem map {x : Except ε α} (f : α → β) (hx : ErrorsIn P x) : ErrorsIn P (f <$> x) := by
  cases x with
  | error e => exact fun _ h => Except.error.inj h ▸ hx e rfl
  | ok a => exact ok (f a)

theorem tryCatch {x : Except ε α} {h : ε → Except ε α} (hh : ∀ e, ErrorsIn P (h e)) :
    ErrorsIn P (x.tryCatch h) := by
  cases x with
  | error e => exact hh e
  | ok a => exact ok a

end ErrorsIn

end ExceptSteps

end KeylimeCommon
