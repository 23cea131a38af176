/-
# Log -- results with the records written on the way

A `Logged α` is a result, or the fault that ended the work, together with the
records that were written before.  A fault keeps the records; what would have
come after it writes none.  `bind_result` and `bind_log_ok` say this for two steps, and
`mapM_result` says it of the results of many.
-/
import LineCensus.Fault

set_option autoImplicit false

namespace LineCensus

inductive Severity where
  | debug
  | info
  | warning
  | error
  | critical
  deriving DecidableEq

namespace Severity

def name : Severity → String
  | .debug => "DEBUG"
  | .info => "INFO"
  | .warning => "WARNING"
  | .error => "ERROR"
  | .critical => "CRITICAL"

/-- The number that severities are compared by. -/
def level : Severity → Int
  | .debug => 10
  | .info => 20
  | .warning => 30
  | .error => 40
  | .critical => 50

def all : List Severity :=
  [.debug, .info, .warning, .error, .critical]

end Severity

structure LogRecord where
  severity : Severity
  /-- The part of the program that writes. -/
  source : String
  message : String
  deriving DecidableEq

structure Logged (α : Type) where
  result : Except Fault α
  log : List LogRecord

namespace Logged

variable {α β : Type}

def pure (a : α) : Logged α := ⟨.ok a, []⟩

def bind (first : Logged α) (next : α → Logged β) : Logged β :=
  match first.result with
  | .ok a => ⟨(next a).result, first.log ++ (next a).log⟩
  | .error fault => ⟨.error fault, first.log⟩

instance : Monad Logged where
  pure := Logged.pure
  bind := Logged.bind

def fail (fault : Fault) : Logged α := ⟨.error fault, []⟩

def ofExcept (result : Except Fault α) : Logged α := ⟨result, []⟩

/-- Write one record. -/
def write (severity : Severity) (source message : String) : Logged Unit :=
  ⟨.ok (), [⟨severity, source, message⟩]⟩

/-! ## What two steps make -/

theorem bind_result (first : Logged α) (next : α → Logged β) :
    (first >>= next).result = first.result.bind fun a => (next a).result := by
  simp only [Bind.bind, Logged.bind]
  cases first.result <;> rfl

theorem bind_log_ok {first : Logged α} {a : α} (next : α → Logged β)
    (ok : first.result = .ok a) :
    (first >>= next).log = first.log ++ (next a).log := by
  simp [Bind.bind, Logged.bind, ok]

/-! ## What many steps make -/

theorem bind_assoc {γ : Type} (first : Logged α) (next : α → Logged β) (last : β → Logged γ) :
    first >>= next >>= last = first >>= fun a => next a >>= last := by
  simp only [Bind.bind, bind]
  cases first.result with
  | error fault => rfl
  | ok a => cases second : (next a).result <;> simp [second]

instance : LawfulMonad Logged :=
  LawfulMonad.mk' Logged
    (by rintro α ⟨result | a, log⟩ <;> simp [Functor.map, Logged.bind, Logged.pure])
    (by simp [Bind.bind, Logged.bind, Pure.pure, Logged.pure])
    bind_assoc

/-- The results of steps taken one after the other do not depend on what they write. -/
theorem mapM_result (f : α → Logged β) (xs : List α) :
    (xs.mapM f).result = xs.mapM fun x => (f x).result := by
  induction xs with
  | nil => rfl
  | cons x xs ih =>
      rw [List.mapM_cons, List.mapM_cons, bind_result]
      refine congrArg (Except.bind _) (funext fun b => ?_)
      rw [bind_result, ih]
      rfl

end Logged
end LineCensus
