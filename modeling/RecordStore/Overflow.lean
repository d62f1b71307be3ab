/-! Arithmetic whose result leaves its width, and the computations that it ends. -/
namespace RecordStore

/-- The operation whose result does not fit. -/
inductive Overflow
  | addition
  | multiplication
  deriving DecidableEq, Repr

def Overflow.message : Overflow → String
  | addition => "attempt to add with overflow"
  | multiplication => "attempt to multiply with overflow"

/-- Why a computation ends early: with an error that its caller sees, or by an overflow that
nobody expects. -/
inductive Halt (ε : Type)
  | error (cause : ε)
  | overflow (operation : Overflow)
  deriving DecidableEq, Repr

def Halt.map {ε ε' : Type} (f : ε → ε') : Halt ε → Halt ε'
  | error cause => error (f cause)
  | overflow operation => overflow operation

/-- The outcome of a computation that may end early. -/
abbrev Attempt (ε α : Type) := Except (Halt ε) α

namespace Attempt

/-- The outcome of a computation that does not overflow. -/
def ofExcept {ε α : Type} (x : Except ε α) : Attempt ε α := x.mapError .error

/-- The outcome of arithmetic. -/
def ofArithmetic {ε α : Type} (x : Except Overflow α) : Attempt ε α := x.mapError .overflow

end Attempt

end RecordStore
