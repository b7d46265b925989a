import AlarmClock.Time.Span
import AlarmClock.Uuid

/-! Why the store refuses an operation, and what an operation leaves that can be refused. -/

namespace AlarmClock

inductive StoreError where
  | notFound (id : Uuid)
  | alreadyExists (id : Uuid)
  | badTimeout (minutes : Int)
  | notWritten (path : String)
  deriving DecidableEq

def StoreError.message : StoreError → String
  | notFound id => s!"alarm {id} not found"
  | alreadyExists id => s!"alarm {id} already exists"
  | badTimeout n => s!"invalid timeout {n} minutes, expected > 0"
  | notWritten path => s!"unable to write configuration file {path}"

/-- How an operation ended: its answer, or why it failed, and what it leaves in either case. -/
structure Attempt (ρ σ : Type) where
  result : Except StoreError ρ
  state : σ

namespace Attempt

variable {ρ σ τ : Type}

/-- The same end, with the state as a part of a larger one. -/
def map (f : σ → τ) (x : Attempt ρ σ) : Attempt ρ τ := ⟨x.result, f x.state⟩

end Attempt

end AlarmClock
