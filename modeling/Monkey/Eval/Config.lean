import Monkey.Value.Basic

/-! # Configurations

What an evaluation can be told, as a `Config`: how to answer operands of the wrong kind, which
`Config.typeError` does by its `TypeErrorPolicy`, and how deep calls may go. Nothing else that an
evaluation does depends on its configuration. -/

namespace Monkey

/-- How operands of the wrong kind are answered; `Config.typeError` is the one place that asks. -/
inductive TypeErrorPolicy where
  /-- With the error that says which operator was given which kinds. -/
  | report
  /-- With `null`, and evaluation goes on. -/
  | ignore
  deriving DecidableEq, Repr

/-- **The settings of an evaluation**: `typeErrors` says how operands of the wrong kind are
answered, and `maxCallDepth` how many calls may be open at a time. -/
structure Config where
  typeErrors : TypeErrorPolicy := .report
  maxCallDepth : Nat := 256
  deriving DecidableEq, Repr

namespace Config

/-- The settings that hold where none are given: type errors are reported, and 256 calls may be open
at a time. -/
def standard : Config := {}

/-- As `Config.standard`, except that operands of the wrong kind give `null`. -/
def lenient : Config := { typeErrors := .ignore }

instance : Inhabited Config := ⟨standard⟩

/-- The answer to operands of the wrong kind: the error `cause`, or `null` where type errors are
ignored. -/
def typeError (config : Config) (cause : RuntimeError) : Value :=
  match config.typeErrors with
  | .report => .error cause
  | .ignore => .null

end Config

end Monkey
