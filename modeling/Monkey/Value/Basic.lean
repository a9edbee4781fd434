import Monkey.Syntax.Equality
import Monkey.Syntax.Render
import Monkey.Value.Error

/-! # Values

What expressions evaluate to. Errors and returns on their way out are values too, `Value.error`
and `Value.returned`: whoever receives one has to pass it on. A function carries the environment
it was made in, as a chain of scopes whose bindings are kept in a `Heap`, so that all who share a
scope see the same bindings. -/

namespace Monkey

/-- The number of a scope, by which a `Heap` finds its bindings. -/
abbrev ScopeId := Nat

/-- **An environment**: the scope `own` it binds names in, and the scopes `outer` around it, the
nearest first. -/
structure Env where
  own : ScopeId
  outer : List ScopeId
  deriving DecidableEq, Repr

namespace Env

/-- The scopes in which names are looked up, in this order: the own one, and then those around it.
-/
def chain (env : Env) : List ScopeId := env.own :: env.outer

/-- Whether there are scopes around the own one; a description of the environment says so. -/
def isEnclosed (env : Env) : Bool := !env.outer.isEmpty

end Env

/-- **Values**, the errors and the returns on their way out among them. -/
inductive Value where
  /-- A signed 64-bit integer, which wraps around where a result is out of range. -/
  | integer (value : Int64)
  /-- A truth value. -/
  | boolean (value : Bool)
  /-- The absence of a value: what bindings and conditionals without a taken branch come to. -/
  | null
  /-- A value on its way out of the function or program that returned it; `Value.unwrap` takes it
  out. -/
  | returned (value : Value)
  /-- A failed evaluation, with the cause of the failure. -/
  | error (cause : RuntimeError)
  /-- A function and the environment it was made in, whose scopes are around those of its calls. -/
  | function (parameters : List String) (body : Block) (env : Env)

namespace Value

instance : Inhabited Value := ⟨null⟩

/-- The kind of a value, which errors name where a value is not what it should be. -/
def kind : Value → Kind
  | integer _ => .integer
  | boolean _ => .boolean
  | null => .null
  | returned _ => .returned
  | error _ => .error
  | function .. => .function

/-- Whether a value ends the list of statements that produced it: errors and values that are being
returned do. -/
def ends : Value → Bool
  | returned _ | error _ => true
  | _ => false

/-- Whether a condition with this value holds; only null and falsehood do not. -/
def isTruthy : Value → Bool
  | null => false
  | boolean value => value
  | _ => true

/-- Takes one level of return off a value: the one place where a value gets out of `Value.returned`.
-/
def unwrap : Value → Value
  | returned value => value
  | value => value

/-- The text of a value, as it is printed: a value that is being returned shows as the value itself,
and a function as its parameters and the canonical text of its body. -/
def display : Value → String
  | integer value => Decimal.write value
  | boolean value => toString value
  | null => "null"
  | returned value => value.display
  | error cause => "ERROR: " ++ cause.message
  | function parameters body _ => "fn(" ++ ", ".intercalate parameters ++ ") " ++ Block.render body

/-- **Equality of values**, as `==` has it. Errors are equal when they say the same; functions when
they agree in their parameters and their body and were made in the very same scope. -/
def beq : Value → Value → Bool
  | integer left, integer right => left == right
  | boolean left, boolean right => left == right
  | null, null => true
  | returned left, returned right => left.beq right
  | error left, error right => left.message == right.message
  | function left leftBody leftEnv, function right rightBody rightEnv =>
    left == right && decide (leftBody = rightBody) && leftEnv.own == rightEnv.own
  | _, _ => false
termination_by structural left => left

instance : BEq Value := ⟨beq⟩

end Value

end Monkey
