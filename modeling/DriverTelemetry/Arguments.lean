import DriverTelemetry.Value
import DriverTelemetry.DriverError

/-!
# Call arguments

A context-aware call takes arguments that may be named, a legacy call plain values. Only a name
keeps a list from becoming plain values, and the two forms of a list without names read the same.
-/
namespace DriverTelemetry

structure NamedValue where
  name : Option String
  /-- The position of the parameter, counted from 1. -/
  ordinal : Nat
  value : Value
  deriving DecidableEq

namespace NamedValue

def positional (ordinal : Nat) (value : Value) : NamedValue := ⟨none, ordinal, value⟩

def numberedFrom (start : Nat) : List Value → List NamedValue
  | [] => []
  | v :: vs => positional start v :: numberedFrom (start + 1) vs

def ofValues (vs : List Value) : List NamedValue := numberedFrom 1 vs

/-- Order in the list decides, not the ordinals. -/
def toValues : List NamedValue → Result (List Value)
  | [] => .ok []
  | arg :: args =>
    match arg.name with
    | some _ => .error .namedParameters
    | none => (toValues args).map (arg.value :: ·)

def render (arg : NamedValue) : List Char :=
  match arg.name with
  | some name => name.toList ++ '=' :: arg.value.render
  | none => arg.value.render

theorem toValues_eq (args : List NamedValue) :
    toValues args = if args.any fun arg => arg.name.isSome then .error .namedParameters
      else .ok (args.map NamedValue.value) := by
  induction args with
  | nil => rfl
  | cons arg args ih =>
    cases h : arg.name with
    | some name => simp [toValues, h]
    | none =>
      simp only [toValues, h, ih, List.any_cons, Option.isSome_none, Bool.false_or]
      split <;> rfl

/-- Only a list without names becomes plain values, those of its arguments in their order. -/
theorem toValues_eq_ok {args : List NamedValue} {vs : List Value} :
    toValues args = .ok vs ↔
      (args.any fun arg => arg.name.isSome) = false ∧ vs = args.map NamedValue.value := by
  rw [toValues_eq]
  cases h : args.any fun arg => arg.name.isSome with
  | true => simp
  | false => simp [eq_comm]

theorem map_value_numberedFrom (n : Nat) (vs : List Value) :
    (numberedFrom n vs).map NamedValue.value = vs := by
  induction vs generalizing n with
  | nil => rfl
  | cons v vs ih => simp [numberedFrom, positional, ih]

theorem any_named_numberedFrom (n : Nat) (vs : List Value) :
    (numberedFrom n vs).any (fun arg => arg.name.isSome) = false := by
  induction vs generalizing n with
  | nil => rfl
  | cons v vs ih => simp [numberedFrom, positional, ih]

@[simp] theorem toValues_ofValues (vs : List Value) : toValues (ofValues vs) = .ok vs := by
  rw [toValues_eq, ofValues, any_named_numberedFrom, map_value_numberedFrom]
  rfl

end NamedValue

inductive Arguments where
  | none
  | values (vs : List Value)
  | named (args : List NamedValue)
  deriving DecidableEq

namespace Arguments

def stripped : Arguments → Arguments
  | .named args => .values (args.map NamedValue.value)
  | args => args

def isEmpty : Arguments → Bool
  | .none => true
  | .values vs => vs.isEmpty
  | .named args => args.isEmpty

def separated : List (List Char) → List Char
  | [] => []
  | [item] => item
  | item :: items => item ++ ',' :: ' ' :: separated items

def items : Arguments → List (List Char)
  | .none => []
  | .values vs => vs.map Value.render
  | .named args => args.map NamedValue.render

def render (args : Arguments) : List Char := '[' :: separated args.items ++ [']']

def display (args : Arguments) : String := String.ofList args.render

end Arguments
end DriverTelemetry
