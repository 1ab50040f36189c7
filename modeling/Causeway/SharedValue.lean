import Causeway.Registry
import Causeway.Text.Joined

/-!
# Causeway.SharedValue

Values of shared structs: scalars, handles, and structs inside structs.

* `SharedValue.handles`   — the handles inside, in declaration order.
* `SharedValue.releaseTo` — hand every handle inside to a side, or none of them.
-/

namespace Causeway

mutual

/-- A value that both sides can read. `τ` are the types of objects. -/
inductive SharedValue (τ : Type) where
  | scalar (n : Int)
  | handle (t : τ) (h : Handle)
  | record (name : String) (fields : SharedFields τ)

/-- The named fields of a struct. -/
inductive SharedFields (τ : Type) where
  | nil
  | cons (name : String) (v : SharedValue τ) (rest : SharedFields τ)

end

variable {τ : Type}

/-- Fields from a list. -/
def SharedFields.ofList : List (String × SharedValue τ) → SharedFields τ
  | [] => .nil
  | (name, v) :: rest => .cons name v (ofList rest)

mutual

/-- The handles inside, in declaration order. -/
def SharedValue.handles : SharedValue τ → List (τ × Handle)
  | .scalar _ => []
  | .handle t h => [(t, h)]
  | .record _ fields => fields.handles

def SharedFields.handles : SharedFields τ → List (τ × Handle)
  | .nil => []
  | .cons _ v rest => v.handles ++ rest.handles

end

mutual

/-- Hand every handle inside to a side. When one cannot be handed over, those before it are handed
back in reverse order, so that nothing has changed. -/
def SharedValue.releaseTo [DecidableEq τ] (taker : Side) :
    SharedValue τ → Registries τ → Except Registry.Refusal Unit × Registries τ
  | .scalar _, rs => (.ok (), rs)
  | .handle t h, rs =>
    match (rs t).transfer h taker.other taker with
    | .ok r => (.ok (), rs.set t r)
    | .error e => (.error e, rs)
  | .record _ fields, rs => fields.releaseTo taker rs

def SharedFields.releaseTo [DecidableEq τ] (taker : Side) :
    SharedFields τ → Registries τ → Except Registry.Refusal Unit × Registries τ
  | .nil, rs => (.ok (), rs)
  | .cons _ v rest, rs =>
    match v.releaseTo taker rs with
    | (.error e, rs') => (.error e, rs')
    | (.ok (), rs') =>
      match rest.releaseTo taker rs' with
      | (.ok (), rs'') => (.ok (), rs'')
      | (.error e, rs'') => (.error e, (v.releaseTo taker.other rs'').2)

end

/-- A handle as diagnostics show it. -/
def Handle.debug (typeName : String) (h : Handle) : String :=
  "OpaqueHandle<" ++ typeName ++ ">(" ++ h.text ++ ")"

mutual

/-- A value as diagnostics show it. -/
def SharedValue.debug (typeName : τ → String) : SharedValue τ → String
  | .scalar n => toString n
  | .handle t h => h.debug (typeName t)
  | .record name fields => name ++ " \x7b " ++ joined ", " (fields.debugs typeName) ++ " \x7d"

def SharedFields.debugs (typeName : τ → String) : SharedFields τ → List String
  | .nil => []
  | .cons name v rest => (name ++ ": " ++ v.debug typeName) :: rest.debugs typeName

end

end Causeway
