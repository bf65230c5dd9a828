import ConsoleGateway.Decode.Reader

namespace ConsoleGateway.Decode

open Json

structure Field (α : Type) where
  name : String
  aliases : List String
  read : Reader α
  -- Stands for the field in an object without it.
  ifNoMember : Option α
  -- Stands for the field in an array too short for it.
  ifNoItem : Option α

def Field.required (name : String) (aliases : List String) (read : Reader α) : Field α :=
  ⟨name, aliases, read, none, none⟩

def Field.withDefault (name : String) (aliases : List String) (read : Reader α) (value : α) :
    Field α :=
  ⟨name, aliases, read, some value, some value⟩

def Field.nullable (name : String) (read : Reader α) : Field (Option α) :=
  ⟨name, [], optional read, some none, none⟩

inductive Fields : List Type → Type 1 where
  | nil : Fields []
  | cons {α : Type} {ts : List Type} (field : Field α) (rest : Fields ts) : Fields (α :: ts)

@[reducible] def Values : List Type → Type
  | [] => Unit
  | α :: ts => α × Values ts

@[reducible] def Slots : List Type → Type
  | [] => Unit
  | α :: ts => Option α × Slots ts

def Fields.empty : Fields ts → Slots ts
  | .nil => ()
  | .cons _ rest => (none, rest.empty)

def Fields.count : Fields ts → Nat
  | .nil => 0
  | .cons _ rest => rest.count + 1

def Fields.put? (ctx : Context) (name : String) (d : Doc) :
    Fields ts → Slots ts → Option (Except Error (Slots ts))
  | .nil, _ => none
  | .cons field rest, (slot, slots) =>
    if name = field.name ∨ name ∈ field.aliases then
      some (if slot.isSome then .error (.duplicate field.name)
        else (field.read ctx d).map fun value => (some value, slots))
    else (rest.put? ctx name d slots).map (·.map fun slots => (slot, slots))

def Fields.collect (fields : Fields ts) (ctx : Context) :
    List (Doc × Doc) → Slots ts → Except Error (Slots ts)
  | [], slots => .ok slots
  | (key, d) :: members, slots =>
    match text? key with
    | none => .error .malformed
    | some name =>
      match fields.put? ctx name d slots with
      | some (.ok slots) => fields.collect ctx members slots
      | some (.error e) => .error e
      | none => if skippable d then fields.collect ctx members slots else .error .malformed

def Fields.finish : Fields ts → Slots ts → Except Error (Values ts)
  | .nil, _ => .ok ()
  | .cons field rest, (slot, slots) =>
    match slot, field.ifNoMember with
    | some value, _ => (rest.finish slots).map fun values => (value, values)
    | none, some value => (rest.finish slots).map fun values => (value, values)
    | none, none => .error (.missing field.name)

def Fields.positional (ctx : Context) (short : Nat → Error) (closed : Bool) :
    Fields ts → Nat → List Doc → Except Error (Values ts × List Doc)
  | .nil, _, items => .ok ((), items)
  | .cons field rest, i, d :: items => do
    let value ← field.read ctx d
    let (values, left) ← rest.positional ctx short closed (i + 1) items
    return ((value, values), left)
  | .cons field rest, i, [] =>
    if !closed then .error .malformed
    else match field.ifNoItem with
      | none => .error (short i)
      | some value =>
        (rest.positional ctx short closed (i + 1) []).map fun (values, left) =>
          ((value, values), left)

def Fields.ofMembers (fields : Fields ts) (ctx : Context) (members : List (Doc × Doc))
    (closed : Bool) : Except Error (Values ts) := do
  let slots ← fields.collect ctx members fields.empty
  if closed then fields.finish slots else .error .malformed

def Fields.ofItems (fields : Fields ts) (title : String) (ctx : Context) (items : List Doc)
    (closed : Bool) : Except Error (Values ts) := do
  let short (i : Nat) : Error :=
    .wrongLength i ("struct " ++ title ++ " with " ++ toString fields.count ++ " elements")
  let (values, left) ← fields.positional ctx short closed 0 items
  if left ≠ [] then .error (ctx.surplus items.length fields.count)
  else if closed then return values
  else .error .malformed

def record (title : String) (fields : Fields ts) : Reader (Values ts) := fun ctx d =>
  match d with
  | .object members closed => do fields.ofMembers (← ctx.enter) members closed
  | .array items closed => do fields.ofItems title (← ctx.enter) items closed
  | d => .error (mismatch d ("struct " ++ title))

end ConsoleGateway.Decode
