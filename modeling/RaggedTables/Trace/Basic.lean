import RaggedTables.Fault
import RaggedTables.Value.Brief

/-! Traced computations. A traced function reports its call with the arguments and, unless it fails,
its end with the result; what it does is not changed by being watched. -/

namespace RaggedTables

/-- What a trace shows of an argument or a result: a value, a list, or an object by its text. -/
inductive Shown where
  | value (v : Value)
  | object (text : String)
  | list (items : List Shown)
deriving Inhabited

/-- The short form of what a trace shows. -/
def Shown.briefAt : (depth : Nat) → Shown → String
  | depth, .value v => v.briefAt depth
  | _, .object text => Brief.middleCut Brief.limits.other text
  | 0, .list items => if items.isEmpty then "[]" else "[" ++ Brief.dots ++ "]"
  | depth + 1, .list items =>
    Brief.enclose "[" "]" items.length Brief.limits.list
      ((items.take Brief.limits.list).map (briefAt depth))

/-- A digit of an address. -/
def isAddressDigit (c : Char) : Bool := ('0' ≤ c && c ≤ '9') || ('a' ≤ c && c ≤ 'f')

/-- A text in which every address, a hexadecimal number, is shown as zero; `inside` says that the
first digits are the rest of one. -/
def hideAddresses : (inside : Bool) → List Char → List Char
  | true, c :: rest =>
    if isAddressDigit c then hideAddresses true rest else c :: hideAddresses false rest
  | false, '0' :: 'x' :: c :: rest =>
    if isAddressDigit c then '0' :: 'x' :: '0' :: hideAddresses true rest
    else '0' :: 'x' :: hideAddresses false (c :: rest)
  | false, c :: rest => c :: hideAddresses false rest
  | _, [] => []

/-- The short form without addresses. -/
def Shown.brief (shown : Shown) : String :=
  String.ofList (hideAddresses false (shown.briefAt Brief.limits.depth).toList)

/-- The short forms of arguments. -/
def Shown.briefAll (args : List Shown) : String := ", ".intercalate (args.map Shown.brief)

/-- The beginning of a traced call, or its end. -/
inductive CallEvent where
  | start (name : String) (args : List Shown)
  | finish (name : String) (result : Shown)
deriving Inhabited

/-- The outcome of a computation and the calls it made on the way. -/
structure Traced (α : Type) where
  events : List CallEvent
  outcome : Except Fault α

namespace Traced

/-- A computation that makes no traced call. -/
def lift (outcome : Except Fault α) : Traced α := ⟨[], outcome⟩

def fail (fault : Fault) : Traced α := ⟨[], .error fault⟩

def bind (x : Traced α) (f : α → Traced β) : Traced β :=
  match x.outcome with
  | .ok a => ⟨x.events ++ (f a).events, (f a).outcome⟩
  | .error fault => ⟨x.events, .error fault⟩

instance : Monad Traced where
  pure a := ⟨[], .ok a⟩
  bind := bind

/-- Goes on with the outcome, whatever it is. -/
def attempt (x : Traced α) : Traced (Except Fault α) := ⟨x.events, .ok x.outcome⟩

/-- Changes the fault of a failure. -/
def mapFault (f : Fault → Fault) (x : Traced α) : Traced α :=
  ⟨x.events, match x.outcome with
    | .ok a => .ok a
    | .error fault => .error (f fault)⟩

/-- A traced call. -/
def call (name : String) (args : List Shown) (present : α → Shown) (body : Traced α) : Traced α :=
  ⟨.start name args :: body.events ++
      match body.outcome with
      | .ok a => [.finish name (present a)]
      | .error _ => [],
    body.outcome⟩

@[simp] theorem outcome_lift (outcome : Except Fault α) : (lift outcome).outcome = outcome := rfl

@[simp] theorem outcome_pure (a : α) : (pure a : Traced α).outcome = .ok a := rfl

/-- The calls on the way do not change the outcome. -/
@[simp] theorem outcome_bind (x : Traced α) (f : α → Traced β) :
    (x >>= f).outcome = x.outcome.bind fun a => (f a).outcome := by
  show (bind x f).outcome = _
  unfold bind
  cases x.outcome <;> rfl

@[simp] theorem outcome_mapFault (f : Fault → Fault) (x : Traced α) :
    (mapFault f x).outcome = x.outcome.mapError f := by
  unfold mapFault
  cases x.outcome <;> rfl

@[simp] theorem outcome_call (name : String) (args : List Shown) (present : α → Shown)
    (body : Traced α) : (call name args present body).outcome = body.outcome := rfl

end Traced

end RaggedTables
