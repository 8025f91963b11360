-- What the handler reads of the `substreams_solana` block and of the helpers of
-- `substreams_solana_utils`, and the panics of the Rust code. Those crates are
-- outside the repository: each type keeps only what `lib.rs` reads of it.
import SystemProgramSubstream.Pb

namespace system_program_substream

/-! ## Panics

A panic aborts the whole handler, so the model runs in `Except Panic`. -/

inductive Panic where
  /-- `v[index]` past the end of a vector of length `len`. -/
  | indexOutOfBounds (len index : Nat)
  /-- `Option::unwrap` on `None`. -/
  | unwrapNone
  deriving DecidableEq

/-- `v[i]`: the element, or a panic past the end. -/
def index {α : Type} (v : List α) (i : Nat) : Except Panic α :=
  match v[i]? with
  | some a => .ok a
  | none => .error (.indexOutOfBounds v.length i)

/-- `o.unwrap()`. -/
def unwrap {α : Type} : Option α → Except Panic α
  | some a => .ok a
  | none => .error .unwrapNone

theorem index_of_lt {α : Type} {v : List α} {i : Nat} (h : i < v.length) :
    index v i = .ok v[i] := by
  simp [index, h]

theorem index_of_le {α : Type} {v : List α} {i : Nat} (h : v.length ≤ i) :
    index v i = .error (.indexOutOfBounds v.length i) := by
  simp [index, List.getElem?_eq_none h]

/-! ## The log

`substreams::log::println` writes a line to the module's log. A run of the handler gives the
lines it wrote with its value or its panic: a panic ends the run, and the lines written before
it stay written. -/

structure Logged (α : Type) where
  lines : List String
  result : Except Panic α

/-- Run `x`, then `f` on its value; a panic of `x` ends the run. -/
def Logged.bind {α β : Type} (x : Logged α) (f : α → Logged β) : Logged β :=
  match x.result with
  | .error p => ⟨x.lines, .error p⟩
  | .ok a => ⟨x.lines ++ (f a).lines, (f a).result⟩

instance monadLogged : Monad Logged where
  pure a := ⟨[], .ok a⟩
  bind := Logged.bind

/-- Code that prints nothing. -/
def panicking {α : Type} (x : Except Panic α) : Logged α := ⟨[], x⟩

/-- `substreams::log::println(line)`. -/
def println (line : String) : Logged Unit := ⟨[line], .ok ()⟩

namespace Logged

variable {α β : Type} {x : Logged α} {f : α → Logged β}

@[simp] theorem pure_lines (a : α) : (pure a : Logged α).lines = [] := rfl

@[simp] theorem pure_result (a : α) : (pure a : Logged α).result = .ok a := rfl

@[simp] theorem panicking_lines (x : Except Panic α) : (panicking x).lines = [] := rfl

@[simp] theorem panicking_result (x : Except Panic α) : (panicking x).result = x := rfl

@[simp] theorem println_lines (line : String) : (println line).lines = [line] := rfl

@[simp] theorem println_result (line : String) : (println line).result = .ok () := rfl

/-- The value of a run is that of the code without its prints. -/
@[simp] theorem result_bind : (x >>= f).result = x.result >>= fun a => (f a).result := by
  show (x.bind f).result = _
  unfold Logged.bind
  cases x.result <;> rfl

/-- The lines of a run: those of `x`, then those of `f`, unless `x` panics. -/
@[simp] theorem lines_bind : (x >>= f).lines = x.lines ++ match x.result with
    | .ok a => (f a).lines
    | .error _ => [] := by
  show (x.bind f).lines = _
  unfold Logged.bind
  cases x.result <;> simp

end Logged

/-! ## Instructions -/

/-- `StructuredInstruction` as `lib.rs` reads it: the index of its program in the account
table, the account-table indices of its accounts, and its data. -/
structure StructuredInstruction where
  program_id_index : UInt32
  accounts : List UInt8
  data : List UInt8
  deriving DecidableEq

/-- `StructuredInstructions`, by the list that `flattened()` returns: the top-level and the
inner instructions in execution order. -/
structure StructuredInstructions where
  flattened : List StructuredInstruction
  deriving DecidableEq

/-- `TransactionContext`, by its lookup `get_account_from_index`, taken as a total function:
the panics left in the model are those of `lib.rs` itself. -/
structure TransactionContext where
  get_account_from_index : Nat → Pubkey

/-! ## Transactions and blocks -/

/-- The error of a failed transaction; `lib.rs` only asks whether it is set. -/
structure TransactionError where
  err : List UInt8
  deriving DecidableEq

structure TransactionStatusMeta where
  err : Option TransactionError
  deriving DecidableEq

/-- `ConfirmedTransaction`, by its `meta` and by what the helpers of
`substreams_solana_utils` compute from it. -/
structure ConfirmedTransaction where
  meta : Option TransactionStatusMeta
  signature : String
  context : TransactionContext
  structured_instructions : Except String StructuredInstructions

def get_signature (transaction : ConfirmedTransaction) : String := transaction.signature

def get_context (transaction : ConfirmedTransaction) : TransactionContext := transaction.context

def get_structured_instructions (transaction : ConfirmedTransaction) :
    Except String StructuredInstructions :=
  transaction.structured_instructions

structure Block where
  transactions : List ConfirmedTransaction

end system_program_substream
