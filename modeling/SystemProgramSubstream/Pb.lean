-- The output records of the substream, as `pb::system_program` declares them:
-- one event record per instruction variant, the `Event` oneof over them, and
-- the per-transaction and per-block wrappers.
import SystemProgramSubstream.SystemProgram

namespace system_program_substream

/-! ## Event records

Keys and seeds are text; `lamports` and `space` are `u64`. -/

structure CreateAccountEvent where
  funding_account : String
  new_account : String
  lamports : UInt64
  owner : String
  space : UInt64
  deriving DecidableEq

structure AssignEvent where
  assigned_account : String
  owner : String
  deriving DecidableEq

structure TransferEvent where
  funding_account : String
  recipient_account : String
  lamports : UInt64
  deriving DecidableEq

structure CreateAccountWithSeedEvent where
  funding_account : String
  created_account : String
  base_account : String
  seed : String
  lamports : UInt64
  space : UInt64
  owner : String
  deriving DecidableEq

structure AdvanceNonceAccountEvent where
  nonce_account : String
  nonce_authority : String
  deriving DecidableEq

structure WithdrawNonceAccountEvent where
  nonce_account : String
  recipient_account : String
  nonce_authority : String
  lamports : UInt64
  deriving DecidableEq

structure InitializeNonceAccountEvent where
  nonce_account : String
  nonce_authority : String
  deriving DecidableEq

structure AuthorizeNonceAccountEvent where
  nonce_account : String
  nonce_authority : String
  new_nonce_authority : String
  deriving DecidableEq

structure AllocateEvent where
  account : String
  space : UInt64
  deriving DecidableEq

structure AllocateWithSeedEvent where
  allocated_account : String
  base_account : String
  seed : String
  owner : String
  space : UInt64
  deriving DecidableEq

structure AssignWithSeedEvent where
  assigned_account : String
  base_account : String
  owner : String
  seed : String
  deriving DecidableEq

structure TransferWithSeedEvent where
  funding_account : String
  base_account : String
  recipient_account : String
  from_owner : String
  from_seed : String
  lamports : UInt64
  deriving DecidableEq

structure UpgradeNonceAccountEvent where
  nonce_account : String
  deriving DecidableEq

/-- `system_program_event::Event`, the oneof of the event records. -/
inductive Event where
  | CreateAccount (event : CreateAccountEvent)
  | Assign (event : AssignEvent)
  | Transfer (event : TransferEvent)
  | CreateAccountWithSeed (event : CreateAccountWithSeedEvent)
  | AdvanceNonceAccount (event : AdvanceNonceAccountEvent)
  | WithdrawNonceAccount (event : WithdrawNonceAccountEvent)
  | InitializeNonceAccount (event : InitializeNonceAccountEvent)
  | AuthorizeNonceAccount (event : AuthorizeNonceAccountEvent)
  | Allocate (event : AllocateEvent)
  | AllocateWithSeed (event : AllocateWithSeedEvent)
  | AssignWithSeed (event : AssignWithSeedEvent)
  | TransferWithSeed (event : TransferWithSeedEvent)
  | UpgradeNonceAccount (event : UpgradeNonceAccountEvent)
  deriving DecidableEq

/-! ## Wrappers -/

/-- One event and the position of its instruction in the flattened list. -/
structure SystemProgramEvent where
  instruction_index : UInt32
  event : Option Event
  deriving DecidableEq

structure SystemProgramTransactionEvents where
  signature : String
  transaction_index : UInt32
  events : List SystemProgramEvent
  deriving DecidableEq

structure SystemProgramBlockEvents where
  transactions : List SystemProgramTransactionEvents
  deriving DecidableEq

end system_program_substream
