-- `parse_instruction` and its thirteen helpers. A helper reads fixed positions
-- of the account list with no check of its length, so a short list panics;
-- on a long enough list every role is read at its position of the spec's table.
import SystemProgramSubstream.Transaction

namespace system_program_substream

/-! ## Text of keys -/

/-- `bs58::encode(context.get_account_from_index(i)).into_string()`. -/
def keyAt (context : TransactionContext) (i : Nat) : String :=
  bs58.encode (context.get_account_from_index i).bytes

/-- `bs58::encode(key.0).into_string()`, for a key decoded from the data. -/
def keyText (key : Pubkey) : String := bs58.encode key.bytes

/-- The account at position `k` of the instruction, as every helper reads it:
`bs58::encode(context.get_account_from_index(instruction.accounts()[k] as usize))`. -/
def accountAt (instruction : StructuredInstruction) (context : TransactionContext) (k : Nat) :
    Except Panic String := do
  let i ← index instruction.accounts k
  pure (keyAt context i.toNat)

/-! ## The helpers -/

section helpers

variable (instruction : StructuredInstruction) (context : TransactionContext)

def _parse_create_account_instruction (create_account : CreateAccount) :
    Except Panic (Except String CreateAccountEvent) := do
  let funding_account ← accountAt instruction context 0
  let new_account ← accountAt instruction context 1
  pure (.ok { funding_account, new_account, lamports := create_account.lamports,
              owner := keyText create_account.owner, space := create_account.space })

def _parse_assign_instruction (assign : Assign) : Except Panic (Except String AssignEvent) := do
  let assigned_account ← accountAt instruction context 0
  pure (.ok { assigned_account, owner := keyText assign.owner })

def _parse_transfer_instruction (transfer : Transfer) :
    Except Panic (Except String TransferEvent) := do
  let funding_account ← accountAt instruction context 0
  let recipient_account ← accountAt instruction context 1
  pure (.ok { funding_account, recipient_account, lamports := transfer.lamports })

/-- The seed is cloned as it is. -/
def _parse_create_account_with_seed_instruction (create_account_with_seed : CreateAccountWithSeed) :
    Except Panic (Except String CreateAccountWithSeedEvent) := do
  let funding_account ← accountAt instruction context 0
  let created_account ← accountAt instruction context 1
  pure (.ok { funding_account, created_account,
              base_account := keyText create_account_with_seed.base,
              seed := create_account_with_seed.seed,
              lamports := create_account_with_seed.lamports,
              space := create_account_with_seed.space,
              owner := keyText create_account_with_seed.owner })

/-- Position 1 (the recent-blockhashes sysvar) is not read. -/
def _parse_advance_nonce_account_instruction :
    Except Panic (Except String AdvanceNonceAccountEvent) := do
  let nonce_account ← accountAt instruction context 0
  let nonce_authority ← accountAt instruction context 2
  pure (.ok { nonce_account, nonce_authority })

/-- Positions 2 and 3 (the sysvars) are not read. -/
def _parse_withdraw_nonce_account_instruction (lamports : UInt64) :
    Except Panic (Except String WithdrawNonceAccountEvent) := do
  let nonce_account ← accountAt instruction context 0
  let recipient_account ← accountAt instruction context 1
  let nonce_authority ← accountAt instruction context 4
  pure (.ok { nonce_account, recipient_account, nonce_authority, lamports })

def _parse_initialize_nonce_account_instruction (authority : Pubkey) :
    Except Panic (Except String InitializeNonceAccountEvent) := do
  let nonce_account ← accountAt instruction context 0
  pure (.ok { nonce_account, nonce_authority := keyText authority })

def _parse_authorize_nonce_account_instruction (pubkey : Pubkey) :
    Except Panic (Except String AuthorizeNonceAccountEvent) := do
  let nonce_account ← accountAt instruction context 0
  let nonce_authority ← accountAt instruction context 1
  pure (.ok { nonce_account, nonce_authority, new_nonce_authority := keyText pubkey })

def _parse_allocate_instruction (allocate : Allocate) :
    Except Panic (Except String AllocateEvent) := do
  let account ← accountAt instruction context 0
  pure (.ok { account, space := allocate.space })

/-- The seed is rendered as the base-58 text of its bytes. -/
def _parse_allocate_with_seed_instruction (allocate_with_seed : AllocateWithSeed) :
    Except Panic (Except String AllocateWithSeedEvent) := do
  let allocated_account ← accountAt instruction context 0
  pure (.ok { allocated_account, space := allocate_with_seed.space,
              base_account := keyText allocate_with_seed.base,
              owner := keyText allocate_with_seed.owner,
              seed := bs58.encode (utf8Bytes allocate_with_seed.seed) })

/-- The seed is rendered as the base-58 text of its bytes. -/
def _parse_assign_with_seed_instruction (assign_with_seed : AssignWithSeed) :
    Except Panic (Except String AssignWithSeedEvent) := do
  let assigned_account ← accountAt instruction context 0
  pure (.ok { assigned_account, base_account := keyText assign_with_seed.base,
              owner := keyText assign_with_seed.owner,
              seed := bs58.encode (utf8Bytes assign_with_seed.seed) })

/-- The seed is rendered as the base-58 text of its bytes. -/
def _parse_transfer_with_seed_instruction (transfer_with_seed : TransferWithSeed) :
    Except Panic (Except String TransferWithSeedEvent) := do
  let funding_account ← accountAt instruction context 0
  let base_account ← accountAt instruction context 1
  let recipient_account ← accountAt instruction context 2
  pure (.ok { funding_account, base_account, recipient_account,
              from_owner := keyText transfer_with_seed.from_owner,
              from_seed := bs58.encode (utf8Bytes transfer_with_seed.from_seed),
              lamports := transfer_with_seed.lamports })

def _parse_upgrade_nonce_account_instruction :
    Except Panic (Except String UpgradeNonceAccountEvent) := do
  let nonce_account ← accountAt instruction context 0
  pure (.ok { nonce_account })

end helpers

/-! ## `parse_instruction` -/

section parse

-- `system_program::SYSTEM_PROGRAM_ID` is a constant of `system_program.rs`, which is not
-- among the repository's sources: it is a parameter, and every result holds for each value.
variable (SYSTEM_PROGRAM_ID : String)

def parse_instruction (instruction : StructuredInstruction) (context : TransactionContext) :
    Except Panic (Except String (Option Event)) :=
  if keyAt context instruction.program_id_index.toNat ≠ SYSTEM_PROGRAM_ID then
    pure (.error "Not a System Program instruction.")
  else
    match SystemInstruction.unpack instruction.data with
    | .error e => pure (.error e)
    | .ok unpacked =>
      match unpacked with
      | .CreateAccount create_account =>
        Except.map (some ∘ .CreateAccount) <$>
          _parse_create_account_instruction instruction context create_account
      | .Assign assign =>
        Except.map (some ∘ .Assign) <$> _parse_assign_instruction instruction context assign
      | .Transfer transfer =>
        Except.map (some ∘ .Transfer) <$> _parse_transfer_instruction instruction context transfer
      | .CreateAccountWithSeed create_account_with_seed =>
        Except.map (some ∘ .CreateAccountWithSeed) <$>
          _parse_create_account_with_seed_instruction instruction context create_account_with_seed
      | .AdvanceNonceAccount =>
        Except.map (some ∘ .AdvanceNonceAccount) <$>
          _parse_advance_nonce_account_instruction instruction context
      | .WithdrawNonceAccount lamports =>
        Except.map (some ∘ .WithdrawNonceAccount) <$>
          _parse_withdraw_nonce_account_instruction instruction context lamports
      | .InitializeNonceAccount pubkey =>
        Except.map (some ∘ .InitializeNonceAccount) <$>
          _parse_initialize_nonce_account_instruction instruction context pubkey
      | .AuthorizeNonceAccount pubkey =>
        Except.map (some ∘ .AuthorizeNonceAccount) <$>
          _parse_authorize_nonce_account_instruction instruction context pubkey
      | .Allocate allocate =>
        Except.map (some ∘ .Allocate) <$> _parse_allocate_instruction instruction context allocate
      | .AllocateWithSeed allocate_with_seed =>
        Except.map (some ∘ .AllocateWithSeed) <$>
          _parse_allocate_with_seed_instruction instruction context allocate_with_seed
      | .AssignWithSeed assign_with_seed =>
        Except.map (some ∘ .AssignWithSeed) <$>
          _parse_assign_with_seed_instruction instruction context assign_with_seed
      | .TransferWithSeed transfer_with_seed =>
        Except.map (some ∘ .TransferWithSeed) <$>
          _parse_transfer_with_seed_instruction instruction context transfer_with_seed
      | .UpgradeNonceAccount =>
        Except.map (some ∘ .UpgradeNonceAccount) <$>
          _parse_upgrade_nonce_account_instruction instruction context

/-! ## The spec of `parse_instruction` -/

/-- One past the highest position of the account list that the helper of the variant reads. -/
def SystemInstruction.accountsRead : SystemInstruction → Nat
  | .CreateAccount _ => 2
  | .Assign _ => 1
  | .Transfer _ => 2
  | .CreateAccountWithSeed _ => 2
  | .AdvanceNonceAccount => 3
  | .WithdrawNonceAccount _ => 5
  | .InitializeNonceAccount _ => 1
  | .AuthorizeNonceAccount _ => 2
  | .Allocate _ => 1
  | .AllocateWithSeed _ => 1
  | .AssignWithSeed _ => 1
  | .TransferWithSeed _ => 3
  | .UpgradeNonceAccount => 1

/-- The role table of the spec: `ev` is the event named like `v`, each account field is
`acct` at the position of its role, and each data field is the decoded value, keys as their
base-58 text. Seeds are left out. -/
def RoleMatch (acct : Nat → String) : SystemInstruction → Event → Prop
  | .CreateAccount c, ev => ∃ e, ev = .CreateAccount e ∧
      e.funding_account = acct 0 ∧ e.new_account = acct 1 ∧
      e.lamports = c.lamports ∧ e.owner = bs58.encode c.owner.bytes ∧ e.space = c.space
  | .Assign a, ev => ∃ e, ev = .Assign e ∧
      e.assigned_account = acct 0 ∧ e.owner = bs58.encode a.owner.bytes
  | .Transfer t, ev => ∃ e, ev = .Transfer e ∧
      e.funding_account = acct 0 ∧ e.recipient_account = acct 1 ∧ e.lamports = t.lamports
  | .CreateAccountWithSeed c, ev => ∃ e, ev = .CreateAccountWithSeed e ∧
      e.funding_account = acct 0 ∧ e.created_account = acct 1 ∧
      e.base_account = bs58.encode c.base.bytes ∧ e.lamports = c.lamports ∧ e.space = c.space ∧
      e.owner = bs58.encode c.owner.bytes
  | .AdvanceNonceAccount, ev => ∃ e, ev = .AdvanceNonceAccount e ∧
      e.nonce_account = acct 0 ∧ e.nonce_authority = acct 2
  | .WithdrawNonceAccount lamports, ev => ∃ e, ev = .WithdrawNonceAccount e ∧
      e.nonce_account = acct 0 ∧ e.recipient_account = acct 1 ∧
      e.nonce_authority = acct 4 ∧ e.lamports = lamports
  | .InitializeNonceAccount authority, ev => ∃ e, ev = .InitializeNonceAccount e ∧
      e.nonce_account = acct 0 ∧ e.nonce_authority = bs58.encode authority.bytes
  | .AuthorizeNonceAccount pubkey, ev => ∃ e, ev = .AuthorizeNonceAccount e ∧
      e.nonce_account = acct 0 ∧ e.nonce_authority = acct 1 ∧
      e.new_nonce_authority = bs58.encode pubkey.bytes
  | .Allocate a, ev => ∃ e, ev = .Allocate e ∧ e.account = acct 0 ∧ e.space = a.space
  | .AllocateWithSeed a, ev => ∃ e, ev = .AllocateWithSeed e ∧
      e.allocated_account = acct 0 ∧ e.base_account = bs58.encode a.base.bytes ∧
      e.owner = bs58.encode a.owner.bytes ∧ e.space = a.space
  | .AssignWithSeed a, ev => ∃ e, ev = .AssignWithSeed e ∧
      e.assigned_account = acct 0 ∧ e.base_account = bs58.encode a.base.bytes ∧ e.owner = bs58.encode a.owner.bytes
  | .TransferWithSeed t, ev => ∃ e, ev = .TransferWithSeed e ∧
      e.funding_account = acct 0 ∧ e.base_account = acct 1 ∧ e.recipient_account = acct 2 ∧
      e.from_owner = bs58.encode t.from_owner.bytes ∧ e.lamports = t.lamports
  | .UpgradeNonceAccount, ev => ∃ e, ev = .UpgradeNonceAccount e ∧ e.nonce_account = acct 0

/-- The event that the helper of `v` builds when every position it reads is in the list,
with `acct k` the text of the account at position `k`. Seeds are rendered as the code renders
them, which the spec asks of the output for compatibility: `CreateAccountWithSeed` clones its
seed, while `AllocateWithSeed`, `AssignWithSeed` and `TransferWithSeed` give the base-58 text
of the seed's bytes, so the four paths do not show a seed alike. -/
def eventOf (acct : Nat → String) : SystemInstruction → Event
  | .CreateAccount c =>
    .CreateAccount { funding_account := acct 0, new_account := acct 1,
                     lamports := c.lamports, owner := keyText c.owner, space := c.space }
  | .Assign a => .Assign { assigned_account := acct 0, owner := keyText a.owner }
  | .Transfer t =>
    .Transfer { funding_account := acct 0, recipient_account := acct 1, lamports := t.lamports }
  | .CreateAccountWithSeed c =>
    .CreateAccountWithSeed { funding_account := acct 0, created_account := acct 1,
                             base_account := keyText c.base, seed := c.seed,
                             lamports := c.lamports, space := c.space,
                             owner := keyText c.owner }
  | .AdvanceNonceAccount =>
    .AdvanceNonceAccount { nonce_account := acct 0, nonce_authority := acct 2 }
  | .WithdrawNonceAccount lamports =>
    .WithdrawNonceAccount { nonce_account := acct 0, recipient_account := acct 1,
                            nonce_authority := acct 4, lamports := lamports }
  | .InitializeNonceAccount authority =>
    .InitializeNonceAccount { nonce_account := acct 0, nonce_authority := keyText authority }
  | .AuthorizeNonceAccount pubkey =>
    .AuthorizeNonceAccount { nonce_account := acct 0, nonce_authority := acct 1,
                             new_nonce_authority := keyText pubkey }
  | .Allocate a => .Allocate { account := acct 0, space := a.space }
  | .AllocateWithSeed a =>
    .AllocateWithSeed { allocated_account := acct 0, base_account := keyText a.base,
                        seed := bs58.encode (utf8Bytes a.seed), owner := keyText a.owner,
                        space := a.space }
  | .AssignWithSeed a =>
    .AssignWithSeed { assigned_account := acct 0, base_account := keyText a.base,
                      owner := keyText a.owner, seed := bs58.encode (utf8Bytes a.seed) }
  | .TransferWithSeed t =>
    .TransferWithSeed { funding_account := acct 0, base_account := acct 1,
                        recipient_account := acct 2, from_owner := keyText t.from_owner,
                        from_seed := bs58.encode (utf8Bytes t.from_seed),
                        lamports := t.lamports }
  | .UpgradeNonceAccount => .UpgradeNonceAccount { nonce_account := acct 0 }

/-- Whether `parse_instruction` indexes past the end of the account list: the instruction
is the System Program's and its data decodes to a variant that reads more accounts than the
list holds. -/
def tooFewAccounts (instruction : StructuredInstruction) (context : TransactionContext) : Bool :=
  keyAt context instruction.program_id_index.toNat == SYSTEM_PROGRAM_ID &&
    match SystemInstruction.unpack instruction.data with
    | .ok v => instruction.accounts.length < v.accountsRead
    | .error _ => false

end parse

/-! ## Reading one account -/

section accounts

variable {instruction : StructuredInstruction} {context : TransactionContext} {k : Nat}

theorem accountAt_of_lt (h : k < instruction.accounts.length) :
    accountAt instruction context k = .ok (keyAt context (instruction.accounts.getD k 0).toNat) := by
  simp [accountAt, index_of_lt h, h]

theorem accountAt_of_le (h : instruction.accounts.length ≤ k) :
    accountAt instruction context k = .error (.indexOutOfBounds instruction.accounts.length k) := by
  simp [accountAt, index_of_le h]

theorem accountAt_eq (k : Nat) : accountAt instruction context k =
    if k < instruction.accounts.length then
      .ok (keyAt context (instruction.accounts.getD k 0).toNat)
    else .error (.indexOutOfBounds instruction.accounts.length k) := by
  split_ifs with h
  · exact accountAt_of_lt h
  · exact accountAt_of_le (by omega)

/-- A read followed by the rest of a helper: the rest runs on the account's text, or the read
panics. -/
theorem accountAt_bind {β : Type} (k : Nat) (f : String → Except Panic β) :
    (accountAt instruction context k >>= f) =
      if k < instruction.accounts.length then
        f (keyAt context (instruction.accounts.getD k 0).toNat)
      else .error (.indexOutOfBounds instruction.accounts.length k) := by
  rw [accountAt_eq]; split_ifs <;> rfl

end accounts

/-! ## The outcomes of `parse_instruction` -/

section outcomes

variable (SYSTEM_PROGRAM_ID : String)
variable {instruction : StructuredInstruction} {context : TransactionContext}

/-- The text of the account at position `k` of the instruction:
`bs58::encode(context.get_account_from_index(instruction.accounts()[k] as usize))`. -/
def accountText (instruction : StructuredInstruction) (context : TransactionContext) (k : Nat) :
    String :=
  keyAt context (instruction.accounts.getD k 0).toNat

theorem parse_instruction_not_system
    (hprogram : keyAt context instruction.program_id_index.toNat ≠ SYSTEM_PROGRAM_ID) :
    parse_instruction SYSTEM_PROGRAM_ID instruction context =
      .ok (.error "Not a System Program instruction.") := by
  simp [parse_instruction, hprogram]

theorem parse_instruction_unpack_error {e : String}
    (hprogram : keyAt context instruction.program_id_index.toNat = SYSTEM_PROGRAM_ID)
    (he : SystemInstruction.unpack instruction.data = .error e) :
    parse_instruction SYSTEM_PROGRAM_ID instruction context = .ok (.error e) := by
  simp [parse_instruction, hprogram, he]

/-- Past the program check and the decoder, the helper of the variant either returns the event
of `eventOf`, on a long enough account list, or panics at a position it reads past the end. -/
theorem parse_instruction_of_unpack {v : SystemInstruction}
    (hprogram : keyAt context instruction.program_id_index.toNat = SYSTEM_PROGRAM_ID)
    (hv : SystemInstruction.unpack instruction.data = .ok v) :
    (v.accountsRead ≤ instruction.accounts.length →
      parse_instruction SYSTEM_PROGRAM_ID instruction context =
        .ok (.ok (some (eventOf (accountText instruction context) v)))) ∧
    (instruction.accounts.length < v.accountsRead →
      ∃ k, instruction.accounts.length ≤ k ∧ k < v.accountsRead ∧
        parse_instruction SYSTEM_PROGRAM_ID instruction context =
          .error (.indexOutOfBounds instruction.accounts.length k)) := by
  simp only [parse_instruction, hprogram, ne_eq, not_true_eq_false, if_false, hv]
  cases v <;> simp only [SystemInstruction.accountsRead] <;>
    simp only [accountAt_bind, _parse_create_account_instruction, _parse_assign_instruction,
      _parse_transfer_instruction, _parse_create_account_with_seed_instruction,
      _parse_advance_nonce_account_instruction, _parse_withdraw_nonce_account_instruction,
      _parse_initialize_nonce_account_instruction, _parse_authorize_nonce_account_instruction,
      _parse_allocate_instruction, _parse_allocate_with_seed_instruction,
      _parse_assign_with_seed_instruction, _parse_transfer_with_seed_instruction,
      _parse_upgrade_nonce_account_instruction, apply_ite (Functor.map _)] <;>
    refine ⟨fun hlen => ?_, fun hlen => ?_⟩ <;>
    split_ifs <;> first | omega | rfl | exact ⟨_, by omega, by omega, rfl⟩

/-- On a long enough account list, `parse_instruction` returns the event of `eventOf`. -/
theorem parse_instruction_eventOf {v : SystemInstruction}
    (hprogram : keyAt context instruction.program_id_index.toNat = SYSTEM_PROGRAM_ID)
    (hv : SystemInstruction.unpack instruction.data = .ok v)
    (hlen : v.accountsRead ≤ instruction.accounts.length) :
    parse_instruction SYSTEM_PROGRAM_ID instruction context =
      .ok (.ok (some (eventOf (accountText instruction context) v))) :=
  (parse_instruction_of_unpack _ hprogram hv).1 hlen

/-- On a short account list, `parse_instruction` panics at a position it reads past the end. -/
theorem parse_instruction_panics {v : SystemInstruction}
    (hprogram : keyAt context instruction.program_id_index.toNat = SYSTEM_PROGRAM_ID)
    (hv : SystemInstruction.unpack instruction.data = .ok v)
    (hlen : instruction.accounts.length < v.accountsRead) :
    ∃ k, instruction.accounts.length ≤ k ∧ k < v.accountsRead ∧
      parse_instruction SYSTEM_PROGRAM_ID instruction context =
        .error (.indexOutOfBounds instruction.accounts.length k) :=
  (parse_instruction_of_unpack _ hprogram hv).2 hlen

/-- `parse_instruction` returns, with a value or an error, exactly when it does not read past
the end of the account list. -/
theorem parse_instruction_returns_iff :
    (∃ r, parse_instruction SYSTEM_PROGRAM_ID instruction context = .ok r) ↔
      tooFewAccounts SYSTEM_PROGRAM_ID instruction context = false := by
  by_cases hprogram : keyAt context instruction.program_id_index.toNat = SYSTEM_PROGRAM_ID
  · rcases hv : SystemInstruction.unpack instruction.data with e | v
    · simp [tooFewAccounts, hprogram, hv, parse_instruction_unpack_error _ hprogram hv]
    · by_cases hlen : v.accountsRead ≤ instruction.accounts.length
      · simp [tooFewAccounts, hprogram, hv, hlen, parse_instruction_eventOf _ hprogram hv hlen]
      · obtain ⟨k, -, -, hk⟩ := parse_instruction_panics _ hprogram hv (by omega)
        simp [tooFewAccounts, hprogram, hv, hk]; omega
  · simp [tooFewAccounts, hprogram, parse_instruction_not_system _ hprogram]

/-- The all-zero key, whose text is the System Program's id. -/
def zeroKey : Pubkey := ⟨List.replicate 32 0, rfl⟩

/-- The context that maps every index to the all-zero key. -/
def zeroContext : TransactionContext := ⟨fun _ => zeroKey⟩

theorem keyAt_zeroContext (i : Nat) : keyAt zeroContext i = "11111111111111111111111111111111" :=
  (by decide : bs58.encode zeroKey.bytes = "11111111111111111111111111111111")

/-- A `Transfer` of 500 lamports to the System Program, naming the given accounts. -/
def transferOf (accounts : List UInt8) : StructuredInstruction :=
  { program_id_index := 0, accounts, data := encodeLE 4 2 ++ encodeLE 8 500 }

/-- An `AuthorizeNonceAccount` to the System Program, naming the given accounts. On chain it
needs only the nonce account; the helper also reads the authority at position 1. -/
def authorizeOf (accounts : List UInt8) : StructuredInstruction :=
  { program_id_index := 0, accounts, data := encodeLE 4 7 ++ zeroKey.bytes }

/-- A key other than the System Program's. -/
def otherKey : Pubkey := ⟨List.replicate 31 0 ++ [1], by simp⟩

/-- The context that maps index 1 to `otherKey` and every other index to the all-zero key. -/
def twoProgramContext : TransactionContext := ⟨fun i => if i = 1 then otherKey else zeroKey⟩

/-- An instruction of the program at index 1. -/
def otherOf : StructuredInstruction := { program_id_index := 1, accounts := [0], data := [] }

/-- The role table: on a long enough list, the event is named like the variant
and every field sits at its role. -/
theorem parse_instruction_roles (v : SystemInstruction)
    (hprogram : keyAt context instruction.program_id_index.toNat = SYSTEM_PROGRAM_ID)
    (hv : SystemInstruction.unpack instruction.data = .ok v)
    (hlen : v.accountsRead ≤ instruction.accounts.length) :
    ∃ ev, parse_instruction SYSTEM_PROGRAM_ID instruction context = .ok (.ok (some ev)) ∧
      RoleMatch (fun k => bs58.encode
        (context.get_account_from_index (instruction.accounts.getD k 0).toNat).bytes) v ev :=
  ⟨_, parse_instruction_eventOf _ hprogram hv hlen,
    by cases v <;> simp [RoleMatch, eventOf, accountText, keyAt, keyText]⟩

theorem parse_instruction_roles_transfer :
    ∃ ev, parse_instruction "11111111111111111111111111111111" (transferOf [0, 1]) zeroContext =
        .ok (.ok (some ev)) ∧
      RoleMatch (fun k => bs58.encode
        (zeroContext.get_account_from_index ((transferOf [0, 1]).accounts.getD k 0).toNat).bytes)
        (.Transfer ⟨500⟩) ev :=
  parse_instruction_roles _ _ (keyAt_zeroContext 0) (by decide) (by decide)

end outcomes

/-! ## One seed, two renderings -/

section seeds

variable (SYSTEM_PROGRAM_ID : String)
variable {instruction : StructuredInstruction} {context : TransactionContext}

theorem fromUTF8_a : String.fromUTF8? ⟨#[97]⟩ = some "a" := by
  have hdecode : String.utf8DecodeChar? ⟨#[97]⟩ 0 = some 'a' := by decide
  have hend : String.validateUTF8.loop ⟨#[97]⟩ 1 = some () := by
    rw [String.validateUTF8.loop, if_neg (by decide)]; rfl
  have hv : String.validateUTF8 ⟨#[97]⟩ = true := by
    rw [String.validateUTF8, String.validateUTF8.loop, if_pos (by decide), hdecode]
    exact congrArg Option.isSome hend
  have hstop : ∀ acc, String.fromUTF8.loop ⟨#[97]⟩ 1 acc = acc := fun acc => by
    rw [String.fromUTF8.loop, if_neg (by decide)]
  rw [String.fromUTF8?, dif_pos hv, String.fromUTF8, String.fromUTF8.loop, if_pos (by decide),
    hdecode]
  exact congrArg some (hstop _)

/-- An instruction with the data of `AllocateWithSeed` (discriminant 9) or of
`CreateAccountWithSeed` (discriminant 3) with seed `a` and all-zero keys, naming two
accounts. -/
def withSeedA (discriminant : Nat) : StructuredInstruction :=
  { program_id_index := 0, accounts := [0, 0],
    data := encodeLE 4 discriminant ++ zeroKey.bytes ++ (encodeLE 8 1 ++ [97]) ++
      (if discriminant = 3 then encodeLE 8 0 else []) ++ encodeLE 8 0 ++ zeroKey.bytes }

theorem readSeed_a (r : List UInt8) : readSeed (encodeLE 8 1 ++ 97 :: r) = .ok ("a", r) :=
  readSeed_append (b := [97]) rfl fromUTF8_a (by decide) r

theorem readPubkey_zeroKey : readPubkey zeroKey.bytes = .ok (zeroKey, []) := by
  simpa using readPubkey_append zeroKey []

theorem unpack_withSeedA_create : SystemInstruction.unpack (withSeedA 3).data =
    .ok (.CreateAccountWithSeed ⟨zeroKey, "a", UInt64.ofNat 0, UInt64.ofNat 0, zeroKey⟩) := by
  simp only [withSeedA, if_pos, List.append_assoc, SystemInstruction.unpack,
    readU32_encodeLE (by decide : 3 < 2 ^ 32), except_ok_bind]
  rw [SystemInstruction.unpackFields]
  simp [readPubkey_append, readSeed_a, readU64_encodeLE, readPubkey_zeroKey]

theorem unpack_withSeedA_allocate : SystemInstruction.unpack (withSeedA 9).data =
    .ok (.AllocateWithSeed ⟨zeroKey, "a", UInt64.ofNat 0, zeroKey⟩) := by
  simp only [withSeedA, List.append_assoc, SystemInstruction.unpack,
    readU32_encodeLE (by decide : 9 < 2 ^ 32), except_ok_bind]
  rw [SystemInstruction.unpackFields]
  simp [readPubkey_append, readSeed_a, readU64_encodeLE, readPubkey_zeroKey]

/-- The seed `a` reaches the event of `CreateAccountWithSeed` as `a`, and the event of
`AllocateWithSeed` as `2g`, its base-58 text. -/
theorem with_seed_a_renderings :
    (∃ e, parse_instruction "11111111111111111111111111111111" (withSeedA 3) zeroContext =
      .ok (.ok (some (.CreateAccountWithSeed e))) ∧ e.seed = "a") ∧
    (∃ e, parse_instruction "11111111111111111111111111111111" (withSeedA 9) zeroContext =
      .ok (.ok (some (.AllocateWithSeed e))) ∧ e.seed = "2g") :=
  ⟨⟨_, parse_instruction_eventOf _ (keyAt_zeroContext 0) unpack_withSeedA_create (by decide), rfl⟩,
    ⟨_, parse_instruction_eventOf _ (keyAt_zeroContext 0) unpack_withSeedA_allocate (by decide),
      by decide⟩⟩

end seeds

end system_program_substream
