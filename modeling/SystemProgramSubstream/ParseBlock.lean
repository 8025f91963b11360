-- `parse_block` and the handler `system_program_events`. The block loop keeps
-- one entry for each transaction that parses to a non-empty event list, keyed
-- by its position; a panic in any transaction aborts the whole block.
import SystemProgramSubstream.ParseTransaction

namespace system_program_substream

/-! ## The code -/

section parse

variable (SYSTEM_PROGRAM_ID : String)

/-- One turn of the loop of `parse_block`, at position `i`: the entry it pushes, if any. -/
def parse_block_step (i : Nat) (transaction : ConfirmedTransaction) :
    Logged (Option SystemProgramTransactionEvents) := do
  match ← parse_transaction_run SYSTEM_PROGRAM_ID transaction with
  | .ok events =>
    if !events.isEmpty then
      pure (some { signature := get_signature transaction, transaction_index := UInt32.ofNat i,
                   events })
    else pure none
  | .error _ => pure none

/-- `for (i, transaction) in block.transactions.iter().enumerate()`, from position `i` with
the entries pushed so far. -/
def parse_block_loop : List ConfirmedTransaction → Nat → List SystemProgramTransactionEvents →
    Logged (List SystemProgramTransactionEvents)
  | [], _, block_events => pure block_events
  | transaction :: rest, i, block_events => do
    let pushed ← parse_block_step SYSTEM_PROGRAM_ID i transaction
    parse_block_loop rest (i + 1) (block_events ++ pushed.toList)

/-- A run of `parse_block`. -/
def parse_block_run (block : Block) : Logged (List SystemProgramTransactionEvents) :=
  parse_block_loop SYSTEM_PROGRAM_ID block.transactions 0 []

/-- What `parse_block` returns, or its panic. -/
def parse_block (block : Block) : Except Panic (List SystemProgramTransactionEvents) :=
  (parse_block_run SYSTEM_PROGRAM_ID block).result

/-- A run of the map handler `system_program_events`; its error type
`substreams::errors::Error` is taken as text. -/
def system_program_events_run (block : Block) :
    Logged (Except String SystemProgramBlockEvents) := do
  let transactions ← parse_block_run SYSTEM_PROGRAM_ID block
  pure (.ok { transactions })

/-- What the handler returns, or its panic. -/
def system_program_events (block : Block) :
    Except Panic (Except String SystemProgramBlockEvents) :=
  (system_program_events_run SYSTEM_PROGRAM_ID block).result

theorem parse_block_run_result (block : Block) :
    (parse_block_run SYSTEM_PROGRAM_ID block).result = parse_block SYSTEM_PROGRAM_ID block := rfl

/-! ## The spec -/

/-- The entry of the transaction at position `i`, if the loop pushes one. -/
def entryAt (i : Nat) (transaction : ConfirmedTransaction) :
    Option SystemProgramTransactionEvents :=
  match parse_transaction SYSTEM_PROGRAM_ID transaction with
  | .ok (.ok events) =>
    if events.isEmpty then none
    else some { signature := get_signature transaction, transaction_index := UInt32.ofNat i,
                events }
  | _ => none

/-- The entries of a block: the order-preserving filter of the positions of the transactions
that parse to a non-empty event list. -/
def blockEvents (transactions : List ConfirmedTransaction) :
    List SystemProgramTransactionEvents :=
  transactions.enum.filterMap fun (i, transaction) => entryAt SYSTEM_PROGRAM_ID i transaction

end parse

/-! ## One turn, and the run of the loop -/

section run

variable (SYSTEM_PROGRAM_ID : String) {transaction : ConfirmedTransaction} {i : Nat}

theorem parse_block_step_eq (hsafe : transactionPanics SYSTEM_PROGRAM_ID transaction = false) :
    (parse_block_step SYSTEM_PROGRAM_ID i transaction).result =
      .ok (entryAt SYSTEM_PROGRAM_ID i transaction) := by
  obtain ⟨r, hr⟩ := (parse_transaction_returns_iff SYSTEM_PROGRAM_ID).mpr hsafe
  rcases r with _ | events
  · simp [parse_block_step, entryAt, hr]
  · rcases events with _ | ⟨ev, evs⟩ <;> simp [parse_block_step, entryAt, hr]

theorem parse_block_step_panics (hpanic : transactionPanics SYSTEM_PROGRAM_ID transaction = true) :
    ∃ p, (parse_block_step SYSTEM_PROGRAM_ID i transaction).result = .error p := by
  obtain ⟨p, hp⟩ := except_exists_error (x := parse_transaction SYSTEM_PROGRAM_ID transaction)
    fun h => by simp [(parse_transaction_returns_iff SYSTEM_PROGRAM_ID).mp h] at hpanic
  exact ⟨p, by simp [parse_block_step, hp]⟩

theorem parse_block_loop_eq (l : List ConfirmedTransaction) (n : Nat)
    (block_events : List SystemProgramTransactionEvents)
    (hsafe : ∀ transaction ∈ l, transactionPanics SYSTEM_PROGRAM_ID transaction = false) :
    (parse_block_loop SYSTEM_PROGRAM_ID l n block_events).result =
      .ok (block_events ++ (l.enumFrom n).filterMap fun (i, transaction) =>
        entryAt SYSTEM_PROGRAM_ID i transaction) := by
  induction l generalizing n block_events with
  | nil => simp [parse_block_loop]
  | cons x xs ih =>
    simp only [List.mem_cons, forall_eq_or_imp] at hsafe
    rw [parse_block_loop, Logged.result_bind, parse_block_step_eq _ hsafe.1, except_ok_bind,
      ih _ _ hsafe.2, List.enumFrom_cons, List.filterMap_cons]
    rcases h : entryAt SYSTEM_PROGRAM_ID n x <;> simp [h]

theorem parse_block_loop_panics (l : List ConfirmedTransaction) (n : Nat)
    (block_events : List SystemProgramTransactionEvents)
    (hpanic : ∃ transaction ∈ l, transactionPanics SYSTEM_PROGRAM_ID transaction = true) :
    ∃ p, (parse_block_loop SYSTEM_PROGRAM_ID l n block_events).result = .error p := by
  induction l generalizing n block_events with
  | nil => simp at hpanic
  | cons x xs ih =>
    rw [parse_block_loop, Logged.result_bind]
    by_cases hx : transactionPanics SYSTEM_PROGRAM_ID x = true
    · obtain ⟨p, hp⟩ := parse_block_step_panics SYSTEM_PROGRAM_ID (i := n) hx
      exact ⟨p, by rw [hp]; rfl⟩
    · rw [parse_block_step_eq _ (by simpa using hx), except_ok_bind]
      exact ih _ _ (by simpa [hx] using hpanic)

end run

section outcomes

variable (SYSTEM_PROGRAM_ID : String) {block : Block}

theorem parse_block_eq
    (hsafe : ∀ transaction ∈ block.transactions, transactionPanics SYSTEM_PROGRAM_ID transaction = false) :
    parse_block SYSTEM_PROGRAM_ID block = .ok (blockEvents SYSTEM_PROGRAM_ID block.transactions) := by
  simp [parse_block, parse_block_run, parse_block_loop_eq _ _ _ _ hsafe, blockEvents,
    List.enum_eq_enumFrom]

theorem parse_block_returns_iff :
    (∃ r, parse_block SYSTEM_PROGRAM_ID block = .ok r) ↔
      ∀ transaction ∈ block.transactions, transactionPanics SYSTEM_PROGRAM_ID transaction = false := by
  by_cases hsafe : ∀ transaction ∈ block.transactions, transactionPanics SYSTEM_PROGRAM_ID transaction = false
  · exact ⟨fun _ => hsafe, fun _ => ⟨_, parse_block_eq _ hsafe⟩⟩
  · obtain ⟨p, hp⟩ := parse_block_loop_panics SYSTEM_PROGRAM_ID block.transactions 0 []
      (by simpa using hsafe)
    simp [parse_block, parse_block_run, hp, hsafe]

theorem entryAt_eq_some {i : Nat} {transaction : ConfirmedTransaction}
    {entry : SystemProgramTransactionEvents} (h : entryAt SYSTEM_PROGRAM_ID i transaction = some entry) :
    parse_transaction SYSTEM_PROGRAM_ID transaction = .ok (.ok entry.events) ∧ entry.events ≠ [] ∧
      entry.signature = get_signature transaction ∧ entry.transaction_index = UInt32.ofNat i := by
  rcases hr : parse_transaction SYSTEM_PROGRAM_ID transaction with _ | (_ | events) <;>
    simp [entryAt, hr] at h
  obtain ⟨hne, rfl⟩ := h
  exact ⟨rfl, hne, rfl, rfl⟩

/-- Below `2 ^ 32` positions, an entry carries its own position. -/
theorem entryAt_index {i : Nat} {transaction : ConfirmedTransaction}
    {entry : SystemProgramTransactionEvents} (hi : i < 2 ^ 32)
    (h : entryAt SYSTEM_PROGRAM_ID i transaction = some entry) : entry.transaction_index.toNat = i := by
  rw [(entryAt_eq_some _ h).2.2.2, UInt32.toNat_ofNat_of_lt (by simpa [UInt32.size] using hi)]

/-- The transactions that `parse_transaction` does not panic on, among those that carry
`meta`: a transaction that did not fail and whose instructions structure holds no System
Program instruction with too few accounts. -/
theorem transactionPanics_eq_false_iff {transaction : ConfirmedTransaction}
    (hmeta : transaction.meta.isSome) :
    transactionPanics SYSTEM_PROGRAM_ID transaction = false ↔
      ∀ meta instructions, transaction.meta = some meta → meta.err = none →
        get_structured_instructions transaction = .ok instructions →
        ∀ instruction ∈ instructions.flattened,
          tooFewAccounts SYSTEM_PROGRAM_ID instruction (get_context transaction) = false := by
  obtain ⟨meta, hm⟩ := Option.isSome_iff_exists.mp hmeta
  rcases herr : meta.err with _ | err
  · rcases hins : get_structured_instructions transaction <;>
      simp [transactionPanics, hm, herr, hins]
  · simp only [transactionPanics, hm, herr, Option.isNone_some, Bool.false_and, true_iff]
    rintro _ _ ⟨⟩ h
    simp [herr] at h

end outcomes

/-! ## The entries of a block -/

section entries

variable (SYSTEM_PROGRAM_ID : String)

theorem blockEvents_sorted {l : List ConfirmedTransaction} (hsize : l.length < 2 ^ 32) :
    ((blockEvents SYSTEM_PROGRAM_ID l).map (·.transaction_index.toNat)).Pairwise (· < ·) :=
  filterMap_enumFrom_sorted l 0 fun _ _ _ hi h => entryAt_index _ (by omega) h

theorem mem_blockEvents {l : List ConfirmedTransaction} (hsize : l.length < 2 ^ 32)
    {entry : SystemProgramTransactionEvents} (h : entry ∈ blockEvents SYSTEM_PROGRAM_ID l) :
    ∃ transaction, l[entry.transaction_index.toNat]? = some transaction ∧
      parse_transaction SYSTEM_PROGRAM_ID transaction = .ok (.ok entry.events) ∧
      entry.events ≠ [] ∧ entry.signature = get_signature transaction := by
  obtain ⟨⟨i, transaction⟩, hmem, hentry⟩ := List.mem_filterMap.mp h
  obtain ⟨hparse, hne, hsig, -⟩ := entryAt_eq_some _ hentry
  have hi := List.fst_lt_of_mem_enum hmem
  rw [entryAt_index _ (by simp at hi; omega) hentry]
  exact ⟨transaction, List.mem_enum_iff_getElem?.mp hmem, hparse, hne, hsig⟩

theorem blockEvents_filter_congr {l l' : List ConfirmedTransaction} {j : Nat}
    (hsize : l.length < 2 ^ 32) (hlen : l'.length = l.length) (hsame : ∀ i ≠ j, l'[i]? = l[i]?) :
    (blockEvents SYSTEM_PROGRAM_ID l').filter (·.transaction_index.toNat ≠ j) =
      (blockEvents SYSTEM_PROGRAM_ID l).filter (·.transaction_index.toNat ≠ j) :=
  filterMap_enum_filter_key_ne hlen hsame fun _ _ _ hi h => entryAt_index _ (by omega) h

/-- A failed transaction: its `meta` carries an error. -/
def failedOf (transaction : ConfirmedTransaction) : ConfirmedTransaction :=
  { transaction with meta := some ⟨some ⟨[]⟩⟩ }

/-- A block of a failed transaction, a transaction whose one instruction is another program's,
and a transaction with the instructions `[A, B, C]`. -/
def mixedBlock : Block :=
  ⟨[failedOf (transactionWith instructionsABC), transactionWith [otherOf],
    transactionWith instructionsABC]⟩

/-- The entries of a block whose transactions carry `meta` and hold no System Program
instruction with too few accounts where it would be parsed: one entry, in order of position,
for each transaction that parses to a non-empty event list, and no other. -/
theorem parse_block_entries (block : Block) (hsize : block.transactions.length < 2 ^ 32)
    (hmeta : ∀ transaction ∈ block.transactions, transaction.meta.isSome)
    (hshort : ∀ transaction ∈ block.transactions, ∀ meta instructions,
      transaction.meta = some meta → meta.err = none →
      get_structured_instructions transaction = .ok instructions →
      ∀ instruction ∈ instructions.flattened,
        tooFewAccounts SYSTEM_PROGRAM_ID instruction (get_context transaction) = false) :
    ∃ entries, parse_block SYSTEM_PROGRAM_ID block = .ok entries ∧
      entries = blockEvents SYSTEM_PROGRAM_ID block.transactions ∧
      (entries.map (·.transaction_index.toNat)).Pairwise (· < ·) ∧
      ∀ entry ∈ entries, ∃ transaction meta instructions,
        block.transactions[entry.transaction_index.toNat]? = some transaction ∧
        parse_transaction SYSTEM_PROGRAM_ID transaction = .ok (.ok entry.events) ∧
        entry.events ≠ [] ∧ entry.signature = get_signature transaction ∧
        transaction.meta = some meta ∧ meta.err = none ∧
        get_structured_instructions transaction = .ok instructions := by
  have hsafe : ∀ transaction ∈ block.transactions,
      transactionPanics SYSTEM_PROGRAM_ID transaction = false := fun t ht =>
    (transactionPanics_eq_false_iff _ (hmeta t ht)).mpr (hshort t ht)
  refine ⟨_, parse_block_eq _ hsafe, rfl, blockEvents_sorted _ hsize, fun entry hentry => ?_⟩
  obtain ⟨transaction, hget, hparse, hne, hsig⟩ := mem_blockEvents _ hsize hentry
  obtain ⟨meta, instructions, hm, herr, hins⟩ := parse_transaction_ok_ok _ hparse
  exact ⟨transaction, meta, instructions, hget, hparse, hne, hsig, hm, herr, hins⟩

/-- Of `mixedBlock`, only the last transaction has an entry, at position 2. -/
theorem parse_block_entries_mixed :
    ∃ entries, parse_block "11111111111111111111111111111111" mixedBlock = .ok entries ∧
      entries.map (·.transaction_index.toNat) = [2] :=
  (parse_block_entries _ mixedBlock (by decide) (by decide) fun t ht =>
    (transactionPanics_eq_false_iff _ ((by decide : ∀ t ∈ mixedBlock.transactions,
      t.meta.isSome) t ht)).mp ((by decide : ∀ t ∈ mixedBlock.transactions,
        transactionPanics "11111111111111111111111111111111" t = false) t ht)).imp
    fun _ h => ⟨h.1, by rw [h.2.1]; decide⟩

/-- A transaction changes no entry but its own: two blocks that differ only at position `j`,
and on which `parse_block` returns, give the same entries at every other position. -/
theorem parse_block_isolation (block block' : Block) (j : Nat)
    (hsize : block.transactions.length < 2 ^ 32)
    (hlen : block'.transactions.length = block.transactions.length)
    (hsame : ∀ i ≠ j, block'.transactions[i]? = block.transactions[i]?)
    (hsafe : ∀ transaction ∈ block.transactions,
      transactionPanics SYSTEM_PROGRAM_ID transaction = false)
    (hsafe' : ∀ transaction ∈ block'.transactions,
      transactionPanics SYSTEM_PROGRAM_ID transaction = false) :
    ∃ entries entries', parse_block SYSTEM_PROGRAM_ID block = .ok entries ∧
      parse_block SYSTEM_PROGRAM_ID block' = .ok entries' ∧
      entries'.filter (·.transaction_index.toNat ≠ j) =
        entries.filter (·.transaction_index.toNat ≠ j) :=
  ⟨_, _, parse_block_eq _ hsafe, parse_block_eq _ hsafe',
    blockEvents_filter_congr _ hsize hlen hsame⟩

theorem parse_block_isolation_failed :
    ∃ entries entries', parse_block "11111111111111111111111111111111"
        ⟨[transactionOf (transferOf [0, 1]), transactionOf (transferOf [0, 1])]⟩ = .ok entries ∧
      parse_block "11111111111111111111111111111111"
        ⟨[transactionOf (transferOf [0, 1]), failedOf (transactionOf (transferOf [0, 1]))]⟩ =
          .ok entries' ∧
      entries'.filter (·.transaction_index.toNat ≠ 1) =
        entries.filter (·.transaction_index.toNat ≠ 1) :=
  parse_block_isolation _ _ _ 1 (by decide) rfl
    (fun i hi => by rcases i with _ | _ | i <;> simp at hi ⊢) (by decide) (by decide)

/-- `parse_block` does not return on a block whose one transaction holds an
`AuthorizeNonceAccount` naming only the nonce account. -/
theorem parse_block_short_authorize :
    (∀ transaction ∈ [transactionOf (authorizeOf [0])], transaction.meta.isSome) ∧
      parse_block "11111111111111111111111111111111" ⟨[transactionOf (authorizeOf [0])]⟩ =
        .error (.indexOutOfBounds 1 1) := by
  decide

end entries

/-! ## The handler -/

section handler

variable (SYSTEM_PROGRAM_ID : String) {block : Block}

/-- The handler wraps the entries of `parse_block` in `Ok`, and panics where it panics. -/
theorem system_program_events_eq :
    system_program_events SYSTEM_PROGRAM_ID block =
      (fun transactions => .ok { transactions }) <$> parse_block SYSTEM_PROGRAM_ID block := by
  rw [system_program_events, system_program_events_run, Logged.result_bind, parse_block_run_result]
  rcases parse_block SYSTEM_PROGRAM_ID block with p | r <;> rfl

/-- The handler returns, and then with `Ok`, exactly when no transaction that did not fail
and whose instructions structure holds a System Program instruction with too few accounts;
on such an instruction `parse_instruction` indexes past the end of the list and panics. -/
theorem system_program_events_returns_iff (block : Block)
    (hmeta : ∀ transaction ∈ block.transactions, transaction.meta.isSome) :
    ((∃ r, system_program_events SYSTEM_PROGRAM_ID block = .ok r) ↔
      ∀ transaction ∈ block.transactions, ∀ meta instructions,
        transaction.meta = some meta → meta.err = none →
        get_structured_instructions transaction = .ok instructions →
        ∀ instruction ∈ instructions.flattened,
          tooFewAccounts SYSTEM_PROGRAM_ID instruction (get_context transaction) = false) ∧
    (∀ r, system_program_events SYSTEM_PROGRAM_ID block = .ok r → ∃ events, r = .ok events) ∧
    ∀ (instruction : StructuredInstruction) (context : TransactionContext) (v : SystemInstruction),
      keyAt context instruction.program_id_index.toNat = SYSTEM_PROGRAM_ID →
      SystemInstruction.unpack instruction.data = .ok v →
      instruction.accounts.length < v.accountsRead →
      ∃ k, instruction.accounts.length ≤ k ∧ k < v.accountsRead ∧
        parse_instruction SYSTEM_PROGRAM_ID instruction context =
          .error (.indexOutOfBounds instruction.accounts.length k) := by
  have hreturns : (∃ r, system_program_events SYSTEM_PROGRAM_ID block = .ok r) ↔
      ∃ entries, parse_block SYSTEM_PROGRAM_ID block = .ok entries := by
    rw [system_program_events_eq]
    rcases parse_block SYSTEM_PROGRAM_ID block <;> simp [Functor.map, Except.map]
  refine ⟨?_, fun r h => ?_, fun _ _ _ => parse_instruction_panics _⟩
  · rw [hreturns, parse_block_returns_iff]
    exact forall₂_congr fun t ht => transactionPanics_eq_false_iff _ (hmeta t ht)
  · rw [system_program_events_eq] at h
    rcases hb : parse_block SYSTEM_PROGRAM_ID block <;> simp [hb, Functor.map, Except.map] at h
    exact ⟨_, h.symm⟩

theorem system_program_events_returns_iff_transfer :
    ∃ r, system_program_events "11111111111111111111111111111111"
      ⟨[transactionOf (transferOf [0, 1])]⟩ = .ok r :=
  ((system_program_events_returns_iff _ ⟨[transactionOf (transferOf [0, 1])]⟩
    (by decide)).1.mpr
    (by simp only [List.mem_singleton]; rintro _ rfl meta instructions ⟨⟩ - ⟨⟩; decide))

/-- The handler does not return on a block whose one transaction holds an
`AuthorizeNonceAccount` naming only the nonce account, and `parse_instruction` panics on that
instruction instead of returning `Err`. -/
theorem system_program_events_short_authorize :
    (∀ transaction ∈ [transactionOf (authorizeOf [0])], transaction.meta.isSome) ∧
      system_program_events "11111111111111111111111111111111"
        ⟨[transactionOf (authorizeOf [0])]⟩ = .error (.indexOutOfBounds 1 1) ∧
      parse_instruction "11111111111111111111111111111111" (authorizeOf [0]) zeroContext =
        .error (.indexOutOfBounds 1 1) := by
  decide

/-- The events of a block come out in the order the instructions ran: by the position of their
transaction, then by their own position in it, so no two carry the same pair of positions. -/
theorem system_program_events_ordered (block : Block)
    (hsize : block.transactions.length < 2 ^ 32)
    (hflat : ∀ transaction ∈ block.transactions, ∀ instructions,
      get_structured_instructions transaction = .ok instructions →
      instructions.flattened.length < 2 ^ 32)
    (hsafe : ∀ transaction ∈ block.transactions,
      transactionPanics SYSTEM_PROGRAM_ID transaction = false) :
    ∃ out, system_program_events SYSTEM_PROGRAM_ID block = .ok (.ok out) ∧
      (out.transactions.flatMap fun entry => entry.events.map fun ev =>
        (entry.transaction_index.toNat, ev.instruction_index.toNat)).Pairwise
        (Prod.Lex (· < ·) (· < ·)) := by
  refine ⟨⟨blockEvents SYSTEM_PROGRAM_ID block.transactions⟩,
    by rw [system_program_events_eq, parse_block_eq _ hsafe]; rfl, List.pairwise_flatMap.mpr ⟨?_, ?_⟩⟩
  · intro entry hentry
    obtain ⟨transaction, hget, hparse, -⟩ := mem_blockEvents _ hsize hentry
    obtain ⟨-, instructions, -, -, hins, -, hevents⟩ := parse_transaction_ok_eq _ hparse
    rw [hevents, List.pairwise_map]
    exact (List.pairwise_map.mp (transactionEvents_sorted _
      (hflat transaction (List.getElem?_mem hget) instructions hins))).imp (Prod.Lex.right _)
  · refine (List.pairwise_map.mp (blockEvents_sorted _ hsize)).imp fun hlt => ?_
    simp only [List.mem_map]
    rintro _ ⟨_, -, rfl⟩ _ ⟨_, -, rfl⟩
    exact Prod.Lex.left _ _ hlt

theorem system_program_events_ordered_transfer :
    ∃ out, system_program_events "11111111111111111111111111111111"
      ⟨[transactionOf (transferOf [0, 1])]⟩ = .ok (.ok out) :=
  (system_program_events_ordered _ ⟨[transactionOf (transferOf [0, 1])]⟩ (by decide)
    (by simp only [List.mem_singleton]; rintro _ rfl instructions ⟨⟩; decide) (by decide)).imp
    fun _ h => h.1

end handler

/-! ## Joining blocks -/

section join

variable (SYSTEM_PROGRAM_ID : String)

/-- An entry read `k` positions further on, as the `i as u32` of a longer loop gives it. -/
def shiftEntry (k : Nat) (entry : SystemProgramTransactionEvents) :
    SystemProgramTransactionEvents :=
  { entry with transaction_index := entry.transaction_index + UInt32.ofNat k }

/-- `as u32` wraps, so it turns a sum of positions into a wrapping sum. -/
theorem uint32_ofNat_add (a b : Nat) : UInt32.ofNat (a + b) = UInt32.ofNat a + UInt32.ofNat b :=
  congrArg UInt32.mk (BitVec.ofNat_add a b)

theorem parse_block_step_shift (i k : Nat) (transaction : ConfirmedTransaction) :
    (parse_block_step SYSTEM_PROGRAM_ID (i + k) transaction).result =
      Option.map (shiftEntry k) <$> (parse_block_step SYSTEM_PROGRAM_ID i transaction).result := by
  rcases hr : parse_transaction SYSTEM_PROGRAM_ID transaction with p | (e | (_ | ⟨ev, evs⟩)) <;>
    simp [parse_block_step, hr, shiftEntry, uint32_ofNat_add]

/-- The loop only appends to the entries it is given. -/
theorem parse_block_loop_acc (l : List ConfirmedTransaction) (n : Nat)
    (acc : List SystemProgramTransactionEvents) :
    (parse_block_loop SYSTEM_PROGRAM_ID l n acc).result =
      (acc ++ ·) <$> (parse_block_loop SYSTEM_PROGRAM_ID l n []).result := by
  induction l generalizing n acc with
  | nil => simp [parse_block_loop]
  | cons t rest ih =>
    simp only [parse_block_loop, Logged.result_bind]
    rcases (parse_block_step SYSTEM_PROGRAM_ID n t).result with p | pushed
    · rfl
    · rw [except_ok_bind, except_ok_bind, ih, ih _ ([] ++ pushed.toList)]
      rcases (parse_block_loop SYSTEM_PROGRAM_ID rest (n + 1) []).result <;> simp

/-- A loop started `k` positions further on moves every position it emits by `k`. -/
theorem parse_block_loop_shift (l : List ConfirmedTransaction) (n k : Nat) :
    (parse_block_loop SYSTEM_PROGRAM_ID l (n + k) []).result =
      List.map (shiftEntry k) <$> (parse_block_loop SYSTEM_PROGRAM_ID l n []).result := by
  induction l generalizing n with
  | nil => rfl
  | cons t rest ih =>
    simp only [parse_block_loop, Logged.result_bind, parse_block_step_shift]
    rcases (parse_block_step SYSTEM_PROGRAM_ID n t).result with p | pushed
    · rfl
    · rw [except_fmap_ok, except_ok_bind, except_ok_bind, parse_block_loop_acc,
        Nat.add_right_comm, ih, parse_block_loop_acc _ _ _ ([] ++ pushed.toList)]
      rcases (parse_block_loop SYSTEM_PROGRAM_ID rest (n + 1) []).result <;> cases pushed <;> simp

theorem parse_block_loop_append (l l' : List ConfirmedTransaction) (n : Nat)
    (acc : List SystemProgramTransactionEvents) :
    (parse_block_loop SYSTEM_PROGRAM_ID (l ++ l') n acc).result =
      (parse_block_loop SYSTEM_PROGRAM_ID l n acc).result >>= fun entries =>
        (parse_block_loop SYSTEM_PROGRAM_ID l' (n + l.length) entries).result := by
  induction l generalizing n acc with
  | nil => rfl
  | cons t rest ih =>
    rw [List.cons_append, parse_block_loop, parse_block_loop, Logged.result_bind,
      Logged.result_bind, List.length_cons]
    rcases (parse_block_step SYSTEM_PROGRAM_ID n t).result with p | pushed
    · rfl
    · rw [except_ok_bind, except_ok_bind, ih, Nat.add_right_comm, Nat.add_assoc]

/-- The block loop composes over the transactions: a block read in two parts gives the entries
of the first part, then those of the second with their positions moved past the first (wrapping
as `i as u32` does), and a panic in either part is the panic of the whole. -/
theorem parse_block_append (l l' : List ConfirmedTransaction) :
    parse_block SYSTEM_PROGRAM_ID ⟨l ++ l'⟩ = (do
      let entries ← parse_block SYSTEM_PROGRAM_ID ⟨l⟩
      let entries' ← parse_block SYSTEM_PROGRAM_ID ⟨l'⟩
      pure (entries ++ entries'.map (shiftEntry l.length))) := by
  simp only [parse_block, parse_block_run, parse_block_loop_append]
  rcases (parse_block_loop SYSTEM_PROGRAM_ID l 0 []).result with p | entries
  · rfl
  · rw [except_ok_bind, except_ok_bind, parse_block_loop_acc _ l' _ entries,
      parse_block_loop_shift]
    rcases (parse_block_loop SYSTEM_PROGRAM_ID l' 0 []).result <;> rfl

end join

end system_program_substream
