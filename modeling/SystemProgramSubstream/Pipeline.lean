-- The design of the spec as an abstract model: an instruction goes through the
-- filter, the decoder, the resolver and the assembler, and a block keeps the
-- events of its transactions that did not fail. The code computes it, up to its panics.
import SystemProgramSubstream.ParseBlock

namespace system_program_substream

/-! ## The pipeline of the spec -/

/-- The errors of one instruction in the spec that the model can give. The key table of the
model is total, so no lookup is out of range. -/
inductive PipelineError where
  | ProgramMismatch
  | Decode (e : String)
  | AccountArityMismatch
  deriving DecidableEq

section pipeline

variable (SYSTEM_PROGRAM_ID : String)

/-- The resolver, after the spec's words: a list shorter than the arity of the variant fails;
otherwise each role is the text of the key at its position. -/
def resolve (v : SystemInstruction) (instruction : StructuredInstruction)
    (context : TransactionContext) : Except PipelineError (Nat → String) :=
  if instruction.accounts.length < v.accountsRead then .error .AccountArityMismatch
  else .ok (accountText instruction context)

/-- Filter, decode, resolve, assemble. -/
def pipeline (instruction : StructuredInstruction) (context : TransactionContext) :
    Except PipelineError Event := do
  if keyAt context instruction.program_id_index.toNat ≠ SYSTEM_PROGRAM_ID then
    throw .ProgramMismatch
  let v ← (SystemInstruction.unpack instruction.data).mapError .Decode
  let acct ← resolve v instruction context
  pure (eventOf acct v)

/-- The events of a transaction that did not fail: each instruction that the pipeline
accepts, at its position. An instruction that it rejects is skipped. -/
def pipelineEvents (context : TransactionContext) (instructions : List StructuredInstruction) :
    List SystemProgramEvent :=
  instructions.enum.filterMap fun (i, instruction) =>
    match pipeline SYSTEM_PROGRAM_ID instruction context with
    | .ok event => some { instruction_index := UInt32.ofNat i, event := some event }
    | .error _ => none

/-- The entry of the transaction at position `i`: a failed transaction is skipped, and so is
one whose event list is empty. A transaction whose instructions do not structure has no
instruction to give. -/
def pipelineEntry (i : Nat) (transaction : ConfirmedTransaction) :
    Option SystemProgramTransactionEvents :=
  match transaction.meta, get_structured_instructions transaction with
  | some meta, .ok instructions =>
    let events := pipelineEvents SYSTEM_PROGRAM_ID (get_context transaction) instructions.flattened
    if meta.err.isSome || events.isEmpty then none
    else some { signature := get_signature transaction, transaction_index := UInt32.ofNat i,
                events }
  | _, _ => none

/-- The block driver: the entries of the transactions, in order of position. -/
def pipelineBlock (transactions : List ConfirmedTransaction) :
    List SystemProgramTransactionEvents :=
  transactions.enum.filterMap fun (i, transaction) => pipelineEntry SYSTEM_PROGRAM_ID i transaction

end pipeline

/-! ## One instruction -/

section instruction

variable (SYSTEM_PROGRAM_ID : String)

theorem pipeline_cases (instruction : StructuredInstruction) (context : TransactionContext) :
    (keyAt context instruction.program_id_index.toNat ≠ SYSTEM_PROGRAM_ID ∧
      pipeline SYSTEM_PROGRAM_ID instruction context = .error .ProgramMismatch) ∨
    (keyAt context instruction.program_id_index.toNat = SYSTEM_PROGRAM_ID ∧
      ∃ e, SystemInstruction.unpack instruction.data = .error e ∧
        pipeline SYSTEM_PROGRAM_ID instruction context = .error (.Decode e)) ∨
    (keyAt context instruction.program_id_index.toNat = SYSTEM_PROGRAM_ID ∧
      ∃ v, SystemInstruction.unpack instruction.data = .ok v ∧
        v.accountsRead ≤ instruction.accounts.length ∧
        pipeline SYSTEM_PROGRAM_ID instruction context =
          .ok (eventOf (accountText instruction context) v)) ∨
    (keyAt context instruction.program_id_index.toNat = SYSTEM_PROGRAM_ID ∧
      ∃ v, SystemInstruction.unpack instruction.data = .ok v ∧
        instruction.accounts.length < v.accountsRead ∧
        pipeline SYSTEM_PROGRAM_ID instruction context = .error .AccountArityMismatch) := by
  by_cases hprogram : keyAt context instruction.program_id_index.toNat = SYSTEM_PROGRAM_ID
  · rcases hv : SystemInstruction.unpack instruction.data with e | v
    · exact .inr (.inl ⟨hprogram, e, rfl, by simp [pipeline, hprogram, hv, Except.mapError]⟩)
    · by_cases hlen : v.accountsRead ≤ instruction.accounts.length
      · refine .inr (.inr (.inl ⟨hprogram, v, rfl, hlen, ?_⟩))
        simp [pipeline, resolve, hprogram, hv, Except.mapError, Nat.not_lt.mpr hlen]
      · refine .inr (.inr (.inr ⟨hprogram, v, rfl, by omega, ?_⟩))
        simp [pipeline, resolve, hprogram, hv, Except.mapError, Nat.lt_of_not_le hlen]
  · exact .inl ⟨hprogram, by simp [pipeline, hprogram]; rfl⟩

theorem pipeline_eq_arity_iff {instruction : StructuredInstruction}
    {context : TransactionContext} :
    pipeline SYSTEM_PROGRAM_ID instruction context = .error .AccountArityMismatch ↔
      tooFewAccounts SYSTEM_PROGRAM_ID instruction context = true := by
  rcases pipeline_cases SYSTEM_PROGRAM_ID instruction context with
    ⟨hprogram, hp⟩ | ⟨hprogram, e, hv, hp⟩ | ⟨hprogram, v, hv, hlen, hp⟩ |
      ⟨hprogram, v, hv, hlen, hp⟩
  · simp [hp, tooFewAccounts, hprogram]
  · simp [hp, tooFewAccounts, hprogram, hv]
  · simp [hp, tooFewAccounts, hprogram, hv]; omega
  · simp [hp, tooFewAccounts, hprogram, hv, hlen]

/-- `parse_instruction` computes the pipeline of the spec, with its error texts, except that
where the resolver would fail the arity check it panics past the end of the account list. -/
theorem parse_instruction_refines (instruction : StructuredInstruction)
    (context : TransactionContext) :
    match pipeline SYSTEM_PROGRAM_ID instruction context with
    | .ok event => parse_instruction SYSTEM_PROGRAM_ID instruction context = .ok (.ok (some event))
    | .error .ProgramMismatch =>
      parse_instruction SYSTEM_PROGRAM_ID instruction context =
        .ok (.error "Not a System Program instruction.")
    | .error (.Decode e) => parse_instruction SYSTEM_PROGRAM_ID instruction context = .ok (.error e)
    | .error .AccountArityMismatch => ∃ k, instruction.accounts.length ≤ k ∧
      parse_instruction SYSTEM_PROGRAM_ID instruction context =
        .error (.indexOutOfBounds instruction.accounts.length k) := by
  rcases pipeline_cases SYSTEM_PROGRAM_ID instruction context with
    ⟨hprogram, hp⟩ | ⟨hprogram, e, hv, hp⟩ | ⟨hprogram, v, hv, hlen, hp⟩ |
      ⟨hprogram, v, hv, hlen, hp⟩ <;> rw [hp]
  · exact parse_instruction_not_system _ hprogram
  · exact parse_instruction_unpack_error _ hprogram hv
  · exact parse_instruction_eventOf _ hprogram hv hlen
  · obtain ⟨k, hk, -, h⟩ := parse_instruction_panics _ hprogram hv hlen
    exact ⟨k, hk, h⟩

theorem eventAt_eq_pipeline {instruction : StructuredInstruction} {context : TransactionContext}
    {i : Nat} (hsafe : pipeline SYSTEM_PROGRAM_ID instruction context ≠ .error .AccountArityMismatch) :
    eventAt SYSTEM_PROGRAM_ID context i instruction =
      match pipeline SYSTEM_PROGRAM_ID instruction context with
      | .ok event => some { instruction_index := UInt32.ofNat i, event := some event }
      | .error _ => none := by
  rcases pipeline_cases SYSTEM_PROGRAM_ID instruction context with
    ⟨hprogram, hp⟩ | ⟨hprogram, e, hv, hp⟩ | ⟨hprogram, v, hv, hlen, hp⟩ | ⟨-, -, -, -, hp⟩
  · simp [eventAt, hprogram, hp]
  · simp [eventAt, hprogram, hp, parse_instruction_unpack_error _ hprogram hv]
  · simp [eventAt, hprogram, hp, parse_instruction_eventOf _ hprogram hv hlen]
  · exact absurd hp hsafe

end instruction

/-! ## Transactions and blocks -/

section block

variable (SYSTEM_PROGRAM_ID : String)

theorem transactionEvents_eq_pipelineEvents {context : TransactionContext}
    {l : List StructuredInstruction}
    (hsafe : ∀ instruction ∈ l,
      pipeline SYSTEM_PROGRAM_ID instruction context ≠ .error .AccountArityMismatch) :
    transactionEvents SYSTEM_PROGRAM_ID context l = pipelineEvents SYSTEM_PROGRAM_ID context l :=
  List.filterMap_congr fun _ hx => eventAt_eq_pipeline _ (hsafe _ (List.snd_mem_of_mem_enum hx))

/-- No instruction that the block driver reaches in the transaction fails the arity check. -/
def ArityChecked (transaction : ConfirmedTransaction) : Prop :=
  ∀ meta instructions, transaction.meta = some meta → meta.err = none →
    get_structured_instructions transaction = .ok instructions →
    ∀ instruction ∈ instructions.flattened,
      pipeline SYSTEM_PROGRAM_ID instruction (get_context transaction) ≠ .error .AccountArityMismatch

theorem transactionPanics_eq_false_of_arityChecked {transaction : ConfirmedTransaction}
    (hmeta : transaction.meta.isSome) (hsafe : ArityChecked SYSTEM_PROGRAM_ID transaction) :
    transactionPanics SYSTEM_PROGRAM_ID transaction = false :=
  (transactionPanics_eq_false_iff _ hmeta).mpr fun meta instructions hm herr hins instruction hi => by
    simpa using mt (pipeline_eq_arity_iff _).mpr (hsafe meta instructions hm herr hins instruction hi)

theorem entryAt_eq_pipelineEntry {i : Nat} {transaction : ConfirmedTransaction}
    (hmeta : transaction.meta.isSome) (hsafe : ArityChecked SYSTEM_PROGRAM_ID transaction) :
    entryAt SYSTEM_PROGRAM_ID i transaction = pipelineEntry SYSTEM_PROGRAM_ID i transaction := by
  obtain ⟨meta, hm⟩ := Option.isSome_iff_exists.mp hmeta
  rcases herr : meta.err with _ | err
  · rcases hins : get_structured_instructions transaction with e | instructions
    · simp [entryAt, pipelineEntry, hm, hins, parse_transaction_unstructured _ hm herr hins]
    · have hpanic := transactionPanics_eq_false_of_arityChecked _ hmeta hsafe
      simp only [transactionPanics, hm, herr, hins, Option.isNone_none, Bool.true_and,
        List.any_eq_false, Bool.not_eq_true] at hpanic
      rw [entryAt, parse_transaction_eq _ hm herr hins hpanic,
        transactionEvents_eq_pipelineEvents _ (hsafe meta instructions hm herr hins)]
      simp [pipelineEntry, hm, hins, herr]
  · rcases hins : get_structured_instructions transaction <;>
      simp [entryAt, pipelineEntry, hm, herr, hins, parse_transaction_failed _ hm (by simp [herr])]

/-- The handler computes the block driver of the spec on every block whose transactions
carry `meta` and where no instruction that the driver reaches fails the arity check; where
one does, it panics instead of skipping that instruction. -/
theorem system_program_events_refines (block : Block)
    (hmeta : ∀ transaction ∈ block.transactions, transaction.meta.isSome) :
    ((∀ transaction ∈ block.transactions, ArityChecked SYSTEM_PROGRAM_ID transaction) →
      system_program_events SYSTEM_PROGRAM_ID block =
        .ok (.ok { transactions := pipelineBlock SYSTEM_PROGRAM_ID block.transactions })) ∧
    ((∃ transaction ∈ block.transactions, ¬ ArityChecked SYSTEM_PROGRAM_ID transaction) →
      ∃ p, system_program_events SYSTEM_PROGRAM_ID block = .error p) := by
  refine ⟨fun hsafe => ?_, fun ⟨t, ht, hunchecked⟩ => ?_⟩
  · have hpanic : ∀ t ∈ block.transactions, transactionPanics SYSTEM_PROGRAM_ID t = false :=
      fun t ht => transactionPanics_eq_false_of_arityChecked _ (hmeta t ht) (hsafe t ht)
    rw [system_program_events_eq, parse_block_eq _ hpanic, blockEvents,
      List.filterMap_congr fun x hx => entryAt_eq_pipelineEntry _
        (hmeta _ (List.snd_mem_of_mem_enum hx)) (hsafe _ (List.snd_mem_of_mem_enum hx))]
    rfl
  · simp only [ArityChecked, not_forall, not_not] at hunchecked
    obtain ⟨meta, instructions, hm, herr, hins, instruction, hi, hp⟩ := hunchecked
    have hpanic : transactionPanics SYSTEM_PROGRAM_ID t = true := by
      simp only [transactionPanics, hm, herr, hins, Option.isNone_none, Bool.true_and,
        List.any_eq_true]
      exact ⟨instruction, hi, pipeline_eq_arity_iff _ |>.mp hp⟩
    obtain ⟨p, hp⟩ := parse_block_loop_panics SYSTEM_PROGRAM_ID block.transactions 0 [] ⟨t, ht, hpanic⟩
    exact ⟨p, by rw [system_program_events_eq, parse_block, parse_block_run, hp]; rfl⟩

theorem system_program_events_refines_transfer :
    system_program_events "11111111111111111111111111111111"
        ⟨[transactionOf (transferOf [0, 1])]⟩ =
      .ok (.ok ⟨pipelineBlock "11111111111111111111111111111111"
        [transactionOf (transferOf [0, 1])]⟩) :=
  (system_program_events_refines _ ⟨[transactionOf (transferOf [0, 1])]⟩ (by decide)).1
    (by simp only [List.mem_singleton]; rintro _ rfl meta instructions ⟨⟩ - ⟨⟩; decide)

end block

end system_program_substream
