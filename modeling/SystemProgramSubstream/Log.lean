-- What the handler prints. The loop of `parse_transaction` hands each error of
-- `parse_instruction` to `substreams::log::println`; the lines of a block are, in
-- order, the decoding errors of its System Program instructions, up to a panic.
import SystemProgramSubstream.ParseBlock

namespace system_program_substream

/-! ## The lines of the code -/

section lines

variable (SYSTEM_PROGRAM_ID : String)

/-- The lines that `parse_transaction` prints. -/
def parse_transaction_lines (transaction : ConfirmedTransaction) : List String :=
  (parse_transaction_run SYSTEM_PROGRAM_ID transaction).lines

/-- The lines that the handler `system_program_events` prints. -/
def system_program_events_lines (block : Block) : List String :=
  (system_program_events_run SYSTEM_PROGRAM_ID block).lines

/-! ## What they are -/

/-- The decoding error of a System Program instruction whose data does not decode. -/
def decodeError (context : TransactionContext) (instruction : StructuredInstruction) :
    Option String :=
  if keyAt context instruction.program_id_index.toNat = SYSTEM_PROGRAM_ID then
    match SystemInstruction.unpack instruction.data with
    | .error e => some e
    | .ok _ => none
  else none

/-- The decoding errors of the System Program instructions of a transaction that carries
`meta`, did not fail and whose instructions structure, in order, up to the first instruction
with too few accounts. -/
def decodeErrors (transaction : ConfirmedTransaction) : List String :=
  match transaction.meta, get_structured_instructions transaction with
  | some meta, .ok instructions =>
    if meta.err.isSome then []
    else
      (instructions.flattened.takeWhile fun instruction =>
        !tooFewAccounts SYSTEM_PROGRAM_ID instruction (get_context transaction)).filterMap
        (decodeError SYSTEM_PROGRAM_ID (get_context transaction))
  | _, _ => []

end lines

/-! ## One turn, and the runs -/

section run

variable (SYSTEM_PROGRAM_ID : String)
variable {context : TransactionContext} {instruction : StructuredInstruction}

theorem decodeError_of_tooFewAccounts
    (h : tooFewAccounts SYSTEM_PROGRAM_ID instruction context = true) :
    decodeError SYSTEM_PROGRAM_ID context instruction = none := by
  simp only [tooFewAccounts, Bool.and_eq_true, beq_iff_eq] at h
  rcases hv : SystemInstruction.unpack instruction.data with e | v
  · simp [hv] at h
  · simp [decodeError, h.1, hv]

/-- Past the program check, the decoding error is the error that `parse_instruction` returns:
the helpers of the variants return `Ok` or panic. -/
theorem decodeError_eq
    (hprogram : keyAt context instruction.program_id_index.toNat = SYSTEM_PROGRAM_ID) :
    decodeError SYSTEM_PROGRAM_ID context instruction =
      match parse_instruction SYSTEM_PROGRAM_ID instruction context with
      | .ok (.error e) => some e
      | _ => none := by
  rcases hv : SystemInstruction.unpack instruction.data with e | v
  · simp [decodeError, hprogram, hv, parse_instruction_unpack_error _ hprogram hv]
  · by_cases hlen : v.accountsRead ≤ instruction.accounts.length
    · simp [decodeError, hprogram, hv, parse_instruction_eventOf _ hprogram hv hlen]
    · obtain ⟨k, -, -, hk⟩ := parse_instruction_panics _ hprogram hv (by omega)
      simp [decodeError, hprogram, hv, hk]

/-- A turn prints the decoding error of its instruction, if any, and a turn that panics prints
nothing. -/
theorem parse_transaction_step_lines {i : Nat} :
    (parse_transaction_step SYSTEM_PROGRAM_ID context i instruction).lines =
      (decodeError SYSTEM_PROGRAM_ID context instruction).toList := by
  by_cases hprogram : keyAt context instruction.program_id_index.toNat = SYSTEM_PROGRAM_ID
  · rw [decodeError_eq _ hprogram]
    rcases hr : parse_instruction SYSTEM_PROGRAM_ID instruction context with _ | (_ | _) <;>
      simp [parse_transaction_step, hprogram, hr]
  · simp [parse_transaction_step, decodeError, hprogram]

theorem parse_transaction_loop_lines (l : List StructuredInstruction) (n : Nat)
    (events : List SystemProgramEvent) :
    (parse_transaction_loop SYSTEM_PROGRAM_ID context l n events).lines =
      (l.takeWhile fun instruction =>
        !tooFewAccounts SYSTEM_PROGRAM_ID instruction context).filterMap
        (decodeError SYSTEM_PROGRAM_ID context) := by
  induction l generalizing n events with
  | nil => rfl
  | cons x xs ih =>
    rw [parse_transaction_loop, Logged.lines_bind, parse_transaction_step_lines]
    cases h : tooFewAccounts SYSTEM_PROGRAM_ID x context
    · rw [parse_transaction_step_eq _ h]
      dsimp only
      rw [ih, List.takeWhile_cons_of_pos (by simp [h]), List.filterMap_cons]
      cases decodeError SYSTEM_PROGRAM_ID context x <;> rfl
    · obtain ⟨p, hp⟩ := parse_transaction_step_panics SYSTEM_PROGRAM_ID (i := n) h
      rw [hp, decodeError_of_tooFewAccounts _ h, List.takeWhile_cons_of_neg (by simp [h])]
      rfl

theorem parse_transaction_lines_eq (transaction : ConfirmedTransaction) :
    parse_transaction_lines SYSTEM_PROGRAM_ID transaction =
      decodeErrors SYSTEM_PROGRAM_ID transaction := by
  rcases hmeta : transaction.meta with _ | meta
  · simp [parse_transaction_lines, parse_transaction_run, decodeErrors, hmeta, unwrap]
  · rcases herr : meta.err with _ | err <;> rcases hins : get_structured_instructions transaction <;>
      simp [parse_transaction_lines, parse_transaction_run, decodeErrors, hmeta, herr, hins, unwrap]
    split <;> simp [parse_transaction_loop_lines]

theorem parse_block_step_lines {i : Nat} {transaction : ConfirmedTransaction} :
    (parse_block_step SYSTEM_PROGRAM_ID i transaction).lines =
      parse_transaction_lines SYSTEM_PROGRAM_ID transaction := by
  rcases hr : parse_transaction SYSTEM_PROGRAM_ID transaction with p | (e | events) <;>
    simp [parse_block_step, parse_transaction_lines, hr, apply_ite Logged.lines]

theorem parse_block_loop_lines (l : List ConfirmedTransaction) (n : Nat)
    (block_events : List SystemProgramTransactionEvents) :
    (parse_block_loop SYSTEM_PROGRAM_ID l n block_events).lines =
      (l.take (l.findIdx (transactionPanics SYSTEM_PROGRAM_ID) + 1)).flatMap
        (parse_transaction_lines SYSTEM_PROGRAM_ID) := by
  induction l generalizing n block_events with
  | nil => rfl
  | cons t rest ih =>
    rw [parse_block_loop, Logged.lines_bind, parse_block_step_lines, List.findIdx_cons]
    cases h : transactionPanics SYSTEM_PROGRAM_ID t
    · rw [parse_block_step_eq _ h]
      dsimp only
      rw [ih]
      simp
    · obtain ⟨p, hp⟩ := parse_block_step_panics SYSTEM_PROGRAM_ID (i := n) h
      rw [hp]
      simp

end run

/-! ## The lines of a block -/

section block

variable (SYSTEM_PROGRAM_ID : String)

/-- The handler prints, in block order, the decoding errors of the System Program instructions
of each transaction that carries `meta`, did not fail and whose instructions structure, and
nothing else; it stops at the first instruction with too few accounts, where it panics. -/
theorem system_program_events_lines_eq (block : Block) :
    system_program_events_lines SYSTEM_PROGRAM_ID block =
      (block.transactions.take
        (block.transactions.findIdx (transactionPanics SYSTEM_PROGRAM_ID) + 1)).flatMap
        (decodeErrors SYSTEM_PROGRAM_ID) := by
  have hlines : (parse_block_run SYSTEM_PROGRAM_ID block).lines =
      system_program_events_lines SYSTEM_PROGRAM_ID block := by
    rw [system_program_events_lines, system_program_events_run, Logged.lines_bind]
    rcases (parse_block_run SYSTEM_PROGRAM_ID block).result <;> simp
  rw [← hlines, parse_block_run, parse_block_loop_lines]
  exact congrArg _ (funext (parse_transaction_lines_eq SYSTEM_PROGRAM_ID))

end block

/-! ## Events and lines together -/

section reports

variable (SYSTEM_PROGRAM_ID : String)

/-- What the loop of `parse_transaction` reports for the instruction at position `i`: its event,
or the error it prints, or nothing, for another program's instruction or a panic. -/
def reportAt (context : TransactionContext) (i : Nat) (instruction : StructuredInstruction) :
    Option (SystemProgramEvent ⊕ String) :=
  if keyAt context instruction.program_id_index.toNat = SYSTEM_PROGRAM_ID then
    match parse_instruction SYSTEM_PROGRAM_ID instruction context with
    | .ok (.ok event) => some (.inl { instruction_index := UInt32.ofNat i, event })
    | .ok (.error e) => some (.inr e)
    | .error _ => none
  else none

/-- The reports of a flattened instruction list, in order of position. -/
def transactionReports (context : TransactionContext) (instructions : List StructuredInstruction) :
    List (SystemProgramEvent ⊕ String) :=
  instructions.enum.filterMap fun (i, instruction) =>
    reportAt SYSTEM_PROGRAM_ID context i instruction

variable {context : TransactionContext} {instruction : StructuredInstruction} {i : Nat}

theorem reportAt_getLeft :
    (reportAt SYSTEM_PROGRAM_ID context i instruction).bind Sum.getLeft? =
      eventAt SYSTEM_PROGRAM_ID context i instruction := by
  by_cases hprogram : keyAt context instruction.program_id_index.toNat = SYSTEM_PROGRAM_ID
  · rcases hr : parse_instruction SYSTEM_PROGRAM_ID instruction context with _ | (_ | _) <;>
      simp [reportAt, eventAt, hprogram, hr]
  · simp [reportAt, eventAt, hprogram]

theorem reportAt_getRight :
    (reportAt SYSTEM_PROGRAM_ID context i instruction).bind Sum.getRight? =
      decodeError SYSTEM_PROGRAM_ID context instruction := by
  by_cases hprogram : keyAt context instruction.program_id_index.toNat = SYSTEM_PROGRAM_ID
  · rw [decodeError_eq _ hprogram]
    rcases hr : parse_instruction SYSTEM_PROGRAM_ID instruction context with _ | (_ | _) <;>
      simp [reportAt, hprogram, hr]
  · simp [reportAt, decodeError, hprogram]

theorem reportAt_isSome (hsafe : tooFewAccounts SYSTEM_PROGRAM_ID instruction context = false) :
    (reportAt SYSTEM_PROGRAM_ID context i instruction).isSome ↔
      keyAt context instruction.program_id_index.toNat = SYSTEM_PROGRAM_ID := by
  obtain ⟨r, hr⟩ := (parse_instruction_returns_iff SYSTEM_PROGRAM_ID).mpr hsafe
  by_cases hprogram : keyAt context instruction.program_id_index.toNat = SYSTEM_PROGRAM_ID <;>
    rcases r with _ | _ <;> simp [reportAt, hprogram, hr]

/-- Nothing is lost and nothing is told twice: on a transaction that parses, the events and the
printed lines are the two halves of one list of reports in order of position, with one report
for each System Program instruction and none for another: its event, or the error it prints. -/
theorem parse_transaction_reports {transaction : ConfirmedTransaction}
    {events : List SystemProgramEvent}
    (h : parse_transaction SYSTEM_PROGRAM_ID transaction = .ok (.ok events)) :
    ∃ instructions, get_structured_instructions transaction = .ok instructions ∧
      events = (transactionReports SYSTEM_PROGRAM_ID (get_context transaction)
        instructions.flattened).filterMap Sum.getLeft? ∧
      parse_transaction_lines SYSTEM_PROGRAM_ID transaction =
        (transactionReports SYSTEM_PROGRAM_ID (get_context transaction)
          instructions.flattened).filterMap Sum.getRight? ∧
      ∀ i instruction, instructions.flattened[i]? = some instruction →
        ((reportAt SYSTEM_PROGRAM_ID (get_context transaction) i instruction).isSome ↔
          keyAt (get_context transaction) instruction.program_id_index.toNat =
            SYSTEM_PROGRAM_ID) := by
  obtain ⟨meta, instructions, hm, herr, hins, hsafe, rfl⟩ := parse_transaction_ok_eq _ h
  have hall : instructions.flattened.takeWhile (fun instruction =>
      !tooFewAccounts SYSTEM_PROGRAM_ID instruction (get_context transaction)) =
        instructions.flattened :=
    List.takeWhile_eq_self_iff.mpr fun x hx => by simp [hsafe x hx]
  refine ⟨instructions, hins, ?_, ?_, fun i instruction hi =>
    reportAt_isSome _ (hsafe _ (List.getElem?_mem hi))⟩
  · rw [transactionReports, List.filterMap_filterMap, transactionEvents]
    exact List.filterMap_congr fun ⟨_, _⟩ _ => (reportAt_getLeft _).symm
  · rw [parse_transaction_lines_eq, decodeErrors, hm, hins]
    simp only [herr, Option.isSome_none, Bool.false_eq_true, ite_false, hall]
    conv_lhs => rw [← List.enum_map_snd instructions.flattened]
    rw [List.filterMap_map, transactionReports, List.filterMap_filterMap]
    exact List.filterMap_congr fun ⟨_, _⟩ _ => (reportAt_getRight _).symm

/-- A System Program instruction whose data does not decode. -/
def undecodedOf : StructuredInstruction := { program_id_index := 0, accounts := [], data := [] }

theorem parse_transaction_reports_undecoded :
    ∃ instructions, get_structured_instructions
        (transactionWith [transferOf [0, 1], otherOf, undecodedOf]) = .ok instructions ∧
      transactionEvents "11111111111111111111111111111111" twoProgramContext
          [transferOf [0, 1], otherOf, undecodedOf] =
        (transactionReports "11111111111111111111111111111111" twoProgramContext
          instructions.flattened).filterMap Sum.getLeft? ∧
      parse_transaction_lines "11111111111111111111111111111111"
          (transactionWith [transferOf [0, 1], otherOf, undecodedOf]) =
        (transactionReports "11111111111111111111111111111111" twoProgramContext
          instructions.flattened).filterMap Sum.getRight? ∧
      ∀ i instruction, instructions.flattened[i]? = some instruction →
        ((reportAt "11111111111111111111111111111111" twoProgramContext i instruction).isSome ↔
          keyAt twoProgramContext instruction.program_id_index.toNat =
            "11111111111111111111111111111111") :=
  parse_transaction_reports _ (by decide)

end reports

end system_program_substream
