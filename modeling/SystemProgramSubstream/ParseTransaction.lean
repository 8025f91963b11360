-- `parse_transaction`: the loop over the flattened instructions. Each turn
-- pushes at most one event, for a System Program instruction that parses, so
-- the run is the order-preserving filter of the positions, when no turn panics.
import SystemProgramSubstream.ParseInstruction

namespace system_program_substream

/-! ## Filters over positions

Both loops of the code emit, for each position of a list in turn, zero or one record. -/

section positions

variable {α β : Type} {f : Nat × α → Option β}

/-- Records keyed by their position come out in increasing order of key. -/
theorem filterMap_enumFrom_sorted {key : β → Nat} (l : List α) (n : Nat)
    (hkey : ∀ i a b, i < n + l.length → f (i, a) = some b → key b = i) :
    (((l.enumFrom n).filterMap f).map key).Pairwise (· < ·) := by
  induction l generalizing n with
  | nil => simp
  | cons x xs ih =>
    have ih' := ih (n + 1) fun i a b hi => hkey i a b (by simp at hi ⊢; omega)
    rw [List.enumFrom_cons, List.filterMap_cons]
    rcases hx : f (n, x) with _ | b
    · exact ih'
    · rw [List.map_cons, List.pairwise_cons]
      refine ⟨?_, ih'⟩
      simp only [List.mem_map, List.mem_filterMap]
      rintro _ ⟨b', ⟨⟨i, a⟩, hmem, hb'⟩, rfl⟩
      have hlt := List.fst_lt_add_of_mem_enumFrom hmem
      have hle := List.le_fst_of_mem_enumFrom hmem
      simp only [List.length_cons] at hkey hlt hle
      rw [hkey n x b (by omega) hx, hkey i a b' (by omega) hb']
      omega

/-- What survives a filter depends only on the positions whose records can survive it. -/
theorem filter_filterMap_enumFrom_congr {p : β → Bool} {l l' : List α} {n : Nat}
    (hlen : l.length = l'.length)
    (h : ∀ i a a', l[i]? = some a → l'[i]? = some a' →
      (f (n + i, a)).filter p = (f (n + i, a')).filter p) :
    ((l.enumFrom n).filterMap f).filter p = ((l'.enumFrom n).filterMap f).filter p := by
  rw [List.filter_filterMap, List.filter_filterMap]
  induction l generalizing l' n with
  | nil => cases l' <;> simp_all
  | cons x xs ih =>
    cases l' with
    | nil => simp at hlen
    | cons x' xs' =>
      simp only [List.enumFrom_cons, List.filterMap_cons]
      rw [show (f (n, x)).filter p = (f (n, x')).filter p by simpa using h 0 x x' (by simp) (by simp),
        ih (by simpa using hlen) fun i a a' ha ha' => by
          simpa [Nat.add_assoc, Nat.add_comm 1] using h (i + 1) a a' (by simpa using ha)
            (by simpa using ha')]

/-- Records keyed by their position: two lists that differ only at position `j` give the same
records once those keyed `j` are dropped. -/
theorem filterMap_enum_filter_key_ne {key : β → Nat} {l l' : List α} {j : Nat}
    (hlen : l'.length = l.length) (hsame : ∀ i ≠ j, l'[i]? = l[i]?)
    (hkey : ∀ i a b, i < l.length → f (i, a) = some b → key b = i) :
    (l'.enum.filterMap f).filter (key · ≠ j) = (l.enum.filterMap f).filter (key · ≠ j) := by
  rw [List.enum_eq_enumFrom, List.enum_eq_enumFrom]
  refine filter_filterMap_enumFrom_congr hlen fun i a a' ha ha' => ?_
  by_cases hij : i = j
  · subst hij
    have hi : i < l.length := (List.getElem?_eq_some_iff.mp ha').1
    have hdrop : ∀ b, (f (i, b)).filter (fun x => decide (key x ≠ i)) = none := fun b => by
      rcases h : f (i, b) with _ | x
      · rfl
      · simp [Option.filter, hkey i b x hi h]
    simp only [Nat.zero_add, hdrop]
  · rw [hsame i hij, ha'] at ha
    cases ha
    rfl

end positions

/-! ## The code -/

section parse

variable (SYSTEM_PROGRAM_ID : String)

/-- One turn of the loop of `parse_transaction`, at position `i`: the event it pushes, if
any. An error of `parse_instruction` is printed and pushes nothing. -/
def parse_transaction_step (context : TransactionContext) (i : Nat)
    (instruction : StructuredInstruction) : Logged (Option SystemProgramEvent) :=
  if keyAt context instruction.program_id_index.toNat = SYSTEM_PROGRAM_ID then do
    match ← panicking (parse_instruction SYSTEM_PROGRAM_ID instruction context) with
    | .ok event => pure (some { instruction_index := UInt32.ofNat i, event })
    | .error e =>
      println e
      pure none
  else pure none

/-- `for (i, instruction) in instructions.flattened().iter().enumerate()`, from position `i`
with the events pushed so far. -/
def parse_transaction_loop (context : TransactionContext) :
    List StructuredInstruction → Nat → List SystemProgramEvent →
      Logged (List SystemProgramEvent)
  | [], _, events => pure events
  | instruction :: rest, i, events => do
    let pushed ← parse_transaction_step SYSTEM_PROGRAM_ID context i instruction
    parse_transaction_loop context rest (i + 1) (events ++ pushed.toList)

/-- A run of `parse_transaction`: what it prints, and what it returns or its panic. -/
def parse_transaction_run (transaction : ConfirmedTransaction) :
    Logged (Except String (List SystemProgramEvent)) := do
  let meta ← panicking (unwrap transaction.meta)
  if meta.err.isSome then
    return .error "Cannot parse failed transaction."
  let context := get_context transaction
  match get_structured_instructions transaction with
  | .error e => pure (.error e)
  | .ok instructions =>
    let events ← parse_transaction_loop SYSTEM_PROGRAM_ID context instructions.flattened 0 []
    pure (.ok events)

/-- What `parse_transaction` returns, or its panic. -/
def parse_transaction (transaction : ConfirmedTransaction) :
    Except Panic (Except String (List SystemProgramEvent)) :=
  (parse_transaction_run SYSTEM_PROGRAM_ID transaction).result

@[simp] theorem parse_transaction_run_result (transaction : ConfirmedTransaction) :
    (parse_transaction_run SYSTEM_PROGRAM_ID transaction).result =
      parse_transaction SYSTEM_PROGRAM_ID transaction := rfl

/-! ## The spec -/

/-- The event of the instruction at position `i`, if the loop pushes one. -/
def eventAt (context : TransactionContext) (i : Nat) (instruction : StructuredInstruction) :
    Option SystemProgramEvent :=
  if keyAt context instruction.program_id_index.toNat = SYSTEM_PROGRAM_ID then
    match parse_instruction SYSTEM_PROGRAM_ID instruction context with
    | .ok (.ok event) => some { instruction_index := UInt32.ofNat i, event }
    | _ => none
  else none

/-- The events of a flattened instruction list: the order-preserving filter of its positions
that hold a System Program instruction that parses. -/
def transactionEvents (context : TransactionContext) (instructions : List StructuredInstruction) :
    List SystemProgramEvent :=
  instructions.enum.filterMap fun (i, instruction) => eventAt SYSTEM_PROGRAM_ID context i instruction

/-- Whether `parse_transaction` panics: the transaction has no `meta`, or it did not fail,
its instructions structure, and one of them has too few accounts. -/
def transactionPanics (transaction : ConfirmedTransaction) : Bool :=
  match transaction.meta with
  | none => true
  | some meta => meta.err.isNone &&
    match get_structured_instructions transaction with
    | .ok instructions => instructions.flattened.any fun instruction =>
        tooFewAccounts SYSTEM_PROGRAM_ID instruction (get_context transaction)
    | .error _ => false

end parse

/-! ## One turn, and the run of the loop -/

section run

variable (SYSTEM_PROGRAM_ID : String)
variable {context : TransactionContext} {instruction : StructuredInstruction} {i : Nat}

theorem parse_transaction_step_eq
    (hsafe : tooFewAccounts SYSTEM_PROGRAM_ID instruction context = false) :
    (parse_transaction_step SYSTEM_PROGRAM_ID context i instruction).result =
      .ok (eventAt SYSTEM_PROGRAM_ID context i instruction) := by
  obtain ⟨r, hr⟩ := (parse_instruction_returns_iff SYSTEM_PROGRAM_ID).mpr hsafe
  by_cases hprogram : keyAt context instruction.program_id_index.toNat = SYSTEM_PROGRAM_ID
  · rcases r with _ | _ <;> simp [parse_transaction_step, eventAt, hprogram, hr]
  · simp [parse_transaction_step, eventAt, hprogram]

theorem parse_transaction_step_panics
    (hpanic : tooFewAccounts SYSTEM_PROGRAM_ID instruction context = true) :
    ∃ p, (parse_transaction_step SYSTEM_PROGRAM_ID context i instruction).result = .error p := by
  obtain ⟨p, hp⟩ := except_exists_error (x := parse_instruction SYSTEM_PROGRAM_ID instruction context)
    fun h => by simp [(parse_instruction_returns_iff SYSTEM_PROGRAM_ID).mp h] at hpanic
  have hprogram : keyAt context instruction.program_id_index.toNat = SYSTEM_PROGRAM_ID := by
    simp only [tooFewAccounts, Bool.and_eq_true, beq_iff_eq] at hpanic; exact hpanic.1
  exact ⟨p, by simp [parse_transaction_step, hprogram, hp]⟩

theorem parse_transaction_loop_eq (l : List StructuredInstruction) (n : Nat)
    (events : List SystemProgramEvent)
    (hsafe : ∀ instruction ∈ l, tooFewAccounts SYSTEM_PROGRAM_ID instruction context = false) :
    (parse_transaction_loop SYSTEM_PROGRAM_ID context l n events).result =
      .ok (events ++ (l.enumFrom n).filterMap fun (i, instruction) =>
        eventAt SYSTEM_PROGRAM_ID context i instruction) := by
  induction l generalizing n events with
  | nil => simp [parse_transaction_loop]
  | cons x xs ih =>
    simp only [List.mem_cons, forall_eq_or_imp] at hsafe
    rw [parse_transaction_loop, Logged.result_bind, parse_transaction_step_eq _ hsafe.1,
      except_ok_bind, ih _ _ hsafe.2, List.enumFrom_cons, List.filterMap_cons]
    rcases h : eventAt SYSTEM_PROGRAM_ID context n x <;> simp [h]

theorem parse_transaction_loop_panics (l : List StructuredInstruction) (n : Nat)
    (events : List SystemProgramEvent)
    (hpanic : ∃ instruction ∈ l, tooFewAccounts SYSTEM_PROGRAM_ID instruction context = true) :
    ∃ p, (parse_transaction_loop SYSTEM_PROGRAM_ID context l n events).result = .error p := by
  induction l generalizing n events with
  | nil => simp at hpanic
  | cons x xs ih =>
    rw [parse_transaction_loop, Logged.result_bind]
    by_cases hx : tooFewAccounts SYSTEM_PROGRAM_ID x context = true
    · obtain ⟨p, hp⟩ := parse_transaction_step_panics SYSTEM_PROGRAM_ID (i := n) hx
      exact ⟨p, by rw [hp]; rfl⟩
    · rw [parse_transaction_step_eq _ (by simpa using hx), except_ok_bind]
      exact ih _ _ (by simpa [hx] using hpanic)

end run

/-! ## The outcomes of `parse_transaction` -/

section outcomes

variable (SYSTEM_PROGRAM_ID : String)
variable {transaction : ConfirmedTransaction} {meta : TransactionStatusMeta}

theorem eventAt_eq_some {context : TransactionContext} {i : Nat}
    {instruction : StructuredInstruction} {ev : SystemProgramEvent}
    (h : eventAt SYSTEM_PROGRAM_ID context i instruction = some ev) :
    keyAt context instruction.program_id_index.toNat = SYSTEM_PROGRAM_ID ∧
      parse_instruction SYSTEM_PROGRAM_ID instruction context = .ok (.ok ev.event) ∧
      ev.instruction_index = UInt32.ofNat i := by
  by_cases hprogram : keyAt context instruction.program_id_index.toNat = SYSTEM_PROGRAM_ID
  · rcases hr : parse_instruction SYSTEM_PROGRAM_ID instruction context with _ | (_ | e) <;>
      simp [eventAt, hprogram, hr] at h
    subst h
    exact ⟨hprogram, rfl, rfl⟩
  · simp [eventAt, hprogram] at h

/-- An event carries its position modulo `2 ^ 32`: `i as u32` wraps. -/
theorem eventAt_index_mod {context : TransactionContext} {i : Nat}
    {instruction : StructuredInstruction} {ev : SystemProgramEvent}
    (h : eventAt SYSTEM_PROGRAM_ID context i instruction = some ev) :
    ev.instruction_index.toNat = i % 2 ^ 32 := by
  rw [(eventAt_eq_some _ h).2.2]
  rfl

/-- Below `2 ^ 32` positions, an event carries its own position. -/
theorem eventAt_index {context : TransactionContext} {i : Nat}
    {instruction : StructuredInstruction} {ev : SystemProgramEvent} (hi : i < 2 ^ 32)
    (h : eventAt SYSTEM_PROGRAM_ID context i instruction = some ev) :
    ev.instruction_index.toNat = i := by
  rw [eventAt_index_mod _ h, Nat.mod_eq_of_lt hi]

theorem parse_transaction_no_meta (h : transaction.meta = none) :
    parse_transaction SYSTEM_PROGRAM_ID transaction = .error .unwrapNone := by
  simp [parse_transaction, parse_transaction_run, h, unwrap]

theorem parse_transaction_failed (hmeta : transaction.meta = some meta) (herr : meta.err.isSome) :
    parse_transaction SYSTEM_PROGRAM_ID transaction = .ok (.error "Cannot parse failed transaction.") := by
  simp [parse_transaction, parse_transaction_run, hmeta, unwrap, herr]

theorem parse_transaction_unstructured {e : String} (hmeta : transaction.meta = some meta)
    (herr : meta.err = none) (hins : get_structured_instructions transaction = .error e) :
    parse_transaction SYSTEM_PROGRAM_ID transaction = .ok (.error e) := by
  simp [parse_transaction, parse_transaction_run, hmeta, unwrap, herr, hins]

theorem parse_transaction_eq {instructions : StructuredInstructions}
    (hmeta : transaction.meta = some meta) (herr : meta.err = none)
    (hins : get_structured_instructions transaction = .ok instructions)
    (hsafe : ∀ instruction ∈ instructions.flattened,
      tooFewAccounts SYSTEM_PROGRAM_ID instruction (get_context transaction) = false) :
    parse_transaction SYSTEM_PROGRAM_ID transaction =
      .ok (.ok (transactionEvents SYSTEM_PROGRAM_ID (get_context transaction) instructions.flattened)) := by
  simp [parse_transaction, parse_transaction_run, hmeta, unwrap, herr, hins, parse_transaction_loop_eq _ _ _ _ hsafe,
    transactionEvents, List.enum_eq_enumFrom]

theorem parse_transaction_returns_iff :
    (∃ r, parse_transaction SYSTEM_PROGRAM_ID transaction = .ok r) ↔
      transactionPanics SYSTEM_PROGRAM_ID transaction = false := by
  rcases hmeta : transaction.meta with _ | meta
  · simp [transactionPanics, hmeta, parse_transaction_no_meta _ hmeta]
  · rcases herr : meta.err with _ | err
    · rcases hins : get_structured_instructions transaction with e | instructions
      · simp [transactionPanics, hmeta, herr, hins, parse_transaction_unstructured _ hmeta herr hins]
      · by_cases hsafe : ∀ instruction ∈ instructions.flattened,
            tooFewAccounts SYSTEM_PROGRAM_ID instruction (get_context transaction) = false
        · simp [transactionPanics, hmeta, herr, hins, parse_transaction_eq _ hmeta herr hins hsafe]
          simpa using hsafe
        · push_neg at hsafe
          obtain ⟨p, hp⟩ := parse_transaction_loop_panics SYSTEM_PROGRAM_ID instructions.flattened 0 []
            (by simpa using hsafe)
          simp [transactionPanics, hmeta, herr, hins, parse_transaction, parse_transaction_run, unwrap,
            hp]
          simpa using hsafe
    · simp [transactionPanics, hmeta, herr, parse_transaction_failed _ hmeta (by simp [herr])]

/-- A transaction that parses did not fail, and its instructions structure. -/
theorem parse_transaction_ok_ok {events : List SystemProgramEvent}
    (h : parse_transaction SYSTEM_PROGRAM_ID transaction = .ok (.ok events)) :
    ∃ meta instructions, transaction.meta = some meta ∧ meta.err = none ∧
      get_structured_instructions transaction = .ok instructions := by
  rcases hmeta : transaction.meta with _ | meta
  · simp [parse_transaction_no_meta _ hmeta] at h
  · rcases herr : meta.err with _ | err
    · rcases hins : get_structured_instructions transaction with e | instructions
      · simp [parse_transaction_unstructured _ hmeta herr hins] at h
      · exact ⟨meta, instructions, rfl, herr, rfl⟩
    · simp [parse_transaction_failed _ hmeta (by simp [herr])] at h

/-- A transaction that parses did not fail, its instructions structure, none of its System
Program instructions has too few accounts, and its events are those of its flattened
instructions. -/
theorem parse_transaction_ok_eq {events : List SystemProgramEvent}
    (h : parse_transaction SYSTEM_PROGRAM_ID transaction = .ok (.ok events)) :
    ∃ meta instructions, transaction.meta = some meta ∧ meta.err = none ∧
      get_structured_instructions transaction = .ok instructions ∧
      (∀ instruction ∈ instructions.flattened,
        tooFewAccounts SYSTEM_PROGRAM_ID instruction (get_context transaction) = false) ∧
      events = transactionEvents SYSTEM_PROGRAM_ID (get_context transaction)
        instructions.flattened := by
  obtain ⟨meta, instructions, hm, herr, hins⟩ := parse_transaction_ok_ok _ h
  have hsafe := (parse_transaction_returns_iff SYSTEM_PROGRAM_ID).mp ⟨_, h⟩
  simp only [transactionPanics, hm, herr, hins, Option.isNone_none, Bool.true_and,
    List.any_eq_false, Bool.not_eq_true] at hsafe
  rw [parse_transaction_eq _ hm herr hins hsafe, Except.ok.injEq, Except.ok.injEq] at h
  exact ⟨meta, instructions, hm, herr, hins, hsafe, h.symm⟩

end outcomes

/-! ## The events of a transaction -/

section events

variable (SYSTEM_PROGRAM_ID : String) {context : TransactionContext}

theorem transactionEvents_sorted {l : List StructuredInstruction} (hsize : l.length < 2 ^ 32) :
    ((transactionEvents SYSTEM_PROGRAM_ID context l).map (·.instruction_index.toNat)).Pairwise
      (· < ·) :=
  filterMap_enumFrom_sorted l 0 fun _ _ _ hi h => eventAt_index _ (by omega) h

theorem mem_transactionEvents {l : List StructuredInstruction} (hsize : l.length < 2 ^ 32)
    {ev : SystemProgramEvent} (h : ev ∈ transactionEvents SYSTEM_PROGRAM_ID context l) :
    ∃ instruction, l[ev.instruction_index.toNat]? = some instruction ∧
      keyAt context instruction.program_id_index.toNat = SYSTEM_PROGRAM_ID ∧
      parse_instruction SYSTEM_PROGRAM_ID instruction context = .ok (.ok ev.event) := by
  obtain ⟨⟨i, instruction⟩, hmem, hev⟩ := List.mem_filterMap.mp h
  obtain ⟨hprogram, hparse, -⟩ := eventAt_eq_some _ hev
  have hi := List.fst_lt_of_mem_enum hmem
  rw [eventAt_index _ (by simp at hi; omega) hev]
  exact ⟨instruction, List.mem_enum_iff_getElem?.mp hmem, hprogram, hparse⟩

theorem transactionEvents_filter_congr {l l' : List StructuredInstruction} {j : Nat}
    (hsize : l.length < 2 ^ 32) (hlen : l'.length = l.length) (hsame : ∀ i ≠ j, l'[i]? = l[i]?) :
    (transactionEvents SYSTEM_PROGRAM_ID context l').filter (·.instruction_index.toNat ≠ j) =
      (transactionEvents SYSTEM_PROGRAM_ID context l).filter (·.instruction_index.toNat ≠ j) :=
  filterMap_enum_filter_key_ne hlen hsame fun _ _ _ hi h => eventAt_index _ (by omega) h

/-- A transaction that did not fail, whose one instruction is `instruction`, in the context
that maps every index to the all-zero key. -/
def transactionOf (instruction : StructuredInstruction) : ConfirmedTransaction where
  meta := some ⟨none⟩
  signature := "1"
  context := zeroContext
  structured_instructions := .ok ⟨[instruction]⟩

/-- A transaction that did not fail, with the given instructions, in the context where index 1
is another program. -/
def transactionWith (instructions : List StructuredInstruction) : ConfirmedTransaction where
  meta := some ⟨none⟩
  signature := "2"
  context := twoProgramContext
  structured_instructions := .ok ⟨instructions⟩

/-- The spec's `[A, B, C]`: two System Program transfers around an instruction of another
program. -/
def instructionsABC : List StructuredInstruction := [transferOf [0, 1], otherOf, transferOf [1, 0]]

/-- The events of a transaction that did not fail, whose instructions structure, and none of
whose System Program instructions has too few accounts: the order-preserving filter of the
positions, and an instruction changed at one position changes no event at another. -/
theorem parse_transaction_events (transaction : ConfirmedTransaction)
    (meta : TransactionStatusMeta) (instructions : StructuredInstructions)
    (hmeta : transaction.meta = some meta) (herr : meta.err = none)
    (hins : get_structured_instructions transaction = .ok instructions)
    (hsize : instructions.flattened.length < 2 ^ 32)
    (hsafe : ∀ instruction ∈ instructions.flattened,
      tooFewAccounts SYSTEM_PROGRAM_ID instruction (get_context transaction) = false) :
    ∃ events, parse_transaction SYSTEM_PROGRAM_ID transaction = .ok (.ok events) ∧
      events = transactionEvents SYSTEM_PROGRAM_ID (get_context transaction)
        instructions.flattened ∧
      (events.map (·.instruction_index.toNat)).Pairwise (· < ·) ∧
      (∀ ev ∈ events, ∃ instruction,
        instructions.flattened[ev.instruction_index.toNat]? = some instruction ∧
        keyAt (get_context transaction) instruction.program_id_index.toNat = SYSTEM_PROGRAM_ID ∧
        parse_instruction SYSTEM_PROGRAM_ID instruction (get_context transaction) =
          .ok (.ok ev.event)) ∧
      ∀ (flattened' : List StructuredInstruction) (j : Nat),
        flattened'.length = instructions.flattened.length →
        (∀ i ≠ j, flattened'[i]? = instructions.flattened[i]?) →
        (∀ instruction ∈ flattened',
          tooFewAccounts SYSTEM_PROGRAM_ID instruction (get_context transaction) = false) →
        ∃ events', parse_transaction SYSTEM_PROGRAM_ID
            { transaction with structured_instructions := .ok ⟨flattened'⟩ } = .ok (.ok events') ∧
          events'.filter (·.instruction_index.toNat ≠ j) =
            events.filter (·.instruction_index.toNat ≠ j) := by
  refine ⟨_, parse_transaction_eq _ hmeta herr hins hsafe, rfl,
    transactionEvents_sorted _ hsize, fun ev hev => mem_transactionEvents _ hsize hev,
    fun flattened' j hlen hsame hsafe' => ⟨_, parse_transaction_eq _ hmeta herr rfl hsafe',
      transactionEvents_filter_congr _ hsize hlen hsame⟩⟩

/-- Of `[A, B, C]`, the events are those of `A` and `C`, at positions 0 and 2. -/
theorem parse_transaction_events_interleaved :
    ∃ events, parse_transaction "11111111111111111111111111111111"
        (transactionWith instructionsABC) = .ok (.ok events) ∧
      events.map (·.instruction_index.toNat) = [0, 2] :=
  (parse_transaction_events _ (transactionWith instructionsABC) ⟨none⟩ ⟨instructionsABC⟩
    rfl rfl rfl (by decide) (by decide)).imp fun _ h => ⟨h.1, by rw [h.2.1]; decide⟩

/-- `parse_transaction` does not return on a transaction whose one instruction is an
`AuthorizeNonceAccount` naming only the nonce account: it panics reading the authority. -/
theorem parse_transaction_short_authorize :
    (transactionOf (authorizeOf [0])).meta = some ⟨none⟩ ∧
      get_structured_instructions (transactionOf (authorizeOf [0])) = .ok ⟨[authorizeOf [0]]⟩ ∧
      parse_transaction "11111111111111111111111111111111" (transactionOf (authorizeOf [0])) =
        .error (.indexOutOfBounds 1 1) := by
  decide

/-- Every event that `parse_transaction` returns, for any number of instructions, comes from an
instruction that `parse_instruction` turns into it, and carries that instruction's position
modulo `2 ^ 32`. -/
theorem parse_transaction_events_sound {transaction : ConfirmedTransaction}
    {events : List SystemProgramEvent}
    (h : parse_transaction SYSTEM_PROGRAM_ID transaction = .ok (.ok events)) :
    ∃ instructions, get_structured_instructions transaction = .ok instructions ∧
      ∀ ev ∈ events, ∃ i instruction, instructions.flattened[i]? = some instruction ∧
        ev.instruction_index.toNat = i % 2 ^ 32 ∧
        parse_instruction SYSTEM_PROGRAM_ID instruction (get_context transaction) =
          .ok (.ok ev.event) := by
  obtain ⟨-, instructions, -, -, hins, -, rfl⟩ := parse_transaction_ok_eq _ h
  refine ⟨instructions, hins, fun ev hev => ?_⟩
  obtain ⟨⟨i, instruction⟩, hmem, hevi⟩ := List.mem_filterMap.mp hev
  exact ⟨i, instruction, List.mem_enum_iff_getElem?.mp hmem, eventAt_index_mod _ hevi,
    (eventAt_eq_some _ hevi).2.1⟩

theorem parse_transaction_events_sound_transfer :
    ∃ instructions, get_structured_instructions (transactionOf (transferOf [0, 1])) =
      .ok instructions ∧
      ∀ ev ∈ transactionEvents "11111111111111111111111111111111" zeroContext [transferOf [0, 1]],
        ∃ i instruction, instructions.flattened[i]? = some instruction ∧
          ev.instruction_index.toNat = i % 2 ^ 32 ∧
          parse_instruction "11111111111111111111111111111111" instruction zeroContext =
            .ok (.ok ev.event) :=
  parse_transaction_events_sound _ (by decide)

end events

end system_program_substream
