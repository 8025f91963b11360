-- The instructions of the System Program and the decoder of their data. The
-- types are read off their uses in `lib.rs`, and `SystemInstruction.unpack`
-- follows the spec's layout.
import SystemProgramSubstream.Pubkey

namespace system_program_substream

/-! ## The instructions

A seed is a newtype over `String` in the code (`seed.0`); the model keeps the `String`. -/

structure CreateAccount where
  lamports : UInt64
  space : UInt64
  owner : Pubkey
  deriving DecidableEq

structure Assign where
  owner : Pubkey
  deriving DecidableEq

structure Transfer where
  lamports : UInt64
  deriving DecidableEq

structure CreateAccountWithSeed where
  base : Pubkey
  seed : String
  lamports : UInt64
  space : UInt64
  owner : Pubkey
  deriving DecidableEq

structure Allocate where
  space : UInt64
  deriving DecidableEq

structure AllocateWithSeed where
  base : Pubkey
  seed : String
  space : UInt64
  owner : Pubkey
  deriving DecidableEq

structure AssignWithSeed where
  base : Pubkey
  seed : String
  owner : Pubkey
  deriving DecidableEq

structure TransferWithSeed where
  lamports : UInt64
  from_seed : String
  from_owner : Pubkey
  deriving DecidableEq

/-- The decoded instruction, one constructor per discriminant, in enum order. -/
inductive SystemInstruction where
  | CreateAccount (create_account : CreateAccount)
  | Assign (assign : Assign)
  | Transfer (transfer : Transfer)
  | CreateAccountWithSeed (create_account_with_seed : CreateAccountWithSeed)
  | AdvanceNonceAccount
  | WithdrawNonceAccount (lamports : UInt64)
  | InitializeNonceAccount (authority : Pubkey)
  | AuthorizeNonceAccount (pubkey : Pubkey)
  | Allocate (allocate : Allocate)
  | AllocateWithSeed (allocate_with_seed : AllocateWithSeed)
  | AssignWithSeed (assign_with_seed : AssignWithSeed)
  | TransferWithSeed (transfer_with_seed : TransferWithSeed)
  | UpgradeNonceAccount
  deriving DecidableEq

/-! ## `Except`

The decoder runs in `Except String`, as the code's `Result<_, String>`. -/

instance decEqExcept {ε α : Type} [DecidableEq ε] [DecidableEq α] : DecidableEq (Except ε α)
  | .error a, .error b => if h : a = b then isTrue (h ▸ rfl) else isFalse fun e => by cases e; exact h rfl
  | .ok a, .ok b => if h : a = b then isTrue (h ▸ rfl) else isFalse fun e => by cases e; exact h rfl
  | .error _, .ok _ => isFalse nofun
  | .ok _, .error _ => isFalse nofun

@[simp] theorem except_pure {ε α : Type} (a : α) : (pure a : Except ε α) = .ok a := rfl

@[simp] theorem except_ok_bind {ε α β : Type} (a : α) (f : α → Except ε β) :
    (Except.ok a >>= f) = f a := rfl

@[simp] theorem except_error_bind {ε α β : Type} (e : ε) (f : α → Except ε β) :
    (Except.error e >>= f) = .error e := rfl

@[simp] theorem except_map_ok {ε α β : Type} (f : α → β) (a : α) :
    Except.map f (.ok a : Except ε α) = .ok (f a) := rfl

@[simp] theorem except_fmap_ok {ε α β : Type} (f : α → β) (a : α) :
    f <$> (Except.ok a : Except ε α) = .ok (f a) := rfl

@[simp] theorem except_fmap_error {ε α β : Type} (f : α → β) (e : ε) :
    f <$> (Except.error e : Except ε α) = .error e := rfl

theorem except_exists_error {ε α : Type} {x : Except ε α} (h : ¬ ∃ a, x = .ok a) :
    ∃ e, x = .error e := by
  cases x with
  | error e => exact ⟨e, rfl⟩
  | ok a => exact absurd ⟨a, rfl⟩ h

/-! ## Reading the data

Each reader takes the bytes that remain and returns its field with the bytes after it. -/

/-- The value of little-endian bytes. -/
def decodeLE : List UInt8 → Nat
  | [] => 0
  | b :: bs => b.toNat + 256 * decodeLE bs

/-- The next `n` bytes, or `TruncatedData` when fewer remain. -/
def readBytes (n : Nat) (data : List UInt8) : Except String (List UInt8 × List UInt8) :=
  if n ≤ data.length then .ok (data.take n, data.drop n) else .error "TruncatedData"

def readU32 (data : List UInt8) : Except String (Nat × List UInt8) := do
  let (bytes, rest) ← readBytes 4 data
  pure (decodeLE bytes, rest)

def readU64 (data : List UInt8) : Except String (UInt64 × List UInt8) := do
  let (bytes, rest) ← readBytes 8 data
  pure (UInt64.ofNat (decodeLE bytes), rest)

def readPubkey (data : List UInt8) : Except String (Pubkey × List UInt8) :=
  if h : 32 ≤ data.length then .ok (⟨data.take 32, by simp [h]⟩, data.drop 32)
  else .error "TruncatedData"

/-- A seed: an 8-byte length `L`, then `L` bytes of UTF-8 text. -/
def readSeed (data : List UInt8) : Except String (String × List UInt8) := do
  let (len, rest) ← readU64 data
  let (bytes, rest) ← readBytes len.toNat rest
  match String.fromUTF8? ⟨bytes.toArray⟩ with
  | some seed => pure (seed, rest)
  | none => throw "InvalidSeedEncoding"

/-- The fields of the variant with the given discriminant, read from the bytes after the
discriminant. -/
def SystemInstruction.unpackFields : Nat → List UInt8 → Except String SystemInstruction
  | 0, rest => do
    let (lamports, rest) ← readU64 rest
    let (space, rest) ← readU64 rest
    let (owner, _) ← readPubkey rest
    pure (.CreateAccount ⟨lamports, space, owner⟩)
  | 1, rest => do
    let (owner, _) ← readPubkey rest
    pure (.Assign ⟨owner⟩)
  | 2, rest => do
    let (lamports, _) ← readU64 rest
    pure (.Transfer ⟨lamports⟩)
  | 3, rest => do
    let (base, rest) ← readPubkey rest
    let (seed, rest) ← readSeed rest
    let (lamports, rest) ← readU64 rest
    let (space, rest) ← readU64 rest
    let (owner, _) ← readPubkey rest
    pure (.CreateAccountWithSeed ⟨base, seed, lamports, space, owner⟩)
  | 4, _ => pure .AdvanceNonceAccount
  | 5, rest => do
    let (lamports, _) ← readU64 rest
    pure (.WithdrawNonceAccount lamports)
  | 6, rest => do
    let (authority, _) ← readPubkey rest
    pure (.InitializeNonceAccount authority)
  | 7, rest => do
    let (pubkey, _) ← readPubkey rest
    pure (.AuthorizeNonceAccount pubkey)
  | 8, rest => do
    let (space, _) ← readU64 rest
    pure (.Allocate ⟨space⟩)
  | 9, rest => do
    let (base, rest) ← readPubkey rest
    let (seed, rest) ← readSeed rest
    let (space, rest) ← readU64 rest
    let (owner, _) ← readPubkey rest
    pure (.AllocateWithSeed ⟨base, seed, space, owner⟩)
  | 10, rest => do
    let (base, rest) ← readPubkey rest
    let (seed, rest) ← readSeed rest
    let (owner, _) ← readPubkey rest
    pure (.AssignWithSeed ⟨base, seed, owner⟩)
  | 11, rest => do
    let (lamports, rest) ← readU64 rest
    let (from_seed, rest) ← readSeed rest
    let (from_owner, _) ← readPubkey rest
    pure (.TransferWithSeed ⟨lamports, from_seed, from_owner⟩)
  | 12, _ => pure .UpgradeNonceAccount
  | _, _ => throw "UnknownDiscriminant"

/-- Modelled from the spec: `SystemInstruction::unpack` (`system_program.rs` is not among the
repository's sources). A 4-byte little-endian discriminant picks the variant in enum order and
the fields follow in declared order; bytes after the last field are not read. -/
def SystemInstruction.unpack (data : List UInt8) : Except String SystemInstruction := do
  let (discriminant, rest) ← readU32 data
  SystemInstruction.unpackFields discriminant rest

/-! ## Reading back what was written

Each reader, given the layout of its field and any bytes after it, returns the field and
exactly those bytes. -/

/-- The `w` little-endian bytes of `n`, the layout of a fixed-width integer field. -/
def encodeLE : Nat → Nat → List UInt8
  | 0, _ => []
  | w + 1, n => UInt8.ofNat (n % 256) :: encodeLE w (n / 256)

@[simp] theorem length_encodeLE (w n : Nat) : (encodeLE w n).length = w := by
  induction w generalizing n <;> simp [encodeLE, *]

theorem decodeLE_encodeLE (w n : Nat) : decodeLE (encodeLE w n) = n % 256 ^ w := by
  induction w generalizing n with
  | zero => simp [encodeLE, decodeLE, Nat.mod_one]
  | succ w ih =>
    have h8 : (UInt8.ofNat (n % 256)).toNat = n % 256 := by
      simp [UInt8.ofNat, UInt8.toNat, BitVec.toNat_ofNat]
    rw [encodeLE, decodeLE, ih, h8, Nat.pow_succ', Nat.mod_mul]

theorem decodeLE_encodeLE_of_lt {w n : Nat} (h : n < 256 ^ w) : decodeLE (encodeLE w n) = n := by
  rw [decodeLE_encodeLE, Nat.mod_eq_of_lt h]

theorem readBytes_append {n : Nat} (l r : List UInt8) (h : l.length = n) :
    readBytes n (l ++ r) = .ok (l, r) := by
  subst h; simp [readBytes]

theorem readBytes_of_lt {n : Nat} {data : List UInt8} (h : data.length < n) :
    readBytes n data = .error "TruncatedData" := by
  simp [readBytes, Nat.not_le.mpr h]

theorem readU32_encodeLE {n : Nat} (h : n < 2 ^ 32) (r : List UInt8) :
    readU32 (encodeLE 4 n ++ r) = .ok (n, r) := by
  simp [readU32, readBytes_append _ r (length_encodeLE 4 n),
    decodeLE_encodeLE_of_lt (show n < 256 ^ 4 by omega)]

theorem readU64_encodeLE {n : Nat} (h : n < 2 ^ 64) (r : List UInt8) :
    readU64 (encodeLE 8 n ++ r) = .ok (UInt64.ofNat n, r) := by
  simp [readU64, readBytes_append _ r (length_encodeLE 8 n),
    decodeLE_encodeLE_of_lt (show n < 256 ^ 8 by omega)]

theorem readPubkey_append (k : Pubkey) (r : List UInt8) :
    readPubkey (k.bytes ++ r) = .ok (k, r) := by
  simp [readPubkey, k.length_bytes]

/-- The UTF-8 bytes of a string, as Rust stores a `String`. -/
def utf8Bytes (s : String) : List UInt8 := s.toUTF8.data.toList

theorem readSeed_append {b : List UInt8} {s : String} {n : Nat} (hn : b.length = n)
    (h : String.fromUTF8? ⟨b.toArray⟩ = some s) (hb : n < 2 ^ 64) (r : List UInt8) :
    readSeed (encodeLE 8 n ++ (b ++ r)) = .ok (s, r) := by
  simp [readSeed, readU64_encodeLE hb, UInt64.toNat_ofNat_of_lt hb, readBytes_append b r hn, h]

end system_program_substream
