-- The keys of the model and their text. A `Pubkey` holds 32 bytes by
-- construction, and `bs58.encode` is the base-58 text that the `bs58`
-- crate gives a byte string: every key and most seeds reach the events so.
import Mathlib.Algebra.Group.Nat.Basic
import Mathlib.Data.List.Basic

namespace system_program_substream

/-! ## Keys -/

/-- `Pubkey(pub [u8; 32])`: the bytes of an account key. -/
structure Pubkey where
  bytes : List UInt8
  length_bytes : bytes.length = 32
  deriving DecidableEq

/-! ## Base 58 -/

namespace bs58

/-- The Bitcoin alphabet, the default of the `bs58` crate. -/
def ALPHABET : List Char := "123456789ABCDEFGHJKLMNPQRSTUVWXYZabcdefghijkmnopqrstuvwxyz".toList

/-- The big-endian value of a byte string. -/
def value (input : List UInt8) : Nat := input.foldl (fun acc b => 256 * acc + b.toNat) 0

/-- The base-58 digits of `n`, least significant first, with at most `fuel` divisions. -/
def digits : Nat → Nat → List Nat
  | 0, _ => []
  | fuel + 1, n => if n = 0 then [] else n % 58 :: digits fuel (n / 58)

/-- `bs58::encode(input).into_string()`: a `1` for each leading zero byte, then the digits of
the value of the bytes, most significant first. The value is below `256 ^ k` for `k` bytes and
`256 < 58 ^ 2`, so `2 * k` divisions reach every digit. -/
def encode (input : List UInt8) : String :=
  ⟨List.replicate (input.takeWhile (· == 0)).length '1' ++
    (digits (2 * input.length) (value input)).reverse.map fun d => ALPHABET.getD d '1'⟩

end bs58

end system_program_substream
