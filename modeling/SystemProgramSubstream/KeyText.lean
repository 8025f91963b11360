-- What base-58 does to the handler's texts. The text of a key determines the key,
-- so the System Program filter and the account fields of the events identify
-- keys; and three seed paths change every seed but the empty one.
import SystemProgramSubstream.ParseInstruction
import Mathlib.Data.List.Chain
import Mathlib.Data.Nat.Digits

namespace system_program_substream

namespace bs58

/-! ## The value of the bytes -/

theorem foldl_value (l : List UInt8) (acc : Nat) :
    l.foldl (fun acc b => 256 * acc + b.toNat) acc =
      acc * 256 ^ l.length + Nat.ofDigits 256 (l.reverse.map (·.toNat)) := by
  induction l generalizing acc with
  | nil => simp
  | cons x xs ih =>
    rw [List.foldl_cons, ih, List.reverse_cons, List.map_append, Nat.ofDigits_append]
    simp only [List.length_map, List.length_reverse, List.length_cons, List.map_cons,
      List.map_nil, Nat.ofDigits_singleton, pow_succ]
    ring

/-- The value is the number whose base-256 digits, least significant first, are the bytes
read backwards. -/
theorem value_eq_ofDigits (l : List UInt8) :
    value l = Nat.ofDigits 256 (l.reverse.map (·.toNat)) := by
  simpa using foldl_value l 0

theorem value_lt (l : List UInt8) : value l < 256 ^ l.length := by
  have hdigits : ∀ x ∈ l.reverse.map (·.toNat), x < 256 := by
    simp only [List.mem_map, List.mem_reverse]
    rintro _ ⟨b, -, rfl⟩
    exact b.toNat_lt_size
  simpa [value_eq_ofDigits] using Nat.ofDigits_lt_base_pow_length (by norm_num) hdigits

theorem value_replicate_zero_append (z : Nat) (r : List UInt8) :
    value (List.replicate z 0 ++ r) = value r := by
  have hzeros : ∀ z, (List.replicate z (0 : UInt8)).foldl
      (fun acc b => 256 * acc + b.toNat) 0 = 0 := fun z => by
    induction z with
    | zero => rfl
    | succ z ih => simpa [List.replicate_succ] using ih
  rw [value, List.foldl_append, hzeros, value]

/-- Bytes with no leading zero are determined by their value. -/
theorem eq_of_value_eq {r s : List UInt8} (hr : ∀ h : r ≠ [], r.head h ≠ 0)
    (hs : ∀ h : s ≠ [], s.head h ≠ 0) (h : value r = value s) : r = s := by
  have hdigits : ∀ t : List UInt8, (∀ h : t ≠ [], t.head h ≠ 0) →
      Nat.digits 256 (value t) = t.reverse.map (·.toNat) := fun t ht => by
    rw [value_eq_ofDigits]
    refine Nat.digits_ofDigits _ (by norm_num) _ ?_ fun hne => ?_
    · simp only [List.mem_map, List.mem_reverse]
      rintro _ ⟨b, -, rfl⟩
      exact b.toNat_lt_size
    · rw [List.getLast_map, List.getLast_reverse]
      exact fun h0 => ht _ (UInt8.toNat.inj h0)
  have hmap := (hdigits r hr).symm.trans (h ▸ hdigits s hs)
  exact List.reverse_injective (List.map_injective_iff.mpr (fun _ _ => UInt8.toNat.inj) hmap)

theorem replicate_append_dropWhile (l : List UInt8) :
    List.replicate (l.takeWhile (· == 0)).length 0 ++ l.dropWhile (· == 0) = l := by
  conv_rhs => rw [← List.takeWhile_append_dropWhile (· == 0) l]
  congr 1
  exact (List.eq_replicate_iff.mpr ⟨rfl, fun b hb => by
    simpa using List.mem_takeWhile_imp hb⟩).symm

theorem value_dropWhile (l : List UInt8) : value (l.dropWhile (· == 0)) = value l := by
  conv_rhs => rw [← replicate_append_dropWhile l]
  exact (value_replicate_zero_append _ _).symm

theorem head_dropWhile_ne_zero (l : List UInt8) :
    ∀ h : l.dropWhile (· == 0) ≠ [], (l.dropWhile (· == 0)).head h ≠ 0 := fun h => by
  simpa using List.head_dropWhile_not (· == 0) l h

/-! ## The digits -/

/-- With enough fuel, the digit loop of `encode` gives Mathlib's base-58 digits. -/
theorem digits_eq {fuel n : Nat} (h : n < 58 ^ fuel) : digits fuel n = Nat.digits 58 n := by
  induction fuel generalizing n with
  | zero =>
    obtain rfl : n = 0 := by simpa using h
    simp [digits]
  | succ fuel ih =>
    by_cases hn : n = 0
    · simp [digits, hn]
    · rw [digits, if_neg hn, Nat.digits_def' (by norm_num) (Nat.pos_of_ne_zero hn),
        ih (by rw [pow_succ] at h; omega)]

/-- `2 * k` divisions reach every digit of the value of `k` bytes. -/
theorem digits_value (l : List UInt8) :
    digits (2 * l.length) (value l) = Nat.digits 58 (value l) :=
  digits_eq <| calc
    value l < 256 ^ l.length := value_lt l
    _ ≤ (58 ^ 2) ^ l.length := Nat.pow_le_pow_left (by norm_num) _
    _ = 58 ^ (2 * l.length) := (pow_mul 58 2 _).symm

/-- The character of a digit. -/
def digitChar (d : Nat) : Char := ALPHABET.getD d '1'

theorem map_toNat_ALPHABET : ALPHABET.map Char.toNat = [49, 50, 51, 52, 53, 54, 55, 56, 57,
    65, 66, 67, 68, 69, 70, 71, 72, 74, 75, 76, 77, 78, 80, 81, 82, 83, 84, 85, 86, 87, 88, 89,
    90, 97, 98, 99, 100, 101, 102, 103, 104, 105, 106, 107, 109, 110, 111, 112, 113, 114, 115,
    116, 117, 118, 119, 120, 121, 122] := by
  decide

/-- The codes increase along the alphabet, so no character stands twice. -/
theorem nodup_ALPHABET : ALPHABET.Nodup := by
  have hsorted : (ALPHABET.map Char.toNat).Chain' (· < ·) := by
    rw [map_toNat_ALPHABET]
    simp only [List.chain'_cons, List.chain'_singleton, and_true]
    decide
  exact List.Nodup.of_map Char.toNat ((List.chain'_iff_pairwise.mp hsorted).imp ne_of_lt)

/-- A digit is the position of its character in the alphabet. -/
theorem indexOf_digitChar {d : Nat} (hd : d < 58) : ALPHABET.indexOf (digitChar d) = d := by
  have hlen : d < ALPHABET.length := hd
  rw [digitChar, List.getD_eq_getElem?_getD, List.getElem?_eq_getElem hlen, Option.getD_some]
  exact List.indexOf_getElem nodup_ALPHABET d hlen

/-- The characters of the digits of `n`, most significant first. -/
def digitText (n : Nat) : List Char := (Nat.digits 58 n).reverse.map digitChar

theorem encode_eq (l : List UInt8) :
    encode l = ⟨List.replicate (l.takeWhile (· == 0)).length '1' ++ digitText (value l)⟩ := by
  rw [encode, digits_value]
  rfl

/-- The digits come back from their characters, so the value comes back from its text. -/
theorem digitText_injective {m n : Nat} (h : digitText m = digitText n) : m = n := by
  have hback : ∀ n, (digitText n).map ALPHABET.indexOf = (Nat.digits 58 n).reverse := fun n => by
    rw [digitText, List.map_map]
    conv_rhs => rw [← List.map_id (Nat.digits 58 n).reverse]
    exact List.map_congr_left fun d hd =>
      indexOf_digitChar (Nat.digits_lt_base (by norm_num) (List.mem_reverse.mp hd))
  have hrev := (hback m).symm.trans (h ▸ hback n)
  rw [← Nat.ofDigits_digits 58 m, ← Nat.ofDigits_digits 58 n, List.reverse_injective hrev]

/-- The text of a value never starts with `1`, the character of the digit `0`: the most
significant digit is not zero. -/
theorem head?_digitText (n : Nat) : (digitText n).head? ≠ some '1' := by
  by_cases hn : n = 0
  · simp [digitText, hn]
  · have hne := (Nat.digits_ne_nil_iff_ne_zero (b := 58)).mpr hn
    have hlast := Nat.getLast_digit_ne_zero 58 hn
    have hlt := Nat.digits_lt_base (by norm_num) (List.getLast_mem hne)
    rw [digitText, List.head?_map, List.head?_reverse, List.getLast?_eq_getLast _ hne]
    intro h
    have h1 : digitChar ((Nat.digits 58 n).getLast hne) = digitChar 0 := Option.some.inj h
    exact hlast (by rw [← indexOf_digitChar hlt, h1]; rfl)

/-- A run of `1`s followed by a text that does not start with `1` is split uniquely. -/
theorem replicate_append_inj {m n : Nat} {a b : List Char} (ha : a.head? ≠ some '1')
    (hb : b.head? ≠ some '1') (h : List.replicate m '1' ++ a = List.replicate n '1' ++ b) :
    m = n ∧ a = b := by
  induction m generalizing n with
  | zero =>
    cases n with
    | zero => exact ⟨rfl, h⟩
    | succ n => exact absurd (congrArg List.head? h) (by simpa [List.replicate_succ] using ha)
  | succ m ih =>
    cases n with
    | zero => exact absurd (congrArg List.head? h).symm (by simpa [List.replicate_succ] using hb)
    | succ n =>
      simp only [List.replicate_succ, List.cons_append, List.cons.injEq, true_and] at h
      exact (ih h).imp (congrArg (· + 1)) id

/-! ## Base 58 is injective -/

/-- Two byte strings with the same base-58 text are equal. -/
theorem encode_injective {a b : List UInt8} (h : encode a = encode b) : a = b := by
  rw [encode_eq, encode_eq] at h
  replace h := congrArg String.data h
  obtain ⟨hzeros, htext⟩ := replicate_append_inj (head?_digitText _) (head?_digitText _) h
  have hrest : a.dropWhile (· == 0) = b.dropWhile (· == 0) :=
    eq_of_value_eq (head_dropWhile_ne_zero a) (head_dropWhile_ne_zero b) (by
      rw [value_dropWhile, value_dropWhile]
      exact digitText_injective htext)
  rw [← replicate_append_dropWhile a, ← replicate_append_dropWhile b, hzeros, hrest]

end bs58

/-! ## Keys -/

theorem Pubkey.eq_of_bytes_eq {key key' : Pubkey} (h : key.bytes = key'.bytes) : key = key' := by
  cases key
  cases key'
  cases h
  rfl

/-- The program check of `parse_instruction` and of the loop of `parse_transaction` compares
texts, and the text of the key at an index equals the text of `key` exactly when the key at
that index is `key`: the check accepts exactly the instructions whose program is that key. -/
theorem keyAt_eq_keyText_iff (context : TransactionContext) (i : Nat) (key : Pubkey) :
    keyAt context i = keyText key ↔ context.get_account_from_index i = key :=
  ⟨fun h => Pubkey.eq_of_bytes_eq (bs58.encode_injective h), fun h => by rw [keyAt, h, keyText]⟩

/-! ## Seeds -/

namespace bs58

theorem digitChar_mem {d : Nat} (hd : d < 58) : digitChar d ∈ ALPHABET := by
  have hlen : d < ALPHABET.length := hd
  rw [digitChar, List.getD_eq_getElem?_getD, List.getElem?_eq_getElem hlen, Option.getD_some]
  exact List.getElem_mem hlen

theorem toNat_digitChar (d : Nat) : (digitChar d).toNat = (ALPHABET.map Char.toNat).getD d 49 := by
  simp only [digitChar, List.getD_eq_getElem?_getD, List.getElem?_map]
  cases ALPHABET[d]? <;> rfl

theorem mem_ALPHABET_of_mem_encode {l : List UInt8} {c : Char} (h : c ∈ (encode l).data) :
    c ∈ ALPHABET := by
  rw [encode_eq] at h
  simp only [List.mem_append, List.mem_replicate, digitText, List.mem_map, List.mem_reverse] at h
  rcases h with ⟨-, rfl⟩ | ⟨d, hd, rfl⟩
  · exact digitChar_mem (d := 0) (by norm_num)
  · exact digitChar_mem (Nat.digits_lt_base (by norm_num) hd)

theorem toNat_of_mem_ALPHABET {c : Char} (h : c ∈ ALPHABET) : 49 ≤ c.toNat ∧ c.toNat ≤ 122 := by
  have hcodes : ∀ n ∈ ALPHABET.map Char.toNat, 49 ≤ n ∧ n ≤ 122 := by
    rw [map_toNat_ALPHABET]; decide
  exact hcodes _ (List.mem_map_of_mem _ h)

theorem le_value_cons (b : UInt8) (rest : List UInt8) :
    b.toNat * 256 ^ rest.length ≤ value (b :: rest) := by
  rw [value, List.foldl_cons, foldl_value]
  simp

theorem pow_le_of_one_le {m : Nat} (hm : 1 ≤ m) : 58 ^ (m + 1) ≤ 49 * 256 ^ m := by
  induction m with
  | zero => omega
  | succ m ih =>
    rcases Nat.eq_zero_or_pos m with rfl | hpos
    · norm_num
    · have := ih hpos
      rw [pow_succ 58, pow_succ 256]
      omega

theorem toNat_digitChar_ne {d : Nat} (h1 : 49 ≤ d) (h2 : d < 58) :
    (digitChar d).toNat ≠ d := by
  have key : ∀ n < 58, 49 ≤ n → (ALPHABET.map Char.toNat).getD n 49 ≠ n := by
    rw [map_toNat_ALPHABET]; decide
  rw [toNat_digitChar]
  exact key d h2 h1

/-- Past its leading zero bytes, the text has one character per base-58 digit of the value. -/
theorem encode_cons_data {b : UInt8} (hb : b ≠ 0) (rest : List UInt8) :
    (encode (b :: rest)).data = digitText (value (b :: rest)) := by
  rw [encode_eq, List.takeWhile_cons_of_neg (by simpa using hb)]
  rfl

/-- The text of bytes led by the code of an alphabet character is not those bytes read as
characters: past one byte, as many characters cannot hold their value, and for one byte the
character is another. -/
theorem map_toNat_digitText_ne {b : UInt8} {rest : List UInt8} (hb : 49 ≤ b.toNat) :
    (digitText (value (b :: rest))).map Char.toNat ≠ (b :: rest).map UInt8.toNat := by
  intro h
  have hlen : (Nat.digits 58 (value (b :: rest))).length = rest.length + 1 := by
    simpa [digitText] using congrArg List.length h
  have hlt : value (b :: rest) < 58 ^ (rest.length + 1) :=
    hlen ▸ Nat.lt_base_pow_length_digits (by norm_num)
  have hge := le_value_cons b rest
  cases rest with
  | nil =>
    have hv : value [b] = b.toNat := by simp [value]
    rw [hv] at h hlt
    rw [digitText, Nat.digits_of_lt 58 _ (by omega) hlt] at h
    exact toNat_digitChar_ne hb hlt (by simpa using h)
  | cons b' rest =>
    have hpow := pow_le_of_one_le (m := rest.length + 1) (by omega)
    have := Nat.mul_le_mul_right (256 ^ (rest.length + 1)) hb
    simp only [List.length_cons] at hlt hge
    omega

end bs58

theorem utf8EncodeChar_of_lt {c : Char} (h : c.toNat < 128) :
    String.utf8EncodeChar c = [c.toNat.toUInt8] := by
  have hv : c.val ≤ 127 := by
    show c.val.toNat ≤ 127
    exact Nat.lt_succ_iff.mp h
  simp [String.utf8EncodeChar, hv]
  rfl

/-- An ASCII text has one UTF-8 byte per character, of the character's code. -/
theorem map_toNat_utf8Bytes {s : String} (h : ∀ c ∈ s.data, c.toNat < 128) :
    (utf8Bytes s).map UInt8.toNat = s.data.map Char.toNat := by
  rcases s with ⟨cs⟩
  show (cs.flatMap String.utf8EncodeChar).map UInt8.toNat = _
  induction cs with
  | nil => rfl
  | cons c cs ih =>
    simp only [List.mem_cons, forall_eq_or_imp] at h
    rw [List.flatMap_cons, utf8EncodeChar_of_lt h.1, List.singleton_append, List.map_cons, ih h.2,
      List.map_cons]
    exact congrArg (· :: _) (Nat.mod_eq_of_lt (by omega))

/-- The base-58 text of a seed's UTF-8 bytes is the seed itself only for the empty seed: the
text is made of alphabet characters, so the seed would be ASCII with one byte per character,
and no base-58 text of such bytes is those bytes. -/
theorem encode_utf8Bytes_eq_iff (s : String) : bs58.encode (utf8Bytes s) = s ↔ s = "" := by
  refine ⟨fun h => ?_, by rintro rfl; decide⟩
  have hcodes : ∀ c ∈ s.data, 49 ≤ c.toNat ∧ c.toNat ≤ 122 := fun c hc =>
    bs58.toNat_of_mem_ALPHABET (bs58.mem_ALPHABET_of_mem_encode (by rw [h]; exact hc))
  have hbytes := map_toNat_utf8Bytes fun c hc => by have := hcodes c hc; omega
  rcases s with ⟨_ | ⟨c, cs⟩⟩
  · rfl
  rcases hu : utf8Bytes ⟨c :: cs⟩ with _ | ⟨b, rest⟩
  · simp [hu] at hbytes
  rw [hu] at hbytes h
  have hb : 49 ≤ b.toNat := (List.cons.inj hbytes).1 ▸ (hcodes c (List.mem_cons_self _ _)).1
  have htext : (bs58.digitText (bs58.value (b :: rest))).map Char.toNat =
      (b :: rest).map UInt8.toNat := calc
    _ = (bs58.encode (b :: rest)).data.map Char.toNat := by
      rw [bs58.encode_cons_data fun h0 => by simp [h0] at hb]
    _ = (b :: rest).map UInt8.toNat := by rw [h]; exact hbytes.symm
  exact (bs58.map_toNat_digitText_ne hb htext).elim

section seeds

variable (SYSTEM_PROGRAM_ID : String)

/-- The four seed paths: `CreateAccountWithSeed` reports its seed as decoded, while
`AllocateWithSeed`, `AssignWithSeed` and `TransferWithSeed` report the base-58 text of its UTF-8
bytes, which is the seed only when the seed is empty. -/
theorem parse_instruction_seeds {instruction : StructuredInstruction} {context : TransactionContext}
    (hprogram : keyAt context instruction.program_id_index.toNat = SYSTEM_PROGRAM_ID) :
    (∀ c, SystemInstruction.unpack instruction.data = .ok (.CreateAccountWithSeed c) →
      2 ≤ instruction.accounts.length →
      ∃ e, parse_instruction SYSTEM_PROGRAM_ID instruction context =
        .ok (.ok (some (.CreateAccountWithSeed e))) ∧ e.seed = c.seed) ∧
    (∀ a, SystemInstruction.unpack instruction.data = .ok (.AllocateWithSeed a) →
      1 ≤ instruction.accounts.length →
      ∃ e, parse_instruction SYSTEM_PROGRAM_ID instruction context =
        .ok (.ok (some (.AllocateWithSeed e))) ∧
        e.seed = bs58.encode (utf8Bytes a.seed) ∧ (e.seed = a.seed ↔ a.seed = "")) ∧
    (∀ a, SystemInstruction.unpack instruction.data = .ok (.AssignWithSeed a) →
      1 ≤ instruction.accounts.length →
      ∃ e, parse_instruction SYSTEM_PROGRAM_ID instruction context =
        .ok (.ok (some (.AssignWithSeed e))) ∧
        e.seed = bs58.encode (utf8Bytes a.seed) ∧ (e.seed = a.seed ↔ a.seed = "")) ∧
    (∀ t, SystemInstruction.unpack instruction.data = .ok (.TransferWithSeed t) →
      3 ≤ instruction.accounts.length →
      ∃ e, parse_instruction SYSTEM_PROGRAM_ID instruction context =
        .ok (.ok (some (.TransferWithSeed e))) ∧
        e.from_seed = bs58.encode (utf8Bytes t.from_seed) ∧
        (e.from_seed = t.from_seed ↔ t.from_seed = "")) :=
  ⟨fun _ hv hlen => ⟨_, parse_instruction_eventOf _ hprogram hv hlen, rfl⟩,
    fun _ hv hlen => ⟨_, parse_instruction_eventOf _ hprogram hv hlen, rfl,
      encode_utf8Bytes_eq_iff _⟩,
    fun _ hv hlen => ⟨_, parse_instruction_eventOf _ hprogram hv hlen, rfl,
      encode_utf8Bytes_eq_iff _⟩,
    fun _ hv hlen => ⟨_, parse_instruction_eventOf _ hprogram hv hlen, rfl,
      encode_utf8Bytes_eq_iff _⟩⟩

theorem parse_instruction_seeds_withSeedA :
    ∃ e, parse_instruction "11111111111111111111111111111111" (withSeedA 9) zeroContext =
      .ok (.ok (some (.AllocateWithSeed e))) ∧ e.seed ≠ "a" :=
  ((parse_instruction_seeds _ (keyAt_zeroContext 0)).2.1 _ unpack_withSeedA_allocate
    (by decide)).imp fun _ h => ⟨h.1, fun heq => absurd (h.2.2.mp heq) (by decide)⟩

end seeds

end system_program_substream
