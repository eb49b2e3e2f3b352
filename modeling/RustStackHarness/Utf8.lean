import RustStackHarness.Python
import Mathlib.Algebra.Group.Nat.Basic

/-! `bytes.decode()`: CPython's strict UTF-8 decoder, which `ruststack_process` applies to what it
reads from the child's pipes.  The decoder reads one byte at a time.  A byte below `0x80` is a
character; a lead byte announces one to three continuation bytes, the first of them in a range that
depends on the lead (so that overlong forms, surrogates and code points past U+10FFFF are rejected)
and the others in `0x80..0xBF`.  At the first byte that does not fit it raises `UnicodeDecodeError`,
whose text names the bytes of the broken sequence up to the bad one, their position, and why.

`decodeFrom_encode`: what Lean's `String.utf8EncodeChar` writes decodes back to the characters,
and what follows it is decoded, or rejected, at its own position; so `decode` of `s.toUTF8` is
`s` (`decode_toUTF8`). -/

namespace RustStackHarness.Utf8

open Python

/-! ### The decoder -/

/-- The decoder inside a sequence: the position of its lead byte, the continuation bytes still
expected, the range of the next one, and the bits of the code point read so far. -/
structure Pending where
  start : Nat
  need : Nat
  lo : Nat
  hi : Nat
  acc : Nat

/-- Why `bytes[start:stop]` does not decode, as the `UnicodeDecodeError` carries it. -/
structure DecodeError where
  start : Nat
  stop : Nat
  reason : String
  deriving DecidableEq, Repr

/-- The sequence a lead byte at `start` begins: none for a byte no sequence starts with (a
continuation byte, the overlong leads `0xC0` and `0xC1`, and `0xF5` on). -/
def leadByte (start : Nat) (b : UInt8) : Option Pending :=
  if b.toNat < 0xC2 then none
  else if b.toNat < 0xE0 then some ⟨start, 1, 0x80, 0xBF, b.toNat - 0xC0⟩
  else if b.toNat < 0xF0 then
    some ⟨start, 2, if b.toNat = 0xE0 then 0xA0 else 0x80, if b.toNat = 0xED then 0x9F else 0xBF,
      b.toNat - 0xE0⟩
  else if b.toNat < 0xF5 then
    some ⟨start, 3, if b.toNat = 0xF0 then 0x90 else 0x80, if b.toNat = 0xF4 then 0x8F else 0xBF,
      b.toNat - 0xF0⟩
  else none

/-- The decoder at position `pos`, between sequences or inside one: the characters, or the first
error.  A sequence the input ends inside is `unexpected end of data` up to the end. -/
def decodeFrom (pos : Nat) : Option Pending → List UInt8 → Except DecodeError (List Char)
  | none, [] => .ok []
  | some p, [] => .error ⟨p.start, pos, "unexpected end of data"⟩
  | none, b :: bs =>
    if b.toNat < 0x80 then (Char.ofNat b.toNat :: ·) <$> decodeFrom (pos + 1) none bs
    else match leadByte pos b with
      | none => .error ⟨pos, pos + 1, "invalid start byte"⟩
      | some p => decodeFrom (pos + 1) (some p) bs
  | some p, b :: bs =>
    if p.lo ≤ b.toNat ∧ b.toNat ≤ p.hi then
      let acc := 64 * p.acc + (b.toNat - 0x80)
      if p.need = 1 then (Char.ofNat acc :: ·) <$> decodeFrom (pos + 1) none bs
      else decodeFrom (pos + 1) (some ⟨p.start, p.need - 1, 0x80, 0xBF, acc⟩) bs
    else .error ⟨p.start, pos, "invalid continuation byte"⟩

/-- `str()` of the `UnicodeDecodeError`: `'utf-8' codec can't decode byte 0x%02x in position %zd:
%U` when one byte is at fault, else `... bytes in position %zd-%zd: %U`. -/
def DecodeError.message (bytes : List UInt8) (e : DecodeError) : String :=
  if e.start < bytes.length ∧ e.stop = e.start + 1 then
    "\x27utf-8\x27 codec can\x27t decode byte 0x" ++ hex2 (bytes.getD e.start 0).toNat ++
      " in position " ++ toString e.start ++ ": " ++ e.reason
  else
    "\x27utf-8\x27 codec can\x27t decode bytes in position " ++ toString e.start ++ "-" ++
      toString (e.stop - 1) ++ ": " ++ e.reason

/-- `bytes.decode()`: the text, or the `UnicodeDecodeError` it raises. -/
def decode (bytes : List UInt8) : Except Exn String :=
  match decodeFrom 0 none bytes with
  | .ok cs => .ok (String.mk cs)
  | .error e => .error ⟨.unicodeDecodeError, e.message bytes⟩

example : decode [0x62, 0xC3, 0xA9, 0x21] = .ok "bé!" := rfl

example : decode [0x6F, 0x6B, 0xFF] =
    .error ⟨.unicodeDecodeError,
      "\x27utf-8\x27 codec can\x27t decode byte 0xff in position 2: invalid start byte"⟩ := rfl

example : decode [0xE2, 0x82] =
    .error ⟨.unicodeDecodeError,
      "\x27utf-8\x27 codec can\x27t decode bytes in position 0-1: unexpected end of data"⟩ := rfl

/-! ### The bytes `String.utf8EncodeChar` writes -/

theorem UInt8.toNat_or (a b : UInt8) : (a ||| b).toNat = a.toNat ||| b.toNat := BitVec.toNat_or ..

theorem UInt32.toNat_toUInt8 (v : UInt32) : v.toUInt8.toNat = v.toNat % 256 := BitVec.toNat_ofNat ..

theorem UInt32.toNat_shiftRight (v k : UInt32) (j : Nat) (hk : k.toNat = j) (hj : j < 32) :
    (v >>> k).toNat = v.toNat / 2 ^ j := by
  show (v.toBitVec >>> (k % 32 : UInt32).toBitVec).toNat = _
  rw [BitVec.ushiftRight_eq', BitVec.toNat_ushiftRight, Nat.shiftRight_eq_div_pow]
  congr 2
  show k.toNat % 32 = _
  omega

/-- A byte made of the low `k` bits of `x` under a tag whose low `k` bits are clear. -/
theorem toNat_tagged (x : UInt8) (k m : Nat) (mask tag : UInt8) (hmask : mask.toNat = 2 ^ k - 1)
    (htag : tag.toNat = 2 ^ k * m) : (x &&& mask ||| tag).toNat = 2 ^ k * m + x.toNat % 2 ^ k := by
  rw [UInt8.toNat_or, UInt8.and_toNat, hmask, htag, Nat.and_pow_two_sub_one_eq_mod, Nat.or_comm,
    Nat.mul_add_lt_is_or (Nat.mod_lt _ (Nat.two_pow_pos k))]

/-- A continuation byte carrying the low six bits of `u`. -/
theorem toNat_continuation (u : UInt32) :
    (u.toUInt8 &&& 0x3f ||| 0x80).toNat = 0x80 + u.toNat % 64 := by
  rw [toNat_tagged _ 6 2 0x3f 0x80 rfl rfl, UInt32.toNat_toUInt8]
  omega

/-! ### The decoder's steps -/

section Steps

variable {pos : Nat} {b : UInt8} {bs : List UInt8}

theorem decodeFrom_ascii (h : b.toNat < 0x80) :
    decodeFrom pos none (b :: bs) =
      (Char.ofNat b.toNat :: ·) <$> decodeFrom (pos + 1) none bs := by
  simp only [decodeFrom, if_pos h]

theorem decodeFrom_lead {p : Pending} (h : 0x80 ≤ b.toNat) (hl : leadByte pos b = some p) :
    decodeFrom pos none (b :: bs) = decodeFrom (pos + 1) (some p) bs := by
  simp only [decodeFrom, if_neg (show ¬b.toNat < 0x80 by omega), hl]

/-- The last continuation byte of a sequence ends it with its character. -/
theorem decodeFrom_last {p : Pending} (hb : p.lo ≤ b.toNat ∧ b.toNat ≤ p.hi)
    (hn : p.need = 1) :
    decodeFrom pos (some p) (b :: bs) =
      (Char.ofNat (64 * p.acc + (b.toNat - 0x80)) :: ·) <$> decodeFrom (pos + 1) none bs := by
  simp only [decodeFrom, if_pos hb, if_pos hn]

theorem decodeFrom_more {p : Pending} (hb : p.lo ≤ b.toNat ∧ b.toNat ≤ p.hi)
    (hn : p.need ≠ 1) :
    decodeFrom pos (some p) (b :: bs) = decodeFrom (pos + 1)
      (some ⟨p.start, p.need - 1, 0x80, 0xBF, 64 * p.acc + (b.toNat - 0x80)⟩) bs := by
  simp only [decodeFrom, if_pos hb, if_neg hn]

end Steps

/-! ### Decoding what was encoded -/

/-- The decoder reads back each character `String.utf8EncodeChar` writes, and goes on after its
bytes. -/
theorem decodeFrom_encodeChar (pos : Nat) (c : Char) (rest : List UInt8) :
    decodeFrom pos none (String.utf8EncodeChar c ++ rest) =
      (c :: ·) <$> decodeFrom (pos + (String.utf8EncodeChar c).length) none rest := by
  have hval : c.val.toNat = c.toNat := rfl
  have hvalid : c.toNat < 0xD800 ∨ 0xDFFF < c.toNat ∧ c.toNat < 0x110000 := c.valid
  have hc : ∀ n, n = c.toNat → Char.ofNat n = c := fun n h => h ▸ Char.ofNat_toNat c
  have hcont : ∀ (j : UInt32) (k : Nat), j.toNat = k → k < 32 →
      ((c.val >>> j).toUInt8 &&& 0x3f ||| 0x80).toNat = 0x80 + c.toNat / 2 ^ k % 64 :=
    fun j k hj hk => by rw [toNat_continuation, UInt32.toNat_shiftRight _ _ _ hj hk, hval]
  have hlast := toNat_continuation c.val
  rw [hval] at hlast
  by_cases h1 : c.toNat ≤ 0x7f
  · have hb : c.val.toUInt8.toNat = c.toNat := by rw [UInt32.toNat_toUInt8, hval]; omega
    have henc : String.utf8EncodeChar c = [c.val.toUInt8] := if_pos h1
    rw [henc, List.singleton_append, decodeFrom_ascii (by omega), hb, hc _ rfl]
    rfl
  by_cases h2 : c.toNat ≤ 0x7ff
  · have hb₀ : ((c.val >>> 6).toUInt8 &&& 0x1f ||| 0xc0).toNat = 0xC0 + c.toNat / 64 := by
      rw [toNat_tagged _ 5 6 0x1f 0xc0 rfl rfl, UInt32.toNat_toUInt8,
        UInt32.toNat_shiftRight _ 6 6 rfl (by decide), hval]
      omega
    have henc : String.utf8EncodeChar c =
        [(c.val >>> 6).toUInt8 &&& 0x1f ||| 0xc0, c.val.toUInt8 &&& 0x3f ||| 0x80] := by
      simp only [String.utf8EncodeChar]
      rw [if_neg (show ¬c.val ≤ 0x7f from h1), if_pos (show c.val ≤ 0x7ff from h2)]
    have hl : leadByte pos ((c.val >>> 6).toUInt8 &&& 0x1f ||| 0xc0) =
        some ⟨pos, 1, 0x80, 0xBF, c.toNat / 64⟩ := by
      simp only [leadByte, hb₀]
      rw [if_neg (by omega), if_pos (by omega), Nat.add_sub_cancel_left]
    rw [henc, List.cons_append, List.cons_append, List.nil_append, decodeFrom_lead (by omega) hl,
      decodeFrom_last (by simp only [hlast]; omega) rfl, hlast]
    dsimp only
    rw [hc _ (by omega)]
    rfl
  have hb₂ : ((c.val >>> 6).toUInt8 &&& 0x3f ||| 0x80).toNat = 0x80 + c.toNat / 64 % 64 :=
    hcont 6 6 rfl (by decide)
  by_cases h3 : c.toNat ≤ 0xffff
  · have hb₀ : ((c.val >>> 12).toUInt8 &&& 0x0f ||| 0xe0).toNat = 0xE0 + c.toNat / 4096 := by
      rw [toNat_tagged _ 4 14 0x0f 0xe0 rfl rfl, UInt32.toNat_toUInt8,
        UInt32.toNat_shiftRight _ 12 12 rfl (by decide), hval]
      omega
    have henc : String.utf8EncodeChar c = [(c.val >>> 12).toUInt8 &&& 0x0f ||| 0xe0,
        (c.val >>> 6).toUInt8 &&& 0x3f ||| 0x80, c.val.toUInt8 &&& 0x3f ||| 0x80] := by
      simp only [String.utf8EncodeChar]
      rw [if_neg (show ¬c.val ≤ 0x7f from h1), if_neg (show ¬c.val ≤ 0x7ff from h2),
        if_pos (show c.val ≤ 0xffff from h3)]
    have hl : leadByte pos ((c.val >>> 12).toUInt8 &&& 0x0f ||| 0xe0) =
        some ⟨pos, 2, if 0xE0 + c.toNat / 4096 = 0xE0 then 0xA0 else 0x80,
          if 0xE0 + c.toNat / 4096 = 0xED then 0x9F else 0xBF, c.toNat / 4096⟩ := by
      simp only [leadByte, hb₀]
      rw [if_neg (by omega), if_neg (by omega), if_pos (by omega), Nat.add_sub_cancel_left]
    rw [henc, List.cons_append, List.cons_append, List.cons_append, List.nil_append,
      decodeFrom_lead (by omega) hl,
      decodeFrom_more (by simp only [hb₂]; constructor <;> split <;> omega) (by simp),
      decodeFrom_last (by simp only [hlast]; omega) rfl, hb₂, hlast]
    dsimp only
    rw [hc _ (by omega)]
    rfl
  have hb₀ : ((c.val >>> 18).toUInt8 &&& 0x07 ||| 0xf0).toNat = 0xF0 + c.toNat / 262144 := by
    rw [toNat_tagged _ 3 30 0x07 0xf0 rfl rfl, UInt32.toNat_toUInt8,
      UInt32.toNat_shiftRight _ 18 18 rfl (by decide), hval]
    omega
  have hb₁ : ((c.val >>> 12).toUInt8 &&& 0x3f ||| 0x80).toNat = 0x80 + c.toNat / 4096 % 64 :=
    hcont 12 12 rfl (by decide)
  have henc : String.utf8EncodeChar c = [(c.val >>> 18).toUInt8 &&& 0x07 ||| 0xf0,
      (c.val >>> 12).toUInt8 &&& 0x3f ||| 0x80, (c.val >>> 6).toUInt8 &&& 0x3f ||| 0x80,
      c.val.toUInt8 &&& 0x3f ||| 0x80] := by
    simp only [String.utf8EncodeChar]
    rw [if_neg (show ¬c.val ≤ 0x7f from h1), if_neg (show ¬c.val ≤ 0x7ff from h2),
      if_neg (show ¬c.val ≤ 0xffff from h3)]
  have hl : leadByte pos ((c.val >>> 18).toUInt8 &&& 0x07 ||| 0xf0) =
      some ⟨pos, 3, if 0xF0 + c.toNat / 262144 = 0xF0 then 0x90 else 0x80,
        if 0xF0 + c.toNat / 262144 = 0xF4 then 0x8F else 0xBF, c.toNat / 262144⟩ := by
    simp only [leadByte, hb₀]
    rw [if_neg (by omega), if_neg (by omega), if_neg (by omega), if_pos (by omega),
      Nat.add_sub_cancel_left]
  rw [henc, List.cons_append, List.cons_append, List.cons_append, List.cons_append,
    List.nil_append, decodeFrom_lead (by omega) hl,
    decodeFrom_more (by simp only [hb₁]; constructor <;> split <;> omega) (by simp),
    decodeFrom_more (by simp only [hb₂]; omega) (by simp),
    decodeFrom_last (by simp only [hlast]; omega) rfl, hb₁, hb₂, hlast]
  dsimp only
  rw [hc _ (by omega)]
  rfl

/-- The decoder reads back what `String.utf8EncodeChar` writes for each character of `cs`, and what
follows is decoded, or rejected, from the position after it. -/
theorem decodeFrom_encode (pos : Nat) (cs : List Char) (rest : List UInt8) :
    decodeFrom pos none (cs.flatMap String.utf8EncodeChar ++ rest) =
      (cs ++ ·) <$> decodeFrom (pos + (cs.flatMap String.utf8EncodeChar).length) none rest := by
  induction cs generalizing pos with
  | nil =>
    simp only [List.flatMap_nil, List.nil_append, List.length_nil, Nat.add_zero]
    cases decodeFrom pos none rest <;> rfl
  | cons c cs ih =>
    rw [List.flatMap_cons, List.append_assoc, decodeFrom_encodeChar, ih, List.length_append,
      Nat.add_assoc]
    cases decodeFrom (pos + ((String.utf8EncodeChar c).length +
      (cs.flatMap String.utf8EncodeChar).length)) none rest <;> rfl

/-- `s.encode().decode()` is `s`: the text a child writes as UTF-8 is the text the fixture reads. -/
theorem decode_toUTF8 (s : String) : decode s.toUTF8.data.toList = .ok s := by
  have h := decodeFrom_encode 0 s.data []
  rw [List.append_nil] at h
  simp only [decode, String.toUTF8, h, decodeFrom]
  show (.ok ⟨s.data ++ []⟩ : Except Exn String) = _
  rw [List.append_nil]

end RustStackHarness.Utf8
