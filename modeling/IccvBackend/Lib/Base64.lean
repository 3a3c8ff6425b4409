/-
Module: IccvBackend.Lib.Base64
Purpose: Bytes as text in the URL alphabet without padding, and the lenient reading of such a text.
Trusted boundary: none
Main exports: encode, decode, decode_encode, encode_alphabet
-/
import Mathlib.Data.Char
import Mathlib.Data.List.Basic

namespace IccvBackend.Lib.Base64

/-! ### Six bits to a character -/

def alphabet : List Char :=
  "ABCDEFGHIJKLMNOPQRSTUVWXYZabcdefghijklmnopqrstuvwxyz0123456789-_".toList

def digit (n : Nat) : Char := alphabet.getD n 'A'

/-- Both alphabets are read. -/
def value (c : Char) : Option Nat :=
  if c = '+' then some 62
  else if c = '/' then some 63
  else (alphabet.findIdx? fun d => d = c)

theorem value_digit : ∀ n < 64, value (digit n) = some n := by decide +kernel

theorem digit_mem : ∀ n < 64, digit n ∈ alphabet := by decide

/-! ### Bytes -/

/-- The groups of six bits of some bytes. -/
def sextets : List UInt8 → List Nat
  | a :: b :: c :: rest =>
      a.toNat / 4 :: (a.toNat % 4 * 16 + b.toNat / 16) :: (b.toNat % 16 * 4 + c.toNat / 64) ::
        c.toNat % 64 :: sextets rest
  | [a, b] => [a.toNat / 4, a.toNat % 4 * 16 + b.toNat / 16, b.toNat % 16 * 4]
  | [a] => [a.toNat / 4, a.toNat % 4 * 16]
  | [] => []

/-- The bytes of some groups of six bits.  What does not fill a byte is dropped. -/
def octets : List Nat → List UInt8
  | s :: t :: u :: v :: rest =>
      UInt8.ofNat (s * 4 + t / 16) :: UInt8.ofNat (t % 16 * 16 + u / 4) ::
        UInt8.ofNat (u % 4 * 64 + v) :: octets rest
  | [s, t, u] => [UInt8.ofNat (s * 4 + t / 16), UInt8.ofNat (t % 16 * 16 + u / 4)]
  | [s, t] => [UInt8.ofNat (s * 4 + t / 16)]
  | _ => []

def encode (bytes : List UInt8) : List Char := (sextets bytes).map digit

/-- Characters outside the alphabet are skipped, and padding ends the text. -/
def decode (text : List Char) : List UInt8 :=
  octets ((text.takeWhile fun c => c ≠ '=').filterMap value)

theorem sextets_lt (bytes : List UInt8) : ∀ n ∈ sextets bytes, n < 64 := by
  induction bytes using sextets.induct with
  | case1 a b c rest ih =>
      have la := a.toNat_lt
      have lb := b.toNat_lt
      have lc := c.toNat_lt
      simp only [sextets, List.mem_cons]
      rintro n (rfl | rfl | rfl | rfl | mem)
      · omega
      · omega
      · omega
      · omega
      · exact ih n mem
  | case2 a b =>
      have la := a.toNat_lt
      have lb := b.toNat_lt
      simp only [sextets, List.mem_cons, List.not_mem_nil, or_false]
      rintro n (rfl | rfl | rfl) <;> omega
  | case3 a =>
      have la := a.toNat_lt
      simp only [sextets, List.mem_cons, List.not_mem_nil, or_false]
      rintro n (rfl | rfl) <;> omega
  | case4 => simp [sextets]

theorem ofNat_of_eq {n : Nat} {a : UInt8} (same : n = a.toNat) : UInt8.ofNat n = a := by
  rw [same, UInt8.ofNat_toNat]

theorem octets_sextets (bytes : List UInt8) : octets (sextets bytes) = bytes := by
  induction bytes using sextets.induct with
  | case1 a b c rest ih =>
      have la := a.toNat_lt
      have lb := b.toNat_lt
      have lc := c.toNat_lt
      rw [sextets, octets, ih, ofNat_of_eq (a := a) (by omega), ofNat_of_eq (a := b) (by omega),
        ofNat_of_eq (a := c) (by omega)]
  | case2 a b =>
      have la := a.toNat_lt
      have lb := b.toNat_lt
      rw [sextets, octets, ofNat_of_eq (a := a) (by omega), ofNat_of_eq (a := b) (by omega)]
  | case3 a =>
      have la := a.toNat_lt
      rw [sextets, octets, ofNat_of_eq (a := a) (by omega)]
  | case4 => rfl

theorem encode_alphabet (bytes : List UInt8) : ∀ c ∈ encode bytes, c ∈ alphabet := by
  intro c mem
  obtain ⟨n, n_mem, rfl⟩ := List.mem_map.mp mem
  exact digit_mem n (sextets_lt bytes n n_mem)

theorem takeWhile_all {p : Char → Bool} {cs : List Char} (all : ∀ c ∈ cs, p c = true) :
    cs.takeWhile p = cs := by
  have whole : (cs ++ []).takeWhile p = cs ++ [].takeWhile p := List.takeWhile_append_of_pos all
  rwa [List.append_nil, List.takeWhile_nil, List.append_nil] at whole

/-- Bytes are read back from their text. -/
theorem decode_encode (bytes : List UInt8) : decode (encode bytes) = bytes := by
  have no_padding : ∀ c ∈ encode bytes, decide (c ≠ '=') = true := by
    intro c mem
    have none_pads : alphabet.all (fun d => decide (d ≠ '=')) = true := by decide
    exact List.all_eq_true.mp none_pads c (encode_alphabet bytes c mem)
  have values : (encode bytes).filterMap value = sextets bytes := by
    unfold encode
    rw [List.filterMap_map]
    calc (sextets bytes).filterMap (value ∘ digit)
        = (sextets bytes).filterMap some :=
          List.filterMap_congr fun n mem => value_digit n (sextets_lt bytes n mem)
      _ = sextets bytes := List.filterMap_some
  unfold decode
  rw [takeWhile_all no_padding, values, octets_sextets]

end IccvBackend.Lib.Base64
