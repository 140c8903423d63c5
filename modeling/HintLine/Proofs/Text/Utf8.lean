import HintLine.Text.Utf8
import Mathlib.Data.List.Basic

/-!
UTF-8 and ASCII. Text is read back from its bytes as it was. A byte below 0x80 stands for the character of its own
number wherever it occurs, so that text can be cut at ASCII characters before or after it is encoded.
-/

set_option autoImplicit false

namespace HintLine.Text.Utf8

private theorem utf8EncodeChar_of_ascii {c : Char} (ascii : c.toNat < 0x80) :
    String.utf8EncodeChar c = [UInt8.ofNat c.toNat] := by
  have small : c.val.toNat ≤ 127 := Nat.le_of_lt_succ ascii
  unfold String.utf8EncodeChar
  simp only [small, if_true]
  rfl

theorem toNat_of_mem {c : Char} {b : UInt8} (member : b ∈ String.utf8EncodeChar c) (low : b.toNat < 0x80) :
    c.toNat = b.toNat := by
  have value : c.toNat = c.val.toNat := rfl
  unfold String.utf8EncodeChar at member
  dsimp only at member
  split_ifs at member
  next small =>
    obtain rfl := List.mem_singleton.1 member
    rw [UInt8.toNat_ofNat']
    omega
  all_goals
    simp only [List.mem_cons, List.not_mem_nil, or_false] at member
    rcases member with rfl | rfl | rfl | rfl <;> (rw [UInt8.toNat_ofNat'] at low; omega)

@[simp] theorem encode_cons (c : Char) (s : List Char) : encode (c :: s) = String.utf8EncodeChar c ++ encode s := by
  simp [encode]

theorem encode_of_ascii {s : List Char} (ascii : ∀ c ∈ s, c.toNat < 0x80) :
    encode s = s.map fun c => UInt8.ofNat c.toNat := by
  induction s with
  | nil => rfl
  | cons c s ih =>
    rw [encode_cons, utf8EncodeChar_of_ascii (ascii c List.mem_cons_self),
      ih fun d member => ascii d (List.mem_cons_of_mem c member)]
    rfl

private theorem lead_eq_one {b : UInt8} (low : b.toNat < 0x80) : lead b = .one := if_pos (UInt8.lt_iff_toNat_lt.2 low)

private theorem lead_ne_one {b : UInt8} (high : 0x80 ≤ b.toNat) : lead b ≠ .one := by
  fun_cases lead b
  case case1 low => exact (Nat.not_lt.2 high (UInt8.lt_iff_toNat_lt.1 low)).elim
  all_goals nofun

private theorem lead_eq_two {b : UInt8} (above : 0xC2 ≤ b.toNat) (below : b.toNat < 0xE0) : lead b = .two := by
  have notOne : ¬ b < 0x80 := by
    rw [UInt8.lt_iff_toNat_lt]
    exact Nat.not_lt.2 (Nat.le_trans (by decide) above)
  have notNone : ¬ b < 0xC2 := by
    rw [UInt8.lt_iff_toNat_lt]
    exact Nat.not_lt.2 above
  rw [lead, if_neg notOne, if_neg notNone, if_pos (UInt8.lt_iff_toNat_lt.2 below)]

private theorem lead_eq_three {b : UInt8} (above : 0xE0 ≤ b.toNat) (below : b.toNat < 0xF0) :
    lead b = .three (if b.toNat = 0xE0 then 0xA0 else 0x80) (if b.toNat = 0xED then 0x9F else 0xBF) := by
  have notOne : ¬ b.toNat < 0x80 := by omega
  have notNone : ¬ b.toNat < 0xC2 := by omega
  have notTwo : ¬ b.toNat < 0xE0 := by omega
  simp only [lead, UInt8.lt_iff_toNat_lt, ← UInt8.toNat_inj, UInt8.reduceToNat, notOne, notNone, notTwo, below, if_false,
    if_true]
  by_cases least : b.toNat = 0xE0
  · have other : b.toNat ≠ 0xED := by omega
    rw [if_pos least, if_pos least, if_neg other]
  · rw [if_neg least, if_neg least]
    by_cases surrogates : b.toNat = 0xED
    · rw [if_pos surrogates, if_pos surrogates]
    · rw [if_neg surrogates, if_neg surrogates]

private theorem lead_eq_four {b : UInt8} (above : 0xF0 ≤ b.toNat) (below : b.toNat < 0xF5) :
    lead b = .four (if b.toNat = 0xF0 then 0x90 else 0x80) (if b.toNat = 0xF4 then 0x8F else 0xBF) := by
  have notOne : ¬ b.toNat < 0x80 := by omega
  have notNone : ¬ b.toNat < 0xC2 := by omega
  have notTwo : ¬ b.toNat < 0xE0 := by omega
  have notThree : ¬ b.toNat < 0xF0 := by omega
  have notLeast : b.toNat ≠ 0xE0 := by omega
  have notSurrogates : b.toNat ≠ 0xED := by omega
  simp only [lead, UInt8.lt_iff_toNat_lt, ← UInt8.toNat_inj, UInt8.reduceToNat, notOne, notNone, notTwo, notThree,
    notLeast, notSurrogates, if_false]
  by_cases least : b.toNat = 0xF0
  · have other : b.toNat ≠ 0xF4 := by omega
    rw [if_pos least, if_pos least, if_neg other]
  · rw [if_neg least, if_neg least]
    by_cases greatest : b.toNat = 0xF4
    · rw [if_neg (by omega), if_pos greatest, if_pos greatest]
    · rw [if_pos (by omega), if_neg greatest]

private theorem isTail_iff {b : UInt8} : isTail b = true ↔ 0x80 ≤ b.toNat ∧ b.toNat ≤ 0xBF := by
  simp [isTail, UInt8.le_iff_toNat_le]

section Widths

private theorem ite_le_iff {p : Prop} [Decidable p] {x y b : UInt8} :
    (if p then x else y) ≤ b ↔ (if p then x.toNat else y.toNat) ≤ b.toNat := by
  split <;> exact UInt8.le_iff_toNat_le

private theorem le_ite_iff {p : Prop} [Decidable p] {x y b : UInt8} :
    (b ≤ if p then x else y) ↔ b.toNat ≤ if p then x.toNat else y.toNat := by
  split <;> exact UInt8.le_iff_toNat_le

variable {a b c d : UInt8} (rest : List UInt8)

private theorem pieces_one (low : a.toNat < 0x80) : pieces (a :: rest) = some (Char.ofNat a.toNat) :: pieces rest := by
  rw [pieces.eq_def]
  simp only [lead_eq_one low]

private theorem pieces_two (above : 0xC2 ≤ a.toNat) (below : a.toNat < 0xE0) (last : isTail b = true) :
    pieces (a :: b :: rest) = some (Char.ofNat (a.toNat % 32 * 64 + payload b)) :: pieces rest := by
  rw [pieces.eq_def]
  simp only [lead_eq_two above below, last, if_true]

private theorem pieces_three (above : 0xE0 ≤ a.toNat) (below : a.toNat < 0xF0)
    (least : (if a.toNat = 0xE0 then 0xA0 else 0x80) ≤ b.toNat)
    (greatest : b.toNat ≤ if a.toNat = 0xED then 0x9F else 0xBF) (last : isTail c = true) :
    pieces (a :: b :: c :: rest) =
      some (Char.ofNat ((a.toNat % 16 * 64 + payload b) * 64 + payload c)) :: pieces rest := by
  have low : (if a.toNat = 0xE0 then 0xA0 else 0x80) ≤ b := ite_le_iff.2 least
  have high : b ≤ if a.toNat = 0xED then 0x9F else 0xBF := le_ite_iff.2 greatest
  rw [pieces.eq_def]
  simp only [lead_eq_three above below, low, high, last, decide_true, Bool.and_self, if_true]

private theorem pieces_four (above : 0xF0 ≤ a.toNat) (below : a.toNat < 0xF5)
    (least : (if a.toNat = 0xF0 then 0x90 else 0x80) ≤ b.toNat)
    (greatest : b.toNat ≤ if a.toNat = 0xF4 then 0x8F else 0xBF) (third : isTail c = true) (last : isTail d = true) :
    pieces (a :: b :: c :: d :: rest) =
      some (Char.ofNat (((a.toNat % 8 * 64 + payload b) * 64 + payload c) * 64 + payload d)) :: pieces rest := by
  have low : (if a.toNat = 0xF0 then 0x90 else 0x80) ≤ b := ite_le_iff.2 least
  have high : b ≤ if a.toNat = 0xF4 then 0x8F else 0xBF := le_ite_iff.2 greatest
  rw [pieces.eq_def]
  simp only [lead_eq_four above below, low, high, third, last, decide_true, Bool.and_self, if_true]

end Widths

private theorem pieces_utf8EncodeChar_append (c : Char) (rest : List UInt8) :
    pieces (String.utf8EncodeChar c ++ rest) = some c :: pieces rest := by
  have valid : c.toNat < 55296 ∨ 57343 < c.toNat ∧ c.toNat < 1114112 := c.valid
  have own : Char.ofNat c.toNat = c := Char.ofNat_toNat c
  have value : c.val.toNat = c.toNat := rfl
  have byte (n : Nat) (small : n < 256) : (UInt8.ofNat n).toNat = n := by
    rw [UInt8.toNat_ofNat']
    omega
  unfold String.utf8EncodeChar
  dsimp only
  rw [value]
  generalize c.toNat = v at valid own
  split_ifs
  · have first := byte v (by omega)
    rw [List.singleton_append, pieces_one rest (by omega), first, own]
  · have first := byte (v / 64 % 32 + 192) (by omega)
    have last := byte (v % 64 + 128) (by omega)
    have whole : (v / 64 % 32 + 192) % 32 * 64 + (v % 64 + 128) % 64 = v := by omega
    rw [List.cons_append, List.singleton_append,
      pieces_two rest (by omega) (by omega) (isTail_iff.2 (by omega)), payload, first, last, whole, own]
  · have first := byte (v / 4096 % 16 + 224) (by omega)
    have second := byte (v / 64 % 64 + 128) (by omega)
    have last := byte (v % 64 + 128) (by omega)
    have whole :
        ((v / 4096 % 16 + 224) % 16 * 64 + (v / 64 % 64 + 128) % 64) * 64 + (v % 64 + 128) % 64 = v := by omega
    rw [List.cons_append, List.cons_append, List.singleton_append,
      pieces_three rest (by omega) (by omega) (by split <;> omega) (by split <;> omega) (isTail_iff.2 (by omega)),
      payload, payload, first, second, last, whole, own]
  · have first := byte (v / 262144 % 8 + 240) (by omega)
    have second := byte (v / 4096 % 64 + 128) (by omega)
    have third := byte (v / 64 % 64 + 128) (by omega)
    have last := byte (v % 64 + 128) (by omega)
    have whole : (((v / 262144 % 8 + 240) % 8 * 64 + (v / 4096 % 64 + 128) % 64) * 64 +
        (v / 64 % 64 + 128) % 64) * 64 + (v % 64 + 128) % 64 = v := by omega
    rw [List.cons_append, List.cons_append, List.cons_append, List.singleton_append,
      pieces_four rest (by omega) (by omega) (by split <;> omega) (by split <;> omega) (isTail_iff.2 (by omega))
        (isTail_iff.2 (by omega)), payload, payload, payload, first, second, third, last, whole, own]

/-- Text is read back as it was. -/
theorem decodeLossy_encode (s : List Char) : decodeLossy (encode s) = s := by
  induction s with
  | nil => rfl
  | cons c s ih =>
    unfold decodeLossy at ih ⊢
    rw [encode_cons, pieces_utf8EncodeChar_append, List.map_cons, ih]
    rfl

theorem decodeLossy_singleton {b : UInt8} (high : 0x80 ≤ b.toNat) : decodeLossy [b] = ['\uFFFD'] := by
  have broken : pieces [b] = [none] := by
    rw [pieces.eq_def]
    dsimp only
    cases leads : lead b with
    | one => exact (lead_ne_one high leads).elim
    | two | three | four | none => rfl
  rw [decodeLossy, broken]
  rfl

private theorem exists_char_of_encode {s : List Char} {before after : List UInt8} {b : UInt8} (low : b.toNat < 0x80)
    (cut : encode s = before ++ b :: after) :
    ∃ front c back, s = front ++ c :: back ∧ encode front = before ∧ String.utf8EncodeChar c = [b] ∧
      encode back = after := by
  induction s generalizing before with
  | nil => cases before <;> cases cut
  | cons c s ih =>
    rw [encode_cons] at cut
    rcases List.append_eq_append_iff.1 cut with ⟨more, rfl, later⟩ | ⟨more, own, later⟩
    · obtain ⟨front, d, back, rfl, rfl, single, rfl⟩ := ih later
      exact ⟨c :: front, d, back, rfl, encode_cons c front, single, rfl⟩
    · cases more with
      | nil =>
        obtain ⟨front, d, back, rfl, empty, single, rfl⟩ := ih (show encode s = [] ++ b :: after from later.symm)
        refine ⟨c :: front, d, back, rfl, ?_, single, rfl⟩
        rw [encode_cons, empty, own, List.append_nil, List.append_nil]
      | cons d more =>
        obtain ⟨rfl, rfl⟩ := List.cons.inj later
        have member : b ∈ String.utf8EncodeChar c := by simp [own]
        have ascii := toNat_of_mem member low
        have single : String.utf8EncodeChar c = [b] := by
          rw [utf8EncodeChar_of_ascii (ascii ▸ low), ascii, UInt8.ofNat_toNat]
        rw [single, eq_comm, List.append_eq_singleton_iff] at own
        rcases own with ⟨rfl, rest⟩ | ⟨-, none⟩
        · obtain rfl := (List.cons.inj rest).2
          exact ⟨[], c, s, rfl, rfl, single, rfl⟩
        · cases none

theorem exists_part_of_encode {s : List Char} {before part after : List UInt8}
    (cut : encode s = before ++ part ++ after) (some : part ≠ []) (first : ∀ b ∈ part.head?, b.toNat < 0x80)
    (last : ∀ b ∈ part.getLast?, b.toNat < 0x80) :
    ∃ front t back, s = front ++ t ++ back ∧ encode front = before ∧ encode t = part := by
  cases part with
  | nil => exact (some rfl).elim
  | cons b rest =>
    have opens : encode s = before ++ b :: (rest ++ after) := by simpa using cut
    obtain ⟨front, c, back, rfl, ahead, single, behind⟩ := exists_char_of_encode (first b rfl) opens
    have begun : encode (c :: back) = b :: rest ++ after := by
      rw [encode_cons, single, behind]
      rfl
    obtain ⟨inner, d, ends⟩ : ∃ inner d, b :: rest = inner ++ [d] :=
      ⟨_, _, (List.dropLast_append_getLast (List.cons_ne_nil b rest)).symm⟩
    rw [ends, List.append_assoc] at begun
    obtain ⟨start, e, more, whole, same, alone, -⟩ := exists_char_of_encode (last d (by simp [ends])) begun
    refine ⟨front, start ++ [e], more, ?_, ahead, ?_⟩
    · rw [whole]
      simp
    · rw [ends, encode_append, same, encode_cons, alone]
      rfl

end HintLine.Text.Utf8
