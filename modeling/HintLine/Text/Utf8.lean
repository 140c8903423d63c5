/-!
UTF-8. `encode` writes a text as bytes. `pieces` reads bytes: each piece is a character, or one longest
ill-formed part that begins like a character and breaks off (`none`). `decode?` refuses ill-formed bytes,
`decodeLossy` shows each ill-formed part as one replacement character.
-/

set_option autoImplicit false

namespace HintLine.Text.Utf8

def encode (s : List Char) : List UInt8 := s.flatMap String.utf8EncodeChar

/-- What a first byte announces. The bounds are those of the second byte, which exclude overlong forms,
surrogates and values above the last character. -/
inductive Lead where
  | one
  | two
  | three (low high : UInt8)
  | four (low high : UInt8)
  | none
  deriving DecidableEq, Repr

def lead (b : UInt8) : Lead :=
  if b < 0x80 then .one
  else if b < 0xC2 then .none
  else if b < 0xE0 then .two
  else if b = 0xE0 then .three 0xA0 0xBF
  else if b = 0xED then .three 0x80 0x9F
  else if b < 0xF0 then .three 0x80 0xBF
  else if b = 0xF0 then .four 0x90 0xBF
  else if b < 0xF4 then .four 0x80 0xBF
  else if b = 0xF4 then .four 0x80 0x8F
  else .none

def isTail (b : UInt8) : Bool := 0x80 ≤ b && b ≤ 0xBF

def payload (b : UInt8) : Nat := b.toNat % 64

/-- Characters and longest ill-formed parts, in order. -/
def pieces : List UInt8 → List (Option Char)
  | [] => []
  | a :: rest =>
    match lead a with
    | .one => some (Char.ofNat a.toNat) :: pieces rest
    | .none => none :: pieces rest
    | .two =>
      match rest with
      | [] => [none]
      | b :: rest₁ =>
        if isTail b then some (Char.ofNat (a.toNat % 32 * 64 + payload b)) :: pieces rest₁
        else none :: pieces (b :: rest₁)
    | .three low high =>
      match rest with
      | [] => [none]
      | b :: rest₁ =>
        if low ≤ b && b ≤ high then
          match rest₁ with
          | [] => [none]
          | c :: rest₂ =>
            if isTail c then
              some (Char.ofNat ((a.toNat % 16 * 64 + payload b) * 64 + payload c)) :: pieces rest₂
            else none :: pieces (c :: rest₂)
        else none :: pieces (b :: rest₁)
    | .four low high =>
      match rest with
      | [] => [none]
      | b :: rest₁ =>
        if low ≤ b && b ≤ high then
          match rest₁ with
          | [] => [none]
          | c :: rest₂ =>
            if isTail c then
              match rest₂ with
              | [] => [none]
              | d :: rest₃ =>
                if isTail d then
                  some (Char.ofNat
                    (((a.toNat % 8 * 64 + payload b) * 64 + payload c) * 64 + payload d)) :: pieces rest₃
                else none :: pieces (d :: rest₃)
            else none :: pieces (c :: rest₂)
        else none :: pieces (b :: rest₁)

/-- The text, if all bytes are well formed. -/
def decode? (bytes : List UInt8) : Option (List Char) := (pieces bytes).mapM id

def decodeLossy (bytes : List UInt8) : List Char := (pieces bytes).map (·.getD '\uFFFD')

@[simp] theorem encode_nil : encode [] = [] := rfl

@[simp] theorem encode_append (s t : List Char) : encode (s ++ t) = encode s ++ encode t := by
  simp [encode]

end HintLine.Text.Utf8
