/-!
# UTF-8, whole and damaged

A page arrives as bytes.  Bytes that spell characters become those characters;
bytes that do not are *damaged stretches*.  A stretch is as long as it could
still have been the beginning of a character: the byte that makes it impossible
starts afresh.  A reader that must go on writes the replacement character once
for each stretch, a strict reader gives up at the first one.

The decoder is a machine that takes one byte at a time.  Between characters it
is at `start`; inside one it remembers the bits so far, the range the next byte
must lie in and how many more bytes come after that one.

## Main definitions

* `encode` — the bytes of a text.
* `Place`, `Place.step` — the decoder and what one byte does to it.
* `decodeFrom` — the characters and damaged stretches of some bytes.
* `decode` — the text, with the replacement character for damage.
* `decode?` — the text, if nothing is damaged.

## Main results

* `decodeFrom_encode` — encoded text is read back character by character,
  whatever bytes follow.
* `decode_encode`, `decode?_encode` — both readers undo `encode`.
-/

namespace BadgeEntry.Utf8

/-- The bytes of a text. -/
def encode (cs : List Char) : List UInt8 :=
  cs.flatMap String.utf8EncodeChar

@[simp] theorem encode_nil : encode [] = [] := rfl

@[simp] theorem encode_cons (c : Char) (cs : List Char) :
    encode (c :: cs) = String.utf8EncodeChar c ++ encode cs := rfl

theorem encode_append (cs ds : List Char) : encode (cs ++ ds) = encode cs ++ encode ds := by
  simp [encode]

/-- The number of bytes of a text. -/
def size (cs : List Char) : Nat :=
  cs.foldl (fun n c => n + c.utf8Size) 0

/-- What stands for a damaged stretch. -/
def replacement : Char := '\uFFFD'

/-! ### The machine -/

/-- Where the decoder is. -/
inductive Place where
  /-- Between two characters. -/
  | start
  /-- Inside a character: the bits so far, the range of the next byte, and the
  number of bytes after it. -/
  | inside (bits low high after : Nat)
  deriving DecidableEq, Repr

/-- What the first byte of a longer character says about the rest; `none` for a
byte that begins none.  The narrowed ranges keep out overlong forms, surrogates
and numbers above the last code point. -/
def lead? (b : Nat) : Option Place :=
  if 0xC2 ≤ b ∧ b ≤ 0xDF then some (.inside (b - 0xC0) 0x80 0xBF 0)
  else if b = 0xE0 then some (.inside 0 0xA0 0xBF 1)
  else if b = 0xED then some (.inside 0xD 0x80 0x9F 1)
  else if 0xE1 ≤ b ∧ b ≤ 0xEF then some (.inside (b - 0xE0) 0x80 0xBF 1)
  else if b = 0xF0 then some (.inside 0 0x90 0xBF 2)
  else if 0xF1 ≤ b ∧ b ≤ 0xF3 then some (.inside (b - 0xF0) 0x80 0xBF 2)
  else if b = 0xF4 then some (.inside 4 0x80 0x8F 2)
  else none

/-- A byte between characters: what it yields (`none` is a damaged stretch) and
where it leads. -/
def begin (b : Nat) : List (Option Char) × Place :=
  if b < 0x80 then ([some (Char.ofNat b)], .start)
  else match lead? b with
    | some place => ([], place)
    | none => ([none], .start)

/-- One byte. -/
def Place.step (place : Place) (b : Nat) : List (Option Char) × Place :=
  match place with
  | .start => begin b
  | .inside bits low high after =>
    if low ≤ b ∧ b ≤ high then
      let bits := bits * 64 + (b - 0x80)
      match after with
      | 0 => ([some (Char.ofNat bits)], .start)
      | after + 1 => ([], .inside bits 0x80 0xBF after)
    else (none :: (begin b).1, (begin b).2)

/-- The end of the bytes: a character cut short is a damaged stretch. -/
def Place.finish : Place → List (Option Char)
  | .start => []
  | .inside .. => [none]

/-- The characters (`some`) and damaged stretches (`none`) of some bytes. -/
def decodeFrom (place : Place) : List UInt8 → List (Option Char)
  | [] => place.finish
  | b :: bs => (place.step b.toNat).1 ++ decodeFrom (place.step b.toNat).2 bs

/-- The text of some bytes, each damaged stretch replaced by one character. -/
def decode (bytes : List UInt8) : List Char :=
  (decodeFrom .start bytes).map (·.getD replacement)

/-- The text of some bytes, if they are not damaged. -/
def decode? (bytes : List UInt8) : Option (List Char) :=
  (decodeFrom .start bytes).mapM id

/-! ### Reading back -/

/-- One encoded character is read back, whatever follows it. -/
theorem decodeFrom_encodeChar (c : Char) (rest : List UInt8) :
    decodeFrom .start (String.utf8EncodeChar c ++ rest) = some c :: decodeFrom .start rest := by
  have hval : Char.ofNat c.val.toNat = c := Char.ofNat_toNat c
  have hvalid : c.val.toNat < 0xD800 ∨ (0xDFFF < c.val.toNat ∧ c.val.toNat < 0x110000) := c.valid
  simp only [String.utf8EncodeChar]
  generalize c.val.toNat = v at hval hvalid
  have small (n : Nat) (h : n < 256) : (UInt8.ofNat n).toNat = n := by
    simp only [UInt8.toNat_ofNat']; omega
  split
  · next h => simp [decodeFrom, Place.step, begin, small v (by omega), show v < 128 by omega, hval]
  · split
    · next h₁ h₂ =>
      have e₁ : v / 64 % 32 + 192 - 192 = v / 64 := by omega
      have e₂ : v / 64 * 64 + (v % 64 + 128 - 128) = v := by omega
      have r₁ : 194 ≤ v / 64 % 32 + 192 ∧ v / 64 % 32 + 192 ≤ 223 := by omega
      simp only [List.cons_append, List.nil_append, decodeFrom, Place.step, begin, lead?,
        small (v / 64 % 32 + 192) (by omega), small (v % 64 + 128) (by omega)]
      rw [if_neg (by omega), if_pos r₁]
      simp only [List.nil_append]
      rw [if_pos (by omega), e₁, e₂, hval]
      rfl
    · split
      · next h₁ h₂ h₃ =>
        have s₁ := small (v / 4096 % 16 + 224) (by omega)
        have s₂ := small (v / 64 % 64 + 128) (by omega)
        have s₃ := small (v % 64 + 128) (by omega)
        have e₃ : (v / 4096 * 64 + (v / 64 % 64 + 128 - 128)) * 64 + (v % 64 + 128 - 128) = v := by
          omega
        have e₁ : v / 4096 % 16 + 224 - 224 = v / 4096 := by omega
        simp only [List.cons_append, List.nil_append, decodeFrom, s₁, s₂, s₃, Place.step, begin]
        rw [if_neg (by omega)]
        -- the first byte narrows the range of the second one in two cases
        have hlead : ∃ low high, lead? (v / 4096 % 16 + 224) =
            some (.inside (v / 4096) low high 1) ∧
            low ≤ v / 64 % 64 + 128 ∧ v / 64 % 64 + 128 ≤ high := by
          simp only [lead?]
          rw [if_neg (by omega)]
          split
          · exact ⟨_, _, by rw [show v / 4096 = 0 by omega], by omega, by omega⟩
          · split
            · exact ⟨_, _, by rw [show v / 4096 = 13 by omega], by omega, by omega⟩
            · rw [if_pos (by omega), e₁]
              exact ⟨_, _, rfl, by omega, by omega⟩
        obtain ⟨low, high, hl, hlow, hhigh⟩ := hlead
        simp only [hl, List.nil_append]
        rw [if_pos ⟨hlow, hhigh⟩]
        simp only [List.nil_append]
        rw [if_pos (by omega), e₃, hval]
        rfl
      · next h₁ h₂ h₃ =>
        have s₁ := small (v / 262144 % 8 + 240) (by omega)
        have s₂ := small (v / 4096 % 64 + 128) (by omega)
        have s₃ := small (v / 64 % 64 + 128) (by omega)
        have s₄ := small (v % 64 + 128) (by omega)
        have e₄ : ((v / 262144 * 64 + (v / 4096 % 64 + 128 - 128)) * 64 +
            (v / 64 % 64 + 128 - 128)) * 64 + (v % 64 + 128 - 128) = v := by omega
        have e₁ : v / 262144 % 8 + 240 - 240 = v / 262144 := by omega
        simp only [List.cons_append, List.nil_append, decodeFrom, s₁, s₂, s₃, s₄, Place.step,
          begin]
        rw [if_neg (by omega)]
        have hlead : ∃ low high, lead? (v / 262144 % 8 + 240) =
            some (.inside (v / 262144) low high 2) ∧
            low ≤ v / 4096 % 64 + 128 ∧ v / 4096 % 64 + 128 ≤ high := by
          simp only [lead?]
          rw [if_neg (by omega), if_neg (by omega), if_neg (by omega), if_neg (by omega)]
          split
          · exact ⟨_, _, by rw [show v / 262144 = 0 by omega], by omega, by omega⟩
          · split
            · rw [e₁]
              exact ⟨_, _, rfl, by omega, by omega⟩
            · rw [if_pos (by omega)]
              exact ⟨_, _, by rw [show v / 262144 = 4 by omega], by omega, by omega⟩
        obtain ⟨low, high, hl, hlow, hhigh⟩ := hlead
        simp only [hl, List.nil_append]
        rw [if_pos ⟨hlow, hhigh⟩]
        simp only [List.nil_append]
        rw [if_pos (by omega)]
        simp only [List.nil_append]
        rw [if_pos (by omega), e₄, hval]
        rfl

/-- Encoded text is read back, whatever bytes follow. -/
theorem decodeFrom_encode (cs : List Char) (rest : List UInt8) :
    decodeFrom .start (encode cs ++ rest) = cs.map some ++ decodeFrom .start rest := by
  induction cs with
  | nil => rfl
  | cons c cs ih =>
    rw [encode_cons, List.append_assoc, decodeFrom_encodeChar, ih]
    rfl

@[simp] theorem decode_encode (cs : List Char) : decode (encode cs) = cs := by
  have h := decodeFrom_encode cs []
  simp only [List.append_nil] at h
  simp [decode, h, decodeFrom, Place.finish, Function.comp_def]

@[simp] theorem decode?_encode (cs : List Char) : decode? (encode cs) = some cs := by
  have h := decodeFrom_encode cs []
  simp only [List.append_nil, decodeFrom, Place.finish] at h
  rw [decode?, h]
  induction cs with
  | nil => rfl
  | cons c cs ih =>
    have hrest : List.mapM id (List.map some cs) = some cs := by
      simpa using ih (by simpa [decodeFrom, Place.finish] using decodeFrom_encode cs [])
    simp [List.mapM_cons, hrest]

end BadgeEntry.Utf8
