/-!
Text as octets. `bytes` writes UTF-8; `decodeLossy` reads any octets, putting U+FFFD for each
maximal part that starts a character and cannot be finished; `decode?` reads well-formed text only.
-/

namespace Provision

abbrev Bytes := List UInt8

namespace Text

def bytes (s : String) : Bytes := s.toUTF8.data.toList

def decode? (b : Bytes) : Option String := String.fromUTF8? ⟨b.toArray⟩

/-- What a first octet asks of the second, and how many more follow it. -/
structure Lead where
  low : UInt8
  high : UInt8
  more : Nat

def Lead.of? (a : UInt8) : Option Lead :=
  if 0xC2 ≤ a ∧ a ≤ 0xDF then some ⟨0x80, 0xBF, 0⟩
  else if a = 0xE0 then some ⟨0xA0, 0xBF, 1⟩
  else if a = 0xED then some ⟨0x80, 0x9F, 1⟩
  else if 0xE1 ≤ a ∧ a ≤ 0xEF then some ⟨0x80, 0xBF, 1⟩
  else if a = 0xF0 then some ⟨0x90, 0xBF, 2⟩
  else if 0xF1 ≤ a ∧ a ≤ 0xF3 then some ⟨0x80, 0xBF, 2⟩
  else if a = 0xF4 then some ⟨0x80, 0x8F, 2⟩
  else none

def replacement : Char := '\uFFFD'

def tailBits (b : UInt8) : Nat := b.toNat % 64

/-- Reads the octets that finish a character begun with the bits `acc`: the character, or none
where they do not finish it, and what is left. -/
def finish : Nat → Nat → Bytes → Option Char × Bytes
  | 0, acc, r => (some (.ofNat acc), r)
  | _ + 1, _, [] => (none, [])
  | n + 1, acc, b :: r =>
    if 0x80 ≤ b ∧ b ≤ 0xBF then finish n (acc * 64 + tailBits b) r else (none, b :: r)

theorem length_finish_le (n acc : Nat) (r : Bytes) : (finish n acc r).2.length ≤ r.length := by
  induction n generalizing acc r with
  | zero => simp [finish]
  | succ n ih =>
    cases r with
    | nil => simp [finish]
    | cons b r =>
      simp only [finish]
      split
      · exact Nat.le_trans (ih _ _) (by simp)
      · simp

def decodeHead (a : UInt8) (r : Bytes) : Char × Bytes :=
  if a < 0x80 then (.ofNat a.toNat, r)
  else match Lead.of? a, r with
    | none, r => (replacement, r)
    | some _, [] => (replacement, [])
    | some l, b :: r =>
      if l.low ≤ b ∧ b ≤ l.high then
        let acc := (a.toNat % (1 <<< (5 - l.more))) * 64 + tailBits b
        let (c, rest) := finish l.more acc r
        (c.getD replacement, rest)
      else (replacement, b :: r)

theorem length_decodeHead_le (a : UInt8) (r : Bytes) :
    (decodeHead a r).2.length ≤ r.length := by
  unfold decodeHead
  split
  · simp
  · split
    · simp
    · simp
    · next l b r _ =>
      split
      · exact Nat.le_trans (length_finish_le _ _ _) (by simp)
      · simp

def decodeChars : Bytes → List Char
  | [] => []
  | a :: r => (decodeHead a r).1 :: decodeChars (decodeHead a r).2
termination_by b => b.length
decreasing_by exact Nat.lt_succ_of_le (length_decodeHead_le a r)

def decodeLossy (b : Bytes) : String := .ofList (decodeChars b)

def newline : UInt8 := 10

def firstLine (b : Bytes) : Bytes × Bytes :=
  let rest := b.dropWhile (· ≠ newline)
  (b.takeWhile (· ≠ newline) ++ rest.take 1, rest.drop 1)

end Text
end Provision
