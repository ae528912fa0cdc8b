namespace Provision.Text

def blankRanges : List (Nat × Nat) :=
  [(0x9, 0xD), (0x20, 0x20), (0x85, 0x85), (0xA0, 0xA0), (0x1680, 0x1680), (0x2000, 0x200A),
   (0x2028, 0x2029), (0x202F, 0x202F), (0x205F, 0x205F), (0x3000, 0x3000)]

def inRanges (ranges : List (Nat × Nat)) (n : Nat) : Bool :=
  ranges.any fun r => r.1 ≤ n && n ≤ r.2

def isBlank (c : Char) : Bool := inRanges blankRanges c.toNat

def dropBlank (s : List Char) : List Char := s.dropWhile isBlank

def dropBlankEnd (s : List Char) : List Char := (dropBlank s.reverse).reverse

def trimChars (s : List Char) : List Char := dropBlankEnd (dropBlank s)

def trim (s : String) : String := .ofList (trimChars s.toList)

def trimEnd (s : String) : String := .ofList (dropBlankEnd s.toList)

theorem toList_trim (s : String) : (trim s).toList = trimChars s.toList := by simp [trim]

end Provision.Text
