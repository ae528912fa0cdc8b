import Provision.Text.Blank
import Provision.Text.Utf8

namespace Provision

namespace Text

theorem length_firstLine_lt {a : UInt8} {r : Bytes} :
    (firstLine (a :: r)).2.length < (a :: r).length := by
  have h : ((a :: r).dropWhile (· ≠ newline)).length ≤ (a :: r).length :=
    (List.dropWhile_suffix _).length_le
  simp only [firstLine, List.length_drop]
  have hpos : 0 < (a :: r).length := by simp
  omega

def lines : Bytes → List Bytes
  | [] => []
  | a :: r => (firstLine (a :: r)).1 :: lines (firstLine (a :: r)).2
termination_by b => b.length
decreasing_by exact length_firstLine_lt

end Text

def tailLength : Nat := 200

structure Forwarded where
  copied : List Bytes
  kept : List String
  deriving DecidableEq, Repr

namespace Forwarded

def empty : Forwarded := ⟨[], []⟩

def lineText (line : Bytes) : String := Text.trimEnd (Text.decodeLossy line)

def push (f : Forwarded) (line : Bytes) : Forwarded where
  copied := line :: f.copied
  kept := (if f.kept.length = tailLength then f.kept.drop 1 else f.kept) ++ [lineText line]

def ofBytes (b : Bytes) : Forwarded := (Text.lines b).foldl push empty

def bytes (f : Forwarded) : Bytes := f.copied.reverse.flatten

def text (f : Forwarded) : String := "\n".intercalate f.kept

end Forwarded
end Provision
