import Vestibule.Text.Blank

/-!
Sets of labels in normal form.

A list of labels is normalised the way a set is gathered from it: each label is trimmed, and kept
unless it is empty or was seen before; the labels kept are then sorted. Texts compare by code
point, which is also the order of their UTF-8 octets, so the result is strictly increasing and is
the one list that stands for its set.
-/

namespace Vestibule.Text

/-- The labels kept so far, in the order they were met, and the labels seen. -/
structure LabelScan where
  kept : List String
  seen : List String

/-- One turn of the loop: the label is trimmed, then kept and marked seen unless it is empty or
was seen before. -/
def LabelScan.step (s : LabelScan) (v : String) : LabelScan :=
  let t := trim v
  if t.isEmpty then s
  else if s.seen.contains t then s
  else ⟨s.kept ++ [t], t :: s.seen⟩

def labelLe (a b : String) : Bool := !decide (b < a)

def normalSet (values : List String) : List String :=
  (values.foldl LabelScan.step ⟨[], []⟩).kept.mergeSort labelLe

end Vestibule.Text
