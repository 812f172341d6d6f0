/-!
# The bytes of a text

A text is written as its UTF-8 bytes. `bytes` turns concatenation of texts into
concatenation of byte lists and tells distinct texts apart, `ofBytes?` reads
bytes back, and `firstNonAscii?` finds the first byte that ASCII cannot hold.
Texts are ordered by their bytes.
-/

set_option autoImplicit false

namespace Understudy.Text

def bytes (s : String) : List UInt8 := s.toByteArray.data.toList

@[simp] theorem bytes_empty : bytes "" = [] := rfl

@[simp] theorem bytes_append (s t : String) : bytes (s ++ t) = bytes s ++ bytes t := by
  simp [bytes]

theorem bytes_inj {s t : String} (h : bytes s = bytes t) : s = t := by
  have h' : s.toByteArray.data = t.toByteArray.data := Array.toList_inj.1 h
  exact String.toByteArray_inj.1 (ByteArray.ext h')

@[simp] theorem bytes_eq_nil_iff {s : String} : bytes s = [] ↔ s = "" :=
  ⟨fun h => bytes_inj (h.trans bytes_empty.symm), fun h => h ▸ bytes_empty⟩

theorem length_bytes (s : String) : (bytes s).length = s.utf8ByteSize := by
  rw [← String.size_toByteArray]
  rfl

def ofBytes? (bs : List UInt8) : Option String := String.fromUTF8? ⟨bs.toArray⟩

def isAscii (b : UInt8) : Bool := b < 128

def firstNonAscii? (bs : List UInt8) : Option Nat := bs.findIdx? (fun b => !isAscii b)

/-- The byte order of texts, in which every list of this library is sorted. -/
def before (s t : String) : Bool := decide (bytes s < bytes t)

theorem before_iff {s t : String} : before s t = true ↔ bytes s < bytes t := by
  simp [before]

theorem before_irrefl (s : String) : before s s = false := by
  simp [before, List.lt_irrefl]

theorem before_trans {r s t : String} (h : before r s = true) (h' : before s t = true) :
    before r t = true :=
  before_iff.2 (List.lt_trans (before_iff.1 h) (before_iff.1 h'))

theorem before_total {s t : String} (h : before s t = false) (h' : s ≠ t) :
    before t s = true := by
  by_cases ht : bytes t < bytes s
  · exact before_iff.2 ht
  · have hs : ¬ bytes s < bytes t := by simpa [before] using h
    exact absurd (bytes_inj (List.le_antisymm (List.not_lt.1 ht) (List.not_lt.1 hs))) h'

end Understudy.Text
