/-!
# Byte strings

The carrier of everything a socket moves: a list of octets.  Lists keep the
statements about streams short — a chunking of `s` is a list of lists whose
`flatten` is `s`, a leftover is a `drop`.
-/

namespace FrameSocket

/-- A string of octets. -/
abbrev Bytes := List UInt8

namespace Bytes

/-- The lower-case form of an ASCII letter; every other octet is left alone. -/
def lowerByte (b : UInt8) : UInt8 :=
  if 0x41 ≤ b ∧ b ≤ 0x5A then b + 0x20 else b

/-- Equality of two octets, up to ASCII letter case unless `caseSensitive`. -/
def sameByte (caseSensitive : Bool) (a b : UInt8) : Bool :=
  if caseSensitive then a == b else lowerByte a == lowerByte b

/-- Whether `needle` stands at the front of `hay`. -/
def startsWith (caseSensitive : Bool) : (needle hay : Bytes) → Bool
  | [], _ => true
  | _ :: _, [] => false
  | n :: needle, h :: hay =>
    sameByte caseSensitive n h && startsWith caseSensitive needle hay

/-- The first position at which `needle` stands in `hay`.  The empty needle
stands everywhere, at the end of `hay` too. -/
def firstMatch (caseSensitive : Bool) (needle : Bytes) : (hay : Bytes) → Option Nat
  | [] => if needle.isEmpty then some 0 else none
  | h :: hay =>
    if startsWith caseSensitive needle (h :: hay) then some 0
    else (firstMatch caseSensitive needle hay).map (· + 1)

/-- The first position not before `start` at which `needle` stands in `hay`. -/
def firstMatchFrom (caseSensitive : Bool) (needle hay : Bytes) (start : Nat) : Option Nat :=
  if hay.length < start then none
  else (firstMatch caseSensitive needle (hay.drop start)).map (· + start)

/-- A needle is no longer than a string it stands at the front of. -/
theorem length_le_of_startsWith {cs : Bool} {needle hay : Bytes}
    (h : startsWith cs needle hay = true) : needle.length ≤ hay.length := by
  induction needle generalizing hay with
  | nil => simp
  | cons n needle ih =>
    cases hay with
    | nil => simp [startsWith] at h
    | cons x hay =>
      simp only [startsWith, Bool.and_eq_true] at h
      simpa using ih h.2

/-- A match lies inside the string it was found in. -/
theorem firstMatch_add_length_le {cs : Bool} {needle hay : Bytes} {pos : Nat}
    (h : firstMatch cs needle hay = some pos) : pos + needle.length ≤ hay.length := by
  induction hay generalizing pos with
  | nil =>
    simp only [firstMatch] at h
    split at h
    · rename_i hn
      simp only [Option.some.injEq] at h
      simp [← h, List.isEmpty_iff.mp hn]
    · exact nomatch h
  | cons x hay ih =>
    simp only [firstMatch] at h
    split at h
    · -- The needle stands right here
      rename_i hs
      simp only [Option.some.injEq] at h
      simpa [← h] using length_le_of_startsWith hs
    · obtain ⟨q, hq, rfl⟩ := Option.map_eq_some_iff.mp h
      have := ih hq
      simp only [List.length_cons]
      omega

/-- A match found from `start` lies at or after `start`, inside the string. -/
theorem firstMatchFrom_bounds {cs : Bool} {needle hay : Bytes} {start pos : Nat}
    (h : firstMatchFrom cs needle hay start = some pos) :
    start ≤ pos ∧ pos + needle.length ≤ hay.length := by
  unfold firstMatchFrom at h
  split at h
  · exact nomatch h
  · obtain ⟨q, hq, rfl⟩ := Option.map_eq_some_iff.mp h
    have := firstMatch_add_length_le hq
    rw [List.length_drop] at this
    omega

end Bytes

end FrameSocket
