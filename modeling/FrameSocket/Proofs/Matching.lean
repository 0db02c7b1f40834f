import FrameSocket.Bytes
import Mathlib.Order.Bounds.Basic

/-!
# Where a marker stands

`StandsAt` says octet by octet that a needle stands at a position of a byte
string.  The searches `firstMatch` and `firstMatchFrom` are shown to answer the
least such position, and the positions are followed through `drop` and `++`.

## Key results

- `firstMatchFrom_eq_some_iff`: a search answers the least position at which the
  needle stands, among those at or after its start
- `standsAt_append` / `standsAt_of_append`: more bytes at the end change nothing
  about the positions inside the bytes there were
- `isLeast_positionsFrom_append`: nor do they change which position is the least
- `isLeast_positionsFrom_drop`: positions in what is left of a string are those of
  the string, moved
- `firstMatchFrom_eq_of_le`: a search may start later, if there is nothing to find before
-/

namespace FrameSocket.Bytes

/-- `needle` stands in `hay` at position `p`: it fits there, and its octets are
    those of `hay` from `p` on, up to ASCII letter case unless `cs`. -/
def StandsAt (cs : Bool) (needle hay : Bytes) (p : Nat) : Prop :=
  ∃ _ : p + needle.length ≤ hay.length,
    ∀ (i : Nat) (_ : i < needle.length), sameByte cs needle[i] hay[p + i] = true

variable {cs : Bool} {needle hay : Bytes}

/-- A needle lies inside the string it stands in. -/
theorem StandsAt.add_length_le {p : Nat} (h : StandsAt cs needle hay p) :
    p + needle.length ≤ hay.length := by
  obtain ⟨hle, _⟩ := h
  exact hle

/-- The empty needle stands everywhere, at the end too. -/
theorem standsAt_nil {p : Nat} (h : p ≤ hay.length) : StandsAt cs [] hay p :=
  ⟨h, fun _ hi => absurd hi (Nat.not_lt_zero _)⟩

/-- One octet in front moves every position by one. -/
theorem standsAt_cons_succ {x : UInt8} {p : Nat} :
    StandsAt cs needle (x :: hay) (p + 1) ↔ StandsAt cs needle hay p := by
  -- The byte in front shifts every position by one
  constructor
  · rintro ⟨hle, h⟩
    simp only [List.length_cons] at hle
    refine ⟨by omega, fun i hi => ?_⟩
    have hi' := h i hi
    simp only [show p + 1 + i = p + i + 1 by omega, List.getElem_cons_succ] at hi'
    exact hi'
  · rintro ⟨hle, h⟩
    refine ⟨by simp only [List.length_cons]; omega, fun i hi => ?_⟩
    simp only [show p + 1 + i = p + i + 1 by omega, List.getElem_cons_succ]
    exact h i hi

/-- A needle stands at the front exactly if `startsWith` says so. -/
theorem standsAt_zero_iff : StandsAt cs needle hay 0 ↔ startsWith cs needle hay = true := by
  induction needle generalizing hay with
  | nil => simp only [startsWith, iff_true]; exact standsAt_nil (Nat.zero_le _)
  | cons n needle ih =>
    cases hay with
    | nil =>
      simp only [startsWith, Bool.false_eq_true, iff_false]
      rintro ⟨hle, _⟩
      simp at hle
    | cons x hay =>
      simp only [startsWith, Bool.and_eq_true, ← ih]
      constructor
      · rintro ⟨hle, h⟩
        simp only [List.length_cons] at hle
        -- The first byte is compared by itself, and the others as those of the shorter needle
        refine ⟨h 0 (by simp), by omega, fun i hi => ?_⟩
        have := h (i + 1) (by simpa using hi)
        simpa only [List.getElem_cons_succ, Nat.zero_add] using this
      · rintro ⟨h₀, hle, h⟩
        refine ⟨by simp only [List.length_cons]; omega, fun i hi => ?_⟩
        cases i with
        | zero => exact h₀
        | succ i =>
          have := h i (by simpa using hi)
          simpa only [List.getElem_cons_succ, Nat.zero_add] using this

/-- Positions in what is left of a string are those of the string, moved. -/
theorem standsAt_drop {k p : Nat} (hk : k ≤ hay.length) :
    StandsAt cs needle (hay.drop k) p ↔ StandsAt cs needle hay (k + p) := by
  induction hay generalizing k with
  | nil =>
    obtain rfl : k = 0 := by simpa using hk
    simp only [List.drop_zero, Nat.zero_add]
  | cons x hay ih =>
    cases k with
    | zero => simp only [List.drop_zero, Nat.zero_add]
    -- One byte is dropped, then the others
    | succ k =>
      rw [List.drop_succ_cons, ih (by simpa using hk), show k + 1 + p = k + p + 1 by omega,
        standsAt_cons_succ]

/-- More bytes at the end leave a needle where it stands. -/
theorem standsAt_append {p : Nat} (more : Bytes) (h : StandsAt cs needle hay p) :
    StandsAt cs needle (hay ++ more) p := by
  obtain ⟨hle, h⟩ := h
  constructor
  · intro i hi
    rw [List.getElem_append_left (by omega)]
    exact h i hi
  · rw [List.length_append]
    omega

/-- A needle that ends within the first bytes stands in these alone. -/
theorem standsAt_of_append {p : Nat} {more : Bytes} (h : StandsAt cs needle (hay ++ more) p)
    (hle : p + needle.length ≤ hay.length) : StandsAt cs needle hay p := by
  obtain ⟨_, h⟩ := h
  refine ⟨hle, fun i hi => ?_⟩
  have := h i hi
  rwa [List.getElem_append_left (by omega)] at this

/-! ## The searches -/

/-- The positions at or after `start` at which a needle stands. -/
def positionsFrom (cs : Bool) (needle hay : Bytes) (start : Nat) : Set Nat :=
  {p | start ≤ p ∧ StandsAt cs needle hay p}

/-- `firstMatch` answers a position at which the needle stands, and no earlier one. -/
private theorem firstMatch_spec {p : Nat} (h : firstMatch cs needle hay = some p) :
    StandsAt cs needle hay p ∧ ∀ r, StandsAt cs needle hay r → p ≤ r := by
  induction hay generalizing p with
  | nil =>
    simp only [firstMatch] at h
    split at h
    · -- the needle is empty and stands at the end
      rename_i hn
      simp only [Option.some.injEq] at h
      subst h
      rw [List.isEmpty_iff.mp hn]
      exact ⟨standsAt_nil (Nat.zero_le _), fun r _ => Nat.zero_le r⟩
    · cases h
  | cons x hay ih =>
    simp only [firstMatch] at h
    split at h
    · -- the needle stands at the front
      rename_i hs
      simp only [Option.some.injEq] at h
      subst h
      exact ⟨standsAt_zero_iff.mpr hs, fun r _ => Nat.zero_le r⟩
    · -- it is found further on
      rename_i hs
      obtain ⟨q, hq, rfl⟩ := Option.map_eq_some_iff.mp h
      obtain ⟨hstands, hleast⟩ := ih hq
      refine ⟨standsAt_cons_succ.mpr hstands, ?_⟩
      intro r hr
      -- Position 0 is out, so any other lies behind the first octet.
      cases r with
      | zero => exact absurd (standsAt_zero_iff.mp hr) hs
      | succ r => exact Nat.succ_le_succ (hleast r (standsAt_cons_succ.mp hr))

/-- Where `firstMatch` finds nothing, the needle stands nowhere. -/
private theorem not_standsAt_of_firstMatch (h : firstMatch cs needle hay = none) (p : Nat) :
    ¬ StandsAt cs needle hay p := by
  induction hay generalizing p with
  | nil =>
    simp only [firstMatch] at h
    split at h
    · cases h
    · rename_i hn
      intro hp
      have := hp.add_length_le
      simp only [List.length_nil] at this
      -- Only the empty needle stands in no bytes
      exact hn (List.isEmpty_iff.mpr (List.length_eq_zero_iff.mp (by omega)))
  | cons x hay ih =>
    simp only [firstMatch] at h
    split at h
    · cases h
    · rename_i hs
      cases p with
      | zero => exact fun hp => hs (standsAt_zero_iff.mp hp)
      | succ p =>
        intro hp
        exact ih (Option.map_eq_none_iff.mp h) p (standsAt_cons_succ.mp hp)

/-- A search that fails has no position to find. -/
theorem not_mem_of_firstMatchFrom_eq_none {start : Nat}
    (h : firstMatchFrom cs needle hay start = none) (p : Nat) :
    p ∉ positionsFrom cs needle hay start := by
  rintro ⟨hle, hp⟩
  have hlen := hp.add_length_le
  unfold firstMatchFrom at h
  split at h
  · -- the search starts behind the end
    omega
  · have hnone := Option.map_eq_none_iff.mp h
    apply not_standsAt_of_firstMatch hnone (p - start)
    rw [standsAt_drop (by omega), Nat.add_sub_cancel' hle]
    exact hp

/-- A search that succeeds answers the least position there is. -/
theorem isLeast_of_firstMatchFrom_eq_some {start p : Nat}
    (h : firstMatchFrom cs needle hay start = some p) :
    IsLeast (positionsFrom cs needle hay start) p := by
  unfold firstMatchFrom at h
  split at h
  · exact nomatch h
  · rename_i hlt
    obtain ⟨q, hq, rfl⟩ := Option.map_eq_some_iff.mp h
    obtain ⟨hstands, hleast⟩ := firstMatch_spec hq
    -- A position in the rest is one of the whole, moved by what was dropped
    rw [standsAt_drop (by omega), Nat.add_comm] at hstands
    refine ⟨⟨Nat.le_add_left start q, hstands⟩, ?_⟩
    rintro r ⟨hle, hr⟩
    have := hleast (r - start) (by rwa [standsAt_drop (by omega), Nat.add_sub_cancel' hle])
    omega

/-- A search answers the least position at which the needle stands, among those
    at or after its start. -/
theorem firstMatchFrom_eq_some_iff {start p : Nat} :
    firstMatchFrom cs needle hay start = some p ↔
      IsLeast (positionsFrom cs needle hay start) p := by
  constructor
  · exact isLeast_of_firstMatchFrom_eq_some
  · intro hp
    cases h : firstMatchFrom cs needle hay start with
    | none => exact absurd hp.1 (not_mem_of_firstMatchFrom_eq_none h p)
    | some q => rw [(isLeast_of_firstMatchFrom_eq_some h).unique hp]

/-- A search fails exactly if there is no position to find. -/
theorem firstMatchFrom_eq_none_iff {start : Nat} :
    firstMatchFrom cs needle hay start = none ↔ positionsFrom cs needle hay start = ∅ := by
  constructor
  · intro h
    exact Set.eq_empty_of_forall_notMem (not_mem_of_firstMatchFrom_eq_none h)
  · intro hempty
    cases h : firstMatchFrom cs needle hay start with
    | none => rfl
    | some q =>
      have hq := (isLeast_of_firstMatchFrom_eq_some h).1
      rw [hempty] at hq
      exact absurd hq (Set.notMem_empty q)

/-- The least position stays the least one when more bytes come. -/
theorem isLeast_positionsFrom_append {start p : Nat} (more : Bytes)
    (h : IsLeast (positionsFrom cs needle hay start) p) :
    IsLeast (positionsFrom cs needle (hay ++ more) start) p := by
  obtain ⟨⟨hle, hp⟩, hleast⟩ := h
  refine ⟨⟨hle, standsAt_append more hp⟩, ?_⟩
  rintro r ⟨hr, hstands⟩
  -- An earlier position would end within the old bytes.
  by_contra hlt
  have hlen := hp.add_length_le
  exact hlt (hleast ⟨hr, standsAt_of_append hstands (by omega)⟩)

/-- Where no position lies before the last bytes, too few for the needle, none does when
    more bytes come. -/
theorem le_of_mem_positionsFrom_append {start : Nat} (more : Bytes)
    (h : ∀ r ∈ positionsFrom cs needle hay start, hay.length - (needle.length - 1) ≤ r) :
    ∀ r ∈ positionsFrom cs needle (hay ++ more) start,
      hay.length - (needle.length - 1) ≤ r := by
  intro r hr
  -- An earlier position would end within the old bytes.
  by_contra hlt
  exact hlt (h r ⟨hr.1, standsAt_of_append hr.2 (by omega)⟩)

/-- Positions in what is left of a string are those of the string, moved. -/
theorem mem_positionsFrom_drop {k start p : Nat} (hk : k ≤ hay.length) :
    p ∈ positionsFrom cs needle (hay.drop k) start ↔
      k + p ∈ positionsFrom cs needle hay (k + start) := by
  simp only [positionsFrom, Set.mem_ofPred_eq, standsAt_drop hk, Nat.add_le_add_iff_left]

/-- So is the least of them. -/
theorem isLeast_positionsFrom_drop {k start p : Nat} (hk : k ≤ hay.length) :
    IsLeast (positionsFrom cs needle (hay.drop k) start) p ↔
      IsLeast (positionsFrom cs needle hay (k + start)) (k + p) := by
  constructor
  · rintro ⟨hp, hleast⟩
    refine ⟨(mem_positionsFrom_drop hk).mp hp, ?_⟩
    intro r hr
    -- A position behind what was dropped is one of the rest
    have hkr : k ≤ r := Nat.le_trans (Nat.le_add_right k start) hr.1
    rw [← Nat.add_sub_cancel' hkr] at hr ⊢
    exact Nat.add_le_add_left (hleast ((mem_positionsFrom_drop hk).mpr hr)) k
  · rintro ⟨hp, hleast⟩
    refine ⟨(mem_positionsFrom_drop hk).mpr hp, ?_⟩
    intro r hr
    exact Nat.le_of_add_le_add_left (hleast ((mem_positionsFrom_drop hk).mp hr))

/-- A search may start at a later place if the needle stands nowhere before it. -/
theorem positionsFrom_eq_of_le {start later : Nat} (hle : start ≤ later)
    (h : ∀ p ∈ positionsFrom cs needle hay start, later ≤ p) :
    positionsFrom cs needle hay later = positionsFrom cs needle hay start := by
  ext p
  constructor
  · rintro ⟨hp, hstands⟩
    exact ⟨Nat.le_trans hle hp, hstands⟩
  · intro hp
    exact ⟨h p hp, hp.2⟩

/-- And it finds the same there. -/
theorem firstMatchFrom_eq_of_le {start later : Nat} (hle : start ≤ later)
    (h : ∀ p ∈ positionsFrom cs needle hay start, later ≤ p) :
    firstMatchFrom cs needle hay later = firstMatchFrom cs needle hay start := by
  apply Option.ext
  intro p
  rw [firstMatchFrom_eq_some_iff, firstMatchFrom_eq_some_iff, positionsFrom_eq_of_le hle h]

end FrameSocket.Bytes
