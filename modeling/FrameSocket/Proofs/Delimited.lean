import FrameSocket.Framer.Delimited
import FrameSocket.Proofs.Matching
import Mathlib.Data.List.Infix

/-!
# A delimited framer finds the markers of the whole string

`Delimits` says where the two markers of a frame stand in a byte string: the
opening marker at its least position, the closing marker at the least position
behind it.  The framer sees the string in chunks.  `Tracks` computes what it
knows from the bytes fed so far alone, whatever the chunks were; one chunk takes
it from a string to the longer string (`tracks_feed`), so all chunks together
have the result of one (`tracks_feedAll`).

## Key results

- `tracks_feed`: one chunk keeps `Tracks`, and an unfinished frame then means
  that there is nothing to delimit yet
- `feedAll_start_delimits`: any chunks give the frame, the rest and the
  completeness that the markers' positions in the whole string call for
-/

namespace FrameSocket.Framer.Delimited

open Bytes (positionsFrom)

/-- The markers of the first frame in `s`: the opening marker stands at `p` first,
    and behind it the closing marker stands at `q` first. -/
structure Delimits (opening closing : Bytes) (cs : Bool) (s : Bytes) (p q : Nat) : Prop where
  opening_isLeast : IsLeast (positionsFrom cs opening s 0) p
  closing_isLeast : IsLeast (positionsFrom cs closing s (p + opening.length)) q

section Delimits

variable {opening closing : Bytes} {cs : Bool} {s : Bytes} {p q : Nat}

/-- The end marker comes behind the start marker. -/
theorem Delimits.le_closing (h : Delimits opening closing cs s p q) : p + opening.length ≤ q :=
  h.closing_isLeast.1.1

/-- The end marker is within the bytes. -/
theorem Delimits.closing_le (h : Delimits opening closing cs s p q) :
    q + closing.length ≤ s.length :=
  h.closing_isLeast.1.2.add_length_le

/-- The markers do not move when more bytes come. -/
theorem Delimits.append (h : Delimits opening closing cs s p q) (more : Bytes) :
    Delimits opening closing cs (s ++ more) p q :=
  ⟨Bytes.isLeast_positionsFrom_append more h.opening_isLeast,
    Bytes.isLeast_positionsFrom_append more h.closing_isLeast⟩

/-- There is one place at most for each marker. -/
theorem Delimits.unique {p' q' : Nat} (h : Delimits opening closing cs s p q)
    (h' : Delimits opening closing cs s p' q') : p = p' ∧ q = q' := by
  have hp : p = p' := h.opening_isLeast.unique h'.opening_isLeast
  subst hp
  exact ⟨rfl, h.closing_isLeast.unique h'.closing_isLeast⟩

/-- The end of `s` that a frame up to the closing marker leaves. -/
theorem Delimits.drop_append (h : Delimits opening closing cs s p q) (more : Bytes) :
    (s ++ more).drop (q + closing.length) = s.drop (q + closing.length) ++ more :=
  List.drop_append_of_le_length h.closing_le

/-- The frame between the markers does not change when more bytes come. -/
theorem Delimits.take_append (h : Delimits opening closing cs s p q) (more : Bytes) :
    (s ++ more).take (q + closing.length) = s.take (q + closing.length) :=
  List.take_append_of_le_length h.closing_le

end Delimits

/-- A frame's markers in what was fed to `f`. -/
abbrev DelimitsIn (f : Delimited) (s : Bytes) (p q : Nat) : Prop :=
  Delimits f.openingBytes f.closing f.caseSensitive s p q

/-- What a framer knows after the bytes `s` were fed to it and the bytes `back`
    were handed back: neither marker stands before the place where the search for
    it goes on. -/
def Tracks (f : Delimited) (s back : Bytes) : Prop :=
  match f.phase with
  | .seeking tail =>
    back = [] ∧ tail = s.drop (s.length - (f.openingBytes.length - 1)) ∧
    ∀ r ∈ positionsFrom f.caseSensitive f.openingBytes s 0,
      s.length - (f.openingBytes.length - 1) ≤ r
  | .collecting data scanned =>
    back = [] ∧ scanned = data.length ∧
    (∃ p, IsLeast (positionsFrom f.caseSensitive f.openingBytes s 0) p ∧ data = s.drop p) ∧
    ∀ r ∈ positionsFrom f.caseSensitive f.closing data f.openingBytes.length,
      data.length - (f.closing.length - 1) ≤ r
  | .complete data =>
    ∃ p q, f.DelimitsIn s p q ∧ data = (s.take (q + f.closing.length)).drop p ∧
      back = s.drop (q + f.closing.length)

/-- A fresh framer knows all about no bytes. -/
theorem tracks_start (opening : Option Bytes) (closing : Bytes) (cs : Bool) :
    (start opening closing cs).Tracks [] [] := by
  -- Without an opening marker the frame begins at once, at position 0
  cases opening with
  | none =>
    refine ⟨rfl, rfl, ⟨0, ⟨⟨Nat.le_refl 0, Bytes.standsAt_nil (Nat.le_refl 0)⟩, ?_⟩, rfl⟩, ?_⟩
    · exact fun r _ => Nat.zero_le r
    · intro r _
      simp
  | some marker =>
    refine ⟨rfl, ?_, ?_⟩
    · simp
    · intro r _
      simp

/-! ## One search -/

/-- The last bytes of a string are also the last bytes of any end of it that is
    long enough. -/
private theorem drop_length_sub_of_suffix {l s : Bytes} (h : l <:+ s) {k : Nat}
    (hk : k ≤ l.length) : l.drop (l.length - k) = s.drop (s.length - k) := by
  obtain ⟨older, rfl⟩ := h
  have hlen : (older ++ l).length - k = older.length + (l.length - k) := by
    rw [List.length_append]
    omega
  rw [hlen, List.drop_length_add_append]

/-- The search for the closing marker in the bytes from the opening marker on.
    `s` is all that has been fed; `scanned` may be any place that no closing marker
    ends before. -/
theorem collect_spec (f : Delimited) {s : Bytes} {p : Nat} {scanned : Nat} {chunk : Bytes}
    (hp : IsLeast (positionsFrom f.caseSensitive f.openingBytes s 0) p)
    (hchunk : chunk <:+ s)
    (hbefore : ∀ r ∈ positionsFrom f.caseSensitive f.closing (s.drop p) f.openingBytes.length,
      scanned - (f.closing.length - 1) ≤ r)
    (hbehind : ∀ r ∈ positionsFrom f.caseSensitive f.closing (s.drop p) f.openingBytes.length,
      (s.drop p).length - (r + f.closing.length) ≤ chunk.length) :
    (∃ q, f.DelimitsIn s p q ∧
      f.collect (s.drop p) scanned chunk =
        (.complete ((s.take (q + f.closing.length)).drop p), s.drop (q + f.closing.length))) ∨
    ((∀ p' q, ¬ f.DelimitsIn s p' q) ∧
      positionsFrom f.caseSensitive f.closing (s.drop p) f.openingBytes.length = ∅ ∧
      f.collect (s.drop p) scanned chunk = (.collecting (s.drop p) (s.drop p).length, [])) := by
  have hple : p ≤ s.length := Nat.le_trans (Nat.le_add_right _ _) hp.1.2.add_length_le
  -- The search may start behind the opening marker and find the same.
  have hset : positionsFrom f.caseSensitive f.closing (s.drop p)
        (max (scanned - (f.closing.length - 1)) f.openingBytes.length) =
      positionsFrom f.caseSensitive f.closing (s.drop p) f.openingBytes.length :=
    Bytes.positionsFrom_eq_of_le (Nat.le_max_right _ _)
      fun r hr => Nat.max_le.mpr ⟨hbefore r hr, hr.1⟩
  unfold collect
  dsimp only
  cases hm : Bytes.firstMatchFrom f.caseSensitive f.closing (s.drop p)
      (max (scanned - (f.closing.length - 1)) f.openingBytes.length) with
  | some r =>
    left
    dsimp only
    have hr := Bytes.isLeast_of_firstMatchFrom_eq_some hm
    rw [hset] at hr
    have hlen := hr.1.2.add_length_le
    rw [List.length_drop] at hlen
    refine ⟨p + r, ⟨hp, (Bytes.isLeast_positionsFrom_drop hple).mp hr⟩, ?_⟩
    have hcap := hbehind r hr.1
    rw [Nat.min_eq_left hcap, drop_length_sub_of_suffix hchunk hcap, List.length_drop]
    congr 2
    · rw [List.drop_take]
      congr 1
      omega
    · omega
  | none =>
    right
    have hempty := Bytes.firstMatchFrom_eq_none_iff.mp hm
    rw [hset] at hempty
    refine ⟨fun p' q hd => ?_, hempty, rfl⟩
    obtain rfl : p' = p := hd.opening_isLeast.unique hp
    have hq : q - p' ∈ positionsFrom f.caseSensitive f.closing (s.drop p')
        f.openingBytes.length := by
      have hle : p' ≤ q := Nat.le_trans (Nat.le_add_right _ _) hd.le_closing
      rw [Bytes.mem_positionsFrom_drop hple, Nat.add_sub_cancel' hle]
      exact hd.closing_isLeast.1
    rw [hempty] at hq
    exact hq

/-- The framer once a search has brought it to `phase`. -/
def inPhase (f : Delimited) (phase : Phase) (origin : Option String) : Delimited :=
  { f with phase, origin }

/-- What a search for the closing marker leaves is known of all that was fed. -/
theorem tracks_collect (f : Delimited) {s : Bytes} {p : Nat} {scanned : Nat} {chunk : Bytes}
    (origin : Option String)
    (hp : IsLeast (positionsFrom f.caseSensitive f.openingBytes s 0) p)
    (hchunk : chunk <:+ s)
    (hbefore : ∀ r ∈ positionsFrom f.caseSensitive f.closing (s.drop p) f.openingBytes.length,
      scanned - (f.closing.length - 1) ≤ r)
    (hbehind : ∀ r ∈ positionsFrom f.caseSensitive f.closing (s.drop p) f.openingBytes.length,
      (s.drop p).length - (r + f.closing.length) ≤ chunk.length) :
    (f.inPhase (f.collect (s.drop p) scanned chunk).1 origin).Tracks s
        (f.collect (s.drop p) scanned chunk).2 ∧
      ((f.inPhase (f.collect (s.drop p) scanned chunk).1 origin).isComplete = false →
        ∀ p q, ¬ f.DelimitsIn s p q) := by
  rcases f.collect_spec hp hchunk hbefore hbehind with ⟨q, hd, heq⟩ | ⟨hnone, hempty, heq⟩
  · -- the end marker was found: the frame ends with it, and the rest is handed back
    rw [heq]
    exact ⟨⟨p, q, hd, rfl, rfl⟩, fun h => nomatch h⟩
  · rw [heq]
    refine ⟨⟨rfl, rfl, ⟨p, hp, rfl⟩, fun r hr => ?_⟩, fun _ => hnone⟩
    change r ∈ positionsFrom f.caseSensitive f.closing (s.drop p) f.openingBytes.length at hr
    rw [hempty] at hr
    exact absurd hr (Set.notMem_empty r)

/-! ## One chunk -/

/-- A chunk for a framer that has found the opening marker. -/
private theorem tracks_advance_collecting (f : Delimited) {s data : Bytes} {scanned : Nat}
    (hphase : f.phase = .collecting data scanned) (h : f.Tracks s []) (chunk : Bytes)
    (origin : Option String) :
    (f.inPhase (f.advance chunk).1 origin).Tracks (s ++ chunk) (f.advance chunk).2 ∧
      ((f.inPhase (f.advance chunk).1 origin).isComplete = false →
        ∀ p q, ¬ f.DelimitsIn (s ++ chunk) p q) := by
  simp only [Tracks, hphase] at h
  obtain ⟨_, rfl, ⟨p, hp, rfl⟩, hbefore⟩ := h
  have hple : p ≤ s.length := Nat.le_trans (Nat.le_add_right _ _) hp.1.2.add_length_le
  -- A closing marker in the longer string ends behind the bytes scanned before.
  have hnew := Bytes.le_of_mem_positionsFrom_append chunk hbefore
  simp only [advance, hphase]
  rw [← List.drop_append_of_le_length hple] at hnew ⊢
  refine f.tracks_collect origin (Bytes.isLeast_positionsFrom_append chunk hp)
    (List.suffix_append s chunk) hnew fun r hr => ?_
  have hfrom := hnew r hr
  rw [List.drop_append_of_le_length hple, List.length_append]
  omega

/-- A chunk for a framer that seeks the opening marker. -/
private theorem tracks_advance_seeking (f : Delimited) {s tail : Bytes}
    (hphase : f.phase = .seeking tail) (h : f.Tracks s []) (chunk : Bytes)
    (origin : Option String) :
    (f.inPhase (f.advance chunk).1 origin).Tracks (s ++ chunk) (f.advance chunk).2 ∧
      ((f.inPhase (f.advance chunk).1 origin).isComplete = false →
        ∀ p q, ¬ f.DelimitsIn (s ++ chunk) p q) := by
  simp only [Tracks, hphase] at h
  obtain ⟨_, htail, hbefore⟩ := h
  have hnew := Bytes.le_of_mem_positionsFrom_append chunk hbefore
  -- `k` bytes have been dropped; no marker of the longer string begins among them.
  generalize hk : s.length - (f.openingBytes.length - 1) = k at htail hnew
  subst htail
  have hkle : k ≤ s.length := by omega
  have hset := Bytes.positionsFrom_eq_of_le (Nat.zero_le k) hnew
  have hkle' : k ≤ (s ++ chunk).length := by rw [List.length_append]; omega
  simp only [advance, hphase]
  rw [← List.drop_append_of_le_length hkle]
  cases hm : Bytes.firstMatchFrom f.caseSensitive f.openingBytes ((s ++ chunk).drop k) 0 with
  | some pos =>
    -- The search for the closing marker begins in the same chunk.
    dsimp only
    have hpos := (Bytes.isLeast_positionsFrom_drop hkle').mp
      (Bytes.isLeast_of_firstMatchFrom_eq_some hm)
    rw [Nat.add_zero, hset] at hpos
    rw [List.drop_drop]
    refine f.tracks_collect origin hpos (List.suffix_append s chunk) (fun r hr => ?_)
      fun r hr => ?_
    · exact Nat.le_trans (Nat.sub_le _ _) hr.1
    · -- What was kept is shorter than the opening marker.
      have hfrom := hr.1
      have hopen := hpos.1.2.add_length_le
      rw [List.length_drop, List.length_append]
      omega
  | none =>
    -- Only as many bytes are kept as an opening marker may begin among.
    dsimp only
    have hempty := Bytes.firstMatchFrom_eq_none_iff.mp hm
    have hnowhere : positionsFrom f.caseSensitive f.openingBytes (s ++ chunk) 0 = ∅ := by
      rw [← hset]
      apply Set.eq_empty_of_forall_notMem
      intro r hr
      have hkr : k ≤ r := hr.1
      rw [← Nat.add_sub_cancel' hkr] at hr
      have hmem : r - k ∈ positionsFrom f.caseSensitive f.openingBytes ((s ++ chunk).drop k) 0 :=
        (Bytes.mem_positionsFrom_drop hkle').mpr hr
      rw [hempty] at hmem
      exact hmem
    refine ⟨⟨rfl, ?_, ?_⟩, ?_⟩
    · simp only [List.drop_drop, List.length_drop, List.length_append]
      congr 1
      simp only [openingBytes, inPhase] at hk ⊢
      omega
    · intro r hr
      change r ∈ positionsFrom f.caseSensitive f.openingBytes (s ++ chunk) 0 at hr
      rw [hnowhere] at hr
      exact absurd hr (Set.notMem_empty r)
    · intro _ p q hd
      have hmem := hd.opening_isLeast.1
      rw [hnowhere] at hmem
      exact hmem

/-- A framer that is not complete has handed nothing back. -/
theorem Tracks.back_eq_nil {f : Delimited} {s back : Bytes} (h : f.Tracks s back)
    (hc : f.isComplete = false) : back = [] := by
  unfold Tracks at h
  split at h
  · exact h.1
  · exact h.1
  · rename_i data hphase
    simp [isComplete, hphase] at hc

/-- A complete framer holds the frame between the markers, and has handed back what
    lies behind it. -/
theorem Tracks.exists_delimitsIn {f : Delimited} {s back : Bytes} (h : f.Tracks s back)
    (hc : f.isComplete = true) : ∃ p q, f.DelimitsIn s p q ∧
      f.data = (s.take (q + f.closing.length)).drop p ∧ back = s.drop (q + f.closing.length) := by
  cases hphase : f.phase with
  | complete kept =>
    simp only [Tracks, hphase] at h
    simpa only [data, hphase] using h
  | seeking tail => simp [isComplete, hphase] at hc
  | collecting data scanned => simp [isComplete, hphase] at hc

/-- One more chunk: the framer knows all about the longer string, and if its frame
    is not complete now, then there is no frame in that string. -/
theorem tracks_feed {f : Delimited} {s back : Bytes} (h : f.Tracks s back) (chunk : Bytes)
    (origin : Option String) :
    (f.feed chunk origin).1.Tracks (s ++ chunk) (back ++ (f.feed chunk origin).2) ∧
      ((f.feed chunk origin).1.isComplete = false → ∀ p q, ¬ f.DelimitsIn (s ++ chunk) p q) := by
  cases hc : f.isComplete with
  | true =>
    -- A complete framer hands the chunk back, which is added to what lies behind the frame
    have hfeed : f.feed chunk origin = (f, chunk) := by simp only [feed, hc, if_true]
    rw [hfeed]
    refine ⟨?_, fun hn => absurd hc (by simp only [hn, Bool.false_eq_true, not_false_iff])⟩
    cases hphase : f.phase with
    | complete data =>
      simp only [Tracks, hphase] at h ⊢
      obtain ⟨p, q, hd, rfl, rfl⟩ := h
      exact ⟨p, q, hd.append chunk, by rw [hd.take_append], by rw [hd.drop_append]⟩
    | seeking tail => simp [isComplete, hphase] at hc
    | collecting data scanned => simp [isComplete, hphase] at hc
  | false =>
    -- As long as it is not complete, nothing has been handed back
    obtain rfl := h.back_eq_nil hc
    have hfeed : f.feed chunk origin =
        (f.inPhase (f.advance chunk).1 (firstOrigin f.origin origin), (f.advance chunk).2) := by
      simp only [feed, hc, Bool.false_eq_true, if_false, inPhase]
    rw [hfeed, List.nil_append]
    cases hphase : f.phase with
    | seeking tail => exact f.tracks_advance_seeking hphase h chunk _
    | collecting data scanned => exact f.tracks_advance_collecting hphase h chunk _
    | complete data => simp [isComplete, hphase] at hc

/-! ## All chunks -/

/-- Feeding changes neither the markers nor how they are compared. -/
theorem parameters_feed (f : Delimited) (chunk : Bytes) (origin : Option String) :
    (f.feed chunk origin).1.opening = f.opening ∧ (f.feed chunk origin).1.closing = f.closing ∧
      (f.feed chunk origin).1.caseSensitive = f.caseSensitive := by
  unfold feed
  split <;> exact ⟨rfl, rfl, rfl⟩

theorem delimitsIn_feed (f : Delimited) (chunk : Bytes) (origin : Option String) (s : Bytes)
    (p q : Nat) : (f.feed chunk origin).1.DelimitsIn s p q ↔ f.DelimitsIn s p q := by
  obtain ⟨hopening, hclosing, hcs⟩ := f.parameters_feed chunk origin
  simp only [DelimitsIn, openingBytes, hopening, hclosing, hcs]

/-- Chunks one after the other: the framer knows all about their concatenation. -/
theorem tracks_feedAll (chunks : List (Bytes × Option String)) {f : Delimited} {s back : Bytes}
    (h : f.Tracks s back) :
    (feedAll f chunks).1.Tracks (s ++ (chunks.map Prod.fst).flatten)
        (back ++ (feedAll f chunks).2.flatten) ∧
      (chunks ≠ [] → (feedAll f chunks).1.isComplete = false →
        ∀ p q, ¬ f.DelimitsIn (s ++ (chunks.map Prod.fst).flatten) p q) := by
  induction chunks generalizing f s back with
  | nil =>
    simp only [feedAll, List.map_nil, List.flatten_nil, List.append_nil]
    exact ⟨h, fun hne => absurd rfl hne⟩
  | cons c chunks ih =>
    obtain ⟨chunk, origin⟩ := c
    obtain ⟨hstep, hnone⟩ := tracks_feed h chunk origin
    obtain ⟨htracks, hrest⟩ := ih hstep
    simp only [feedAll, List.map_cons, List.flatten_cons, ← List.append_assoc]
    refine ⟨htracks, ?_⟩
    intro _ hc p q
    cases chunks with
    | nil =>
      -- This was the last chunk.
      simp only [List.map_nil, List.flatten_nil, List.append_nil]
      exact hnone hc p q
    | cons d chunks =>
      rw [← delimitsIn_feed f chunk origin]
      exact hrest (List.cons_ne_nil d chunks) hc p q

/-- Feeding chunks changes neither the markers nor how they are compared. -/
theorem parameters_feedAll (chunks : List (Bytes × Option String)) (f : Delimited) :
    (feedAll f chunks).1.opening = f.opening ∧ (feedAll f chunks).1.closing = f.closing ∧
      (feedAll f chunks).1.caseSensitive = f.caseSensitive := by
  induction chunks generalizing f with
  | nil => exact ⟨rfl, rfl, rfl⟩
  | cons c chunks ih =>
    obtain ⟨hopening, hclosing, hcs⟩ := ih (f.feed c.1 c.2).1
    obtain ⟨hopening₁, hclosing₁, hcs₁⟩ := f.parameters_feed c.1 c.2
    exact ⟨hopening.trans hopening₁, hclosing.trans hclosing₁, hcs.trans hcs₁⟩

/-- The frame between two markers does not depend on how its bytes were cut into
    chunks.  If the markers stand at `p` and `q` in the concatenation, the framer is
    complete, its frame runs from `p` through the closing marker, and what it handed
    back is what lies behind.  If they do not stand there, it is not complete and
    has handed back nothing. -/
theorem feedAll_start_delimits (opening : Option Bytes) (closing : Bytes) (cs : Bool)
    (chunks : List (Bytes × Option String)) (hne : chunks ≠ []) :
    let s := (chunks.map Prod.fst).flatten
    let result := feedAll (start opening closing cs) chunks
    (∀ p q, Delimits (opening.getD []) closing cs s p q →
      Framer.isComplete result.1 = true ∧
      (Framer.frame result.1).data = (s.take (q + closing.length)).drop p ∧
      result.2.flatten = s.drop (q + closing.length)) ∧
    ((∀ p q, ¬ Delimits (opening.getD []) closing cs s p q) →
      Framer.isComplete result.1 = false ∧ ∀ rest ∈ result.2, rest = []) := by
  intro s result
  obtain ⟨htracks, hnone⟩ := tracks_feedAll chunks (tracks_start opening closing cs)
  rw [List.nil_append, List.nil_append] at htracks
  rw [List.nil_append] at hnone
  obtain ⟨hopening, hclosing, hcs⟩ := parameters_feedAll chunks (start opening closing cs)
  have hiff : ∀ p q, result.1.DelimitsIn s p q ↔ Delimits (opening.getD []) closing cs s p q := by
    intro p q
    simp only [result, DelimitsIn, openingBytes, hopening, hclosing, hcs]
    rfl
  constructor
  · intro p q hd
    -- Something delimits a frame, so the framer cannot have missed it
    have hc : result.1.isComplete = true := by
      by_contra hc
      exact hnone hne (Bool.eq_false_iff.mpr hc) p q hd
    obtain ⟨p', q', hd', hdata, hback⟩ := htracks.exists_delimitsIn hc
    obtain ⟨rfl, rfl⟩ := ((hiff p' q').mp hd').unique hd
    rw [show result.1.closing = closing from hclosing] at hdata hback
    exact ⟨hc, hdata, hback⟩
  · intro hno
    -- Nothing delimits a frame, and a complete framer would have found something
    have hc : result.1.isComplete = false := by
      by_contra hc
      obtain ⟨p, q, hd, _⟩ := htracks.exists_delimitsIn (Bool.eq_true_of_not_eq_false hc)
      exact hno p q ((hiff p q).mp hd)
    exact ⟨hc, List.flatten_eq_nil_iff.mp (htracks.back_eq_nil hc)⟩

/-- Both markers are `aa`, and the chunks cut through each of them: of `baaaaac` the
    frame is `aaaa`, and `ac` is handed back. -/
theorem feedAll_start_delimits_overlapping :
    let chunks : List (Bytes × Option String) :=
      [([98, 97], none), ([97, 97], some "peer"), ([], none), ([97, 97], none), ([99], none)]
    let result := feedAll (start (some [97, 97]) [97, 97] true) chunks
    chunks ≠ [] ∧ Delimits [97, 97] [97, 97] true [98, 97, 97, 97, 97, 97, 99] 1 3 ∧
      Framer.isComplete result.1 = true ∧ (Framer.frame result.1).data = [97, 97, 97, 97] ∧
      result.2.flatten = [97, 99] := by
  intro chunks result
  have hne : chunks ≠ [] := List.cons_ne_nil _ _
  -- The second marker begins behind the first, and not within it
  have hd : Delimits [97, 97] [97, 97] true [98, 97, 97, 97, 97, 97, 99] 1 3 :=
    ⟨Bytes.firstMatchFrom_eq_some_iff.mp (by decide),
      Bytes.firstMatchFrom_eq_some_iff.mp (by decide)⟩
  exact ⟨hne, hd, (feedAll_start_delimits (some [97, 97]) [97, 97] true chunks hne).1 1 3 hd⟩

end FrameSocket.Framer.Delimited
