import FrameSocket.Proofs.Delimited

/-!
# What a delimited framer keeps, and how it searches again

Between two chunks a framer keeps a window of all the bytes that were fed to it: while it
seeks the opening marker, as many of the last ones as could be the start of it, and from then
on all that follow the place where the marker stands.  With the next chunk it does not search
all of them again, but goes on from where the last search ended, pulled back by as many bytes
as could be the start of the closing marker.

`rescan` does search all of them again, and hands back all that lies behind the frame.  The
framer cannot be told from it: no closing marker stands before the place where the search
goes on, and what lies behind the frame is no longer than the chunk that brought it.

## Key results

- `Tracks.retains`: the window, computed from the bytes fed
- `hasOpened_feedAll_start_iff`: when the opening marker has been met
- `Tracks.nextSearch`: where closing markers may stand when the search goes on
- `collect_eq_rescan`: going on comes to the same as searching all again
- `retains_feedAll`: all of it, after any chunks
-/

namespace FrameSocket.Framer.Delimited

open Bytes (positionsFrom firstMatchFrom)

/-! ## What is kept -/

/-- The opening marker has been met. -/
def Phase.hasOpened : Phase → Bool
  | .seeking _ => false
  | .collecting _ _ | .complete _ => true

/-- What is kept of the bytes `s` that were fed, as long as the frame is not complete.
    While the opening marker is missing, that is as many of the last bytes as could be the
    start of it; from then on all from the opening marker on, all of it searched for a
    closing marker, and without one. -/
def Phase.Retains (opening closing : Bytes) (cs : Bool) (s : Bytes) : Phase → Prop
  | .seeking tail => tail = s.drop (s.length - min (opening.length - 1) s.length)
  | .collecting data scanned =>
    (∃ p, IsLeast (positionsFrom cs opening s 0) p ∧ data = s.drop p) ∧
      scanned = data.length ∧ positionsFrom cs closing data opening.length = ∅
  | .complete _ => True

/-- What a framer tracks says what it retains. -/
theorem Tracks.retains {f : Delimited} {s back : Bytes} (h : f.Tracks s back)
    (hclosing : f.closing ≠ []) :
    f.phase.Retains f.openingBytes f.closing f.caseSensitive s := by
  cases hphase : f.phase with
  | seeking tail =>
    simp only [Tracks, hphase] at h
    obtain ⟨_, htail, _⟩ := h
    rw [Phase.Retains, htail]
    congr 1
    omega
  | collecting data scanned =>
    simp only [Tracks, hphase] at h
    obtain ⟨_, hscanned, hdata, hbefore⟩ := h
    refine ⟨hdata, hscanned, Set.eq_empty_of_forall_notMem fun r hr => ?_⟩
    -- A closing marker behind all places where one could begin would not fit.
    have hfit := hr.2.add_length_le
    have hlate := hbefore r hr
    have hpos := List.length_pos_iff.mpr hclosing
    omega
  | complete data => trivial

/-- A framer that is collecting has seen its start marker. -/
theorem hasOpened_collect (f : Delimited) (data : Bytes) (scanned : Nat) (chunk : Bytes) :
    (f.collect data scanned chunk).1.hasOpened = true := by
  unfold collect
  dsimp only
  split <;> rfl

/-! ## The opening marker stays met -/

/-- A chunk does not make a framer forget that it has met the opening marker. -/
theorem hasOpened_feed {f : Delimited} (h : f.phase.hasOpened = true) (chunk : Bytes)
    (origin : Option String) : (f.feed chunk origin).1.phase.hasOpened = true := by
  unfold feed
  split
  · exact h
  · show (f.advance chunk).1.hasOpened = true
    unfold advance
    split
    · rfl
    · exact hasOpened_collect f _ _ chunk
    · rename_i tail hphase
      rw [hphase] at h
      cases h

/-- And it has seen it for good. -/
theorem hasOpened_feedAll {f : Delimited} (h : f.phase.hasOpened = true)
    (chunks : List (Bytes × Option String)) : (feedAll f chunks).1.phase.hasOpened = true := by
  induction chunks generalizing f with
  | nil => exact h
  | cons c chunks ih => exact ih (hasOpened_feed h c.1 c.2)

/-- The empty opening marker is met with the first chunk. -/
theorem hasOpened_feed_of_openingBytes_eq_nil {f : Delimited} (h : f.openingBytes = [])
    (chunk : Bytes) (origin : Option String) :
    (f.feed chunk origin).1.phase.hasOpened = true := by
  cases hopened : f.phase.hasOpened with
  | true => exact hasOpened_feed hopened chunk origin
  | false =>
    cases hphase : f.phase with
    | seeking tail =>
      have hfound : firstMatchFrom f.caseSensitive [] (tail ++ chunk) 0 = some 0 := by
        rw [Bytes.firstMatchFrom_eq_some_iff]
        exact ⟨⟨Nat.le_refl 0, Bytes.standsAt_nil (Nat.zero_le _)⟩, fun r _ => Nat.zero_le r⟩
      simp only [feed, isComplete, hphase, advance, h, hfound]
      exact hasOpened_collect f _ _ chunk
    | collecting data scanned => simp [hphase, Phase.hasOpened] at hopened
    | complete data => simp [hphase, Phase.hasOpened] at hopened

/-- Once a chunk has been fed, the opening marker has been met exactly if it stands
    somewhere in what was fed. -/
theorem hasOpened_feedAll_start_iff (opening : Option Bytes) (closing : Bytes) (cs : Bool)
    {chunks : List (Bytes × Option String)} (hne : chunks ≠ []) :
    (feedAll (start opening closing cs) chunks).1.phase.hasOpened = true ↔
      (positionsFrom cs (opening.getD []) (chunks.map Prod.fst).flatten 0).Nonempty := by
  have htracks := (tracks_feedAll chunks (tracks_start opening closing cs)).1
  obtain ⟨hopening, hclosing, hcs⟩ := parameters_feedAll chunks (start opening closing cs)
  -- Without a start marker, the first chunk opens the frame, even an empty one
  have hempty : opening.getD [] = [] →
      (feedAll (start opening closing cs) chunks).1.phase.hasOpened = true := by
    intro hnil
    obtain ⟨c, chunks, rfl⟩ := List.exists_cons_of_ne_nil hne
    have hfirst :=
      hasOpened_feed_of_openingBytes_eq_nil (f := start opening closing cs) hnil c.1 c.2
    exact hasOpened_feedAll hfirst chunks
  generalize (feedAll (start opening closing cs) chunks).1 = f at *
  have hbytes : f.openingBytes = opening.getD [] := by rw [openingBytes, hopening]; rfl
  have hcase : f.caseSensitive = cs := hcs
  rw [List.nil_append] at htracks
  cases hphase : f.phase with
  | seeking tail =>
    simp only [Tracks, hphase, hbytes, hcase] at htracks
    simp only [hphase, Phase.hasOpened, Bool.false_eq_true, false_iff] at hempty ⊢
    rintro ⟨r, hr⟩
    have hfit := hr.2.add_length_le
    -- The marker would have been found, for no more of the bytes is kept than one less than it
    have hlate := htracks.2.2 r hr
    have hpos := List.length_pos_iff.mpr hempty
    omega
  | collecting data scanned =>
    simp only [Tracks, hphase, hbytes, hcase] at htracks
    obtain ⟨_, _, ⟨p, hp, _⟩, _⟩ := htracks
    exact iff_of_true rfl ⟨p, hp.1⟩
  | complete data =>
    simp only [Tracks, hphase, DelimitsIn, hbytes, hcase] at htracks
    obtain ⟨p, q, hd, _⟩ := htracks
    exact iff_of_true rfl ⟨p, hd.opening_isLeast.1⟩

/-! ## The next search -/

/-- The next search for the closing marker: what the bytes kept and `chunk` come to, and how
    many of these have been searched.  There is none while the opening marker is missing,
    and none once the frame is complete. -/
def nextSearch (f : Delimited) (chunk : Bytes) : Option (Bytes × Nat) :=
  match f.phase with
  | .complete _ => none
  | .collecting data scanned => some (data ++ chunk, scanned)
  | .seeking tail =>
    (firstMatchFrom f.caseSensitive f.openingBytes (tail ++ chunk) 0).map fun pos =>
      ((tail ++ chunk).drop pos, f.openingBytes.length)

/-- The search of all the bytes from the opening marker on.  All that lies behind the frame is
    handed back. -/
def rescan (f : Delimited) (data : Bytes) : Phase × Bytes :=
  match firstMatchFrom f.caseSensitive f.closing data f.openingBytes.length with
  | some pos =>
    (.complete (data.take (pos + f.closing.length)), data.drop (pos + f.closing.length))
  | none => (.collecting data data.length, [])

variable {f : Delimited} {s chunk data : Bytes} {scanned : Nat}

/-- A chunk that brings a search is searched. -/
theorem feed_of_nextSearch (h : f.nextSearch chunk = some (data, scanned))
    (origin : Option String) :
    ((f.feed chunk origin).1.phase, (f.feed chunk origin).2) = f.collect data scanned chunk := by
  unfold nextSearch at h
  split at h
  · cases h
  · rename_i hphase
    cases h
    simp only [feed, isComplete, advance, hphase, Bool.false_eq_true, if_false]
  · rename_i tail hphase
    obtain ⟨pos, hpos, heq⟩ := Option.map_eq_some_iff.mp h
    cases heq
    simp only [feed, isComplete, advance, hphase, hpos, Bool.false_eq_true, if_false]

/-- What is searched ends as what was kept and the chunk do. -/
theorem suffix_of_nextSearch (h : f.nextSearch chunk = some (data, scanned)) :
    data <:+ f.data ++ chunk := by
  unfold nextSearch at h
  split at h
  · cases h
  · rename_i hphase
    cases h
    rw [Delimited.data, hphase]
  · rename_i tail hphase
    obtain ⟨pos, hpos, heq⟩ := Option.map_eq_some_iff.mp h
    cases heq
    rw [Delimited.data, hphase]
    exact List.drop_suffix pos _

/-- No closing marker stands before the place where the search goes on, and no more than the
    chunk lies behind any of them. -/
theorem Tracks.nextSearch {back : Bytes} (h : f.Tracks s back)
    (hnext : f.nextSearch chunk = some (data, scanned)) :
    ∀ r ∈ positionsFrom f.caseSensitive f.closing data f.openingBytes.length,
      scanned - (f.closing.length - 1) ≤ r ∧
        data.length - (r + f.closing.length) ≤ chunk.length := by
  unfold Delimited.nextSearch at hnext
  split at hnext
  · cases hnext
  · rename_i kept searched hphase
    simp only [Tracks, hphase] at h
    obtain ⟨_, rfl, _, hbefore⟩ := h
    cases hnext
    intro r hr
    have hlate := Bytes.le_of_mem_positionsFrom_append chunk hbefore r hr
    refine ⟨hlate, ?_⟩
    rw [List.length_append]
    omega
  · rename_i tail hphase
    simp only [Tracks, hphase] at h
    obtain ⟨_, htail, _⟩ := h
    obtain ⟨pos, hpos, heq⟩ := Option.map_eq_some_iff.mp hnext
    cases heq
    intro r hr
    have hfrom : f.openingBytes.length ≤ r := hr.1
    refine ⟨Nat.le_trans (Nat.sub_le _ _) hfrom, ?_⟩
    -- What was kept is shorter than the opening marker, unless both are empty.
    have hkept : tail.length ≤ f.openingBytes.length - 1 := by
      rw [htail, List.length_drop]
      omega
    rw [List.length_drop, List.length_append]
    omega

/-- The search from the place where it goes on is the search of all. -/
theorem collect_eq_rescan (hends : data <:+ f.data ++ chunk)
    (hsearch : ∀ r ∈ positionsFrom f.caseSensitive f.closing data f.openingBytes.length,
      scanned - (f.closing.length - 1) ≤ r ∧
        data.length - (r + f.closing.length) ≤ chunk.length) :
    firstMatchFrom f.caseSensitive f.closing data
        (max (scanned - (f.closing.length - 1)) f.openingBytes.length) =
      firstMatchFrom f.caseSensitive f.closing data f.openingBytes.length ∧
    f.collect data scanned chunk = f.rescan data := by
  have hsame : firstMatchFrom f.caseSensitive f.closing data
      (max (scanned - (f.closing.length - 1)) f.openingBytes.length) =
        firstMatchFrom f.caseSensitive f.closing data f.openingBytes.length :=
    Bytes.firstMatchFrom_eq_of_le (Nat.le_max_right _ _)
      fun r hr => Nat.max_le.mpr ⟨(hsearch r hr).1, hr.1⟩
  refine ⟨hsame, ?_⟩
  unfold collect rescan
  dsimp only
  rw [hsame]
  cases hm : firstMatchFrom f.caseSensitive f.closing data f.openingBytes.length with
  | none => rfl
  | some r =>
    have hcap := (hsearch r (Bytes.isLeast_of_firstMatchFrom_eq_some hm).1).2
    dsimp only
    rw [Nat.min_eq_left hcap]
    congr 1
    -- Both are ends of the same bytes, of one length.
    have hlen : (chunk.drop (chunk.length - (data.length - (r + f.closing.length)))).length =
        (data.drop (r + f.closing.length)).length := by
      rw [List.length_drop, List.length_drop]
      omega
    have hchunk := (List.drop_suffix (chunk.length - (data.length - (r + f.closing.length)))
      chunk).trans (List.suffix_append f.data chunk)
    have hdata := (List.drop_suffix (r + f.closing.length) data).trans hends
    exact (List.suffix_of_suffix_length_le hchunk hdata (Nat.le_of_eq hlen)).eq_of_length hlen

/-! ## All chunks -/

/-- What a framer keeps between two chunks, and what it does with the next one.

    As long as its frame is not complete, it keeps the last bytes that could be the start of
    the opening marker, or all from that marker on; it never forgets that it has met the
    opening marker.  When the next chunk brings a search for the closing marker, then the
    search from the place where the last one ended, pulled back, has the result of a search
    of all that is kept, and no more than the chunk lies behind the frame, so that all of it
    is handed back. -/
theorem retains_feedAll (opening : Option Bytes) (closing : Bytes) (cs : Bool)
    (hclosing : closing ≠ []) (chunks : List (Bytes × Option String)) :
    let s := (chunks.map Prod.fst).flatten
    let marker := opening.getD []
    let f := (feedAll (start opening closing cs) chunks).1
    f.phase.Retains marker closing cs s ∧
    (chunks ≠ [] → (f.phase.hasOpened = true ↔ (positionsFrom cs marker s 0).Nonempty)) ∧
    (f.phase.hasOpened = true → ∀ more, (feedAll f more).1.phase.hasOpened = true) ∧
    ∀ chunk origin data scanned, f.nextSearch chunk = some (data, scanned) →
      firstMatchFrom cs closing data (max (scanned - (closing.length - 1)) marker.length) =
        firstMatchFrom cs closing data marker.length ∧
      (∀ r, firstMatchFrom cs closing data marker.length = some r →
        data.length - (r + closing.length) ≤ chunk.length) ∧
      ((f.feed chunk origin).1.phase, (f.feed chunk origin).2) = f.rescan data := by
  intro s marker f
  have htracks : f.Tracks s (feedAll (start opening closing cs) chunks).2.flatten :=
    (tracks_feedAll chunks (tracks_start opening closing cs)).1
  obtain ⟨hopening, hclosing', hcs⟩ := parameters_feedAll chunks (start opening closing cs)
  have hmarker : f.openingBytes = marker := congrArg (Option.getD · []) hopening
  change f.closing = closing at hclosing'
  change f.caseSensitive = cs at hcs
  refine ⟨?_, hasOpened_feedAll_start_iff opening closing cs, hasOpened_feedAll, ?_⟩
  · have hretains := htracks.retains (hclosing'.trans_ne hclosing)
    rwa [hmarker, hclosing', hcs] at hretains
  · intro chunk origin data scanned hnext
    have hsearch := htracks.nextSearch hnext
    -- Nothing ends before the cursor, so the search from it is the full one
    obtain ⟨hsame, hrescan⟩ := collect_eq_rescan (suffix_of_nextSearch hnext) hsearch
    rw [hmarker, hclosing', hcs] at hsearch hsame
    refine ⟨hsame, fun r hr => ?_, (feed_of_nextSearch hnext origin).trans hrescan⟩
    exact (hsearch r (Bytes.isLeast_of_firstMatchFrom_eq_some hr).1).2

/-- The closing marker `bb` is cut by a chunk, and begins before the place where the last
    search ended: of `xaabcb` all from `aab` on is kept, and the search of `bd` finds the
    marker at the byte kept last. -/
theorem retains_feedAll_cut :
    let chunks : List (Bytes × Option String) := [([120, 97, 97], none), ([98, 99, 98], none)]
    let f := (feedAll (start (some [97, 97, 98]) [98, 98] true) chunks).1
    let data : Bytes := [97, 97, 98, 99, 98, 98, 100]
    ([98, 98] : Bytes) ≠ [] ∧ f.phase = .collecting [97, 97, 98, 99, 98] 5 ∧
      f.nextSearch [98, 100] = some (data, 5) ∧
      firstMatchFrom true [98, 98] data (max (5 - (2 - 1)) 3) =
        firstMatchFrom true [98, 98] data 3 ∧
      (f.feed [98, 100] none).1.phase = .complete [97, 97, 98, 99, 98, 98] ∧
      (f.feed [98, 100] none).2 = [100] := by
  intro chunks f data
  have hclosing : ([98, 98] : Bytes) ≠ [] := List.cons_ne_nil _ _
  have hphase : f.phase = .collecting [97, 97, 98, 99, 98] 5 := by decide
  have hnext : f.nextSearch [98, 100] = some (data, 5) := by decide
  obtain ⟨_, _, _, hsearch⟩ :=
    retains_feedAll (some [97, 97, 98]) [98, 98] true hclosing chunks
  obtain ⟨hsame, _, hfeed⟩ := hsearch [98, 100] none data 5 hnext
  have hrescan : f.rescan data = (.complete [97, 97, 98, 99, 98, 98], [100]) := by decide
  obtain ⟨hdone, hrest⟩ := Prod.mk.inj (hfeed.trans hrescan)
  exact ⟨hclosing, hphase, hnext, hsame, hdone, hrest⟩

end FrameSocket.Framer.Delimited
