import FrameSocket.Selector

/-!
# What is registered with a selector

A selector keeps one entry for each socket, in the order of their handles, and none that
wants nothing.  In such a table, adding and removing an operation changes what is wanted
of that one socket, and nothing else.

What has been done to a selector is kept beside it as a history, the latest deed in front.
An operation stands from the deed that added it until one withdraws it: its removal, the
removal of its socket, a shutdown, or a select that found something.  The operations that
stand are exactly those that the table wants.

## Key results

- `wants_add` / `wants_remove` / `wants_removeAll`: what is wanted after each change
- `Tracks`: a table agrees with the history behind it
- `Tracks.added` and its like: each deed keeps that
-/

namespace FrameSocket

/-! ## Entries -/

namespace Registration

variable {r : Registration} {op op' : Operation}

/-- `set` changes what is wanted, and of nobody else. -/
@[simp] theorem id_set (wanted : Bool) : (r.set op wanted).id = r.id := by
  cases op <;> rfl

/-- `set` leaves the source as it is. -/
@[simp] theorem source_set (wanted : Bool) : (r.set op wanted).source = r.source := by
  cases op <;> rfl

/-- `set` changes whether its operation is wanted, and no other. -/
theorem wants_set (wanted : Bool) :
    (r.set op wanted).wants op' = if op' = op then wanted else r.wants op' := by
  cases op <;> cases op' <;> rfl

/-- An entry that is not idle wants something. -/
theorem isIdle_eq_false_iff : r.isIdle = false ↔ ∃ op, r.wants op = true := by
  constructor
  · intro h
    cases hread : r.read with
    | true => exact ⟨.read, hread⟩
    | false =>
      -- Not idle, and not for reading
      have hwrite : r.write = true := by simpa [isIdle, hread] using h
      exact ⟨.write, hwrite⟩
  · rintro ⟨op, h⟩
    cases op with
    | read => simp [isIdle, show r.read = true from h]
    | write => simp [isIdle, show r.write = true from h]

end Registration

/-! ## Tables -/

namespace Registrations

variable {rs : Registrations} {r : Registration} {id id' : SocketId} {source : Source}
  {op op' : Operation}

/-- One entry for each socket, in the order of their handles, and none that is idle. -/
structure IsTable (rs : Registrations) : Prop where
  ascending : rs.Pairwise (·.id < ·.id)
  busy : ∀ r ∈ rs, r.isIdle = false

/-- `find?` looks at the first entry first. -/
theorem find?_cons : find? (r :: rs) id = if r.id = id then some r else find? rs id := by
  unfold find?
  rw [List.find?_cons]
  split <;> simp_all

/-- Behind its place a socket has no entry. -/
theorem find?_eq_none_of_lt (h : ∀ r ∈ rs, id < r.id) : rs.find? id = none := by
  cases hfound : rs.find? id with
  | none => rfl
  | some r =>
    have hlt := h r (List.mem_of_find?_eq_some hfound)
    have hid : r.id = id := by simpa using List.find?_some hfound
    exact absurd (hid ▸ hlt : id < id) (Nat.lt_irrefl _)

namespace IsTable

/-- The empty table. -/
theorem empty : IsTable [] := ⟨.nil, fun _ hr => absurd hr List.not_mem_nil⟩

/-- A table without its first entry. -/
theorem tail (h : IsTable (r :: rs)) : IsTable rs :=
  ⟨h.ascending.of_cons, fun r' hr' => h.busy r' (List.mem_cons_of_mem _ hr')⟩

/-- The first entry comes before all others. -/
theorem head_lt (h : IsTable (r :: rs)) {r' : Registration} (hr' : r' ∈ rs) : r.id < r'.id :=
  (List.pairwise_cons.mp h.ascending).1 r' hr'

/-- An entry is found by its handle. -/
theorem find?_eq_some_iff (h : IsTable rs) : rs.find? id = some r ↔ r ∈ rs ∧ r.id = id := by
  constructor
  · intro hfound
    exact ⟨List.mem_of_find?_eq_some hfound, by simpa using List.find?_some hfound⟩
  · rintro ⟨hr, rfl⟩
    induction rs with
    | nil => exact absurd hr List.not_mem_nil
    | cons r' rs ih =>
      rw [find?_cons]
      rcases List.mem_cons.mp hr with rfl | hr
      · rw [if_pos rfl]
      · -- Ids ascend, so no entry before this one has its id
        have hne : r'.id ≠ r.id := fun heq => Nat.ne_of_lt (h.head_lt hr) (congrArg _ heq)
        rw [if_neg hne]
        exact ih h.tail hr

/-- What is wanted of a socket is what its entry wants. -/
theorem wants_iff (h : IsTable rs) :
    rs.wants id op = true ↔ ∃ r ∈ rs, r.id = id ∧ r.wants op = true := by
  unfold wants
  rw [Option.any_eq_true]
  constructor
  · rintro ⟨r, hfound, hwants⟩
    obtain ⟨hr, hid⟩ := h.find?_eq_some_iff.mp hfound
    exact ⟨r, hr, hid, hwants⟩
  · rintro ⟨r, hr, hid, hwants⟩
    exact ⟨r, h.find?_eq_some_iff.mpr ⟨hr, hid⟩, hwants⟩

/-- A table that has an entry wants something. -/
theorem ne_nil_iff (h : IsTable rs) : rs ≠ [] ↔ ∃ id op, rs.wants id op = true := by
  constructor
  · intro hne
    obtain ⟨r, hr⟩ := List.exists_mem_of_ne_nil rs hne
    obtain ⟨op, hwants⟩ := Registration.isIdle_eq_false_iff.mp (h.busy r hr)
    exact ⟨r.id, op, h.wants_iff.mpr ⟨r, hr, rfl, hwants⟩⟩
  · rintro ⟨id, op, hwants⟩ rfl
    exact nomatch hwants

end IsTable

/-! Adding an operation -/

/-- What the entry of a socket becomes when an operation is added: the one that it had, or
    a fresh one. -/
def entryAdded (rs : Registrations) (id : SocketId) (source : Source) (op : Operation) :
    Registration :=
  match rs.find? id with
  | some r => { r with source }.set op true
  | none => (Registration.fresh id source).set op true

/-- `entryAdded` is the entry of the socket. -/
theorem id_entryAdded (h : IsTable rs) : (rs.entryAdded id source op).id = id := by
  unfold entryAdded
  split
  · rename_i r hfound
    rw [Registration.id_set]
    exact (h.find?_eq_some_iff.mp hfound).2
  · rw [Registration.id_set]
    rfl

/-- `entryAdded` has the source that is given. -/
theorem source_entryAdded : (rs.entryAdded id source op).source = source := by
  unfold entryAdded
  split <;> rw [Registration.source_set]
  rfl

/-- `entryAdded` wants the operation, and what was wanted of the socket before. -/
theorem wants_entryAdded :
    (rs.entryAdded id source op).wants op' = true ↔ op' = op ∨ rs.wants id op' = true := by
  unfold entryAdded wants
  split
  · rename_i r hfound
    rw [Registration.wants_set, hfound]
    cases op' <;> simp [Registration.wants]
  · rename_i hfound
    rw [Registration.wants_set, hfound]
    cases op' <;> simp [Registration.wants, Registration.fresh]

/-- `add` puts `entryAdded` into the place of what the socket had, and leaves the others. -/
theorem mem_add (h : IsTable rs) : r ∈ rs.add id source op ↔
    r = rs.entryAdded id source op ∨ r ∈ rs ∧ r.id ≠ id := by
  induction rs with
  | nil => simp [add, entryAdded, find?]
  | cons r' rs ih =>
    -- Entries behind the first one are those of other sockets, as long as its number is not less
    have hother : ∀ {r}, r ∈ rs → r'.id = id ∨ id < r'.id → r.id ≠ id := by
      rintro r hr hle rfl
      have hlt : r'.id.number < r.id.number := h.head_lt hr
      rcases hle with heq | hlt'
      · rw [heq] at hlt
        exact Nat.lt_irrefl _ hlt
      · exact Nat.lt_asymm hlt hlt'
    unfold add
    split
    · -- the socket has an entry
      rename_i heq
      have hentry : entryAdded (r' :: rs) id source op = { r' with source }.set op true := by
        rw [entryAdded, find?_cons, if_pos heq]
      rw [hentry, List.mem_cons, List.mem_cons]
      constructor
      · rintro (rfl | hr)
        · exact .inl rfl
        · exact .inr ⟨.inr hr, hother hr (.inl heq)⟩
      · rintro (rfl | ⟨rfl | hr, hne⟩)
        · exact .inl rfl
        · exact absurd heq hne
        · exact .inr hr
    · rename_i hne
      split
      · -- its entry goes in front
        rename_i hlt
        have hnone : find? (r' :: rs) id = none := by
          rw [find?_cons, if_neg hne]
          exact find?_eq_none_of_lt fun r hr => Nat.lt_trans hlt (h.head_lt hr)
        have hentry : entryAdded (r' :: rs) id source op =
            (Registration.fresh id source).set op true := by
          rw [entryAdded, hnone]
        rw [hentry, List.mem_cons, List.mem_cons]
        constructor
        · rintro (rfl | rfl | hr)
          · exact .inl rfl
          · exact .inr ⟨.inl rfl, hne⟩
          · exact .inr ⟨.inr hr, hother hr (.inr hlt)⟩
        · rintro (rfl | ⟨hr, -⟩)
          · exact .inl rfl
          · exact .inr hr
      · -- its place is further behind
        have hentry : entryAdded (r' :: rs) id source op = entryAdded rs id source op := by
          rw [entryAdded, find?_cons, if_neg hne, entryAdded]
        rw [hentry, List.mem_cons, List.mem_cons, ih h.tail]
        constructor
        · rintro (rfl | rfl | ⟨hr, hne⟩)
          · exact .inr ⟨.inl rfl, hne⟩
          · exact .inl rfl
          · exact .inr ⟨.inr hr, hne⟩
        · rintro (rfl | ⟨rfl | hr, hne⟩)
          · exact .inr (.inl rfl)
          · exact .inl rfl
          · exact .inr (.inr ⟨hr, hne⟩)

/-- `add` keeps the order of a table, and that each entry wants something. -/
theorem IsTable.add (h : IsTable rs) : IsTable (rs.add id source op) := by
  constructor
  · -- the order, by the same three cases
    induction rs with
    | nil => exact List.pairwise_singleton _ _
    | cons r' rs ih =>
      unfold Registrations.add
      split
      · refine List.pairwise_cons.mpr ⟨fun r hr => ?_, h.tail.ascending⟩
        rw [Registration.id_set]
        exact h.head_lt hr
      · rename_i hne
        split
        · rename_i hlt
          refine List.pairwise_cons.mpr ⟨fun r hr => ?_, h.ascending⟩
          rw [Registration.id_set]
          rcases List.mem_cons.mp hr with rfl | hr
          · exact hlt
          · exact Nat.lt_trans hlt (h.head_lt hr)
        · rename_i hlt
          refine List.pairwise_cons.mpr ⟨fun r hr => ?_, ih h.tail⟩
          rcases (mem_add h.tail).mp hr with rfl | ⟨hr, -⟩
          · rw [id_entryAdded h.tail]
            exact Nat.lt_of_le_of_ne (Nat.le_of_not_lt hlt)
              fun heq => hne (congrArg SocketId.mk heq)
          · exact h.head_lt hr
  · -- the entry of the socket wants the operation that was added
    intro r hr
    rcases (mem_add h).mp hr with rfl | ⟨hr, -⟩
    · exact Registration.isIdle_eq_false_iff.mpr ⟨op, wants_entryAdded.mpr (.inl rfl)⟩
    · exact h.busy r hr

/-- `add` adds one operation of one socket to what is wanted. -/
theorem wants_add (h : IsTable rs) : (rs.add id source op).wants id' op' = true ↔
    id' = id ∧ op' = op ∨ rs.wants id' op' = true := by
  rw [h.add.wants_iff]
  constructor
  · rintro ⟨r, hr, rfl, hwants⟩
    rcases (mem_add h).mp hr with rfl | ⟨hr, -⟩
    · rw [id_entryAdded h]
      rcases wants_entryAdded.mp hwants with hop | hwants
      · exact .inl ⟨rfl, hop⟩
      · exact .inr hwants
    · exact .inr (h.wants_iff.mpr ⟨r, hr, rfl, hwants⟩)
  · intro hwants
    -- The socket has the new entry, and other sockets have theirs
    by_cases hid : id' = id
    · subst hid
      refine ⟨rs.entryAdded id' source op, (mem_add h).mpr (.inl rfl), id_entryAdded h, ?_⟩
      exact wants_entryAdded.mpr (hwants.imp_left And.right)
    · have hwants' : rs.wants id' op' = true := hwants.resolve_left fun heq => hid heq.1
      obtain ⟨r, hr, rfl, hop⟩ := h.wants_iff.mp hwants'
      exact ⟨r, (mem_add h).mpr (.inr ⟨hr, hid⟩), rfl, hop⟩

/-! Removing operations -/

/-- `remove` withdraws the operation from the entry of the socket, which goes if it is idle then. -/
theorem mem_remove : r ∈ rs.remove id op ↔
    (∃ r' ∈ rs, r'.id = id ∧ r = r'.set op false ∧ r.isIdle = false) ∨ r ∈ rs ∧ r.id ≠ id := by
  unfold remove
  rw [List.mem_filterMap]
  constructor
  · rintro ⟨r', hr', h⟩
    split at h
    · rename_i hid
      dsimp only at h
      split at h
      · exact nomatch h
      · -- The entry still wants the other operation
        rename_i hidle
        cases h
        exact .inl ⟨r', hr', hid, rfl, Bool.eq_false_iff.mpr hidle⟩
    · rename_i hid
      cases h
      exact .inr ⟨hr', hid⟩
  · rintro (⟨r', hr', hid, rfl, hidle⟩ | ⟨hr, hid⟩)
    · refine ⟨r', hr', ?_⟩
      rw [if_pos hid, if_neg (by simp [hidle])]
    · exact ⟨r, hr, if_neg hid⟩

/-- `remove` keeps the order of a table, and that each entry wants something. -/
theorem IsTable.remove (h : IsTable rs) : IsTable (rs.remove id op) := by
  constructor
  · unfold Registrations.remove
    rw [List.pairwise_filterMap]
    refine h.ascending.imp fun {r r'} hlt s hs s' hs' => ?_
    -- An entry that stays keeps its handle
    have hsame : ∀ {r s : Registration}, (if r.id = id then
        (let r := r.set op false; if r.isIdle then none else some r) else some r) = some s →
        s.id = r.id := by
      intro r s hs
      split at hs
      · dsimp only at hs
        split at hs
        · exact nomatch hs
        · cases hs
          exact Registration.id_set _
      · cases hs
        rfl
    rw [hsame hs, hsame hs']
    exact hlt
  · intro r hr
    rcases mem_remove.mp hr with ⟨r', -, -, -, hidle⟩ | ⟨hr, -⟩
    · exact hidle
    · exact h.busy r hr

/-- `remove` takes one operation of one socket from what is wanted. -/
theorem wants_remove (h : IsTable rs) : (rs.remove id op).wants id' op' = true ↔
    rs.wants id' op' = true ∧ ¬ (id' = id ∧ op' = op) := by
  rw [h.remove.wants_iff, h.wants_iff]
  constructor
  · rintro ⟨r, hr, rfl, hwants⟩
    rcases mem_remove.mp hr with ⟨r', hr', hid, rfl, -⟩ | ⟨hr, hid⟩
    · rw [Registration.wants_set] at hwants
      split at hwants
      · exact nomatch hwants
      · rename_i hop
        exact ⟨⟨r', hr', (Registration.id_set _).symm, hwants⟩, fun heq => hop heq.2⟩
    · exact ⟨⟨r, hr, rfl, hwants⟩, fun heq => hid heq.1⟩
  · rintro ⟨⟨r, hr, rfl, hwants⟩, hne⟩
    by_cases hid : r.id = id
    · -- the entry loses another operation, and is not idle
      have hwants' : (r.set op false).wants op' = true := by
        rw [Registration.wants_set, if_neg fun hop => hne ⟨hid, hop⟩]
        exact hwants
      refine ⟨r.set op false, mem_remove.mpr (.inl ⟨r, hr, hid, rfl, ?_⟩),
        Registration.id_set _, hwants'⟩
      exact Registration.isIdle_eq_false_iff.mpr ⟨op', hwants'⟩
    · exact ⟨r, mem_remove.mpr (.inr ⟨hr, hid⟩), rfl, hwants⟩

/-- `removeAll` takes the entry of the socket away. -/
theorem mem_removeAll : r ∈ rs.removeAll id ↔ r ∈ rs ∧ r.id ≠ id := by
  simp [removeAll]

/-- `removeAll` keeps the order of a table, and that each entry wants something. -/
theorem IsTable.removeAll (h : IsTable rs) : IsTable (rs.removeAll id) :=
  ⟨h.ascending.filter _, fun r hr => h.busy r (mem_removeAll.mp hr).1⟩

/-- `removeAll` takes what is wanted of one socket away. -/
theorem wants_removeAll (h : IsTable rs) : (rs.removeAll id).wants id' op = true ↔
    rs.wants id' op = true ∧ id' ≠ id := by
  rw [h.removeAll.wants_iff, h.wants_iff]
  constructor
  · rintro ⟨r, hr, rfl, hwants⟩
    obtain ⟨hr, hid⟩ := mem_removeAll.mp hr
    exact ⟨⟨r, hr, rfl, hwants⟩, hid⟩
  · rintro ⟨⟨r, hr, rfl, hwants⟩, hid⟩
    exact ⟨r, mem_removeAll.mpr ⟨hr, hid⟩, rfl, hwants⟩

end Registrations

/-! ## Histories -/

namespace Selector

/-- Something that was done to a selector. -/
inductive Deed where
  | added (socket : Socket) (op : Operation)
  | removed (id : SocketId) (op : Operation)
  | cleared (id : SocketId)
  | shutDown
  /-- A select that ended so. -/
  | selected (outcome : Selection)

/-- Whether a deed takes an operation of a socket away, if it was wanted. -/
def Deed.Withdraws (id : SocketId) (op : Operation) : Deed → Prop
  | .added _ _ => False
  | .removed id' op' => id = id' ∧ op = op'
  | .cleared id' => id = id'
  | .shutDown => True
  | .selected (.ready _) => True
  | .selected _ => False

/-- An operation of a socket has been added, and not been withdrawn since.  The latest deed
    is in front. -/
inductive Standing (id : SocketId) (op : Operation) : List Deed → Prop
  | added {socket : Socket} {past : List Deed} (hid : id = socket.id) :
      Standing id op (.added socket op :: past)
  | kept {deed : Deed} {past : List Deed} (h : Standing id op past)
      (hkept : ¬ deed.Withdraws id op) : Standing id op (deed :: past)

/-- The socket that was the last to be added with its handle. -/
inductive LastAdded (socket : Socket) : List Deed → Prop
  | added {op : Operation} {past : List Deed} : LastAdded socket (.added socket op :: past)
  | kept {deed : Deed} {past : List Deed} (h : LastAdded socket past)
      (hother : ∀ other op, deed = .added other op → other.id ≠ socket.id) :
      LastAdded socket (deed :: past)

variable {past : List Deed} {rs : Registrations} {id id' : SocketId} {op op' : Operation}

/-- What is `Standing` once an operation was added. -/
theorem standing_added {socket : Socket} : Standing id op (.added socket op' :: past) ↔
    id = socket.id ∧ op = op' ∨ Standing id op past := by
  constructor
  · intro h
    cases h with
    | added hid => exact .inl ⟨hid, rfl⟩
    | kept h hkept => exact .inr h
  · rintro (⟨hid, rfl⟩ | h)
    · exact .added hid
    · exact .kept h fun hwithdraws => hwithdraws

/-- Only an addition makes an operation stand that did not. -/
theorem standing_cons {deed : Deed} (hdeed : ∀ socket op, deed ≠ .added socket op) :
    Standing id op (deed :: past) ↔ Standing id op past ∧ ¬ deed.Withdraws id op := by
  constructor
  · intro h
    cases h with
    | added hid => exact absurd rfl (hdeed _ _)
    | kept h hkept => exact ⟨h, hkept⟩
  · rintro ⟨h, hkept⟩
    exact .kept h hkept

section LastAdded

variable {s s' : Socket}

/-- Which socket was `LastAdded` once another one was added. -/
theorem lastAdded_added {op : Operation} :
    LastAdded s (.added s' op :: past) ↔ s = s' ∨ LastAdded s past ∧ s'.id ≠ s.id := by
  constructor
  · intro h
    -- The newest deed decides, or it is about another socket
    cases h with
    | added => exact .inl rfl
    | kept h hother => exact .inr ⟨h, hother s' op rfl⟩
  · rintro (rfl | ⟨h, hne⟩)
    · exact .added
    · refine .kept h fun other op' heq => ?_
      cases heq
      exact hne

/-- No other deed changes which socket was `LastAdded`. -/
theorem lastAdded_cons {deed : Deed} (hdeed : ∀ socket op, deed ≠ .added socket op) :
    LastAdded s (deed :: past) ↔ LastAdded s past := by
  constructor
  · intro h
    cases h with
    | added => exact absurd rfl (hdeed _ _)
    | kept h => exact h
  · exact fun h => .kept h fun other op heq => absurd heq (hdeed other op)

/-- One socket at most was the last to be added with a handle. -/
theorem LastAdded.unique (h : LastAdded s past) (h' : LastAdded s' past) (hid : s'.id = s.id) :
    s' = s := by
  induction h with
  | added =>
    rcases lastAdded_added.mp h' with rfl | ⟨-, hne⟩
    · rfl
    · exact absurd hid.symm hne
  | kept h hother ih =>
    cases h' with
    | added => exact absurd hid (hother _ _ rfl)
    | kept h' => exact ih h'

end LastAdded

/-- A table agrees with the history behind it. -/
structure Tracks (past : List Deed) (rs : Registrations) : Prop where
  table : rs.IsTable
  wants : ∀ id op, rs.wants id op = true ↔ Standing id op past
  source : ∀ r ∈ rs, ∃ socket, LastAdded socket past ∧ socket.id = r.id ∧ r.source = .of socket

namespace Tracks

/-- The empty table `Tracks` that nothing was done. -/
theorem empty : Tracks [] [] := by
  refine ⟨.empty, fun id op => ⟨fun h => (nomatch h), fun h => (nomatch h)⟩, ?_⟩
  exact fun r hr => absurd hr List.not_mem_nil

/-- No entry is left after a deed that withdraws everything. -/
theorem nothing {deed : Deed} (hdeed : ∀ socket op, deed ≠ .added socket op)
    (hall : ∀ id op, deed.Withdraws id op) : Tracks (deed :: past) [] := by
  refine ⟨.empty, fun id op => ⟨fun hwants => (nomatch hwants), fun hstanding => ?_⟩, ?_⟩
  · exact absurd (hall id op) ((standing_cons hdeed).mp hstanding).2
  · exact fun r hr => absurd hr List.not_mem_nil

/-- What a deed that adds nothing leaves: a table without what it withdraws, whose entries
    have their sources from before. -/
theorem withdrawn {deed : Deed} {rs' : Registrations} (h : Tracks past rs)
    (hdeed : ∀ socket op, deed ≠ .added socket op) (htable : rs'.IsTable)
    (hwants : ∀ id op, rs'.wants id op = true ↔ rs.wants id op = true ∧ ¬ deed.Withdraws id op)
    (hsource : ∀ r ∈ rs', ∃ r' ∈ rs, r.id = r'.id ∧ r.source = r'.source) :
    Tracks (deed :: past) rs' := by
  refine ⟨htable, fun id op => ?_, fun r hr => ?_⟩
  · rw [hwants, h.wants, standing_cons hdeed]
  · obtain ⟨r', hr', hid, hsame⟩ := hsource r hr
    obtain ⟨socket, hlast, hsocket, hof⟩ := h.source r' hr'
    refine ⟨socket, .kept hlast fun other op heq => ?_, hsocket.trans hid.symm, hsame.trans hof⟩
    exact absurd heq (hdeed other op)

/-- A deed that does not change the table. -/
theorem kept {deed : Deed} (h : Tracks past rs) (hdeed : ∀ socket op, deed ≠ .added socket op)
    (hnone : ∀ id op, ¬ deed.Withdraws id op) : Tracks (deed :: past) rs :=
  h.withdrawn hdeed h.table (fun id op => (and_iff_left (hnone id op)).symm)
    fun r hr => ⟨r, hr, rfl, rfl⟩

/-- `add` tracks that an operation was added. -/
theorem added (h : Tracks past rs) (socket : Socket) (op : Operation) :
    Tracks (.added socket op :: past) (rs.add socket.id (.of socket) op) := by
  refine ⟨h.table.add, fun id op' => ?_, fun r hr => ?_⟩
  · rw [Registrations.wants_add h.table, h.wants, standing_added]
  · rcases (Registrations.mem_add h.table).mp hr with rfl | ⟨hr, hne⟩
    · exact ⟨socket, .added, (Registrations.id_entryAdded h.table).symm,
        Registrations.source_entryAdded⟩
    · obtain ⟨other, hlast, hother, hof⟩ := h.source r hr
      refine ⟨other, .kept hlast fun socket' op' heq => ?_, hother, hof⟩
      cases heq
      exact fun heq => hne (hother.symm.trans heq.symm)

/-- `remove` tracks that an operation was withdrawn. -/
theorem removed (h : Tracks past rs) (id : SocketId) (op : Operation) :
    Tracks (.removed id op :: past) (rs.remove id op) := by
  refine h.withdrawn (fun _ _ => nofun) h.table.remove
    (fun id' op' => Registrations.wants_remove h.table) fun r hr => ?_
  rcases Registrations.mem_remove.mp hr with ⟨r', hr', -, rfl, -⟩ | ⟨hr, -⟩
  · exact ⟨r', hr', Registration.id_set _, Registration.source_set _⟩
  · exact ⟨r, hr, rfl, rfl⟩

/-- `removeAll` tracks that a socket was cleared. -/
theorem cleared (h : Tracks past rs) (id : SocketId) :
    Tracks (.cleared id :: past) (rs.removeAll id) := by
  refine h.withdrawn (fun _ _ => nofun) h.table.removeAll
    (fun id' op' => Registrations.wants_removeAll h.table) fun r hr => ?_
  exact ⟨r, (Registrations.mem_removeAll.mp hr).1, rfl, rfl⟩

end Tracks

end Selector

end FrameSocket
