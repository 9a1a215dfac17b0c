import Rdows.Client.Verbs

/-!
# Accesses to local memory

Four places of the client compare a range with the size of a local buffer: `write_local_mr`,
`read_local_mr`, the copy at the end of `rdma_read`, and every turn of the loop of `gather_sg_data`.
All of them look the L_Key up first, and then compute the end of the range with a plain addition,
where the server's `write_region` uses `checked_add`.

## What should hold, and when it does

An access should succeed exactly if its range lies inside the buffer, and be refused without effect
otherwise.  `Inside` says this of natural numbers, where sums do not overflow.  `Computes` is the
condition under which the code agrees: the L_Key is unknown, so that the access is refused before
the addition, or the end of the range is a 64-bit number.  `GathersWithin` is the same for a
scatter/gather list: the loop stops at the first entry that is refused, so that only the entries it
comes to matter.

`local_accesses_exact` says that the four accesses are exact if and only if they compute.  When one
does not, the addition panics (`readLocalMr_overflows` is an instance): the range at fault lies
outside every buffer, and should have been refused with `ErrBounds`.

The promises are structures (`WritesExactly`, `ReadsExactly`, `GathersExactly`, `CopiesExactly`),
one for each place in the source, so that the theorem can name them; what they have in common is
`localMr_checkRange`.
-/

namespace Rdows

open Rust

/-- The sum of the entries' lengths. -/
def totalLength (entries : List ScatterGatherEntry) : ℕ :=
  (entries.map fun sg => sg.length.toNat).sum

namespace RdowsConnection

/-- The range lies inside the local buffer of the region, as a statement about natural numbers.
There is no such buffer for an unknown L_Key. -/
def Inside (c : RdowsConnection) (lkey : LKey) (start len : ℕ) : Prop :=
  ∃ mr, c.localMrs.lookup lkey.value = some mr ∧ start + len ≤ mr.localBuf.length

instance (c : RdowsConnection) (lkey : LKey) (start len : ℕ) :
    Decidable (c.Inside lkey start len) :=
  decidable_of_iff
    ((c.localMrs.lookup lkey.value).any fun mr => start + len ≤ mr.localBuf.length) (by
      simp [Inside, Option.any_eq_true])

/-- The local buffer of a region; empty if there is no such region. -/
def localBytes (c : RdowsConnection) (lkey : LKey) : Bytes :=
  match c.localMrs.lookup lkey.value with
  | some mr => mr.localBuf
  | none => []

/-- The bytes of a range of a local buffer. -/
def bytesAt (c : RdowsConnection) (lkey : LKey) (start len : ℕ) : Bytes :=
  ((c.localBytes lkey).drop start).take len

/-- How an access that is not inside is refused: an unknown L_Key is reported before any range is
looked at. -/
def refusal (c : RdowsConnection) (lkey : LKey) : RdowsError :=
  if (c.localMrs.lookup lkey.value).isSome then .protocol .errBounds else .protocol .errInvalidLkey

/-- The connection with the bytes from `start` on replaced in a local buffer, and nothing else
changed. -/
def withBytes (c : RdowsConnection) (lkey : LKey) (start : ℕ) (data : Bytes) : RdowsConnection :=
  match c.localMrs.lookup lkey.value with
  | some mr =>
      let written : MemoryRegionHandle := { mr with localBuf := splice mr.localBuf start data }
      { c with localMrs := c.localMrs.insert lkey.value written }
  | none => c

/-- The end of the range is a 64-bit number, unless the L_Key is unknown: then the access is refused
before the end is computed. -/
def Computes (c : RdowsConnection) (lkey : LKey) (start len : ℕ) : Prop :=
  (c.localMrs.lookup lkey.value).isSome → start + len < usizeBound

instance (c : RdowsConnection) (lkey : LKey) (start len : ℕ) :
    Decidable (c.Computes lkey start len) :=
  inferInstanceAs (Decidable (_ → _))

variable {c : RdowsConnection} {lkey : LKey} {start len : ℕ} {data : Bytes}

/-! ### The common check -/

/-- The region and the end of the range, or the refusal: the first two steps of every access, under
the condition that the sum can be computed. -/
theorem localMr_checkRange (computes : c.Computes lkey start len) :
    (∃ mr, c.localMrs.lookup lkey.value = some mr ∧ start + len ≤ mr.localBuf.length ∧
      c.localMr lkey = .ok mr ∧ checkRange mr start len = .ok (start + len)) ∨
    (¬ c.Inside lkey start len ∧
      (c.localMr lkey = .err (c.refusal lkey) ∨
        ∃ mr, c.localMr lkey = .ok mr ∧ checkRange mr start len = .err (c.refusal lkey))) := by
  rcases found : c.localMrs.lookup lkey.value with _ | mr
  · refine .inr ⟨?_, .inl ?_⟩
    · rintro ⟨mr, there, -⟩
      rw [found] at there
      cases there
    · rw [localMr, refusal, found]
      rfl
  · have fits : start + len < usizeBound := computes (by rw [found]; rfl)
    have known : c.localMr lkey = .ok mr := by rw [localMr, found]; rfl
    by_cases inside : start + len ≤ mr.localBuf.length
    · exact .inl ⟨mr, rfl, inside, known, checkRange_eq_ok.mpr ⟨rfl, inside, fits⟩⟩
    · refine .inr ⟨?_, .inr ⟨mr, known, ?_⟩⟩
      · rintro ⟨mr', there, within⟩
        rw [found] at there
        cases there
        exact inside within
      · rw [checkRange, checkedAddUsize, if_pos fits, Outcome.orPanic_some, Outcome.ok_bind,
          if_pos (Nat.lt_of_not_le inside), refusal, found]
        rfl

/-- Beyond the 64-bit numbers the addition itself panics, since the region was found by then. -/
theorem localMr_checkRange_overflow (beyond : ¬ c.Computes lkey start len) :
    ∃ mr, c.localMr lkey = .ok mr ∧ checkRange mr start len = .panic .arithmeticOverflow := by
  obtain ⟨registered, tooLarge⟩ := Classical.not_imp.mp beyond
  obtain ⟨mr, found⟩ := Option.isSome_iff_exists.mp registered
  refine ⟨mr, by rw [localMr, found]; rfl, ?_⟩
  rw [checkRange, checkedAddUsize, if_neg tooLarge]
  rfl

/-! ### Access by access -/

/-- **What `write_local_mr` promises**, and the copy at the end of `rdma_read` with it: the range is
inside and holds the data afterwards, or it is not and nothing has changed. -/
structure WritesExactly (c : RdowsConnection) (lkey : LKey) (start : ℕ) (data : Bytes) : Prop where
  inside : c.Inside lkey start data.length →
    (copyToLocalMr lkey start data).run c = (.ok (), c.withBytes lkey start data)
  outside : ¬ c.Inside lkey start data.length →
    (copyToLocalMr lkey start data).run c = (.err (c.refusal lkey), c)

/-- **What `read_local_mr` promises**: the bytes of the range if it is inside, and the refusal
otherwise. -/
structure ReadsExactly (c : RdowsConnection) (lkey : LKey) (start len : ℕ) : Prop where
  inside : c.Inside lkey start len → c.readLocalMr lkey start len = .ok (c.bytesAt lkey start len)
  outside : ¬ c.Inside lkey start len → c.readLocalMr lkey start len = .err (c.refusal lkey)

theorem copyToLocalMr_run (computes : c.Computes lkey start data.length) :
    c.WritesExactly lkey start data := by
  rcases localMr_checkRange computes with ⟨mr, found, inside, known, checked⟩ | ⟨outside, refused⟩
  · refine ⟨fun _ => ?_, fun outside => absurd ⟨mr, found, inside⟩ outside⟩
    rw [copyToLocalMr, Method.run_bind_of_ok (Method.run_get c), known,
      Method.run_bind_of_ok (Method.run_lift _ c), checked,
      Method.run_bind_of_ok (Method.run_lift _ c), copyFromSlice_eq_ok inside,
      Method.run_bind_of_ok (Method.run_lift _ c), Method.run_modify, withBytes, found]
  · refine ⟨fun inside => absurd inside outside, fun _ => ?_⟩
    rw [copyToLocalMr, Method.run_bind_of_ok (Method.run_get c)]
    rcases refused with unknown | ⟨mr, known, beyond⟩
    · rw [unknown]
      rfl
    · rw [known, Method.run_bind_of_ok (Method.run_lift _ c), beyond]
      rfl

theorem copyToLocalMr_overflow (beyond : ¬ c.Computes lkey start data.length) :
    (copyToLocalMr lkey start data).run c = (.panic .arithmeticOverflow, c) := by
  obtain ⟨mr, known, panics⟩ := localMr_checkRange_overflow beyond
  rw [copyToLocalMr, Method.run_bind_of_ok (Method.run_get c), known,
    Method.run_bind_of_ok (Method.run_lift _ c), panics]
  rfl

/-- The range lies inside the local buffer of the region, and its end is a 64-bit number.  A buffer
that fits into memory makes the second part redundant; the model does not rely on that. -/
def Stores (c : RdowsConnection) (lkey : LKey) (start len : ℕ) : Prop :=
  c.Inside lkey start len ∧ start + len < usizeBound

instance (c : RdowsConnection) (lkey : LKey) (start len : ℕ) :
    Decidable (c.Stores lkey start len) :=
  inferInstanceAs (Decidable (_ ∧ _))

/-- When data can be stored. -/
theorem isOk_copyToLocalMr_iff (c : RdowsConnection) (lkey : LKey) (start : ℕ) (data : Bytes) :
    ((copyToLocalMr lkey start data).run c).1.IsOk ↔ c.Stores lkey start data.length := by
  by_cases computes : c.Computes lkey start data.length
  · have copies := copyToLocalMr_run computes
    by_cases inside : c.Inside lkey start data.length
    · rw [copies.inside inside]
      obtain ⟨mr, found, -⟩ := id inside
      exact iff_of_true trivial ⟨inside, computes (by rw [found]; rfl)⟩
    · rw [copies.outside inside]
      exact iff_of_false id fun stores => inside stores.1
  · rw [copyToLocalMr_overflow computes]
    exact iff_of_false id fun stores => computes fun _ => stores.2

theorem readLocalMr_eq (computes : c.Computes lkey start len) : c.ReadsExactly lkey start len := by
  rcases localMr_checkRange computes with ⟨mr, found, inside, known, checked⟩ | ⟨outside, refused⟩
  · refine ⟨fun _ => ?_, fun outside => absurd ⟨mr, found, inside⟩ outside⟩
    rw [readLocalMr, known, Outcome.ok_bind, checked, Outcome.ok_bind,
      slice_eq_ok (Nat.le_add_right _ _) inside, Nat.add_sub_cancel_left, bytesAt, localBytes,
      found]
  · refine ⟨fun inside => absurd inside outside, fun _ => ?_⟩
    rw [readLocalMr]
    rcases refused with unknown | ⟨mr, known, beyond⟩
    · rw [unknown, Outcome.err_bind]
    · rw [known, Outcome.ok_bind, beyond, Outcome.err_bind]

theorem readLocalMr_overflow (beyond : ¬ c.Computes lkey start len) :
    c.readLocalMr lkey start len = .panic .arithmeticOverflow := by
  obtain ⟨mr, known, panics⟩ := localMr_checkRange_overflow beyond
  rw [readLocalMr, known, Outcome.ok_bind, panics]
  rfl

/-- One turn of the loop is a read of the entry's range. -/
theorem gatherSgData_cons (sg : ScatterGatherEntry) (rest : List ScatterGatherEntry) :
    c.gatherSgData (sg :: rest) = (do
      let data ← c.readLocalMr sg.lkey sg.offset.toNat sg.length.toNat
      return data ++ (← c.gatherSgData rest)) := by
  rw [gatherSgData, readLocalMr]
  rcases c.localMr sg.lkey with mr | e | p
  · rw [Outcome.ok_bind, Outcome.ok_bind]
    rcases checkRange mr sg.offset.toNat sg.length.toNat with stop | e | p <;> rfl
  · rfl
  · rfl

/-- The entry's range lies inside its local buffer. -/
def Holds (c : RdowsConnection) (sg : ScatterGatherEntry) : Prop :=
  c.Inside sg.lkey sg.offset.toNat sg.length.toNat

instance (c : RdowsConnection) (sg : ScatterGatherEntry) : Decidable (c.Holds sg) :=
  inferInstanceAs (Decidable (c.Inside _ _ _))

/-- The bytes of the entry's range. -/
def entryBytes (c : RdowsConnection) (sg : ScatterGatherEntry) : Bytes :=
  c.bytesAt sg.lkey sg.offset.toNat sg.length.toNat

theorem length_entryBytes {sg : ScatterGatherEntry} (holds : c.Holds sg) :
    (c.entryBytes sg).length = sg.length.toNat := by
  obtain ⟨mr, found, inside⟩ := holds
  rw [entryBytes, bytesAt, localBytes, found, List.length_take, List.length_drop]
  exact Nat.min_eq_left (Nat.le_sub_of_add_le' inside)

/-- The ends of the ranges that the loop comes to can be computed.  It goes on behind an entry only
if the entry's range lies inside its buffer. -/
def GathersWithin (c : RdowsConnection) : List ScatterGatherEntry → Prop
  | [] => True
  | sg :: rest =>
      c.Computes sg.lkey sg.offset.toNat sg.length.toNat ∧ (c.Holds sg → c.GathersWithin rest)

/-- **What `gather_sg_data` promises**: the ranges in list order, as long as the entries together,
if all of them are inside; and otherwise the refusal of an entry that is not. -/
structure GathersExactly (c : RdowsConnection) (entries : List ScatterGatherEntry) : Prop where
  inside : (∀ sg ∈ entries, c.Holds sg) →
    c.gatherSgData entries = .ok (entries.flatMap c.entryBytes) ∧
    (entries.flatMap c.entryBytes).length = totalLength entries
  outside : (∃ sg ∈ entries, ¬ c.Holds sg) →
    ∃ sg ∈ entries, ¬ c.Holds sg ∧ c.gatherSgData entries = .err (c.refusal sg.lkey)

/-- The ranges of all entries are as long as the entries say. -/
theorem length_flatMap_entryBytes {entries : List ScatterGatherEntry}
    (holds : ∀ sg ∈ entries, c.Holds sg) :
    (entries.flatMap c.entryBytes).length = totalLength entries := by
  rw [List.length_flatMap]
  exact congrArg List.sum (List.map_congr_left fun sg mem => length_entryBytes (holds sg mem))

/-- The loop gathers the ranges in order, or stops at the first entry that is not inside. -/
theorem gatherSgData_eq {entries : List ScatterGatherEntry} (within : c.GathersWithin entries) :
    c.GathersExactly entries := by
  induction entries with
  | nil => exact ⟨fun _ => ⟨rfl, rfl⟩, fun ⟨sg, mem, _⟩ => absurd mem List.not_mem_nil⟩
  | cons sg rest ih =>
      obtain ⟨computes, later⟩ := within
      have reads := readLocalMr_eq computes
      -- The loop stops at the first entry that fails, which need not be the one given.
      by_cases holds : c.Holds sg
      · have gathers := ih (later holds)
        constructor
        · intro all
          refine ⟨?_, length_flatMap_entryBytes all⟩
          rw [gatherSgData_cons, reads.inside holds, Outcome.ok_bind,
            (gathers.inside fun e mem => all e (List.mem_cons_of_mem _ mem)).1]
          rfl
        · rintro ⟨e, mem, outside⟩
          rw [gatherSgData_cons, reads.inside holds, Outcome.ok_bind]
          rcases List.mem_cons.mp mem with rfl | behind
          · exact absurd holds outside
          · obtain ⟨e', mem', outside', failed⟩ := gathers.outside ⟨e, behind, outside⟩
            exact ⟨e', List.mem_cons_of_mem _ mem', outside', by rw [failed]; rfl⟩
      · refine ⟨fun all => absurd (all sg List.mem_cons_self) holds,
          fun _ => ⟨sg, List.mem_cons_self, holds, ?_⟩⟩
        rw [gatherSgData_cons, reads.outside holds, Outcome.err_bind]

/-- The loop panics at the first entry whose end cannot be computed, if it comes to it. -/
theorem gatherSgData_overflow {entries : List ScatterGatherEntry}
    (beyond : ¬ c.GathersWithin entries) :
    c.gatherSgData entries = .panic .arithmeticOverflow := by
  induction entries with
  | nil => exact absurd trivial beyond
  | cons sg rest ih =>
      rw [gatherSgData_cons]
      by_cases computes : c.Computes sg.lkey sg.offset.toNat sg.length.toNat
      · obtain ⟨holds, later⟩ : c.Holds sg ∧ ¬ c.GathersWithin rest :=
          Classical.not_imp.mp fun later => beyond ⟨computes, later⟩
        rw [(readLocalMr_eq computes).inside holds, Outcome.ok_bind, ih later]
        rfl
      · rw [readLocalMr_overflow computes]
        rfl

/-- A read that succeeds was inside its buffer. -/
theorem readLocalMr_eq_ok (run : c.readLocalMr lkey start len = .ok data) :
    c.Inside lkey start len ∧ data = c.bytesAt lkey start len := by
  by_cases computes : c.Computes lkey start len
  · have reads := readLocalMr_eq computes
    by_cases inside : c.Inside lkey start len
    · exact ⟨inside, Outcome.ok.inj (run.symm.trans (reads.inside inside))⟩
    · cases run.symm.trans (reads.outside inside)
  · cases run.symm.trans (readLocalMr_overflow computes)

/-- A read that fails is refused, with the one error that goes with its L_Key. -/
theorem readLocalMr_eq_err {e : RdowsError} (run : c.readLocalMr lkey start len = .err e) :
    e = c.refusal lkey := by
  by_cases computes : c.Computes lkey start len
  · have reads := readLocalMr_eq computes
    by_cases inside : c.Inside lkey start len
    · cases run.symm.trans (reads.inside inside)
    · exact Outcome.err.inj (run.symm.trans (reads.outside inside))
  · cases run.symm.trans (readLocalMr_overflow computes)

/-- A loop that succeeds gathered the ranges of all entries. -/
theorem gatherSgData_eq_ok {entries : List ScatterGatherEntry}
    (run : c.gatherSgData entries = .ok data) :
    (∀ sg ∈ entries, c.Holds sg) ∧ data = entries.flatMap c.entryBytes := by
  induction entries generalizing data with
  | nil =>
      cases run
      exact ⟨fun sg mem => absurd mem List.not_mem_nil, rfl⟩
  | cons sg rest ih =>
      rw [gatherSgData_cons] at run
      obtain ⟨front, read, later⟩ := Outcome.bind_eq_ok.mp run
      obtain ⟨back, gathered, ends⟩ := Outcome.bind_eq_ok.mp later
      obtain ⟨inside, rfl⟩ := readLocalMr_eq_ok read
      obtain ⟨holds, rfl⟩ := ih gathered
      cases ends
      exact ⟨List.forall_mem_cons.mpr ⟨inside, holds⟩, rfl⟩

/-- What was gathered is as long as the entries together. -/
theorem length_of_gatherSgData {entries : List ScatterGatherEntry} {data : Bytes}
    (gathered : c.gatherSgData entries = .ok data) :
    data.length = totalLength entries := by
  obtain ⟨holds, rfl⟩ := gatherSgData_eq_ok gathered
  exact length_flatMap_entryBytes holds

/-- Entries of length zero gather nothing, however many there are.  This is how a list can be long
while its data is short. -/
theorem gatherSgData_replicate (lkey : LKey) {mr : MemoryRegionHandle}
    (registered : c.localMrs.lookup lkey.value = some mr) (count : ℕ) :
    c.gatherSgData (List.replicate count ⟨lkey, 0, 0⟩) = .ok [] := by
  have holds : c.Holds ⟨lkey, 0, 0⟩ := ⟨mr, registered, Nat.zero_le _⟩
  have nothing : c.entryBytes ⟨lkey, 0, 0⟩ = [] := List.length_eq_zero_iff.mp
    (length_entryBytes holds)
  have computes : c.Computes lkey 0 0 := fun _ => by decide
  have within : c.GathersWithin (List.replicate count ⟨lkey, 0, 0⟩) := by
    induction count with
    | zero => trivial
    | succ count ih => exact ⟨computes, fun _ => ih⟩
  rw [((gatherSgData_eq within).inside fun sg mem => List.eq_of_mem_replicate mem ▸ holds).1,
    List.flatMap_replicate, nothing, List.flatten_replicate_nil]

/-- **What the copy at the end of `rdma_read` promises**: a READ_RESP is stored as `write_local_mr`
would store its data, and otherwise the call fails without effect. -/
structure CopiesExactly (c : RdowsConnection) (wrid : UInt64) (lkey : LKey) (localVa : UInt64)
    (header : RdowsHeader) (payload : ReadRespPayload) : Prop where
  inside : c.Inside lkey localVa.toNat payload.data.length →
    ∃ c', (onReadResp wrid lkey localVa (.readResp header payload)).run c = (.ok (), c') ∧
      c'.localMrs = (c.withBytes lkey localVa.toNat payload.data).localMrs
  outside : ¬ c.Inside lkey localVa.toNat payload.data.length →
    (onReadResp wrid lkey localVa (.readResp header payload)).run c = (.err (c.refusal lkey), c)

theorem copiesExactly_of_computes {wrid localVa : UInt64} {header : RdowsHeader}
    {payload : ReadRespPayload} (computes : c.Computes lkey localVa.toNat payload.data.length) :
    c.CopiesExactly wrid lkey localVa header payload := by
  have copies := copyToLocalMr_run computes
  refine ⟨fun inside => ?_, fun outside => ?_⟩
  · rw [onReadResp, Method.run_bind_of_ok (copies.inside inside), pushCqe, Method.run_modify]
    exact ⟨_, rfl, rfl⟩
  · rw [onReadResp, Method.run_bind, copies.outside outside]

/-- **Local accesses are checked exactly, exactly if the ends of their ranges can be computed.**
For every connection, every L_Key and every range: `write_local_mr`, `read_local_mr`, the copy at
the end of `rdma_read` and `gather_sg_data` succeed exactly if all their ranges are inside their
buffers, with the bytes of the ranges, and return `ERR_INVALID_LKEY` or `ERR_BOUNDS` with the
connection as it was otherwise, if and only if no end of a range that is computed exceeds 64 bits.
No end is computed under an unknown L_Key, nor behind an entry of a list that is refused. -/
theorem local_accesses_exact (c : RdowsConnection) :
    (∀ lkey start data,
      (((c.Inside lkey start data.length →
          (writeLocalMr lkey start data).run c = (.ok (), c.withBytes lkey start data)) ∧
        (¬ c.Inside lkey start data.length →
          (writeLocalMr lkey start data).run c = (.err (c.refusal lkey), c))) ↔
        c.Computes lkey start data.length)) ∧
    (∀ lkey start len, c.ReadsExactly lkey start len ↔ c.Computes lkey start len) ∧
    (∀ wrid lkey localVa header payload, c.CopiesExactly wrid lkey localVa header payload ↔
      c.Computes lkey localVa.toNat payload.data.length) ∧
    ∀ entries, c.GathersExactly entries ↔ c.GathersWithin entries := by
  refine ⟨fun lkey start data => ⟨fun exactly => ?_, fun computes => ?_⟩,
    fun lkey start len => ⟨fun exactly => ?_, readLocalMr_eq⟩,
    fun wrid lkey localVa header payload => ⟨fun exactly => ?_, copiesExactly_of_computes⟩,
    fun entries => ⟨fun exactly => ?_, gatherSgData_eq⟩⟩
  -- An access that does not compute panics, whether its range is inside or not.
  · by_contra beyond
    have panics : (writeLocalMr lkey start data).run c = _ := copyToLocalMr_overflow beyond
    by_cases inside : c.Inside lkey start data.length
    · cases panics.symm.trans (exactly.1 inside)
    · cases panics.symm.trans (exactly.2 inside)
  · have copies := copyToLocalMr_run computes
    exact ⟨copies.inside, copies.outside⟩
  · by_contra beyond
    have panics := readLocalMr_overflow beyond
    by_cases inside : c.Inside lkey start len
    · cases panics.symm.trans (exactly.inside inside)
    · cases panics.symm.trans (exactly.outside inside)
  · by_contra beyond
    have panics : (onReadResp wrid lkey localVa (.readResp header payload)).run c
        = (.panic .arithmeticOverflow, c) := by
      rw [onReadResp, Method.run_bind, copyToLocalMr_overflow beyond]
    by_cases inside : c.Inside lkey localVa.toNat payload.data.length
    · obtain ⟨c', run, -⟩ := exactly.inside inside
      cases panics.symm.trans run
    · cases panics.symm.trans (exactly.outside inside)
  · by_contra beyond
    have panics := gatherSgData_overflow beyond
    by_cases all : ∀ sg ∈ entries, c.Holds sg
    · cases panics.symm.trans (exactly.inside all).1
    · obtain ⟨sg, -, -, run⟩ := exactly.outside (by simpa using all)
      cases panics.symm.trans run

/-- A connection with one local region, of four bytes under the L_Key 1. -/
def fourBytes : RdowsConnection where
  sessionId := 7
  pd := ⟨1⟩
  maxMsgSize := 1024
  nextSeq := 1
  expectedRemoteSeq := none
  sendCredits := 4
  cq := CompletionQueue.new 4
  localMrs := AList.singleton 1 { lkey := ⟨1⟩, rkey := ⟨9⟩, len := 4, localBuf := [10, 20, 30, 40] }

/-- Two overlapping entries are gathered; a read behind the end of the buffer is refused, and so is
one under an unknown L_Key at the last 64-bit offset. -/
theorem local_accesses_exact_overlapping :
    (∀ sg ∈ [⟨⟨1⟩, 0, 3⟩, ⟨⟨1⟩, 2, 2⟩], fourBytes.Holds sg) ∧
      fourBytes.gatherSgData [⟨⟨1⟩, 0, 3⟩, ⟨⟨1⟩, 2, 2⟩] = .ok [10, 20, 30, 30, 40] ∧
      fourBytes.readLocalMr ⟨1⟩ 2 3 = .err (.protocol .errBounds) ∧
      fourBytes.readLocalMr ⟨5⟩ (2 ^ 64 - 1) 1 = .err (.protocol .errInvalidLkey) := by
  have inside : ∀ sg ∈ [⟨⟨1⟩, 0, 3⟩, ⟨⟨1⟩, 2, 2⟩], fourBytes.Holds sg := by decide
  obtain ⟨-, reads, -, gathers⟩ := local_accesses_exact fourBytes
  have within : fourBytes.GathersWithin [⟨⟨1⟩, 0, 3⟩, ⟨⟨1⟩, 2, 2⟩] :=
    ⟨fun _ => by decide, fun _ => ⟨fun _ => by decide, fun _ => trivial⟩⟩
  exact ⟨inside, (((gathers _).mpr within).inside inside).1,
    ((reads ⟨1⟩ 2 3).mpr (by decide)).outside (by decide),
    ((reads ⟨5⟩ (2 ^ 64 - 1) 1).mpr (by decide)).outside (by decide)⟩

/-- `offset + len` is computed before it is compared: at the last 64-bit offset a read of one byte
panics, although it is plainly outside a buffer of four bytes. -/
theorem readLocalMr_overflows :
    ¬ fourBytes.Inside ⟨1⟩ (2 ^ 64 - 1) 1 ∧
      fourBytes.readLocalMr ⟨1⟩ (2 ^ 64 - 1) 1 = .panic .arithmeticOverflow := by
  exact ⟨by decide, rfl⟩

end RdowsConnection

end Rdows
