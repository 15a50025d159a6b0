import Mathlib.Data.Finset.Card
import QhapaqXian.BackendLeases

/-!
# The backend lease table as a map

The scans of the array find, add and free slots as the operations on a table of slots do, and with
unique keys such a table is a map from database, task and instance to the kind of the lease.
-/

namespace QhapaqXian

open Library

namespace LeaseArray

variable {dboid taskoid : Oid} {instanceId : CString}

def slots (leases : LeaseArray) : Slots BackendLease :=
  leases.map fun slot => if oidIsValid slot.dboid then some slot else none

lemma slots_cons (slot : BackendLease) (leases : LeaseArray) :
    slots (slot :: leases) = (if oidIsValid slot.dboid then some slot else none) :: slots leases :=
  rfl

section Scans

lemma names_iff {slot : BackendLease} : BackendLease.names dboid taskoid instanceId slot = true ↔
    (slot.dboid == dboid && slot.taskoid == taskoid && slot.instanceId == instanceId) = true := by
  simp [BackendLease.names, BackendLease.ofTask]

lemma scan_eq_held {leases : LeaseArray} {start index : Nat} {freeSlot : Option Nat}
    (h : scan dboid taskoid instanceId start freeSlot leases = .held index)
    {f : BackendLease → BackendLease} (hf : ∀ slot, (f slot).dboid = slot.dboid) :
    ((slots leases).find? (BackendLease.names dboid taskoid instanceId)).isSome = true ∧
      ∃ offset, index = start + offset ∧ slots (leases.modify offset f) =
        (slots leases).alter (BackendLease.names dboid taskoid instanceId) f := by
  induction leases generalizing start freeSlot with
  | nil => cases h
  | cons slot leases ih =>
    rw [scan] at h
    cases hvalid : oidIsValid slot.dboid with
    | false =>
      simp only [hvalid, Bool.not_false, if_true] at h
      obtain ⟨hfound, offset, rfl, hslots⟩ := ih h
      simp only [slots_cons, hvalid, Bool.false_eq_true, if_false]
      refine ⟨hfound, offset + 1, by omega, ?_⟩
      rw [List.modify_succ_cons, slots_cons, hvalid, hslots]
      rfl
    | true =>
      simp only [hvalid, Bool.not_true, Bool.false_eq_true, if_false] at h
      simp only [slots_cons, hvalid, if_true]
      by_cases hname : BackendLease.names dboid taskoid instanceId slot = true
      · rw [if_pos (names_iff.mp hname)] at h
        cases h
        refine ⟨by simp [Slots.find?, hname], 0, rfl, ?_⟩
        rw [List.modify_zero_cons, slots_cons, hf, hvalid, Slots.alter, if_pos hname]
        rfl
      · rw [if_neg fun hc => hname (names_iff.mpr hc)] at h
        obtain ⟨hfound, offset, rfl, hslots⟩ := ih h
        refine ⟨by simpa [Slots.find?, hname] using hfound, offset + 1, by omega, ?_⟩
        rw [List.modify_succ_cons, slots_cons, hvalid, hslots, Slots.alter, if_neg hname]
        rfl

/-- A scan that ends at the end of the array has found no lease of that name, and has kept the first
free slot, if there was none before. -/
lemma scan_eq_absent {leases : LeaseArray} {start : Nat} {freeSlot found : Option Nat}
    (h : scan dboid taskoid instanceId start freeSlot leases = .absent found)
    {lease : BackendLease} (hlease : oidIsValid lease.dboid = true) :
    (slots leases).find? (BackendLease.names dboid taskoid instanceId) = none ∧
      (freeSlot ≠ none → found = freeSlot) ∧
      (freeSlot = none → (found = none ∧ (slots leases).hasRoom = false) ∨
        ∃ offset, found = some (start + offset) ∧ (slots leases).hasRoom = true ∧
          slots (leases.set offset lease) = (slots leases).claim lease) := by
  induction leases generalizing start freeSlot with
  | nil =>
    cases h
    exact ⟨rfl, fun _ => rfl, fun hfree => .inl ⟨hfree, rfl⟩⟩
  | cons slot leases ih =>
    rw [scan] at h
    cases hvalid : oidIsValid slot.dboid with
    | false =>
      simp only [hvalid, Bool.not_false, if_true] at h
      obtain ⟨hnone, hkept, -⟩ := ih h
      have hfound := hkept (by cases freeSlot <;> simp)
      simp only [slots_cons, hvalid, Bool.false_eq_true, if_false]
      refine ⟨hnone, fun hfree => ?_, fun hfree => .inr ⟨0, ?_, rfl, ?_⟩⟩
      · obtain ⟨index, rfl⟩ := Option.ne_none_iff_exists'.mp hfree
        exact hfound
      · rw [hfound, hfree]
        rfl
      · rw [List.set_cons_zero, slots_cons, hlease]
        rfl
    | true =>
      simp only [hvalid, Bool.not_true, Bool.false_eq_true, if_false] at h
      by_cases hname : BackendLease.names dboid taskoid instanceId slot = true
      · rw [if_pos (names_iff.mp hname)] at h
        cases h
      · rw [if_neg fun hc => hname (names_iff.mpr hc)] at h
        obtain ⟨hnone, hkept, hfirst⟩ := ih h
        simp only [slots_cons, hvalid, if_true]
        refine ⟨by simpa [Slots.find?, hname] using hnone, hkept, fun hfree => ?_⟩
        rcases hfirst hfree with ⟨hfound, hfull⟩ | ⟨offset, rfl, hroom, hslots⟩
        · exact .inl ⟨hfound, hfull⟩
        · refine .inr ⟨offset + 1, by simp [Nat.add_assoc, Nat.add_comm 1], hroom, ?_⟩
          rw [List.set_cons_succ, slots_cons, hvalid, hslots]
          rfl

end Scans

section Operations

variable {leases : LeaseArray}

lemma register_eq {lease : BackendLease} (hdboid : oidIsValid lease.dboid = true)
    (htaskoid : oidIsValid lease.taskoid = true) (hid : lease.instanceId ≠ [])
    (hlength : lease.instanceId.length < qxStatBackendInstanceIdLen) (leases : LeaseArray) :
    ∃ next inserted, leases.qxStatBackendLeaseRegister lease.dboid lease.taskoid
        (some lease.instanceId) lease.kind = .ok (next, inserted) ∧
      next.length = leases.length ∧
      slots next = (slots leases).upsert
        (BackendLease.names lease.dboid lease.taskoid lease.instanceId)
        (fun held => { held with kind := lease.kind }) lease ∧
      inserted = (((slots leases).find?
        (BackendLease.names lease.dboid lease.taskoid lease.instanceId)).isNone &&
          (slots leases).hasRoom) := by
  have hnull : isNullOrEmpty (some lease.instanceId) = false := by
    obtain ⟨c, rest, hcons⟩ := List.exists_cons_of_ne_nil hid
    rw [hcons]
    rfl
  simp only [qxStatBackendLeaseRegister, hdboid, htaskoid, hnull, Bool.not_true, Bool.or_false,
    Bool.false_eq_true, if_false, Option.getD_some, ge_iff_le, Nat.not_le.mpr hlength]
  cases hscan : scan lease.dboid lease.taskoid lease.instanceId 0 none leases with
  | held index =>
    obtain ⟨hfound, offset, rfl, hslots⟩ :=
      scan_eq_held hscan (f := fun held => { held with kind := lease.kind }) fun _ => rfl
    refine ⟨_, _, rfl, by simp, ?_, ?_⟩
    · rw [Nat.zero_add, hslots, Slots.upsert, if_pos hfound]
    · simp [Option.isNone_eq_false_iff.mpr hfound]
  | absent found =>
    obtain ⟨hnone, -, hfirst⟩ := scan_eq_absent hscan hdboid
    rcases hfirst rfl with ⟨rfl, hfull⟩ | ⟨offset, rfl, hroom, hslots⟩
    · refine ⟨_, _, rfl, rfl, ?_, ?_⟩
      · rw [Slots.upsert_of_full hnone hfull]
      · simp [hfull]
    · refine ⟨_, _, rfl, by simp, ?_, ?_⟩
      · rw [Nat.zero_add, hslots, Slots.upsert, hnone]
        rfl
      · simp [hnone, hroom]

lemma register_tooLong (hdboid : oidIsValid dboid = true) (htaskoid : oidIsValid taskoid = true)
    (hid : instanceId ≠ []) (hlength : qxStatBackendInstanceIdLen ≤ instanceId.length)
    (kind : QxBackendLeaseKind) (leases : LeaseArray) :
    leases.qxStatBackendLeaseRegister dboid taskoid (some instanceId) kind =
      ereportDetail .nameTooLong "backend instance identifier is too long"
        "Backend instance identifiers must be shorter than 128 bytes." := by
  have hnull : isNullOrEmpty (some instanceId) = false := by
    obtain ⟨c, rest, rfl⟩ := List.exists_cons_of_ne_nil hid
    rfl
  simp only [qxStatBackendLeaseRegister, hdboid, htaskoid, hnull, Option.getD_some]
  rw [if_neg (by simp), if_pos hlength]

def released (dboid taskoid : Oid) (instanceId : Option CString) (lease : BackendLease) : Bool :=
  lease.ofTask dboid taskoid && (isNullOrEmpty instanceId || lease.instanceId == instanceId.getD [])

lemma skipped_iff {instanceId : Option CString} {slot : BackendLease} :
    (slot.dboid != dboid || slot.taskoid != taskoid ||
      (!isNullOrEmpty instanceId && slot.instanceId != instanceId.getD [])) =
    !released dboid taskoid instanceId slot := by
  simp [released, BackendLease.ofTask, bne]

lemma valid_of_ofTask (hdboid : oidIsValid dboid = true) {slot : BackendLease}
    (h : slot.ofTask dboid taskoid = true) : oidIsValid slot.dboid = true := by
  simp only [BackendLease.ofTask, Bool.and_eq_true, beq_iff_eq] at h
  rw [h.1, hdboid]

lemma release_eq (hdboid : oidIsValid dboid = true) (htaskoid : oidIsValid taskoid = true)
    (instanceId : Option CString) (leases : LeaseArray) :
    (leases.qxStatBackendLeaseRelease dboid taskoid instanceId).1.length = leases.length ∧
      slots (leases.qxStatBackendLeaseRelease dboid taskoid instanceId).1 =
        (slots leases).clear (released dboid taskoid instanceId) ∧
      (leases.qxStatBackendLeaseRelease dboid taskoid instanceId).2 =
        ((slots leases).find? (released dboid taskoid instanceId)).isSome := by
  rw [qxStatBackendLeaseRelease, hdboid, htaskoid]
  simp only [Bool.not_true, Bool.or_false, Bool.false_eq_true, if_false]
  induction leases with
  | nil => exact ⟨rfl, rfl, rfl⟩
  | cons slot leases ih =>
    obtain ⟨hlength, hslots, hflag⟩ := ih
    rw [releaseLoop, skipped_iff]
    cases hreleased : released dboid taskoid instanceId slot with
    | true =>
      have hvalid := valid_of_ofTask hdboid (Bool.and_eq_true _ _ ▸ hreleased).1
      simp only [Bool.not_true, Bool.false_eq_true, if_false, slots_cons, hvalid, if_true]
      refine ⟨rfl, ?_, ?_⟩
      · rw [Slots.clear, if_pos hreleased]
        rfl
      · simp [Slots.find?, hreleased]
    | false =>
      simp only [Bool.not_false, if_true, List.length_cons, hlength, slots_cons, hslots, hflag,
        true_and]
      cases hvalid : oidIsValid slot.dboid with
      | true => simp [Slots.clear, Slots.find?, hreleased]
      | false => exact ⟨rfl, rfl⟩

lemma fenceLoop_eq (hdboid : oidIsValid dboid = true) (taskoid : Oid) (leases : LeaseArray)
    (removed : Nat) :
    (fenceLoop dboid taskoid leases removed).1.length = leases.length ∧
      slots (fenceLoop dboid taskoid leases removed).1 =
        (slots leases).clearAll (BackendLease.ofTask dboid taskoid) ∧
      (fenceLoop dboid taskoid leases removed).2 =
        removed + (slots leases).entries.countP (BackendLease.ofTask dboid taskoid) := by
  induction leases generalizing removed with
  | nil => exact ⟨rfl, rfl, rfl⟩
  | cons slot leases ih =>
    rw [fenceLoop]
    cases hof : slot.ofTask dboid taskoid with
    | true =>
      have hvalid := valid_of_ofTask hdboid hof
      obtain ⟨hlength, hslots, hcount⟩ := ih (removed + 1)
      have hcond : (slot.dboid == dboid && slot.taskoid == taskoid) = true := hof
      simp only [hcond, if_true, List.length_cons, hlength, slots_cons, hslots, hcount, hvalid]
      refine ⟨trivial, ?_, ?_⟩
      · simp [Slots.clearAll, Option.filter, hof]
        rfl
      · simp [hof]
        omega
    | false =>
      obtain ⟨hlength, hslots, hcount⟩ := ih removed
      have hcond : (slot.dboid == dboid && slot.taskoid == taskoid) = false := hof
      simp only [hcond, Bool.false_eq_true, if_false, List.length_cons, hlength, slots_cons, hslots,
        hcount]
      cases hvalid : oidIsValid slot.dboid with
      | true => simp [Slots.clearAll, Option.filter, hof]
      | false => simp [Slots.clearAll]

def counted (dboid taskoid : Oid) (lease : BackendLease) : Bool :=
  lease.dboid == dboid && (!oidIsValid taskoid || lease.taskoid == taskoid)

lemma foldl_count_eq (p : BackendLease → Bool) (leases : LeaseArray) (count : Nat) :
    leases.foldl (fun count slot => if p slot then count + 1 else count) count =
      count + leases.countP p := by
  induction leases generalizing count with
  | nil => rfl
  | cons slot leases ih =>
    rw [List.foldl_cons, ih, List.countP_cons]
    split_ifs <;> omega

lemma count_eq (hdboid : oidIsValid dboid = true) (leases : LeaseArray) :
    leases.qxStatBackendLeaseCount dboid taskoid =
      (slots leases).entries.countP (counted dboid taskoid) := by
  refine (foldl_count_eq (counted dboid taskoid) leases 0).trans ?_
  rw [Nat.zero_add]
  induction leases with
  | nil => rfl
  | cons slot leases ih =>
    rw [List.countP_cons, ih, slots_cons]
    cases hvalid : oidIsValid slot.dboid with
    | true => simp [List.countP_cons]
    | false =>
      have hfree : counted dboid taskoid slot = false := by
        rw [counted, Bool.and_eq_false_iff]
        left
        rw [beq_eq_false_iff_ne]
        rintro rfl
        cases hvalid.symm.trans hdboid
      simp [hfree]

/-! The registry that an execution of a contract works on is the table of the slots in use. -/

theorem slots_register (lease : BackendLease) (leases : LeaseArray) :
    (leases.qxStatBackendLeaseRegister lease.dboid lease.taskoid (some lease.instanceId)
        lease.kind).map (fun result => slots result.1) =
      QhapaqXian.qxStatBackendLeaseRegister lease (slots leases) := by
  by_cases hinvalid : lease.dboid = invalidOid ∨ lease.taskoid = invalidOid ∨
    lease.instanceId = []
  · have hcond : (!oidIsValid lease.dboid || !oidIsValid lease.taskoid ||
        isNullOrEmpty (some lease.instanceId)) = true := by
      rcases hinvalid with h | h | h <;> simp [h, oidIsValid, isNullOrEmpty]
    rw [qxStatBackendLeaseRegister, if_pos hcond, QhapaqXian.qxStatBackendLeaseRegister,
      if_pos hinvalid]
    rfl
  · obtain ⟨hdboid, htaskoid, hid⟩ : oidIsValid lease.dboid = true ∧
        oidIsValid lease.taskoid = true ∧ lease.instanceId ≠ [] := by
      simpa [oidIsValid] using hinvalid
    rw [QhapaqXian.qxStatBackendLeaseRegister, if_neg hinvalid]
    by_cases hlength : lease.instanceId.length < 128
    · obtain ⟨next, inserted, hregister, -, hslots, -⟩ :=
        register_eq hdboid htaskoid hid hlength leases
      rw [hregister, if_neg (Nat.not_le.mpr hlength), Except.map, hslots]
    · rw [register_tooLong hdboid htaskoid hid (Nat.not_lt.mp hlength),
        if_pos (Nat.not_lt.mp hlength)]
      rfl

theorem slots_release (dboid taskoid : Oid) (instanceId : CString) (leases : LeaseArray) :
    slots (leases.qxStatBackendLeaseRelease dboid taskoid (some instanceId)).1 =
      QhapaqXian.qxStatBackendLeaseRelease dboid taskoid instanceId (slots leases) := by
  by_cases hinvalid : dboid = invalidOid ∨ taskoid = invalidOid
  · rw [QhapaqXian.qxStatBackendLeaseRelease, if_pos hinvalid, qxStatBackendLeaseRelease, if_pos]
    rcases hinvalid with h | h <;> simp [h, oidIsValid]
  · obtain ⟨hdboid, htaskoid⟩ : oidIsValid dboid = true ∧ oidIsValid taskoid = true := by
      simpa [oidIsValid] using hinvalid
    rw [(release_eq hdboid htaskoid (some instanceId) leases).2.1,
      QhapaqXian.qxStatBackendLeaseRelease, if_neg hinvalid]
    congr 1
    funext lease
    cases instanceId <;> simp [released, isNullOrEmpty]

theorem slots_fence (dboid taskoid : Oid) (leases : LeaseArray) :
    slots (leases.qxStatBackendLeaseFence dboid taskoid).1 =
      QhapaqXian.qxStatBackendLeaseFence dboid taskoid (slots leases) := by
  by_cases hinvalid : dboid = invalidOid ∨ taskoid = invalidOid
  · rw [QhapaqXian.qxStatBackendLeaseFence, if_pos hinvalid, qxStatBackendLeaseFence, if_pos]
    rcases hinvalid with h | h <;> simp [h, oidIsValid]
  · obtain ⟨hdboid, htaskoid⟩ : oidIsValid dboid = true ∧ oidIsValid taskoid = true := by
      simpa [oidIsValid] using hinvalid
    rw [QhapaqXian.qxStatBackendLeaseFence, if_neg hinvalid, qxStatBackendLeaseFence,
      if_neg (by simp [hdboid, htaskoid]), (fenceLoop_eq hdboid taskoid leases 0).2.1]

end Operations

end LeaseArray

/-! ## The map -/

/-- What identifies a lease. -/
structure LeaseKey where
  dboid : Oid
  taskoid : Oid
  instanceId : CString
  deriving Repr, DecidableEq

namespace LeaseKey

def ofTask (dboid taskoid : Oid) (key : LeaseKey) : Bool :=
  key.dboid == dboid && key.taskoid == taskoid

/-- A lease can have this key. -/
structure Valid (key : LeaseKey) : Prop where
  dboid : oidIsValid key.dboid = true
  taskoid : oidIsValid key.taskoid = true
  instanceId : key.instanceId ≠ []
  length : key.instanceId.length < qxStatBackendInstanceIdLen

end LeaseKey

def BackendLease.key (lease : BackendLease) : LeaseKey :=
  ⟨lease.dboid, lease.taskoid, lease.instanceId⟩

lemma BackendLease.ofTask_key (dboid taskoid : Oid) (lease : BackendLease) :
    lease.key.ofTask dboid taskoid = lease.ofTask dboid taskoid := rfl

/-- A map from keys to kinds that holds at most as many keys as the table has slots. -/
structure LeaseMap where
  kind? : LeaseKey → Option QxBackendLeaseKind
  keys : Finset LeaseKey
  mem_keys : ∀ key, key ∈ keys ↔ (kind? key).isSome = true
  valid : ∀ key ∈ keys, key.Valid
  capacity : keys.card ≤ qxStatBackendLeaseSlotCount

namespace LeaseMap

lemma ext_kind {m m' : LeaseMap} (h : ∀ key, m.kind? key = m'.kind? key) : m = m' := by
  have hkind : m.kind? = m'.kind? := funext h
  have hkeys : m.keys = m'.keys := by
    ext key
    rw [m.mem_keys, m'.mem_keys, h]
  cases m
  cases m'
  cases hkind
  cases hkeys
  rfl

def empty : LeaseMap where
  kind? _ := none
  keys := ∅
  mem_keys key := by simp
  valid key h := absurd h (Finset.notMem_empty key)
  capacity := Nat.zero_le _

def put (m : LeaseMap) (key : LeaseKey) (kind : QxBackendLeaseKind) (hvalid : key.Valid)
    (hroom : key ∈ m.keys ∨ m.keys.card < qxStatBackendLeaseSlotCount) : LeaseMap where
  kind? := Function.update m.kind? key (some kind)
  keys := insert key m.keys
  mem_keys other := by
    by_cases hother : other = key
    · simp [hother]
    · simp [hother, m.mem_keys]
  valid other hother := by
    rcases Finset.mem_insert.mp hother with rfl | hmem
    · exact hvalid
    · exact m.valid other hmem
  capacity := by
    rcases hroom with hmem | hroom
    · rw [Finset.insert_eq_of_mem hmem]
      exact m.capacity
    · exact (Finset.card_insert_le key m.keys).trans hroom

def remove (m : LeaseMap) (p : LeaseKey → Bool) : LeaseMap where
  kind? key := if p key then none else m.kind? key
  keys := m.keys.filter fun key => p key = false
  mem_keys key := by
    cases hp : p key <;> simp [hp, m.mem_keys]
  valid key hkey := m.valid key (Finset.mem_of_mem_filter key hkey)
  capacity := (Finset.card_filter_le _ _).trans m.capacity

lemma remove_eq_self {m : LeaseMap} {p : LeaseKey → Bool} (h : ∀ key ∈ m.keys, p key = false) :
    m.remove p = m := by
  apply ext_kind
  intro key
  by_cases hkey : key ∈ m.keys
  · simp [remove, h key hkey]
  · have hnone : m.kind? key = none := by simpa [m.mem_keys] using hkey
    simp [remove, hnone]

/-- What the operations of a backend of the given database do to the map, and what they answer. -/
inductive Step (dboid : Oid) : LeaseMap → LeaseCall → LeaseAnswer → LeaseMap → Prop
  | notRegistered {m : LeaseMap} {taskoid : Oid} {instanceId : Option CString}
      {kind : QxBackendLeaseKind}
      (h : oidIsValid taskoid = false ∨ isNullOrEmpty instanceId = true) :
      Step dboid m (.register taskoid instanceId kind) (.flag false) m
  | tooLong {m : LeaseMap} {taskoid : Oid} {instanceId : CString} {kind : QxBackendLeaseKind}
      {error : QxError} (h : qxStatBackendInstanceIdLen ≤ instanceId.length) :
      Step dboid m (.register taskoid (some instanceId) kind) (.failure error) m
  | updated {m : LeaseMap} {taskoid : Oid} {instanceId : CString} {kind : QxBackendLeaseKind}
      (hvalid : LeaseKey.Valid ⟨dboid, taskoid, instanceId⟩)
      (hkey : ⟨dboid, taskoid, instanceId⟩ ∈ m.keys) :
      Step dboid m (.register taskoid (some instanceId) kind) (.flag false)
        (m.put ⟨dboid, taskoid, instanceId⟩ kind hvalid (.inl hkey))
  | added {m : LeaseMap} {taskoid : Oid} {instanceId : CString} {kind : QxBackendLeaseKind}
      (hvalid : LeaseKey.Valid ⟨dboid, taskoid, instanceId⟩)
      (hkey : ⟨dboid, taskoid, instanceId⟩ ∉ m.keys)
      (hroom : m.keys.card < qxStatBackendLeaseSlotCount) :
      Step dboid m (.register taskoid (some instanceId) kind) (.flag true)
        (m.put ⟨dboid, taskoid, instanceId⟩ kind hvalid (.inr hroom))
  | full {m : LeaseMap} {taskoid : Oid} {instanceId : CString} {kind : QxBackendLeaseKind}
      (hvalid : LeaseKey.Valid ⟨dboid, taskoid, instanceId⟩)
      (hkey : ⟨dboid, taskoid, instanceId⟩ ∉ m.keys)
      (hfull : m.keys.card = qxStatBackendLeaseSlotCount) :
      Step dboid m (.register taskoid (some instanceId) kind) (.flag false) m
  | released {m : LeaseMap} {taskoid : Oid} {instanceId : CString} (hid : instanceId ≠ [])
      (hkey : ⟨dboid, taskoid, instanceId⟩ ∈ m.keys) :
      Step dboid m (.release taskoid (some instanceId)) (.flag true)
        (m.remove (· == ⟨dboid, taskoid, instanceId⟩))
  | notHeld {m : LeaseMap} {taskoid : Oid} {instanceId : CString} (hid : instanceId ≠ [])
      (hkey : ⟨dboid, taskoid, instanceId⟩ ∉ m.keys) :
      Step dboid m (.release taskoid (some instanceId)) (.flag false) m
  | releasedAny {m : LeaseMap} {taskoid : Oid} {instanceId : Option CString} {key : LeaseKey}
      (hid : isNullOrEmpty instanceId = true) (hkey : key ∈ m.keys)
      (hof : key.ofTask dboid taskoid = true) :
      Step dboid m (.release taskoid instanceId) (.flag true) (m.remove (· == key))
  | noneHeld {m : LeaseMap} {taskoid : Oid} {instanceId : Option CString}
      (hid : isNullOrEmpty instanceId = true)
      (hnone : ∀ key ∈ m.keys, key.ofTask dboid taskoid = false) :
      Step dboid m (.release taskoid instanceId) (.flag false) m
  | fenced {m : LeaseMap} {taskoid : Oid} :
      Step dboid m (.fenceStale taskoid)
        (.number (m.keys.filter fun key => key.ofTask dboid taskoid = true).card)
        (m.remove (LeaseKey.ofTask dboid taskoid))
  | counted {m : LeaseMap} {taskoid : Oid} :
      Step dboid m (.countForTask taskoid)
        (.number (m.keys.filter fun key => key.dboid = dboid ∧
          (oidIsValid taskoid = false ∨ key.taskoid = taskoid)).card) m
  | countedAll {m : LeaseMap} :
      Step dboid m .activeCount (.number (m.keys.filter fun key => key.dboid = dboid).card) m

/-- The operations of any backends one after the other, each with its answer. -/
inductive Run : LeaseMap → List (ConnectedBackend × LeaseCall × LeaseAnswer) → LeaseMap → Prop
  | nil (m : LeaseMap) : Run m [] m
  | cons {m m' m'' : LeaseMap} {backend : ConnectedBackend} {call : LeaseCall}
      {answer : LeaseAnswer} {rest : List (ConnectedBackend × LeaseCall × LeaseAnswer)}
      (hstep : Step backend.myDatabaseId m call answer m') (hrest : Run m' rest m'') :
      Run m ((backend, call, answer) :: rest) m''

end LeaseMap

/-- The array holds the leases of the map, each in one slot. -/
structure LeaseArray.Represents (leases : LeaseArray) (m : LeaseMap) : Prop where
  length : leases.length = qxStatBackendLeaseSlotCount
  unique : Slots.Unique BackendLease.key leases.slots
  lease_iff : ∀ lease, some lease ∈ leases.slots ↔ m.kind? lease.key = some lease.kind

namespace LeaseArray.Represents

variable {leases : LeaseArray} {m : LeaseMap} {dboid taskoid : Oid}

lemma mem_keys_iff (h : leases.Represents m) {key : LeaseKey} :
    key ∈ m.keys ↔ ∃ lease, some lease ∈ leases.slots ∧ lease.key = key := by
  rw [m.mem_keys, Option.isSome_iff_exists]
  constructor
  · rintro ⟨kind, hkind⟩
    exact ⟨⟨key.dboid, key.taskoid, kind, key.instanceId⟩, (h.lease_iff _).mpr hkind, rfl⟩
  · rintro ⟨lease, hlease, rfl⟩
    exact ⟨lease.kind, (h.lease_iff lease).mp hlease⟩

lemma keys_eq (h : leases.Represents m) :
    m.keys = (leases.slots.entries.map BackendLease.key).toFinset := by
  ext key
  simp [h.mem_keys_iff]

lemma countP_eq (h : leases.Represents m) (p : LeaseKey → Bool) :
    leases.slots.entries.countP (fun lease => p lease.key) = (m.keys.filter (p ·)).card := by
  rw [h.keys_eq, ← List.toFinset_filter, List.toFinset_card_of_nodup (h.unique.filter _),
    ← List.countP_eq_length_filter, List.countP_map]
  rfl

lemma card_keys (h : leases.Represents m) : m.keys.card = leases.slots.entries.length := by
  rw [h.keys_eq, List.toFinset_card_of_nodup h.unique, List.length_map]

lemma length_slots (h : leases.Represents m) :
    leases.slots.length = qxStatBackendLeaseSlotCount := by
  rw [slots, List.length_map, h.length]

lemma hasRoom_iff (h : leases.Represents m) :
    leases.slots.hasRoom = true ↔ m.keys.card < qxStatBackendLeaseSlotCount := by
  rw [Slots.hasRoom_iff, h.card_keys, h.length_slots]

lemma find?_isSome_iff (h : leases.Represents m) {key : LeaseKey} :
    (leases.slots.find? (·.key = key)).isSome = true ↔ key ∈ m.keys := by
  rw [h.mem_keys_iff]
  simp [Slots.find?]

lemma eq_iff_key_kind {lease other : BackendLease} :
    other = lease ↔ other.key = lease.key ∧ other.kind = lease.kind := by
  cases lease
  cases other
  simp only [BackendLease.key, BackendLease.mk.injEq, LeaseKey.mk.injEq]
  tauto

lemma names_eq (lease : BackendLease) :
    BackendLease.names lease.dboid lease.taskoid lease.instanceId =
      fun other => decide (other.key = lease.key) := by
  funext other
  rw [Bool.eq_iff_iff]
  simp [BackendLease.names, BackendLease.ofTask, BackendLease.key, and_assoc]

lemma of_slots_eq {next : LeaseArray} (h : leases.Represents m)
    (hlength : next.length = leases.length) (hslots : next.slots = leases.slots) :
    next.Represents m :=
  ⟨hlength.trans h.length, hslots ▸ h.unique, hslots ▸ h.lease_iff⟩

lemma put {next : LeaseArray} {lease : BackendLease} (h : leases.Represents m)
    (hlength : next.length = leases.length)
    (hslots : next.slots = leases.slots.upsert (·.key = lease.key)
      (fun held => { held with kind := lease.kind }) lease)
    (hvalid : lease.key.Valid)
    (hroom : lease.key ∈ m.keys ∨ m.keys.card < qxStatBackendLeaseSlotCount) :
    next.Represents (m.put lease.key lease.kind hvalid hroom) := by
  refine ⟨hlength.trans h.length, ?_, fun other => ?_⟩
  · rw [hslots]
    exact h.unique.upsert fun _ => rfl
  · have hfree := hroom.imp h.find?_isSome_iff.mpr h.hasRoom_iff.mpr
    have hreplaced : ∀ held : BackendLease, held.key = lease.key →
        { held with kind := lease.kind } = lease :=
      fun held hheld => eq_iff_key_kind.mpr ⟨hheld, rfl⟩
    rw [hslots, h.unique.mem_upsert_iff hreplaced hfree, h.lease_iff, eq_iff_key_kind]
    by_cases hkey : other.key = lease.key
    · simp [LeaseMap.put, hkey, eq_comm]
    · simp [LeaseMap.put, hkey]

lemma remove {next : LeaseArray} {p : LeaseKey → Bool} (h : leases.Represents m)
    (hlength : next.length = leases.length)
    (hsub : next.slots.entries.Sublist leases.slots.entries)
    (hslots : ∀ lease, some lease ∈ next.slots ↔
      some lease ∈ leases.slots ∧ p lease.key = false) :
    next.Represents (m.remove p) := by
  refine ⟨hlength.trans h.length, h.unique.of_sublist hsub, fun lease => ?_⟩
  rw [hslots, h.lease_iff]
  cases hp : p lease.key <;> simp [LeaseMap.remove, hp]

section Steps

variable (backend : ConnectedBackend)

lemma register_valid (h : leases.Represents m) (lease : BackendLease) (hvalid : lease.key.Valid) :
    ∃ next inserted m', leases.qxStatBackendLeaseRegister lease.dboid lease.taskoid
        (some lease.instanceId) lease.kind = .ok (next, inserted) ∧ next.Represents m' ∧
      m.Step lease.dboid (.register lease.taskoid (some lease.instanceId) lease.kind)
        (.flag inserted) m' := by
  obtain ⟨next, inserted, hregister, hlength, hslots, hinserted⟩ :=
    register_eq hvalid.dboid hvalid.taskoid hvalid.instanceId hvalid.length leases
  rw [names_eq] at hslots hinserted
  by_cases hkey : lease.key ∈ m.keys
  · rw [Option.isNone_eq_false_iff.mpr (h.find?_isSome_iff.mpr hkey)] at hinserted
    subst hinserted
    exact ⟨next, _, _, hregister, h.put hlength hslots hvalid (.inl hkey), .updated hvalid hkey⟩
  · have hnone := Option.not_isSome_iff_eq_none.mp (mt h.find?_isSome_iff.mp hkey)
    by_cases hroom : m.keys.card < qxStatBackendLeaseSlotCount
    · rw [Option.isNone_iff_eq_none.mpr hnone, h.hasRoom_iff.mpr hroom] at hinserted
      subst hinserted
      exact ⟨next, _, _, hregister, h.put hlength hslots hvalid (.inr hroom),
        .added hvalid hkey hroom⟩
    · have hfull := Bool.eq_false_iff.mpr (mt h.hasRoom_iff.mp hroom)
      rw [Slots.upsert_of_full hnone hfull] at hslots
      rw [hfull, Bool.and_false] at hinserted
      subst hinserted
      refine ⟨next, _, m, hregister, h.of_slots_eq hlength hslots, .full hvalid hkey ?_⟩
      exact le_antisymm m.capacity (Nat.not_lt.mp hroom)

lemma step_register (h : leases.Represents m) (taskoid : Oid) (instanceId : Option CString)
    (kind : QxBackendLeaseKind) :
    ∃ m', (leases.next backend (.register taskoid instanceId kind)).1.Represents m' ∧
      m.Step backend.myDatabaseId (.register taskoid instanceId kind)
        (leases.next backend (.register taskoid instanceId kind)).2 m' := by
  by_cases hnone : oidIsValid taskoid = false ∨ isNullOrEmpty instanceId = true
  · rw [LeaseArray.next, if_pos (by simpa using hnone)]
    exact ⟨m, h, .notRegistered hnone⟩
  · rw [LeaseArray.next, if_neg (by simpa using hnone)]
    obtain ⟨htaskoid, hnull⟩ : oidIsValid taskoid = true ∧ isNullOrEmpty instanceId = false := by
      simpa using hnone
    obtain ⟨id, rfl, hid⟩ := exists_of_isNullOrEmpty hnull
    by_cases hlength : id.length < qxStatBackendInstanceIdLen
    · obtain ⟨next, inserted, m', hregister, hnext, hstep⟩ :=
        h.register_valid ⟨backend.myDatabaseId, taskoid, kind, id⟩
          ⟨backend.connected, htaskoid, hid, hlength⟩
      dsimp only at hregister
      rw [hregister]
      exact ⟨m', hnext, hstep⟩
    · have hlong := Nat.not_lt.mp hlength
      rw [register_tooLong backend.connected htaskoid hid hlong]
      exact ⟨m, h, .tooLong hlong⟩

lemma released_named (taskoid : Oid) {id : CString} (hid : id ≠ []) :
    released dboid taskoid (some id) = fun lease => decide (lease.key = ⟨dboid, taskoid, id⟩) := by
  obtain ⟨c, rest, rfl⟩ := List.exists_cons_of_ne_nil hid
  funext lease
  rw [Bool.eq_iff_iff]
  simp [released, isNullOrEmpty, BackendLease.ofTask, BackendLease.key, and_assoc]

lemma clear_key {next : LeaseArray} {key : LeaseKey} (h : leases.Represents m)
    (hlength : next.length = leases.length)
    (hslots : next.slots = leases.slots.clear (·.key = key)) :
    next.Represents (m.remove (· == key)) := by
  apply h.remove hlength
  · rw [hslots]
    exact Slots.entries_clear_sublist _ _
  · intro lease
    rw [hslots, h.unique.mem_clear_iff]
    simp

lemma ofTask_eq_false (h : oidIsValid taskoid = false) {key : LeaseKey} (hkey : key ∈ m.keys) :
    key.ofTask dboid taskoid = false := by
  rw [LeaseKey.ofTask, Bool.and_eq_false_iff]
  right
  rw [beq_eq_false_iff_ne]
  rintro rfl
  cases h.symm.trans (m.valid key hkey).taskoid

lemma step_release (h : leases.Represents m) (taskoid : Oid) (instanceId : Option CString) :
    ∃ m', (leases.next backend (.release taskoid instanceId)).1.Represents m' ∧
      m.Step backend.myDatabaseId (.release taskoid instanceId)
        (leases.next backend (.release taskoid instanceId)).2 m' := by
  cases htaskoid : oidIsValid taskoid with
  | false =>
    have hrelease : leases.qxStatBackendLeaseRelease backend.myDatabaseId taskoid instanceId =
        (leases, false) := by
      simp [qxStatBackendLeaseRelease, htaskoid]
    rw [LeaseArray.next, hrelease]
    have hnone : ∀ key ∈ m.keys, key.ofTask backend.myDatabaseId taskoid = false :=
      fun key hkey => ofTask_eq_false htaskoid hkey
    refine ⟨m, h, ?_⟩
    cases hnull : isNullOrEmpty instanceId with
    | true => exact .noneHeld hnull hnone
    | false =>
      obtain ⟨id, rfl, hid⟩ := exists_of_isNullOrEmpty hnull
      refine .notHeld hid fun hkey => ?_
      have hof := hnone _ hkey
      simp [LeaseKey.ofTask] at hof
  | true =>
    obtain ⟨hlength, hslots, hflag⟩ := release_eq backend.connected htaskoid instanceId leases
    rw [LeaseArray.next]
    dsimp only
    rw [hflag]
    cases hnull : isNullOrEmpty instanceId with
    | false =>
      obtain ⟨id, rfl, hid⟩ := exists_of_isNullOrEmpty hnull
      rw [released_named taskoid hid] at hslots ⊢
      by_cases hkey : ⟨backend.myDatabaseId, taskoid, id⟩ ∈ m.keys
      · rw [h.find?_isSome_iff.mpr hkey]
        exact ⟨_, h.clear_key hlength hslots, .released hid hkey⟩
      · have hnone := mt h.find?_isSome_iff.mp hkey
        rw [Slots.clear_eq_self (Option.not_isSome_iff_eq_none.mp hnone)] at hslots
        rw [Bool.eq_false_iff.mpr hnone]
        exact ⟨m, h.of_slots_eq hlength hslots, .notHeld hid hkey⟩
    | true =>
      cases hfound : leases.slots.find? (released backend.myDatabaseId taskoid instanceId) with
      | none =>
        rw [Slots.clear_eq_self hfound] at hslots
        refine ⟨m, h.of_slots_eq hlength hslots, .noneHeld hnull fun key hkey => ?_⟩
        obtain ⟨lease, hlease, rfl⟩ := h.mem_keys_iff.mp hkey
        have hnot := Slots.find?_eq_none_iff.mp hfound lease hlease
        simpa [released, hnull, BackendLease.ofTask_key] using hnot
      | some lease =>
        rw [h.unique.clear_eq hfound] at hslots
        have hmem := Slots.mem_entries_iff.mp (List.mem_of_find?_eq_some hfound)
        have hof : released backend.myDatabaseId taskoid instanceId lease = true :=
          List.find?_some hfound
        refine ⟨_, h.clear_key hlength hslots, .releasedAny hnull ?_ ?_⟩
        · exact h.mem_keys_iff.mpr ⟨lease, hmem, rfl⟩
        · simpa [released, hnull, BackendLease.ofTask_key] using hof

lemma step_fence (h : leases.Represents m) (taskoid : Oid) :
    (leases.next backend (.fenceStale taskoid)).1.Represents
        (m.remove (LeaseKey.ofTask backend.myDatabaseId taskoid)) ∧
      m.Step backend.myDatabaseId (.fenceStale taskoid)
        (leases.next backend (.fenceStale taskoid)).2
        (m.remove (LeaseKey.ofTask backend.myDatabaseId taskoid)) := by
  rw [LeaseArray.next]
  cases htaskoid : oidIsValid taskoid with
  | false =>
    have hfence : leases.qxStatBackendLeaseFence backend.myDatabaseId taskoid = (leases, 0) := by
      simp [qxStatBackendLeaseFence, htaskoid]
    have hnone : ∀ key ∈ m.keys, key.ofTask backend.myDatabaseId taskoid = false :=
      fun key hkey => ofTask_eq_false htaskoid hkey
    have hcard : (m.keys.filter fun key =>
        key.ofTask backend.myDatabaseId taskoid = true).card = 0 := by
      rw [Finset.card_eq_zero, Finset.filter_eq_empty_iff]
      intro key hkey
      simp [hnone key hkey]
    rw [hfence]
    exact ⟨(LeaseMap.remove_eq_self hnone).symm ▸ h, hcard ▸ .fenced⟩
  | true =>
    have hfence : leases.qxStatBackendLeaseFence backend.myDatabaseId taskoid =
        fenceLoop backend.myDatabaseId taskoid leases 0 := by
      simp [qxStatBackendLeaseFence, htaskoid, backend.connected]
    obtain ⟨hlength, hslots, hcount⟩ := fenceLoop_eq backend.connected taskoid leases 0
    rw [Nat.zero_add] at hcount
    have hcard := h.countP_eq (LeaseKey.ofTask backend.myDatabaseId taskoid)
    simp only [BackendLease.ofTask_key] at hcard
    rw [hfence]
    dsimp only
    rw [hcount, hcard]
    refine ⟨h.remove hlength ?_ fun lease => ?_, .fenced⟩
    · rw [hslots, Slots.entries_clearAll]
      exact List.filter_sublist
    · rw [hslots, Slots.mem_clearAll_iff, BackendLease.ofTask_key]

lemma count_keys (h : leases.Represents m) (taskoid : Oid) :
    leases.qxStatBackendLeaseCount backend.myDatabaseId taskoid =
      (m.keys.filter fun key => key.dboid = backend.myDatabaseId ∧
        (oidIsValid taskoid = false ∨ key.taskoid = taskoid)).card := by
  rw [count_eq backend.connected]
  refine (h.countP_eq fun key => key.dboid == backend.myDatabaseId &&
    (!oidIsValid taskoid || key.taskoid == taskoid)).trans ?_
  congr 1
  ext key
  simp

/-- Every operation on the array is one on the map. -/
theorem step (h : leases.Represents m) (call : LeaseCall) :
    ∃ m', (leases.next backend call).1.Represents m' ∧
      m.Step backend.myDatabaseId call (leases.next backend call).2 m' := by
  cases call with
  | register taskoid instanceId kind => exact h.step_register backend taskoid instanceId kind
  | release taskoid instanceId => exact h.step_release backend taskoid instanceId
  | fenceStale taskoid => exact ⟨_, h.step_fence backend taskoid⟩
  | countForTask taskoid =>
    refine ⟨m, h, ?_⟩
    rw [LeaseArray.next, h.count_keys]
    exact .counted
  | activeCount =>
    refine ⟨m, h, ?_⟩
    have hall : leases.qxStatBackendLeaseCount backend.myDatabaseId invalidOid =
        (m.keys.filter fun key => key.dboid = backend.myDatabaseId).card := by
      rw [h.count_keys]
      congr 1
      ext key
      simp [oidIsValid]
    rw [LeaseArray.next, hall]
    exact .countedAll

end Steps

end LeaseArray.Represents

lemma LeaseArray.represents_zeroed : LeaseArray.zeroed.Represents LeaseMap.empty := by
  have hslots : LeaseArray.zeroed.slots = List.replicate qxStatBackendLeaseSlotCount none := by
    rw [LeaseArray.slots, LeaseArray.zeroed, List.map_replicate]
    rfl
  have hfree : ∀ lease : BackendLease, some lease ∉ LeaseArray.zeroed.slots := by
    intro lease hlease
    rw [hslots] at hlease
    cases List.eq_of_mem_replicate hlease
  refine ⟨List.length_replicate, ?_, fun lease => ?_⟩
  · have hentries : LeaseArray.zeroed.slots.entries = [] :=
      List.eq_nil_iff_forall_not_mem.mpr fun lease hlease =>
        hfree lease (Slots.mem_entries_iff.mp hlease)
    rw [Slots.Unique, hentries]
    exact List.nodup_nil
  · simp [hfree lease, LeaseMap.empty]

def LeaseArray.answers (leases : LeaseArray) :
    List (ConnectedBackend × LeaseCall) → List (ConnectedBackend × LeaseCall × LeaseAnswer)
  | [] => []
  | (backend, call) :: rest =>
    (backend, call, (leases.next backend call).2) :: (leases.next backend call).1.answers rest

lemma LeaseArray.Represents.run {leases : LeaseArray} {m : LeaseMap} (h : leases.Represents m)
    (calls : List (ConnectedBackend × LeaseCall)) :
    ∃ m', (leases.run calls).Represents m' ∧ LeaseMap.Run m (leases.answers calls) m' := by
  induction calls generalizing leases m with
  | nil => exact ⟨m, h, .nil m⟩
  | cons call calls ih =>
    obtain ⟨backend, call⟩ := call
    obtain ⟨m', hnext, hstep⟩ := h.step backend call
    obtain ⟨m'', hrun, hrest⟩ := ih hnext
    exact ⟨m'', hrun, .cons hstep hrest⟩

/-- Whatever the backends do, the table answers as a map does that starts out empty, and holds in
the end what that map holds, each key in one slot. -/
theorem lease_table_refines_map (calls : List (ConnectedBackend × LeaseCall)) :
    ∃ m, (LeaseArray.zeroed.run calls).Represents m ∧
      LeaseMap.Run LeaseMap.empty (LeaseArray.zeroed.answers calls) m :=
  LeaseArray.represents_zeroed.run calls

end QhapaqXian
