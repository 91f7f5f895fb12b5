import LayoutTracking.Proofs.Filling

/-!
# Where handles resolve

The stores of a process are numbered in the order in which they are made, and each takes the next
identity of a counter. A ledger keeps a receipt for every snapshot that was pushed. A handle
resolves in a store exactly if the store gave it out, to the snapshot that it was given out for.
That no other store resolves it rests on the identities: before they would come round, the draw of
the next one fails, and the run ends. Without this check the last of as many stores as there are
numbers of 32 bits would resolve what the first gave out.
-/

set_option autoImplicit false

namespace LayoutTracking

/-! ## The identities of stores -/

namespace Counter

/-- The counter after so many draws. -/
def drawn (count : Nat) : Counter := ⟨UInt32.ofNat (count + 1)⟩

/-- The identity that is drawn after so many others. -/
def nth (count : Nat) : UInt32 := (drawn count).draw.1

theorem draw_drawn (count : Nat) : (drawn count).draw = (nth count, drawn (count + 1)) := by
  refine Prod.ext rfl ?_
  simp only [draw, drawn, UInt32.ofNat_add]
  rfl

theorem upcoming_drawn {count : Nat} (bound : count + 1 < UInt32.size) :
    (drawn count).upcoming.toNat = count + 1 ∧ (drawn count).upcoming ≠ 0 := by
  have whole : (drawn count).upcoming.toNat = count + 1 := UInt32.toNat_ofNat_of_lt' bound
  refine ⟨whole, fun isZero => ?_⟩
  rw [isZero] at whole
  cases whole

theorem spent?_drawn {count : Nat} (bound : count < UInt32.size) :
    (drawn count).spent? = if count + 1 < UInt32.size then none else some .overflow := by
  by_cases more : count + 1 < UInt32.size
  · rw [if_pos more]
    exact if_neg (upcoming_drawn more).2
  · have last : count + 1 = UInt32.size := by omega
    rw [if_neg more, drawn, last]
    rfl

end Counter

/-! ## What a push adds -/

theorem SnapshotStore.get?_push_iff {first second : SnapshotStore} {issued : SnapshotId}
    {pushed : Snapshot} (isPush : first.push pushed = .ok (issued, second)) (handle : SnapshotId)
    (snapshot : Snapshot) :
    second.get? handle = some snapshot ↔
      first.get? handle = some snapshot ∨ handle = issued ∧ snapshot = pushed := by
  constructor
  · intro resolves
    obtain ⟨owned, place, rfl⟩ := push_eq_ok isPush
    obtain ⟨isOwn, found⟩ := get?_eq_some.mp resolves
    rw [Array.getElem?_push] at found
    by_cases atEnd : handle.index.toNat = first.snapshots.size
    · rw [if_pos atEnd] at found
      have sameIndex : handle.index = issued.index := UInt32.toNat_inj.mp (atEnd.trans place.symm)
      obtain ⟨_, _⟩ := handle
      obtain ⟨_, _⟩ := issued
      exact .inr ⟨congrArg₂ SnapshotId.mk (isOwn.trans owned.symm) sameIndex,
        (Option.some.inj found).symm⟩
    · rw [if_neg atEnd] at found
      exact .inl (get?_eq_some.mpr ⟨isOwn, found⟩)
  · intro known
    rcases known with earlier | ⟨rfl, rfl⟩
    · exact (extends_of_push isPush).get? earlier
    · exact get?_of_push isPush

theorem SnapshotStore.get?_empty (id : StoreId) (handle : SnapshotId) :
    (empty id).get? handle = none := by
  simp [get?, empty]

/-! ## Ledgers -/

/-- What a process does with its stores. -/
inductive StoreEvent where
  | create
  | push (number : Nat) (snapshot : Snapshot)

/-- How many stores the event makes. -/
def StoreEvent.stores : StoreEvent → Nat
  | .create => 1
  | .push _ _ => 0

/-- A snapshot was pushed to the store of this number, which gave out the handle for it. -/
structure Receipt where
  number : Nat
  handle : SnapshotId
  snapshot : Snapshot

structure Ledger where
  ids : Counter
  stores : List SnapshotStore
  issued : List Receipt

namespace Ledger

def start : Ledger := ⟨.fresh, [], []⟩

def create (ledger : Ledger) : Ledger :=
  let (id, ids) := ledger.ids.draw
  { ledger with ids, stores := ledger.stores ++ [.empty ⟨id⟩] }

/-- A store that is full gives out nothing, and there is no receipt. -/
def push (ledger : Ledger) (number : Nat) (snapshot : Snapshot) : Ledger :=
  match ledger.stores[number]? with
  | none => ledger
  | some store =>
    match store.push snapshot with
    | .ok (handle, store) =>
      { ledger with
        stores := ledger.stores.set number store
        issued := ledger.issued ++ [⟨number, handle, snapshot⟩] }
    | .error _ => ledger

def step (ledger : Ledger) : StoreEvent → Ledger
  | .create => ledger.create
  | .push number snapshot => ledger.push number snapshot

/-- The step, unless there is no identity left for the store that it makes. -/
def advance (ledger : Ledger) : StoreEvent → Except WordFailure Ledger
  | .create =>
    match ledger.ids.spent? with
    | some failure => .error failure
    | none => .ok ledger.create
  | .push number snapshot => .ok (ledger.push number snapshot)

/-- Runs events until one fails. -/
def run (ledger : Ledger) (events : List StoreEvent) : Except WordFailure Ledger :=
  events.foldlM advance ledger

/-- What events come to if nothing checks that an identity is left. -/
def after (ledger : Ledger) (events : List StoreEvent) : Ledger := events.foldl step ledger

variable {ledger : Ledger} {number : Nat} {snapshot : Snapshot}

theorem after_append (ledger : Ledger) (earlier later : List StoreEvent) :
    ledger.after (earlier ++ later) = (ledger.after earlier).after later :=
  List.foldl_append

/-- The ways in which a push ends. -/
inductive Pushed (ledger : Ledger) (number : Nat) (snapshot : Snapshot) : Ledger → Prop where
  | refused : Pushed ledger number snapshot ledger
  | issued {store next : SnapshotStore} {handle : SnapshotId} :
      ledger.stores[number]? = some store → store.push snapshot = .ok (handle, next) →
      Pushed ledger number snapshot
        { ledger with
          stores := ledger.stores.set number next
          issued := ledger.issued ++ [⟨number, handle, snapshot⟩] }

theorem pushed_push (ledger : Ledger) (number : Nat) (snapshot : Snapshot) :
    Pushed ledger number snapshot (ledger.push number snapshot) := by
  unfold push
  cases isStore : ledger.stores[number]? with
  | none => exact .refused
  | some store =>
    cases outcome : store.push snapshot with
    | error => simpa only [outcome] using Pushed.refused
    | ok reply => simpa only [outcome] using Pushed.issued isStore outcome

theorem getElem?_concat_eq_some {stores : List SnapshotStore} {last store : SnapshotStore} :
    (stores ++ [last])[number]? = some store ↔
      stores[number]? = some store ∨ number = stores.length ∧ store = last := by
  rcases Nat.lt_trichotomy number stores.length with inside | rfl | past
  · rw [List.getElem?_append_left inside]
    simp [Nat.ne_of_lt inside]
  · rw [List.getElem?_concat_length, List.getElem?_eq_none (Nat.le_refl _)]
    simp [eq_comm]
  · have longer : (stores ++ [last]).length ≤ number := by
      rw [List.length_append, List.length_singleton]
      exact past
    rw [List.getElem?_eq_none longer, List.getElem?_eq_none (Nat.le_of_lt past)]
    simp [Nat.ne_of_gt past]

theorem getElem?_set_eq_some {stores : List SnapshotStore} {place : Nat}
    {earlier next store : SnapshotStore} (isStore : stores[place]? = some earlier) :
    (stores.set place next)[number]? = some store ↔
      number = place ∧ store = next ∨ number ≠ place ∧ stores[number]? = some store := by
  obtain ⟨inside, -⟩ := List.getElem?_eq_some_iff.mp isStore
  rw [List.getElem?_set, if_pos inside]
  by_cases same : number = place
  · simp [same, eq_comm]
  · simp [same, Ne.symm same]

/-! ## What every step keeps -/

/-- The identities of the stores are those of the counter, in order, and the receipts are of what
the stores resolve. -/
structure Stands (ledger : Ledger) : Prop where
  ids : ledger.ids = .drawn ledger.stores.length
  named : ∀ (number : Nat) (store : SnapshotStore),
    ledger.stores[number]? = some store → store.id = ⟨Counter.nth number⟩
  receipts : ∀ receipt : Receipt, receipt ∈ ledger.issued ↔
    ∃ store, ledger.stores[receipt.number]? = some store ∧
      store.get? receipt.handle = some receipt.snapshot

theorem start_stands : start.Stands where
  ids := rfl
  named := nofun
  receipts _ := ⟨nofun, nofun⟩

theorem Stands.create (stands : ledger.Stands) : ledger.create.Stands := by
  have drawn : ledger.create =
      { ledger with
        ids := .drawn (ledger.stores.length + 1)
        stores := ledger.stores ++ [.empty ⟨Counter.nth ledger.stores.length⟩] } := by
    rw [Ledger.create, stands.ids, Counter.draw_drawn]
  rw [drawn]
  refine ⟨?_, ?_, ?_⟩
  · rw [List.length_append, List.length_singleton]
  · intro number store isStore
    rcases getElem?_concat_eq_some.mp isStore with earlier | ⟨rfl, rfl⟩
    · exact stands.named number store earlier
    · rfl
  · intro receipt
    rw [stands.receipts]
    constructor
    · intro known
      obtain ⟨store, isStore, resolves⟩ := known
      exact ⟨store, getElem?_concat_eq_some.mpr (.inl isStore), resolves⟩
    · intro known
      obtain ⟨store, isStore, resolves⟩ := known
      rcases getElem?_concat_eq_some.mp isStore with earlier | ⟨-, rfl⟩
      · exact ⟨store, earlier, resolves⟩
      · rw [SnapshotStore.get?_empty] at resolves
        cases resolves

theorem Stands.pushed (stands : ledger.Stands) {next : Ledger}
    (pushed : Pushed ledger number snapshot next) : next.Stands := by
  cases pushed with
  | refused => exact stands
  | @issued store next handle isStore isPush =>
    refine ⟨?_, ?_, ?_⟩
    · exact stands.ids.trans (congrArg _ (List.length_set).symm)
    · intro other later isLater
      rcases (getElem?_set_eq_some isStore).mp isLater with ⟨rfl, rfl⟩ | ⟨-, earlier⟩
      · exact (SnapshotStore.extends_of_push isPush).id.trans (stands.named _ _ isStore)
      · exact stands.named other later earlier
    · intro receipt
      obtain ⟨other, asked, found⟩ := receipt
      have known := stands.receipts ⟨other, asked, found⟩
      have grows := SnapshotStore.get?_push_iff isPush asked found
      rw [List.mem_append, List.mem_singleton, known]
      simp only [getElem?_set_eq_some isStore, Receipt.mk.injEq]
      by_cases same : other = number
      · subst same
        simp [isStore, grows]
      · simp [same]

theorem Stands.step (stands : ledger.Stands) (event : StoreEvent) : (ledger.step event).Stands := by
  cases event with
  | create => exact stands.create
  | push number snapshot => exact stands.pushed (pushed_push ledger number snapshot)

theorem Stands.after (stands : ledger.Stands) (events : List StoreEvent) :
    (ledger.after events).Stands :=
  List.foldlRecOn events Ledger.step stands fun _ standing event _ => standing.step event

theorem Stands.advance_eq (stands : ledger.Stands) (few : ledger.stores.length < UInt32.size)
    (event : StoreEvent) :
    ledger.advance event =
      if ledger.stores.length + event.stores < UInt32.size then .ok (ledger.step event)
      else .error .overflow := by
  cases event with
  | create =>
    rw [advance, stands.ids, Counter.spent?_drawn few, StoreEvent.stores]
    by_cases fits : ledger.stores.length + 1 < UInt32.size
    · rw [if_pos fits, if_pos fits]
      rfl
    · rw [if_neg fits, if_neg fits]
  | push number snapshot => exact (if_pos few).symm

/-- No handle resolves in a store other than the one that gave it out. -/
def Isolated (ledger : Ledger) : Prop :=
  ∀ receipt ∈ ledger.issued, ∀ (number : Nat) (store : SnapshotStore),
    ledger.stores[number]? = some store → (store.get? receipt.handle).isSome = true →
      number = receipt.number

theorem Stands.owned (stands : ledger.Stands) {receipt : Receipt}
    (isIssued : receipt ∈ ledger.issued) :
    receipt.handle.store = ⟨Counter.nth receipt.number⟩ := by
  obtain ⟨store, isStore, resolves⟩ := (stands.receipts receipt).mp isIssued
  exact (SnapshotStore.get?_eq_some.mp resolves).1.trans (stands.named _ _ isStore)

/-- A store that gave out any handle gave out that of its first place. -/
theorem Stands.first (stands : ledger.Stands) {receipt : Receipt}
    (isIssued : receipt ∈ ledger.issued) :
    ∃ snapshot, ⟨receipt.number, ⟨⟨Counter.nth receipt.number⟩, 0⟩, snapshot⟩ ∈ ledger.issued := by
  obtain ⟨store, isStore, resolves⟩ := (stands.receipts receipt).mp isIssued
  obtain ⟨-, found⟩ := SnapshotStore.get?_eq_some.mp resolves
  obtain ⟨inside, -⟩ := Array.getElem?_eq_some_iff.mp found
  have inhabited : 0 < store.snapshots.size := Nat.lt_of_le_of_lt (Nat.zero_le _) inside
  refine ⟨store.snapshots[0], (stands.receipts _).mpr ⟨store, isStore, ?_⟩⟩
  exact SnapshotStore.get?_eq_some.mpr
    ⟨(stands.named _ _ isStore).symm, Array.getElem?_eq_getElem inhabited⟩

theorem after_creates (count : Nat) :
    start.after (List.replicate count .create) =
      ⟨.drawn count, (List.range count).map fun number => .empty ⟨Counter.nth number⟩, []⟩ := by
  induction count with
  | zero => rfl
  | succ count ih =>
    rw [List.replicate_succ', after_append, ih, after, List.foldl_cons, List.foldl_nil, step,
      create, Counter.draw_drawn, List.range_succ, List.map_append]
    rfl

theorem push_of_empty {id : StoreId} (isStore : ledger.stores[number]? = some (.empty id))
    (snapshot : Snapshot) :
    ledger.push number snapshot =
      { ledger with
        stores := ledger.stores.set number ⟨id, #[snapshot]⟩
        issued := ledger.issued ++ [⟨number, ⟨id, 0⟩, snapshot⟩] } := by
  rw [push, isStore]
  rfl

/-- Of so many new stores, two are given a snapshot each. -/
def twoPushed (count first second : Nat) (earlier later : Snapshot) : List StoreEvent :=
  List.replicate count .create ++ [.push first earlier, .push second later]

/-- The handle that one store gave out for a snapshot resolves in another, to what is there. -/
def Crosses (ledger : Ledger) (first second : Nat) (earlier later : Snapshot) : Prop :=
  ∃ handle, ⟨first, handle, earlier⟩ ∈ ledger.issued ∧
    ∃ store, ledger.stores[second]? = some store ∧ store.get? handle = some later

theorem crosses_of_nth_eq {count first second : Nat} (firstBound : first < count)
    (secondBound : second < count) (apart : first ≠ second)
    (same : Counter.nth first = Counter.nth second) (earlier later : Snapshot) :
    (start.after (twoPushed count first second earlier later)).Crosses first second
      earlier later := by
  let fresh := (List.range count).map fun number => SnapshotStore.empty ⟨Counter.nth number⟩
  have isFresh : ∀ number < count, fresh[number]? = some (.empty ⟨Counter.nth number⟩) := by
    intro number bound
    rw [List.getElem?_map, List.getElem?_range bound, Option.map_some]
  let once : Ledger := ⟨.drawn count, fresh.set first ⟨⟨Counter.nth first⟩, #[earlier]⟩,
    [⟨first, ⟨⟨Counter.nth first⟩, 0⟩, earlier⟩]⟩
  have isOnce : Ledger.push ⟨.drawn count, fresh, []⟩ first earlier = once :=
    push_of_empty (isFresh first firstBound) earlier
  have stillEmpty : once.stores[second]? = some (.empty ⟨Counter.nth second⟩) :=
    (List.getElem?_set_ne apart).trans (isFresh second secondBound)
  have isTwice : start.after (twoPushed count first second earlier later) =
      once.push second later := by
    rw [twoPushed, after_append, after_creates]
    exact congrArg (Ledger.push · second later) isOnce
  rw [isTwice, push_of_empty stillEmpty]
  refine ⟨_, List.mem_cons_self, ⟨⟨Counter.nth second⟩, #[later]⟩, ?_, ?_⟩
  · exact List.getElem?_set_self (List.getElem?_eq_some_iff.mp stillEmpty).1
  · rw [same]
    exact SnapshotStore.get?_eq_some.mpr ⟨rfl, rfl⟩

theorem Crosses.not_isolated {first second : Nat} {earlier later : Snapshot}
    (crosses : ledger.Crosses first second earlier later) (apart : first ≠ second) :
    ¬ ledger.Isolated := by
  intro isolated
  obtain ⟨handle, isIssued, store, isStore, resolves⟩ := crosses
  exact apart (isolated _ isIssued second store isStore (Option.isSome_of_eq_some resolves)).symm

/-- The counter is back at its start after as many stores as there are numbers of 32 bits. The last
of them takes the identity of the first, whose handle then resolves to a snapshot in the last. -/
theorem crosses_of_many {count : Nat} (many : UInt32.size ≤ count) (earlier later : Snapshot) :
    (start.after (twoPushed count 0 (UInt32.size - 1) earlier later)).Crosses 0
      (UInt32.size - 1) earlier later := by
  have positive : 0 < UInt32.size := by decide
  exact crosses_of_nth_eq (Nat.lt_of_lt_of_le positive many)
    (Nat.lt_of_lt_of_le (Nat.sub_lt positive Nat.one_pos) many) (by decide) (by decide) earlier later

theorem not_always_isolated : ¬ ∀ events, (start.after events).Isolated := by
  intro isolated
  have crosses := crosses_of_many (Nat.le_refl _) ⟨⟨1⟩, none, none, .empty⟩
    ⟨⟨2⟩, none, none, .empty⟩
  exact crosses.not_isolated (by decide) (isolated _)

end Ledger

end LayoutTracking
