import AsyncFiles.Proofs.Descriptors.Books

/-!
Two slots of a registry trade places. What a move leaves in its source's slot and in its target's is
what stands there without it the other way round, with later versions in one of the two. Keys are
translated along, and then both registries find the same under each and go on doing so.
-/
namespace AsyncFiles

open Registry

namespace Registry

variable {Value : Type}

theorem values_eq (registry : Registry Value) :
    registry.values = registry.slots.filterMap Slot.value := by
  calc
    registry.values = registry.slots.zipIdx.filterMap fun found => found.1.value := by
      simp only [values, entries, List.map_filterMap, Option.map_map]
      congr 1
      funext found
      cases found.1.value <;> rfl
    _ = (registry.slots.zipIdx.map Prod.fst).filterMap Slot.value := by
      rw [List.filterMap_map]
      rfl
    _ = registry.slots.filterMap Slot.value := by rw [List.zipIdx_map_fst]

theorem values_range (registry : Registry Value) : registry.values =
    (List.range registry.slots.length).filterMap fun index =>
      (registry.slots[index]?).bind Slot.value := by
  have placed : (List.range registry.slots.length).map (fun index => registry.slots[index]?) =
      registry.slots.map some := by
    apply List.ext_getElem <;> simp
  calc
    registry.values = (registry.slots.map some).filterMap fun slot => slot.bind Slot.value := by
      rw [values_eq, List.filterMap_map]
      rfl
    _ = _ := by
      rw [← placed, List.filterMap_map]
      rfl
end Registry

/-- Two keys of a service's registry that trade places, from their versions on. The slot of the
second may have a later version in the other registry. -/
structure Exchange where
  service : ServiceId
  left : RegistryKey
  right : RegistryKey
  later : Nat
  numbered : 0 < left.slot ∧ 0 < right.slot
  apart : left.slot ≠ right.slot
  grown : right.version ≤ later

namespace Exchange

variable (exchange : Exchange)

def place (index : Nat) : Nat :=
  if index = position exchange.left then position exchange.right
  else if index = position exchange.right then position exchange.left
  else index

/-- The version that a slot has at first, -/
def first (index : Nat) : Nat :=
  if index = position exchange.left then exchange.left.version
  else if index = position exchange.right then exchange.right.version
  else 0

/-- and the one that it has at first in the other registry, where it has traded its place. -/
def base (index : Nat) : Nat :=
  if index = position exchange.left then exchange.later
  else if index = position exchange.right then exchange.left.version
  else 0

def shift (index version : Nat) : Nat := version - exchange.first index + exchange.base index

/-- The key under which the other registry has what a registry has under `key`. Keys from before
find nothing in either. -/
def key (key : RegistryKey) : RegistryKey :=
  if 0 < key.slot ∧ exchange.first (position key) ≤ key.version then
    ⟨exchange.place (position key) + 1, exchange.shift (position key) key.version⟩
  else key

theorem position_ne : position exchange.left ≠ position exchange.right := by
  have numbered := exchange.numbered
  have apart := exchange.apart
  simp only [position]
  omega

theorem place_left : exchange.place (position exchange.left) = position exchange.right :=
  if_pos rfl

theorem place_right : exchange.place (position exchange.right) = position exchange.left := by
  rw [place, if_neg exchange.position_ne.symm, if_pos rfl]

theorem place_beside {index : Nat} (left : index ≠ position exchange.left)
    (right : index ≠ position exchange.right) : exchange.place index = index := by
  rw [place, if_neg left, if_neg right]

theorem place_place (index : Nat) : exchange.place (exchange.place index) = index := by
  by_cases left : index = position exchange.left
  · rw [left, place_left, place_right]
  · by_cases right : index = position exchange.right
    · rw [right, place_right, place_left]
    · rw [place_beside _ left right, place_beside _ left right]

theorem place_inj {index other : Nat} (same : exchange.place index = exchange.place other) :
    index = other := by
  rw [← exchange.place_place index, same, place_place]

theorem shift_inj {index version other : Nat} (known : exchange.first index ≤ version)
    (also : exchange.first index ≤ other) :
    exchange.shift index version = exchange.shift index other ↔ version = other := by
  simp only [shift]
  omega

theorem shift_succ {index version : Nat} (known : exchange.first index ≤ version) :
    exchange.shift index (version + 1) = exchange.shift index version + 1 := by
  simp only [shift]
  omega

theorem first_place_le (index : Nat) :
    exchange.first (exchange.place index) ≤ exchange.base index := by
  have grown := exchange.grown
  have apart := exchange.position_ne
  simp only [first, base, place]
  split_ifs <;> omega

theorem first_le_shift (index version : Nat) :
    exchange.first (exchange.place index) ≤ exchange.shift index version :=
  Nat.le_trans (exchange.first_place_le index) (Nat.le_add_left _ _)

theorem key_of_first (key : RegistryKey) (numbered : 0 < key.slot)
    (known : exchange.first (position key) ≤ key.version) : exchange.key key =
      ⟨exchange.place (position key) + 1, exchange.shift (position key) key.version⟩ :=
  if_pos ⟨numbered, known⟩

theorem key_of_before {key : RegistryKey}
    (before : ¬ (0 < key.slot ∧ exchange.first (position key) ≤ key.version)) :
    exchange.key key = key := if_neg before

theorem key_inj {key other : RegistryKey} (same : exchange.key key = exchange.key other) :
    key = other := by
  by_cases known : 0 < key.slot ∧ exchange.first (position key) ≤ key.version
  · by_cases also : 0 < other.slot ∧ exchange.first (position other) ≤ other.version
    · rw [key_of_first _ _ known.1 known.2, key_of_first _ _ also.1 also.2, RegistryKey.mk.injEq,
        Nat.add_right_cancel_iff] at same
      have here := exchange.place_inj same.1
      have version := same.2
      rw [here] at version
      exact position_inj known.1 also.1 here
        ((exchange.shift_inj (here ▸ known.2) also.2).mp version)
    · rw [key_of_first _ _ known.1 known.2, key_of_before _ also] at same
      subst same
      exact absurd ⟨Nat.succ_pos _, exchange.first_le_shift _ _⟩ also
  · by_cases also : 0 < other.slot ∧ exchange.first (position other) ≤ other.version
    · rw [key_of_before _ known, key_of_first _ _ also.1 also.2] at same
      subst same
      exact absurd ⟨Nat.succ_pos _, exchange.first_le_shift _ _⟩ known
    · rwa [key_of_before _ known, key_of_before _ also] at same

variable {Value : Type}

def slot (index : Nat) (slot : Slot Value) : Slot Value :=
  ⟨exchange.shift index slot.version, slot.value⟩

section

variable {exchange : Exchange} {index : Nat} (left : index ≠ position exchange.left)
  (right : index ≠ position exchange.right)
include left right

theorem shift_beside (version : Nat) : exchange.shift index version = version := by
  simp [shift, first, base, left, right]

theorem slot_beside (slot : Slot Value) : exchange.slot index slot = slot := by
  rw [Exchange.slot, shift_beside left right]

theorem key_beside (key : RegistryKey) (here : position key = index) :
    exchange.key key = key := by
  rw [Exchange.key, here, shift_beside left right, exchange.place_beside left right]
  split
  next known =>
    cases key
    simp only [position, RegistryKey.mk.injEq, and_true] at *
    omega
  next => rfl

end

structure Mirrors (registry other : Registry Value) : Prop where
  length : other.slots.length = registry.slots.length
  slots : ∀ index, other.slots[exchange.place index]? =
    (registry.slots[index]?).map (exchange.slot index)
  vacant : other.vacant = registry.vacant.map exchange.place
  known : ∀ index slot, registry.slots[index]? = some slot →
    exchange.first index ≤ slot.version
  inside : position exchange.left < registry.slots.length ∧
    position exchange.right < registry.slots.length

namespace Mirrors

variable {exchange : Exchange} {registry other : Registry Value}
  (mirrors : exchange.Mirrors registry other)
include mirrors

theorem slot_eq {index : Nat} (slot : Slot Value)
    (known : exchange.first index ≤ slot.version) :
    other.slots[exchange.place index]? = some (exchange.slot index slot) ↔
      registry.slots[index]? = some slot := by
  rw [mirrors.slots, Option.map_eq_some_iff]
  constructor
  · rintro ⟨found, located, same⟩
    rw [Exchange.slot, Exchange.slot, Slot.mk.injEq,
      exchange.shift_inj (mirrors.known _ _ located) known] at same
    obtain ⟨version, value⟩ := found
    obtain ⟨rfl, rfl⟩ := same
    exact located
  · intro located
    exact ⟨slot, located, rfl⟩

theorem get? (key : RegistryKey) : other.get? (exchange.key key) = registry.get? key := by
  refine Option.ext fun value => ?_
  rw [get?_eq_some, get?_eq_some]
  by_cases known : 0 < key.slot ∧ exchange.first (position key) ≤ key.version
  · rw [key_of_first _ _ known.1 known.2]
    have here := mirrors.slot_eq ⟨key.version, some value⟩ known.2
    exact and_congr (iff_of_true (Nat.succ_pos _) known.1) here
  · rw [key_of_before _ known]
    -- Neither registry has a slot with so early a version.
    refine and_congr_right fun numbered => iff_of_false ?_ ?_
    · intro located
      have back := mirrors.slots (exchange.place (position key))
      rw [place_place, located] at back
      obtain ⟨slot, _, same⟩ := Option.map_eq_some_iff.mp back.symm
      have early := exchange.first_le_shift (exchange.place (position key)) slot.version
      rw [place_place] at early
      have version := congrArg Slot.version same
      exact known ⟨numbered, Nat.le_trans early (Nat.le_of_eq version)⟩
    · intro located
      exact known ⟨numbered, mirrors.known _ _ located⟩

theorem place_lt (index : Nat) :
    exchange.place index < other.slots.length ↔ index < registry.slots.length := by
  have inside := mirrors.inside
  rw [mirrors.length, place]
  split_ifs <;> omega

theorem set {index : Nat} (slot : Slot Value) (known : exchange.first index ≤ slot.version)
    (vacant : List Nat) :
    exchange.Mirrors { slots := registry.slots.set index slot, vacant }
      { slots := other.slots.set (exchange.place index) (exchange.slot index slot)
        vacant := vacant.map exchange.place } where
  length := by simp [mirrors.length]
  slots found := by
    by_cases here : index = found
    · subst here
      simp only [List.getElem?_set_self', mirrors.slots]
      cases registry.slots[index]? <;> rfl
    · have apart : exchange.place index ≠ exchange.place found :=
        fun same => here (exchange.place_inj same)
      rw [List.getElem?_set_ne apart, List.getElem?_set_ne here, mirrors.slots]
  vacant := rfl
  known found other located := by
    by_cases here : index = found
    · subst here
      rw [List.getElem?_set_self'] at located
      obtain ⟨_, _, rfl⟩ := Option.map_eq_some_iff.mp located
      exact known
    · rw [List.getElem?_set_ne here] at located
      exact mirrors.known found other located
  inside := by simpa using mirrors.inside

theorem beyond {index : Nat} (beyond : registry.slots.length ≤ index) :
    index ≠ position exchange.left ∧ index ≠ position exchange.right := by
  have inside := mirrors.inside
  omega

theorem append (slot : Slot Value) :
    exchange.Mirrors { registry with slots := registry.slots ++ [slot] }
      { other with slots := other.slots ++ [slot] } where
  length := by simp [mirrors.length]
  slots index := by
    rcases Nat.lt_or_ge index registry.slots.length with bound | beyond
    · rw [List.getElem?_append_left ((mirrors.place_lt index).mpr bound),
        List.getElem?_append_left bound, mirrors.slots]
    · obtain ⟨left, right⟩ := mirrors.beyond beyond
      rw [exchange.place_beside left right, List.getElem?_append_right beyond,
        List.getElem?_append_right (mirrors.length ▸ beyond), mirrors.length]
      cases [slot][index - registry.slots.length]? with
      | none => rfl
      | some found => exact congrArg some (slot_beside left right found).symm
  vacant := mirrors.vacant
  known index found located := by
    rcases Nat.lt_or_ge index registry.slots.length with bound | beyond
    · rw [List.getElem?_append_left bound] at located
      exact mirrors.known index found located
    · obtain ⟨left, right⟩ := mirrors.beyond beyond
      simp [first, left, right]
  inside := by
    have inside := mirrors.inside
    simp only [List.length_append]
    omega

theorem version (index : Nat) :
    exchange.first index ≤ ((registry.slots[index]?).map Slot.version).getD 0 ∧
      ((other.slots[exchange.place index]?).map Slot.version).getD 0 =
        exchange.shift index (((registry.slots[index]?).map Slot.version).getD 0) := by
  rw [mirrors.slots]
  cases located : registry.slots[index]? with
  | some slot => exact ⟨mirrors.known index slot located, rfl⟩
  | none =>
    obtain ⟨left, right⟩ := mirrors.beyond (List.getElem?_eq_none_iff.mp located)
    simp [shift, first, base, left, right]

theorem insert (value : Value) :
    (other.insert value).1 = exchange.key (registry.insert value).1 ∧
      exchange.Mirrors (registry.insert value).2 (other.insert value).2 := by
  have vacancies := mirrors.vacant
  simp only [Registry.insert]
  cases vacant : registry.vacant with
  | nil =>
    rw [vacant, List.map_nil] at vacancies
    obtain ⟨left, right⟩ := mirrors.beyond (Nat.le_refl _)
    have grown := mirrors.append ⟨1, some value⟩
    rw [vacant, vacancies] at grown
    simp only [vacancies, mirrors.length]
    exact ⟨(key_beside left right ⟨_, 1⟩ rfl).symm, grown⟩
  | cons index rest =>
    rw [vacant, List.map_cons] at vacancies
    obtain ⟨known, version⟩ := mirrors.version index
    have later := Nat.le_succ_of_le known
    simp only [vacancies, version, ← exchange.shift_succ known]
    refine ⟨(exchange.key_of_first ⟨index + 1, _⟩ (Nat.succ_pos index) later).symm, ?_⟩
    exact mirrors.set ⟨_, some value⟩ later rest

theorem replace (key : RegistryKey) (value : Value) :
    exchange.Mirrors (registry.replace key value) (other.replace (exchange.key key) value) := by
  have same := mirrors.get? key
  simp only [Registry.replace, same]
  cases present : registry.get? key with
  | none => exact mirrors
  | some before =>
    obtain ⟨numbered, located⟩ := get?_eq_some.mp present
    have known := mirrors.known _ _ located
    have changed := mirrors.set ⟨key.version, some value⟩ known registry.vacant
    rw [key_of_first _ _ numbered known]
    rw [← mirrors.vacant] at changed
    exact changed

theorem remove (key : RegistryKey) :
    exchange.Mirrors (registry.remove key) (other.remove (exchange.key key)) := by
  have same := mirrors.get? key
  simp only [Registry.remove, same]
  cases present : registry.get? key with
  | none => exact mirrors
  | some before =>
    obtain ⟨numbered, located⟩ := get?_eq_some.mp present
    have known := mirrors.known _ _ located
    have changed := mirrors.set ⟨key.version + 1, none⟩ (Nat.le_succ_of_le known)
      (position key :: registry.vacant)
    rw [List.map_cons, ← mirrors.vacant, Exchange.slot, exchange.shift_succ known] at changed
    rw [key_of_first _ _ numbered known]
    exact changed

theorem values_perm : other.values.Perm registry.values := by
  have traded : ((List.range registry.slots.length).map exchange.place).Perm
      (List.range registry.slots.length) := by
    have distinct : ((List.range registry.slots.length).map exchange.place).Nodup :=
      List.nodup_range.map fun _ _ same => exchange.place_inj same
    refine (List.perm_ext_iff_of_nodup distinct List.nodup_range).mpr fun index => ?_
    rw [List.mem_map, List.mem_range]
    constructor
    · rintro ⟨before, member, rfl⟩
      rw [← mirrors.length, mirrors.place_lt]
      exact List.mem_range.mp member
    · intro bound
      refine ⟨exchange.place index, ?_, exchange.place_place index⟩
      rwa [List.mem_range, ← mirrors.length, mirrors.place_lt]
  have same (index : Nat) : (other.slots[index]?).bind Slot.value =
      (registry.slots[exchange.place index]?).bind Slot.value := by
    have there := mirrors.slots (exchange.place index)
    rw [exchange.place_place] at there
    rw [there]
    cases registry.slots[exchange.place index]? <;> rfl
  have renamed : other.values = ((List.range registry.slots.length).map exchange.place).filterMap
      fun index => (registry.slots[index]?).bind Slot.value := by
    rw [values_range, mirrors.length, List.filterMap_map]
    exact List.filterMap_congr fun index _ => same index
  rw [renamed, values_range registry]
  exact traded.filterMap _

end Mirrors

theorem first_left : exchange.first (position exchange.left) = exchange.left.version := if_pos rfl

theorem first_right : exchange.first (position exchange.right) = exchange.right.version := by
  rw [first, if_neg exchange.position_ne.symm, if_pos rfl]

theorem shift_left : exchange.shift (position exchange.left) exchange.left.version =
    exchange.later := by
  simp [shift, first, base]

theorem shift_right : exchange.shift (position exchange.right) exchange.right.version =
    exchange.left.version := by
  simp [shift, first, base, exchange.position_ne.symm]

theorem key_left : exchange.key exchange.left = ⟨exchange.right.slot, exchange.later⟩ := by
  have numbered := exchange.numbered
  rw [key_of_first _ _ numbered.1 (Nat.le_of_eq exchange.first_left), place_left, shift_left,
    RegistryKey.mk.injEq]
  exact ⟨Nat.sub_add_cancel numbered.2, rfl⟩

theorem key_right : exchange.key exchange.right = exchange.left := by
  have numbered := exchange.numbered
  rw [key_of_first _ _ numbered.2 (Nat.le_of_eq exchange.first_right), place_right, shift_right]
  exact congrArg₂ RegistryKey.mk (Nat.sub_add_cancel numbered.1) rfl

theorem mirrors_of_traded {registry other : Registry Value} (moved fresh : Value)
    (left : registry.slots[position exchange.left]? = some ⟨exchange.left.version, some fresh⟩)
    (right : registry.slots[position exchange.right]? = some ⟨exchange.right.version, some moved⟩)
    (otherLeft : other.slots[position exchange.left]? = some ⟨exchange.left.version, some moved⟩)
    (otherRight : other.slots[position exchange.right]? = some ⟨exchange.later, some fresh⟩)
    (beside : ∀ index, index ≠ position exchange.left → index ≠ position exchange.right →
      other.slots[index]? = registry.slots[index]?)
    (length : other.slots.length = registry.slots.length)
    (vacant : other.vacant = registry.vacant)
    (filled : position exchange.left ∉ registry.vacant ∧
      position exchange.right ∉ registry.vacant) :
    exchange.Mirrors registry other where
  length := length
  slots index := by
    by_cases isLeft : index = position exchange.left
    · rw [isLeft, place_left, otherRight, left, Option.map_some, Exchange.slot, shift_left]
    · by_cases isRight : index = position exchange.right
      · rw [isRight, place_right, otherLeft, right, Option.map_some, Exchange.slot, shift_right]
      · rw [exchange.place_beside isLeft isRight, beside index isLeft isRight]
        cases registry.slots[index]? with
        | none => rfl
        | some slot => exact congrArg some (slot_beside isLeft isRight slot).symm
  vacant := by
    rw [vacant]
    refine (List.map_id _).symm.trans (List.map_congr_left fun index member => ?_)
    refine (exchange.place_beside ?_ ?_).symm
    · rintro rfl
      exact filled.1 member
    · rintro rfl
      exact filled.2 member
  known index slot located := by
    by_cases isLeft : index = position exchange.left
    · rw [isLeft, left, Option.some.injEq] at located
      rw [isLeft, first_left]
      exact Nat.le_of_eq (congrArg Slot.version located)
    · by_cases isRight : index = position exchange.right
      · rw [isRight, right, Option.some.injEq] at located
        rw [isRight, first_right]
        exact Nat.le_of_eq (congrArg Slot.version located)
      · simp [first, isLeft, isRight]
  inside :=
    ⟨(List.getElem?_eq_some_iff.mp left).1, (List.getElem?_eq_some_iff.mp right).1⟩

end Exchange

namespace Registry

variable {Value : Type} {registry : Registry Value} {key : RegistryKey} {moved : Value}

theorem position_ne (present : registry.get? key = some moved) {other : RegistryKey} {value : Value}
    (also : registry.get? other = some value) (apart : key ≠ other) :
    position key ≠ position other := by
  intro here
  have numbered := (get?_eq_some.mp present).1
  rw [get?_of_position also numbered here apart] at present
  cases present

theorem mirrors_moveConstruct (service : ServiceId) (wellFormed : registry.WellFormed)
    (present : registry.get? key = some moved) (fresh : Value) :
    ∃ exchange : Exchange, exchange.service = service ∧ exchange.left = key ∧
      exchange.right = ((registry.replace key fresh).insert moved).1 ∧
      exchange.key key = (registry.insert fresh).1 ∧
      exchange.Mirrors ((registry.replace key fresh).insert moved).2 (registry.insert fresh).2 := by
  obtain ⟨numbered, located⟩ := get?_eq_some.mp present
  have bound := position_lt present
  have filled := wellFormed.not_mem_vacant present
  simp only [Registry.replace, present]
  -- A moved state gets a slot at the end, or the slot that was emptied last, one version later.
  cases vacant : registry.vacant with
  | nil =>
    let exchange : Exchange :=
      { service, left := key, right := ⟨registry.slots.length + 1, 1⟩, later := 1
        numbered := ⟨numbered, Nat.succ_pos _⟩
        apart := by
          simp only [position] at bound
          dsimp only
          omega
        grown := Nat.le_refl _ }
    have apart : position key ≠ registry.slots.length := Nat.ne_of_lt bound
    refine ⟨exchange, rfl, rfl, ?_, ?_, ?_⟩
    · simp only [Registry.insert, List.length_set]
      rfl
    · simp only [Registry.insert, vacant]
      exact exchange.key_left
    · simp only [Registry.insert, vacant]
      refine exchange.mirrors_of_traded moved fresh ?_ ?_ ?_ ?_ (fun index left right => ?_) ?_ rfl
        ?_
      · rw [List.getElem?_append_left (by simpa using bound)]
        exact List.getElem?_set_self bound
      · simp [exchange, position]
      · rw [List.getElem?_append_left bound]
        exact located
      · simp [exchange, position]
      · rcases Nat.lt_or_ge index registry.slots.length with inside | beyond
        · rw [List.getElem?_append_left inside, List.getElem?_append_left (by simpa using inside),
            List.getElem?_set_ne (Ne.symm left)]
        · have further : registry.slots.length + 1 ≤ index :=
            Nat.lt_of_le_of_ne beyond (Ne.symm right)
          rw [List.getElem?_eq_none, List.getElem?_eq_none]
          · simpa only [List.length_append, List.length_set, List.length_singleton] using further
          · simpa only [List.length_append, List.length_singleton] using further
      · simp
      · simp
  | cons index rest =>
    obtain ⟨version, empty⟩ := wellFormed.empty index (by simp [vacant])
    have nodup := wellFormed.nodup
    rw [vacant] at nodup filled
    have apart : position key ≠ index := fun same => filled (same ▸ List.mem_cons_self)
    have there := (List.getElem?_eq_some_iff.mp empty).1
    let exchange : Exchange :=
      { service, left := key, right := ⟨index + 1, version + 1⟩, later := version + 1
        numbered := ⟨numbered, Nat.succ_pos _⟩
        apart := by
          simp only [position] at apart
          dsimp only
          omega
        grown := Nat.le_refl _ }
    simp only [Registry.insert, vacant, List.getElem?_set_ne apart, empty, Option.map_some,
      Option.getD_some]
    refine ⟨exchange, rfl, rfl, rfl, exchange.key_left, ?_⟩
    refine exchange.mirrors_of_traded moved fresh ?_ ?_ ?_ ?_ (fun found left right => ?_) ?_ rfl ?_
    · rw [List.getElem?_set_ne (Ne.symm apart)]
      exact List.getElem?_set_self bound
    · exact List.getElem?_set_self (by simpa using there)
    · rw [List.getElem?_set_ne (Ne.symm apart)]
      exact located
    · exact List.getElem?_set_self there
    · have offLeft : position key ≠ found := Ne.symm left
      have offRight : index ≠ found := Ne.symm right
      simp [offLeft, offRight]
    · simp
    · exact ⟨fun member => filled (List.mem_cons_of_mem _ member), (List.nodup_cons.mp nodup).1⟩

theorem mirrors_moveAssign (service : ServiceId) (wellFormed : registry.WellFormed) {closed : Value}
    {target : RegistryKey} (present : registry.get? key = some moved)
    (also : registry.get? target = some closed) (different : target ≠ key) (fresh : Value) :
    ∃ exchange : Exchange, exchange.service = service ∧ exchange.left = key ∧
      exchange.right = target ∧ exchange.key key = ((registry.remove target).insert fresh).1 ∧
      exchange.Mirrors ((registry.replace key fresh).replace target moved)
        ((registry.remove target).insert fresh).2 := by
  obtain ⟨numbered, located⟩ := get?_eq_some.mp present
  obtain ⟨also_numbered, also_located⟩ := get?_eq_some.mp also
  have apart := position_ne present also different.symm
  let exchange : Exchange :=
    { service, left := key, right := target, later := target.version + 2
      numbered := ⟨numbered, also_numbered⟩
      apart := fun same => apart (congrArg (· - 1) same)
      grown := Nat.le_add_right _ _ }
  have bound := position_lt present
  have alsoBound := position_lt also
  have replaced := get?_replace present fresh target
  rw [if_neg different, also] at replaced
  simp only [Registry.replace, present] at replaced
  simp only [Registry.remove, also, Registry.insert, Registry.replace, present, replaced,
    List.getElem?_set_self alsoBound, Option.map_some, Option.getD_some, List.set_set]
  refine ⟨exchange, rfl, rfl, rfl, ?_, ?_⟩
  · rw [exchange.key_left]
    exact congrArg₂ RegistryKey.mk (Nat.sub_add_cancel also_numbered).symm rfl
  · refine exchange.mirrors_of_traded moved fresh ?_ ?_ ?_ ?_ (fun found left right => ?_) ?_ rfl ?_
    · rw [List.getElem?_set_ne (Ne.symm apart)]
      exact List.getElem?_set_self bound
    · exact List.getElem?_set_self (by simpa using alsoBound)
    · rw [List.getElem?_set_ne (Ne.symm apart)]
      exact located
    · exact List.getElem?_set_self alsoBound
    · have offLeft : position key ≠ found := Ne.symm left
      have offRight : position target ≠ found := Ne.symm right
      simp [offLeft, offRight]
    · simp
    · exact ⟨wellFormed.not_mem_vacant present, wellFormed.not_mem_vacant also⟩

end Registry

end AsyncFiles
