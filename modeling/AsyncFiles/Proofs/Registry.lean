import AsyncFiles.Registry
import Mathlib.Tactic.Common

namespace AsyncFiles.Registry

variable {Value : Type} {registry : Registry Value} {key : RegistryKey}

/-- The list of empty slots names each at most once, and nothing else. -/
structure WellFormed (registry : Registry Value) : Prop where
  nodup : registry.vacant.Nodup
  empty : ∀ index ∈ registry.vacant, ∃ version, registry.slots[index]? = some ⟨version, none⟩

theorem wellFormed_empty : (({} : Registry Value)).WellFormed where
  nodup := List.nodup_nil
  empty := by simp

theorem get?_empty (key : RegistryKey) : (({} : Registry Value)).get? key = none := by
  simp [get?]

theorem get?_eq_some {value : Value} :
    registry.get? key = some value ↔
      0 < key.slot ∧ registry.slots[position key]? = some ⟨key.version, some value⟩ := by
  simp only [get?]
  by_cases unnumbered : key.slot = 0
  · simp [unnumbered]
  · rw [if_neg unnumbered]
    simp only [Option.bind_eq_some_iff, Option.ite_none_right_eq_some]
    constructor
    · rintro ⟨⟨version, found⟩, located, same, rfl⟩
      exact ⟨by omega, by rw [located, ← same]⟩
    · rintro ⟨_, located⟩
      exact ⟨_, located, rfl, rfl⟩

theorem position_inj {other : RegistryKey} (numbered : 0 < key.slot) (also : 0 < other.slot)
    (position_eq : position key = position other) (version : key.version = other.version) :
    key = other := by
  cases key
  cases other
  simp only [position] at *
  simp only [RegistryKey.mk.injEq]
  omega

theorem get?_set (key : RegistryKey) (slot : Slot Value) (other : RegistryKey)
    (numbered : 0 < key.slot)
    (bound : position key < registry.slots.length)
    (alone : ∀ found, 0 < found.slot → position found = position key → found ≠ key →
      registry.get? found = none ∧ (slot.version = found.version → slot.value = none))
    (vacant : List Nat) :
    ({ slots := registry.slots.set (position key) slot, vacant } : Registry Value).get? other =
      if other = key then (if slot.version = key.version then slot.value else none)
      else registry.get? other := by
  by_cases unnumbered : other.slot = 0
  · have different : other ≠ key := by
      rintro rfl
      omega
    simp [get?, unnumbered, different]
  · by_cases here : position other = position key
    · by_cases same : other = key
      · subst same
        simp [get?, unnumbered, bound]
      · have both := alone other (by omega) here same
        rw [if_neg same, both.1]
        simp only [get?, unnumbered, here, bound, if_false, List.getElem?_set_self,
          Option.bind_some, ite_eq_right_iff]
        exact both.2
    · have different : other ≠ key := fun same => here (same ▸ rfl)
      rw [if_neg different]
      simp [get?, unnumbered, List.getElem?_set_ne (Ne.symm here)]

theorem get?_of_position {value : Value} (present : registry.get? key = some value)
    {other : RegistryKey} (numbered : 0 < other.slot) (here : position other = position key)
    (different : other ≠ key) : registry.get? other = none := by
  cases found : registry.get? other with
  | none => rfl
  | some stranger =>
    obtain ⟨first, mine⟩ := get?_eq_some.mp present
    obtain ⟨_, theirs⟩ := get?_eq_some.mp found
    rw [here, mine, Option.some.injEq, Slot.mk.injEq] at theirs
    exact absurd (position_inj numbered first here theirs.1.symm) different

theorem position_lt {value : Value} (present : registry.get? key = some value) :
    position key < registry.slots.length :=
  (List.getElem?_eq_some_iff.mp (get?_eq_some.mp present).2).1

theorem get?_replace {before : Value} (present : registry.get? key = some before) (value : Value)
    (other : RegistryKey) :
    (registry.replace key value).get? other =
      if other = key then some value else registry.get? other := by
  have first := (get?_eq_some.mp present).1
  have changed := get?_set key ⟨key.version, some value⟩ other first (position_lt present)
    (fun found numbered here different =>
      ⟨get?_of_position present numbered here different,
        fun same => absurd (position_inj numbered first here same.symm) different⟩)
    registry.vacant
  simp only [replace, present]
  simpa using changed

theorem get?_remove {before : Value} (present : registry.get? key = some before)
    (other : RegistryKey) :
    (registry.remove key).get? other = if other = key then none else registry.get? other := by
  have changed := get?_set key ⟨key.version + 1, none⟩ other (get?_eq_some.mp present).1
    (position_lt present)
    (fun found numbered here different =>
      ⟨get?_of_position present numbered here different, fun _ => rfl⟩)
    (position key :: registry.vacant)
  simp only [remove, present]
  simpa using changed

theorem WellFormed.not_mem_vacant (wellFormed : registry.WellFormed) {value : Value}
    (present : registry.get? key = some value) : position key ∉ registry.vacant := by
  intro empty
  obtain ⟨version, located⟩ := wellFormed.empty _ empty
  rw [(get?_eq_some.mp present).2] at located
  simp at located

theorem empty_set {index : Nat} {slot : Slot Value} {vacant : List Nat}
    (empty : ∀ other ∈ vacant, ∃ version, registry.slots[other]? = some ⟨version, none⟩)
    (elsewhere : index ∉ vacant) :
    ∀ other ∈ vacant,
      ∃ version, (registry.slots.set index slot)[other]? = some ⟨version, none⟩ := by
  intro other member
  obtain ⟨version, located⟩ := empty other member
  have different : index ≠ other := by
    rintro rfl
    exact elsewhere member
  exact ⟨version, by rw [List.getElem?_set_ne different, located]⟩

theorem WellFormed.replace (wellFormed : registry.WellFormed) (key : RegistryKey) (value : Value) :
    (registry.replace key value).WellFormed := by
  simp only [Registry.replace]
  split
  next => exact wellFormed
  next present =>
    exact ⟨wellFormed.nodup, empty_set wellFormed.empty (wellFormed.not_mem_vacant present)⟩

theorem WellFormed.remove (wellFormed : registry.WellFormed) (key : RegistryKey) :
    (registry.remove key).WellFormed := by
  simp only [Registry.remove]
  split
  next => exact wellFormed
  next present =>
    have elsewhere := wellFormed.not_mem_vacant present
    refine ⟨List.nodup_cons.mpr ⟨elsewhere, wellFormed.nodup⟩, ?_⟩
    simp only [List.forall_mem_cons]
    refine ⟨⟨key.version + 1, ?_⟩, empty_set wellFormed.empty elsewhere⟩
    rw [List.getElem?_set_self (position_lt present)]

theorem WellFormed.insert (wellFormed : registry.WellFormed) (value : Value) :
    (registry.insert value).2.WellFormed := by
  simp only [Registry.insert]
  split
  next none_vacant => exact ⟨by simp [none_vacant], by simp [none_vacant]⟩
  next index rest vacant =>
    have nodup := wellFormed.nodup
    have empty := wellFormed.empty
    rw [vacant] at nodup empty
    rw [List.nodup_cons] at nodup
    exact ⟨nodup.2, empty_set (fun other member => empty other (by simp [member])) nodup.1⟩

theorem WellFormed.get?_insert (wellFormed : registry.WellFormed) (value : Value) :
    registry.get? (registry.insert value).1 = none ∧
      ∀ other, (registry.insert value).2.get? other =
        if other = (registry.insert value).1 then some value else registry.get? other := by
  unfold Registry.insert
  split
  next none_vacant =>
    -- The new slot stands at the end: a key points before it, at it or beyond.
    refine ⟨by simp [get?, position], fun other => ?_⟩
    by_cases unnumbered : other.slot = 0
    · have different : other ≠ ⟨registry.slots.length + 1, 1⟩ := by
        rintro rfl
        cases unnumbered
      simp [get?, unnumbered, different]
    · rcases Nat.lt_trichotomy (position other) registry.slots.length with before | here | beyond
      · have different : other ≠ ⟨registry.slots.length + 1, 1⟩ := by
          rintro rfl
          simp [position] at before
        rw [if_neg different]
        simp [get?, unnumbered, List.getElem?_append_left before]
      · have numbered : other.slot = registry.slots.length + 1 := by
          simp only [position] at here
          omega
        by_cases first : other.version = 1
        · have same : other = ⟨registry.slots.length + 1, 1⟩ := by
            cases other
            simp_all
          simp [same, get?, position]
        · have different : other ≠ ⟨registry.slots.length + 1, 1⟩ := by
            rintro rfl
            exact first rfl
          rw [if_neg different]
          simp [get?, unnumbered, here, Ne.symm first]
      · have different : other ≠ ⟨registry.slots.length + 1, 1⟩ := by
          rintro rfl
          simp [position] at beyond
        rw [if_neg different]
        have outside : (registry.slots ++ [⟨1, some value⟩])[position other]? = none :=
          List.getElem?_eq_none (by simp; omega)
        simp [get?, unnumbered, outside, List.getElem?_eq_none (Nat.le_of_lt beyond)]
  next index rest vacant =>
    -- The slot that was emptied last is filled again: no older key of it leads anywhere.
    obtain ⟨version, located⟩ := wellFormed.empty index (by simp [vacant])
    have bound := (List.getElem?_eq_some_iff.mp located).1
    have nothing (found : RegistryKey) (here : position found = index) :
        registry.get? found = none := by
      simp [get?, here, located]
    simp only [located, Option.map_some, Option.getD_some]
    refine ⟨nothing _ (by simp [position]), fun other => ?_⟩
    have changed := get?_set ⟨index + 1, version + 1⟩ ⟨version + 1, some value⟩ other
      (Nat.succ_pos _) bound
      (fun found numbered here different =>
        ⟨nothing found here,
          fun same => absurd (position_inj numbered (Nat.succ_pos _) here same.symm) different⟩)
      rest
    simpa [position] using changed

theorem mem_values {value : Value} :
    value ∈ registry.values ↔ ∃ key, registry.get? key = some value := by
  simp only [values, entries, List.mem_map, List.mem_filterMap, Prod.exists, Option.map_eq_some_iff,
    List.mem_zipIdx_iff_getElem?, Prod.mk.injEq]
  constructor
  · rintro ⟨key, _, ⟨slot, index, located, _, filled, rfl, rfl⟩, rfl⟩
    refine ⟨⟨index + 1, slot.version⟩, get?_eq_some.mpr ⟨Nat.succ_pos _, ?_⟩⟩
    rw [show position ⟨index + 1, slot.version⟩ = index from rfl, located, ← filled]
  · rintro ⟨key, present⟩
    obtain ⟨numbered, located⟩ := get?_eq_some.mp present
    refine ⟨key, value, ⟨_, position key, located, value, rfl, ?_, rfl⟩, rfl⟩
    cases key
    simp only [position] at numbered ⊢
    simp only [RegistryKey.mk.injEq, and_true]
    omega

end AsyncFiles.Registry
