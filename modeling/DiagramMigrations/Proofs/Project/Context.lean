import DiagramMigrations.Project.Context
import DiagramMigrations.Proofs.Except
import DiagramMigrations.Proofs.Lists
import DiagramMigrations.Proofs.Order.Acyclic
import DiagramMigrations.Proofs.Schema.Extraction

/-!
The context of a compilation. Its tables are those of the schema in the order of creation, and its
positions lead to the tables and associations that the schema itself finds.
-/

set_option autoImplicit false
set_option relaxedAutoImplicit false

namespace DiagramMigrations

namespace Context

open DiagramMigrations.Order

variable {settings : Settings} {now : Timestamp} {s : Schema} {c : Context} {order : List Nat}

theorem ofSchema_eq_ok : ofSchema settings now s = .ok c ↔
    ∃ order, dependencyOrder s.tables s.associations = .ok order ∧ c = {
      settings
      name := s.name
      tables := order.filterMap fun i ↦ s.tables[i]?
      positions := positionsOf (order.filterMap fun i ↦ s.tables[i]?)
      associations := s.associations
      outgoingPositions := outgoingPositionsOf s.associations
      enumerations := s.enumerations
      registry := EnumRegistry.ofSchema s
      start := settings.timestamp.getD now } := by
  constructor
  · intro h
    obtain ⟨order, horder, hc⟩ := bind_eq_ok.mp h
    exact ⟨order, horder, (Except.ok.inj hc).symm⟩
  · rintro ⟨order, horder, rfl⟩
    exact bind_eq_ok.mpr ⟨order, horder, rfl⟩

theorem name_eq (h : ofSchema settings now s = .ok c) : c.name = s.name := by
  rw [ofSchema_eq_ok] at h
  obtain ⟨order, -, rfl⟩ := h
  rfl

theorem enumerations_eq (h : ofSchema settings now s = .ok c) :
    c.enumerations = s.enumerations := by
  rw [ofSchema_eq_ok] at h
  obtain ⟨order, -, rfl⟩ := h
  rfl

theorem registry_eq (h : ofSchema settings now s = .ok c) :
    c.registry = EnumRegistry.ofSchema s := by
  rw [ofSchema_eq_ok] at h
  obtain ⟨order, -, rfl⟩ := h
  rfl

theorem tables_eq (h : dependencyOrder s.tables s.associations = .ok order)
    (hc : ofSchema settings now s = .ok c) :
    c.tables = order.filterMap fun i ↦ s.tables[i]? := by
  obtain ⟨found, hfound, rfl⟩ := ofSchema_eq_ok.mp hc
  rw [Except.ok.inj (h.symm.trans hfound)]

theorem settings_eq (h : ofSchema settings now s = .ok c) : c.settings = settings := by
  rw [ofSchema_eq_ok] at h
  obtain ⟨order, -, rfl⟩ := h
  rfl

theorem start_eq (h : ofSchema settings now s = .ok c) :
    c.start = settings.timestamp.getD now := by
  rw [ofSchema_eq_ok] at h
  obtain ⟨order, -, rfl⟩ := h
  rfl

theorem positions_eq (h : ofSchema settings now s = .ok c) : c.positions = positionsOf c.tables := by
  rw [ofSchema_eq_ok] at h
  obtain ⟨order, -, rfl⟩ := h
  rfl

/-- Every position of a list finds its table. -/
theorem map_some_filterMap_getElem? {tables : List Table} (h : ∀ i ∈ order, i < tables.length) :
    (order.filterMap fun i ↦ tables[i]?).map some = order.map fun i ↦ tables[i]? := by
  induction order with
  | nil => rfl
  | cons i rest ih =>
    have hi := List.getElem?_eq_getElem (h i List.mem_cons_self)
    rw [List.filterMap_cons_some hi, List.map_cons, List.map_cons, hi,
      ih fun j hj ↦ h j (List.mem_cons_of_mem _ hj)]

theorem lt_of_perm_range {n : Nat} (h : order.Perm (List.range n)) : ∀ i ∈ order, i < n :=
  fun _ hi ↦ List.mem_range.mp (h.subset hi)

/-- The tables of a list at all of its positions are its tables, in another order. -/
theorem filterMap_getElem?_perm {tables : List Table}
    (h : order.Perm (List.range tables.length)) :
    (order.filterMap fun i ↦ tables[i]?).Perm tables := by
  have hall : (List.range tables.length).filterMap (fun i ↦ tables[i]?) = tables := by
    refine List.map_injective_iff.mpr (Option.some_injective Table) ?_
    rw [map_some_filterMap_getElem? (lt_of_perm_range (List.Perm.refl _))]
    exact List.ext_getElem (by simp) (by simp)
  have hperm := h.filterMap fun i ↦ tables[i]?
  rwa [hall] at hperm

/-- The table at a place in the order of creation. -/
theorem getElem?_filterMap_of_perm {tables : List Table}
    (h : order.Perm (List.range tables.length)) (k : Nat) :
    (order.filterMap fun i ↦ tables[i]?)[k]? = order[k]?.bind fun i ↦ tables[i]? := by
  have hmap := congrArg (fun l ↦ l[k]?) (map_some_filterMap_getElem? (lt_of_perm_range h))
  simp only [List.getElem?_map] at hmap
  cases horder : order[k]? with
  | none => simpa [horder] using hmap
  | some i =>
    rw [horder, Option.map_some] at hmap
    obtain ⟨t, ht, hti⟩ := Option.map_eq_some_iff.mp hmap
    rw [ht, Option.bind_some, ← hti]

theorem tables_perm (h : ofSchema settings now s = .ok c) : c.tables.Perm s.tables := by
  obtain ⟨order, horder, rfl⟩ := ofSchema_eq_ok.mp h
  exact filterMap_getElem?_perm (dependencyOrder_perm horder)

theorem tables_ids_nodup (h : ofSchema settings now s = .ok c)
    (hids : (s.tables.map Table.id).Nodup) : (c.tables.map Table.id).Nodup :=
  ((tables_perm h).map Table.id).nodup_iff.mpr hids

/-- The place of a table in the order of creation. -/
theorem getElem?_tables (h : dependencyOrder s.tables s.associations = .ok order)
    (hc : ofSchema settings now s = .ok c) (k : Nat) :
    c.tables[k]? = order[k]?.bind fun i ↦ s.tables[i]? := by
  rw [tables_eq h hc]
  exact getElem?_filterMap_of_perm (dependencyOrder_perm h) k

/-- A table that is referred to is created before the table that refers to it. -/
theorem referenced_before (h : ofSchema settings now s = .ok c)
    (hids : (s.tables.map Table.id).Nodup) (hclosed : s.Closed) {a : Association}
    (ha : a ∈ s.associations) (hne : a.referencingTable ≠ a.referencedTable) :
    ∃ (i j : Nat) (t u : Table), i < j ∧ c.tables[i]? = some t ∧ t.id = a.referencedTable ∧
      c.tables[j]? = some u ∧ u.id = a.referencingTable := by
  obtain ⟨order, horder, -⟩ := ofSchema_eq_ok.mp h
  obtain ⟨hfrom, hto⟩ := hclosed a ha
  obtain ⟨u, hu, huid⟩ := List.mem_map.mp hfrom
  obtain ⟨t, ht, htid⟩ := List.mem_map.mp hto
  obtain ⟨source, hsource⟩ := List.mem_iff_getElem?.mp ht
  obtain ⟨target, htarget⟩ := List.mem_iff_getElem?.mp hu
  have hplace {i : Nat} {v : Table} (hi : s.tables[i]? = some v) :
      c.tables[order.idxOf i]? = some v := by
    have hmem : i ∈ order := by
      rw [(dependencyOrder_perm horder).mem_iff, List.mem_range]
      exact (List.getElem?_eq_some_iff.mp hi).1
    rw [getElem?_tables horder h, List.getElem?_idxOf hmem, Option.bind_some, hi]
  refine ⟨order.idxOf source, order.idxOf target, t, u, ?_, hplace hsource, htid,
    hplace htarget, huid⟩
  refine dependencyOrder_respects hids horder ⟨fun heq ↦ hne ?_, a, ha, ?_, ?_⟩
  · rw [← huid, ← htid]
    rw [heq, hsource] at htarget
    rw [Option.some.inj htarget]
  · rw [htarget, Option.map_some, huid]
  · rw [hsource, Option.map_some, htid]

/-! ### Look-ups -/

theorem mem_positionsOf {tables : List Table} {id : String} {i : Nat} :
    (id, i) ∈ positionsOf tables ↔ (tables[i]?).map Table.id = some id := by
  simp only [positionsOf, List.mem_reverse, List.mem_map, Prod.exists, Prod.mk.injEq,
    List.mem_zipIdx_iff_getElem?, Option.map_eq_some_iff]
  constructor
  · rintro ⟨t, j, ht, rfl, rfl⟩
    exact ⟨t, ht, rfl⟩
  · rintro ⟨t, ht, rfl⟩
    exact ⟨t, i, ht, rfl, rfl⟩

/-- Of distinct ids, each finds the table that has it. -/
theorem table?_eq_some (h : ofSchema settings now s = .ok c)
    (hids : (s.tables.map Table.id).Nodup) {id : String} {t : Table} :
    c.table? id = some t ↔ t ∈ s.tables ∧ t.id = id := by
  have hnodup := tables_ids_nodup h hids
  rw [← (tables_perm h).mem_iff, table?, positions_eq h]
  constructor
  · intro hfound
    obtain ⟨i, hi, ht⟩ := Option.bind_eq_some_iff.mp hfound
    have hposition := mem_positionsOf.mp (mem_of_lookup hi)
    rw [ht, Option.map_some] at hposition
    exact ⟨List.mem_of_getElem? ht, Option.some.inj hposition⟩
  · rintro ⟨ht, rfl⟩
    obtain ⟨i, hi⟩ := List.mem_iff_getElem?.mp ht
    have hposition : (c.tables[i]?).map Table.id = some t.id := by rw [hi, Option.map_some]
    have hlookup := lookup_eq_some_of_unique (mem_positionsOf.mpr hposition) fun j hj ↦
      position_unique hnodup (mem_positionsOf.mp hj) hposition
    rw [hlookup]
    exact hi

/-- The positions that an index holds for a key, none if it does not know the key. -/
theorem lookup_addPosition (key k : String) (i : Nat) (index : List (String × List Nat)) :
    ((addPosition key i index).lookup k).getD [] =
      ((index.lookup k).getD []) ++ if k = key then [i] else [] := by
  induction index with
  | nil =>
    by_cases hk : k = key
    · simp [addPosition, hk]
    · simp [addPosition, hk, lookup_cons_of_ne hk]
  | cons entry rest ih =>
    obtain ⟨other, positions⟩ := entry
    unfold addPosition
    by_cases hk : k = other
    · subst other
      by_cases hsame : k = key <;> simp [hsame]
    · rw [lookup_cons_of_ne hk]
      by_cases hsame : other = key
      · have hne : k ≠ key := hsame ▸ hk
        rw [if_pos hsame, if_neg hne, lookup_cons_of_ne hk, List.append_nil]
      · rw [if_neg hsame, lookup_cons_of_ne hk, ih]

theorem lookup_foldl_addPosition (entries : List (Association × Nat)) (table : String)
    (index : List (String × List Nat)) :
    ((entries.foldl (fun index (a, i) ↦ addPosition a.referencingTable i index) index).lookup
      table).getD [] = ((index.lookup table).getD []) ++
        (entries.filter fun entry ↦ entry.1.referencingTable = table).map Prod.snd := by
  induction entries generalizing index with
  | nil => simp
  | cons entry rest ih =>
    rw [List.foldl_cons, ih, lookup_addPosition, List.append_assoc]
    by_cases htable : entry.1.referencingTable = table
    · simp [htable]
    · simp [htable, Ne.symm htable]

/-- The positions of associations lead back to them. -/
theorem filterMap_zipIdx_filter {α : Type} (xs : List α) (p : α → Bool) :
    ((xs.zipIdx.filter fun entry ↦ p entry.1).map Prod.snd).filterMap (fun i ↦ xs[i]?) =
      xs.filter p := by
  have hback : ∀ entry ∈ xs.zipIdx.filter (fun entry ↦ p entry.1),
      xs[entry.2]? = some entry.1 := by
    intro entry hentry
    exact List.mem_zipIdx_iff_getElem?.mp (List.mem_filter.mp hentry).1
  calc ((xs.zipIdx.filter fun entry ↦ p entry.1).map Prod.snd).filterMap (fun i ↦ xs[i]?)
      = (xs.zipIdx.filter (p ∘ Prod.fst)).filterMap (fun entry ↦ xs[entry.2]?) := by
        rw [List.filterMap_map]
        rfl
    _ = (xs.zipIdx.filter (p ∘ Prod.fst)).filterMap (some ∘ Prod.fst) :=
        List.filterMap_congr hback
    _ = xs.filter p := by rw [List.filterMap_eq_map, ← List.filter_map, List.zipIdx_map_fst]

/-- The outgoing associations of a table are those of the schema. -/
theorem outgoing_eq (h : ofSchema settings now s = .ok c) (table : String) :
    c.outgoing table = s.outgoing table := by
  obtain ⟨order, -, rfl⟩ := ofSchema_eq_ok.mp h
  rw [outgoing, Schema.outgoing]
  dsimp only
  rw [outgoingPositionsOf, lookup_foldl_addPosition]
  exact filterMap_zipIdx_filter s.associations fun a ↦ a.referencingTable = table

end Context

end DiagramMigrations
